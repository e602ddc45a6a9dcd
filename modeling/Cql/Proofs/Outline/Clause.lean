import Cql.Proofs.Clauses
import Cql.Proofs.Outline.Legible

/-!
The parts of statements that are written with names and numbers: lists of columns, predicates,
assignments, limits. Each is legible in the place where statements have it, given that the names in
it passed their checks.
-/

namespace Cql

namespace Legible

variable {α : Type} {valid : α → Prop} {openers : List String}

/-- A clause that is left out for one of the items and has a word of its own for all others. -/
theorem orEmpty (absent : α) (lead : String) (write : α → String) {text : α → String}
    (h : Legible (fun a => valid a ∧ a ≠ absent) write openers) (habsent : text absent = "")
    (htext : ∀ a, a ≠ absent → text a = lead ++ write a) (hlead : lead ≠ "")
    (hapart : ∀ opener ∈ openers, Apart lead opener) : Legible valid text openers := by
  intro a b rest more ha hb hrest hmore heq
  by_cases haa : a = absent
  · by_cases hba : b = absent
    · rw [haa, hba, String.append_right_inj] at heq
      exact ⟨haa.trans hba.symm, heq⟩
    · rw [haa, habsent, htext b hba, String.empty_append, String.append_assoc] at heq
      exact absurd heq (ne_separator_append hlead hapart hrest _)
  · by_cases hba : b = absent
    · rw [hba, habsent, htext a haa, String.empty_append, String.append_assoc] at heq
      exact absurd heq.symm (ne_separator_append hlead hapart hmore _)
    · rw [htext a haa, htext b hba] at heq
      exact h.behind lead ⟨ha, haa⟩ ⟨hb, hba⟩ hrest hmore heq

theorem restrict {valid' : α → Prop} {write : α → String} (h : Legible valid write openers)
    (himp : ∀ a, valid' a → valid a) : Legible valid' write openers :=
  fun _ _ _ _ ha hb => h (himp _ ha) (himp _ hb)

end Legible

section Names

variable {openers : List String}

theorem legible_identifier
    (hopeners : ∀ opener ∈ openers, (opener.toList.head?.any fun c => !Name.isPart c) = true) :
    Legible (fun name => Name.checkIdentifier name = .ok ()) id openers :=
  (Legible.word hopeners).restrict fun _ hname _ => Name.isPart_of_checkIdentifier hname

/-- The characters of columns in a projection. -/
def isColumnPart (c : Char) : Bool :=
  Name.isPart c || c == '*'

/-- The characters of tables. -/
def isTablePart (c : Char) : Bool :=
  Name.isPart c || c == '.'

theorem isColumnPart_of_checkColumn {name : String} (h : Name.checkColumn name = .ok ()) :
    ∀ c ∈ name.toList, isColumnPart c = true := by
  intro c hc
  simpa [isColumnPart] using Name.isPart_or_star_of_checkColumn h hc

theorem isTablePart_of_checkTable {name : String} (h : Name.checkTable name = .ok ()) :
    ∀ c ∈ name.toList, isTablePart c = true := by
  intro c hc
  simpa [isTablePart] using Name.isPart_or_point_of_checkTable h hc

theorem legible_column
    (hopeners : ∀ opener ∈ openers, (opener.toList.head?.any fun c => !isColumnPart c) = true) :
    Legible (fun name => Name.checkColumn name = .ok ()) id openers :=
  (Legible.word hopeners).restrict fun _ => isColumnPart_of_checkColumn

/-- Lists of columns, as projections, deletes and indexes have them. -/
theorem legible_columns
    (hopeners : ∀ opener ∈ openers, (opener.toList.head?.any fun c => !isColumnPart c) = true)
    (hapart : ∀ opener ∈ openers, Apart ", " opener) :
    Legible (fun names => names ≠ [] ∧ ∀ name ∈ names, Name.checkColumn name = .ok ())
      (", ".intercalate ·) openers := by
  have hcolumn : Legible (fun name => Name.checkColumn name = .ok ()) id (", " :: openers) := by
    refine legible_column fun opener hopener => ?_
    rcases List.mem_cons.mp hopener with rfl | hopener
    · decide
    · exact hopeners opener hopener
  simpa only [List.map_id] using hcolumn.list (by decide) hapart

/-- A word and a blank in front of a list of columns are its first column and what follows that. -/
theorem first_column_eq {first word rest more : String} {later : List String}
    (hfirst : Name.checkColumn first = .ok ()) (hword : ∀ c ∈ word.toList, isColumnPart c = true)
    (hrest : OpensWith [" from "] rest)
    (h : ", ".intercalate (first :: later) ++ rest = word ++ (" " ++ more)) :
    first = word ∧ Legible.laterText ", " id later ++ rest = " " ++ more := by
  have hlater : OpensWith [", ", " from ", " "] (Legible.laterText ", " id later ++ rest) :=
    (Legible.opensWith_laterText hrest later).mono (by simp)
  have hopeners : ∀ opener ∈ [", ", " from ", " "],
      (opener.toList.head?.any fun c => !isColumnPart c) = true := by decide
  rw [← List.map_id (first :: later), Legible.intercalate_cons, String.append_assoc] at h
  exact Legible.word hopeners (isColumnPart_of_checkColumn hfirst) hword hlater
    (opensWith_append (by simp) more) h

/-- No list of columns begins with the word that introduces the table, which is reserved. -/
theorem columns_append_ne_from {columns : List String} {rest : String} (hne : columns ≠ [])
    (hcolumns : ∀ column ∈ columns, Name.checkColumn column = .ok ())
    (hrest : OpensWith [" from "] rest) (more : String) :
    ", ".intercalate columns ++ rest ≠ "from" ++ (" " ++ more) := by
  intro heq
  obtain ⟨first, later, rfl⟩ := List.exists_cons_of_ne_nil hne
  have hreserved : Name.checkColumn "from" ≠ .ok () := by
    simp [Name.checkColumn, Name.checkIdentifier_eq_ok_iff, Name.isIdentifier, Name.reservedWords,
      Name.lower, ← String.toList_inj]
  obtain ⟨rfl, _⟩ := first_column_eq (hcolumns first (by simp))
    (by simp [isColumnPart, Name.isPart]) hrest heq
  exact hreserved (hcolumns _ (by simp))

/-- Tables, where none stands for a table that was not selected. -/
theorem legible_table
    (hopeners : ∀ opener ∈ openers, (opener.toList.head?.any fun c => !isTablePart c) = true) :
    Legible (fun table : Option String => ∀ name, table = some name → Name.checkTable name = .ok ())
      (fun table => table.getD "") openers := by
  have hchars : ∀ table : Option String,
      (∀ name, table = some name → Name.checkTable name = .ok ()) →
        ∀ c ∈ (table.getD "").toList, isTablePart c = true := by
    intro table htable
    cases table with
    | none => simp
    | some name => exact isTablePart_of_checkTable (htable name rfl)
  have hnamed : ∀ name, Name.checkTable name = .ok () → name ≠ "" := by
    rintro name hname rfl
    cases hname
  intro s t rest more hs ht hrest hmore heq
  obtain ⟨hname, hright⟩ := Legible.word hopeners (hchars s hs) (hchars t ht) hrest hmore heq
  refine ⟨?_, hright⟩
  cases s with
  | none =>
    cases t with
    | none => rfl
    | some name => exact absurd hname.symm (hnamed name (ht name rfl))
  | some name =>
    cases t with
    | none => exact absurd hname (hnamed name (hs name rfl))
    | some other => exact congrArg some hname

end Names

section Conditions

/-- A column, an operator, and a question mark for the value. -/
def conditionText (condition : String × Operator) : String :=
  condition.1 ++ " " ++ condition.2.cql ++ " ?"

/-- No operator can be taken for another one, even where one begins with the other. -/
theorem apart_cql (operator other : Operator) (h : operator ≠ other) :
    Apart (operator.cql ++ " ?") (other.cql ++ " ?") := by
  revert h
  cases operator <;> cases other <;> decide

theorem legible_condition (openers : List String) :
    Legible (fun condition => Name.checkIdentifier condition.1 = .ok ()) conditionText openers := by
  rintro ⟨column, operator⟩ ⟨other, another⟩ rest more hcolumn hother hrest hmore heq
  have hspace : ∀ (s : Operator) (t : String), OpensWith [" "] (" " ++ s.cql ++ " ?" ++ t) := by
    intro s t
    rw [String.append_assoc, String.append_assoc]
    exact opensWith_append (by simp) _
  simp only [conditionText, String.append_assoc] at heq hspace
  obtain ⟨rfl, hright⟩ := @legible_identifier [" "] (by decide) column other _ _ hcolumn hother
    (hspace operator rest) (hspace another more) heq
  rw [String.append_right_inj, ← String.append_assoc, ← String.append_assoc] at hright
  by_cases hsame : operator = another
  · subst hsame
    exact ⟨rfl, (String.append_right_inj _).mp hright⟩
  · exact absurd hright ((apart_cql operator another hsame).append_ne rest more)

/-- The clause of the predicates, which is left out if there are none. -/
def whereClause (conditions : List (String × Operator)) : String :=
  if conditions.isEmpty then "" else " where " ++ " and ".intercalate (conditions.map conditionText)

theorem legible_whereClause :
    Legible (fun conditions => ∀ condition ∈ conditions, Name.checkIdentifier condition.1 = .ok ())
      whereClause [" limit ", " allow filtering"] := by
  have hlist := Legible.list (legible_condition (" and " :: [" limit ", " allow filtering"]))
    (by decide) (by decide)
  refine Legible.orEmpty [] " where " _ (hlist.restrict ?_) rfl ?_ (by decide) (by decide)
  · exact fun conditions hconditions => ⟨hconditions.2, hconditions.1⟩
  · intro conditions hne
    rw [whereClause, if_neg (by simpa using hne)]

end Conditions

section Limits

theorem repr_injective {m n : Nat} (h : m.repr = n.repr) : m = n := by
  have hdigits : Nat.toDigits 10 m = Nat.toDigits 10 n := by
    rw [← Nat.toList_repr, ← Nat.toList_repr, h]
  have hvalues := congrArg (fun digits => Nat.ofDigitChars 10 digits 0) hdigits
  simpa [Nat.ofDigitChars_toDigits] using hvalues

theorem legible_number {openers : List String}
    (hopeners : ∀ opener ∈ openers, (opener.toList.head?.any fun c => !c.isDigit) = true) :
    Legible (fun _ => True) Nat.repr openers := by
  have hdigits : ∀ n : Nat, ∀ c ∈ n.repr.toList, c.isDigit = true := by
    intro n c hc
    rw [Nat.toList_repr] at hc
    exact Nat.isDigit_of_mem_toDigits (by omega) (by omega) hc
  intro m n rest more _ _ hrest hmore heq
  obtain ⟨hrepr, hright⟩ :=
    Legible.word hopeners (hdigits m) (hdigits n) hrest hmore heq
  exact ⟨repr_injective hrepr, hright⟩

/-- The clause of the limit, if there is one. -/
def limitClause : Option UInt32 → String
  | none => ""
  | some n => " limit " ++ n.toNat.repr

theorem legible_limitClause :
    Legible (fun _ => True) limitClause [" allow filtering"] := by
  have hnumber := @legible_number [" allow filtering"] (by decide)
  refine Legible.orEmpty none " limit " (fun limit => (limit.getD 0).toNat.repr) ?_ rfl ?_
    (by decide) (by decide)
  · rintro m n rest more ⟨_, hm⟩ ⟨_, hn⟩ hrest hmore heq
    obtain ⟨m, rfl⟩ := Option.ne_none_iff_exists'.mp hm
    obtain ⟨n, rfl⟩ := Option.ne_none_iff_exists'.mp hn
    obtain ⟨hvalue, hright⟩ := hnumber trivial trivial hrest hmore heq
    exact ⟨congrArg some (UInt32.toNat_inj.mp hvalue), hright⟩
  · intro limit hne
    obtain ⟨n, rfl⟩ := Option.ne_none_iff_exists'.mp hne
    rfl

end Limits

/-- The flag that allows filtering, at the end of a statement. -/
def filteringClause (allowFiltering : Bool) : String :=
  if allowFiltering then " allow filtering" else ""

/-- What stands behind the table of a select or a delete, or behind the assignments of an update. -/
structure Tail where
  conditions : List (String × Operator)
  limit : Option UInt32
  allowFiltering : Bool

namespace Tail

def text (t : Tail) : String :=
  whereClause t.conditions ++ (limitClause t.limit ++ filteringClause t.allowFiltering)

/-- The columns of the predicates passed their checks. -/
def Checked (t : Tail) : Prop :=
  ∀ condition ∈ t.conditions, Name.checkIdentifier condition.1 = .ok ()

theorem opensWith_filteringClause (allowFiltering : Bool) :
    OpensWith [" allow filtering"] (filteringClause allowFiltering) := by
  cases allowFiltering with
  | false => exact Or.inl rfl
  | true => exact Or.inr ⟨_, List.mem_singleton_self _, "", by simp [filteringClause]⟩

theorem opensWith_limitClause (limit : Option UInt32) (allowFiltering : Bool) :
    OpensWith [" limit ", " allow filtering"]
      (limitClause limit ++ filteringClause allowFiltering) := by
  cases limit with
  | none =>
    rw [limitClause, String.empty_append]
    exact (opensWith_filteringClause allowFiltering).mono (by simp)
  | some n =>
    rw [limitClause, String.append_assoc]
    exact opensWith_append (by simp) _

/-- What a tail can begin with. -/
def openers : List String :=
  [" where ", " limit ", " allow filtering"]

theorem opensWith_text (t : Tail) : OpensWith openers t.text := by
  unfold text whereClause openers
  split
  · rw [String.empty_append]
    exact (opensWith_limitClause t.limit t.allowFiltering).mono (by simp)
  · rw [String.append_assoc]
    exact opensWith_append (by simp) _

/-- The clauses at the end of a statement tell its predicates, its limit and its flag. -/
theorem eq_of_text_eq {s t : Tail} (hs : s.Checked) (ht : t.Checked) (h : s.text = t.text) :
    s = t := by
  obtain ⟨hconditions, hlater⟩ := legible_whereClause hs ht
    (opensWith_limitClause s.limit s.allowFiltering)
    (opensWith_limitClause t.limit t.allowFiltering) h
  obtain ⟨hlimit, hend⟩ := legible_limitClause trivial trivial
    (opensWith_filteringClause s.allowFiltering) (opensWith_filteringClause t.allowFiltering) hlater
  have hfiltering : s.allowFiltering = t.allowFiltering := by
    revert hend
    cases s.allowFiltering <;> cases t.allowFiltering <;> decide
  cases s
  cases t
  simp_all

/-- A table in front of the clauses ends where they begin. -/
theorem eq_of_table_text_eq {table other : Option String} {s t : Tail}
    (htable : ∀ name, table = some name → Name.checkTable name = .ok ())
    (hother : ∀ name, other = some name → Name.checkTable name = .ok ()) (hs : s.Checked)
    (ht : t.Checked) (h : table.getD "" ++ s.text = other.getD "" ++ t.text) :
    table = other ∧ s = t := by
  obtain ⟨hname, hend⟩ := @legible_table openers (by decide) table other _ _ htable hother
    s.opensWith_text t.opensWith_text h
  exact ⟨hname, eq_of_text_eq hs ht hend⟩

end Tail

end Cql
