import Mathlib.Computability.Language
import Cql.Proofs.Outline.Select

/-!
The grammar of selects, as a language. Whatever is put into a query, the text of its select is a
sentence of this language, in which nothing but names, operators and a number varies.
-/

namespace Cql

namespace Grammar

open Computability

def word (s : String) : Language Char :=
  {s.toList}

def optional (l : Language Char) : Language Char :=
  1 + l

/-- One or more, with a separator between them. -/
def separated (separator : String) (l : Language Char) : Language Char :=
  l * (word separator * l)∗

/-- A letter or an underscore and then letters, digits and underscores, but no reserved word. -/
def name : Language Char :=
  {s | ∃ first rest, s = first :: rest ∧ Name.isStart first = true ∧
    (∀ c ∈ rest, Name.isPart c = true) ∧ Name.lower s ∉ Name.reservedWords}

/-- A name, or all columns. -/
def column : Language Char :=
  name + word "*"

/-- A name, which may have the name of a keyspace in front. -/
def table : Language Char :=
  optional (name * word ".") * name

def operator : Language Char :=
  {s | ∃ symbol ∈ ["=", "<", ">", "<=", ">=", "like", "contains", "contains key"],
    s = symbol.toList}

def condition : Language Char :=
  name * word " " * operator * word " ?"

def number : Language Char :=
  {s | s ≠ [] ∧ ∀ c ∈ s, c.isDigit = true}

def tail : Language Char :=
  optional (word " where " * separated " and " condition) *
    (optional (word " limit " * number) * optional (word " allow filtering"))

/-- The sentences that select. -/
def select : Language Char :=
  word "select " * (optional (word "distinct ") * (separated ", " column *
    (word " from " * (table * tail))))

theorem mem_word (s : String) : s.toList ∈ word s :=
  Set.mem_singleton _

theorem nil_mem_optional (l : Language Char) : [] ∈ optional l :=
  Or.inl rfl

theorem mem_optional {l : Language Char} {s : List Char} (h : s ∈ l) : s ∈ optional l :=
  Or.inr h

theorem append_mem_mul {l m : Language Char} {s t : String} (hs : s.toList ∈ l)
    (ht : t.toList ∈ m) : (s ++ t).toList ∈ l * m := by
  rw [String.toList_append]
  exact Language.append_mem_mul hs ht

theorem laterText_mem_kstar {separator : String} {l : Language Char} {items : List String}
    (h : ∀ item ∈ items, item.toList ∈ l) :
    (Legible.laterText separator id items).toList ∈ (word separator * l)∗ := by
  induction items with
  | nil => exact Language.nil_mem_kstar _
  | cons item items ih =>
    have hfirst := append_mem_mul (mem_word separator) (h item (by simp))
    have hrest := ih fun other hother => h other (by simp [hother])
    obtain ⟨parts, hparts, hmem⟩ := Language.mem_kstar.mp hrest
    rw [Legible.laterText, Legible.intercalate_cons, ← String.append_assoc]
    refine Language.mem_kstar.mpr ⟨(separator ++ id item).toList :: parts, ?_, ?_⟩
    · rw [String.toList_append, hparts, List.flatten_cons]
    · intro part hpart
      rcases List.mem_cons.mp hpart with rfl | hpart
      · exact hfirst
      · exact hmem part hpart

/-- A joined list of members, of which there is at least one. -/
theorem intercalate_mem_separated {separator : String} {l : Language Char} {items : List String}
    (hne : items ≠ []) (h : ∀ item ∈ items, item.toList ∈ l) :
    (separator.intercalate items).toList ∈ separated separator l := by
  obtain ⟨first, later, rfl⟩ := List.exists_cons_of_ne_nil hne
  rw [← List.map_id (first :: later), Legible.intercalate_cons]
  exact append_mem_mul (h first (by simp))
    (laterText_mem_kstar fun other hother => h other (by simp [hother]))

section Names

variable {s : String}

theorem mem_name (h : Name.checkIdentifier s = .ok ()) : s.toList ∈ name := by
  rw [Name.checkIdentifier_eq_ok_iff] at h
  cases hs : s.toList with
  | nil => simp [hs, Name.isIdentifier] at h
  | cons first rest =>
    simp only [hs, Name.isIdentifier, Bool.and_eq_true, List.all_eq_true, Bool.not_eq_true'] at h
    obtain ⟨⟨hstart, hrest⟩, hreserved⟩ := h
    exact ⟨first, rest, rfl, hstart, hrest, by simpa using hreserved⟩

theorem mem_column (h : Name.checkColumn s = .ok ()) : s.toList ∈ column := by
  unfold Name.checkColumn at h
  split at h
  · rename_i hstar
    exact Or.inr (hstar ▸ mem_word "*")
  · exact Or.inl (mem_name h)

theorem mem_table (h : Name.checkTable s = .ok ()) : s.toList ∈ table := by
  unfold Name.checkTable at h
  split at h
  · cases h
  have hjoin : ['.'].intercalate (s.toList.splitOn '.') = s.toList := List.intercalate_splitOn '.'
  split at h
  · have hname := mem_name (Name.checkIdentifier_of_checkSegment h)
    exact Language.append_mem_mul (nil_mem_optional _) hname
  · rename_i keyspace name hsplit
    split at h
    · cases h
    · obtain ⟨_, hkeyspace, hname⟩ := Outcome.bind_eq_ok_iff.mp h
      have hfirst := mem_name (Name.checkIdentifier_of_checkSegment hkeyspace)
      have hsecond := mem_name (Name.checkIdentifier_of_checkSegment hname)
      rw [String.toList_ofList] at hfirst hsecond
      rw [← hjoin, hsplit, List.intercalate_cons_cons, List.intercalate_singleton]
      exact Language.append_mem_mul
        (mem_optional (Language.append_mem_mul hfirst (mem_word "."))) hsecond
  · cases h

end Names

theorem mem_operator (o : Operator) : o.cql.toList ∈ operator := by
  refine ⟨o.cql, ?_, rfl⟩
  cases o <;> simp [Operator.cql]

theorem mem_condition {p : String × Operator} (h : Name.checkIdentifier p.1 = .ok ()) :
    (conditionText p).toList ∈ condition :=
  append_mem_mul (append_mem_mul (append_mem_mul (mem_name h) (mem_word " ")) (mem_operator p.2))
    (mem_word " ?")

theorem mem_number (n : Nat) : n.repr.toList ∈ number := by
  refine ⟨?_, ?_⟩
  · simp
  · intro c hc
    rw [Nat.toList_repr] at hc
    exact Nat.isDigit_of_mem_toDigits (by omega) (by omega) hc

theorem mem_tail {t : Tail} (h : t.Checked) : t.text.toList ∈ tail := by
  refine append_mem_mul ?_ (append_mem_mul ?_ ?_)
  · unfold whereClause
    split
    · exact nil_mem_optional _
    · rename_i hne
      refine mem_optional (append_mem_mul (mem_word _) (intercalate_mem_separated ?_ ?_))
      · simpa using hne
      · intro text htext
        obtain ⟨p, hp, rfl⟩ := List.mem_map.mp htext
        exact mem_condition (h p hp)
  · unfold limitClause
    split
    · exact nil_mem_optional _
    · exact mem_optional (append_mem_mul (mem_word _) (mem_number _))
  · unfold filteringClause
    split
    · exact mem_optional (mem_word _)
    · exact nil_mem_optional _

/-- An outline with a table is written as a sentence. -/
theorem text_mem_select {o : SelectOutline} (ho : o.Checked) (htable : o.table.isSome = true) :
    o.text.toList ∈ select := by
  obtain ⟨name, hname⟩ := Option.isSome_iff_exists.mp htable
  have hchecked := ho.table name hname
  refine append_mem_mul (mem_word _) (append_mem_mul ?_ (append_mem_mul
    (intercalate_mem_separated ho.columns_ne fun column hcolumn =>
      mem_column (ho.columns column hcolumn))
    (append_mem_mul (mem_word _) (append_mem_mul ?_ (mem_tail ho.tail)))))
  · split
    · exact mem_optional (mem_word _)
    · exact nil_mem_optional _
  · rw [hname]
    exact mem_table hchecked

end Grammar

namespace Query

/-- Two queries write the same select just when they agree on the table, the columns, the flags, the
conditions and the limit; and the select of a query with a table is a sentence. -/
theorem selectStatement_cql_eq_iff {options options' : Fields Json} {pageSize pageSize' : Int32}
    {calls calls' : List Call} {q q' : Query}
    (h : Call.applyAll { options, pageSize } calls = .ok q)
    (h' : Call.applyAll { options := options', pageSize := pageSize' } calls' = .ok q') :
    (q.selectStatement.cql = q'.selectStatement.cql ↔
      q.table = q'.table ∧ q.projection = q'.projection ∧ q.distinct = q'.distinct ∧
        q.conditions = q'.conditions ∧ q.limit = q'.limit ∧
          q.allowFiltering = q'.allowFiltering) ∧
    (q.table.isSome = true → q.selectStatement.cql.toList ∈ Grammar.select) := by
  have hq := checked_of_applyAll (checked_fresh options pageSize) h
  have hq' := checked_of_applyAll (checked_fresh options' pageSize') h'
  have htext : q.selectStatement.cql = q.selectOutline.text := selectText_eq hq
  have htext' : q'.selectStatement.cql = q'.selectOutline.text := selectText_eq hq'
  refine ⟨?_, ?_⟩
  · rw [htext, htext']
    constructor
    · intro heq
      have houtline := SelectOutline.eq_of_text_eq (checked_selectOutline hq)
        (checked_selectOutline hq') heq
      simp only [selectOutline, SelectOutline.mk.injEq, Tail.mk.injEq] at houtline
      obtain ⟨hdistinct, hcolumns, htable, hconditions, hlimit, hfiltering⟩ := houtline
      exact ⟨htable, hcolumns, hdistinct, hconditions, hlimit, hfiltering⟩
    · rintro ⟨htable, hcolumns, hdistinct, hconditions, hlimit, hfiltering⟩
      unfold selectOutline
      rw [htable, hcolumns, hdistinct, hconditions, hlimit, hfiltering]
  · intro htable
    rw [htext]
    exact Grammar.text_mem_select (checked_selectOutline hq) htable

/-- A column that has the name of the flag in front of the columns is not read as this flag. -/
theorem select_distinct_column_of_users :
    ∃ q q', Call.applyAll { options := ∅, pageSize := standardPageSize }
        [.onTable "users", .select ["distinct"]] = .ok q ∧
      Call.applyAll { options := ∅, pageSize := standardPageSize }
        [.onTable "users", .withDistinct] = .ok q' ∧
      q.selectStatement.cql ≠ q'.selectStatement.cql ∧
      q.selectStatement.cql.toList ∈ Grammar.select := by
  have hdistinct : Name.checkIdentifier "distinct" = .ok () :=
    Name.checkIdentifier_eq_ok_iff.mpr (by decide)
  have htable : Name.checkTable "users" = .ok () :=
    Name.checkTable_of_checkIdentifier (Name.checkIdentifier_eq_ok_iff.mpr (by decide)) (by decide)
  have hcolumn : Name.checkColumn "distinct" = .ok () := by
    rw [Name.checkColumn, if_neg (by decide), hdistinct]
  have hcolumns : (["distinct"] : List String).forM Name.checkColumn = .ok () :=
    Outcome.forM_eq_ok_iff.mpr (by simpa using hcolumn)
  have hnamed : Call.applyAll { options := ∅, pageSize := standardPageSize }
      [.onTable "users", .select ["distinct"]] =
      .ok { table := some "users", columns := some ["distinct"] } := by
    simp only [Call.applyAll, List.foldlM_cons, List.foldlM_nil, Call.apply, onTable, select,
      htable, hcolumns]
    rfl
  have hflagged : Call.applyAll { options := ∅, pageSize := standardPageSize }
      [.onTable "users", .withDistinct] = .ok { table := some "users", distinct := true } := by
    simp only [Call.applyAll, List.foldlM_cons, List.foldlM_nil, Call.apply, onTable, htable]
    rfl
  obtain ⟨hiff, hsentence⟩ := selectStatement_cql_eq_iff hnamed hflagged
  refine ⟨_, _, hnamed, hflagged, ?_, hsentence rfl⟩
  intro heq
  obtain ⟨_, _, hflag, _⟩ := hiff.mp heq
  cases hflag

end Query

end Cql
