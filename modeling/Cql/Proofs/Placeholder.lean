import Cql.Query.Statement

/-!
Where the question marks of a statement stand. A question mark is found by the number of those
before it; what it stands for is read off the text around it: the predicate or the assignment it
belongs to, or the row and the column of an insert. A list of clauses with one question mark each,
joined by a separator, has them in the order of the clauses.
-/

namespace Cql

def questionMarks (text : String) : Nat :=
  text.toList.count '?'

@[simp] theorem questionMarks_append (s t : String) :
    questionMarks (s ++ t) = questionMarks s + questionMarks t := by
  simp [questionMarks]

/-- What a question mark stands for. -/
inductive Place where
  | predicate (column : String) (operator : Operator)
  | assignment (column : String) (operation : Option CollectionChange)
  /-- The cell of an insert with the given columns, by the indices of its row and its column. -/
  | cell (columns : List String) (row column : Nat)

/-- A place and the argument that is meant for it. -/
structure Slot where
  place : Place
  value : Value

/-- The texts that can follow a clause which has a question mark. -/
def clauseOpeners : List String :=
  [", ", " and ", " where ", " limit ", " allow filtering"]

/-- A text that ends the clause before it. -/
def EndsClause (rest : String) : Prop :=
  rest = "" ∨ ∃ opener ∈ clauseOpeners, ∃ more, rest = opener ++ more

/-- The question mark with `i` others before it stands between `left` and `right`, behind one of the
words in `leads` and before the end of the clause. -/
def StandsBetween (leads : List String) (left right text : String) (i : Nat) : Prop :=
  ∃ before lead rest, lead ∈ leads ∧ text = before ++ lead ++ left ++ "?" ++ right ++ rest ∧
    questionMarks (before ++ lead ++ left) = i ∧ EndsClause rest

/-- The text of an assignment before and behind its question mark. -/
def assignmentSides (column : String) : Option CollectionChange → String × String
  | some .append => (column ++ " = " ++ column ++ " + ", "")
  | some .prepend => (column ++ " = ", " + " ++ column)
  | some .remove => (column ++ " = " ++ column ++ " - ", "")
  | none => (column ++ " = ", "")

/-- A group of question marks for a row of the given width. -/
def group (width : Nat) : String :=
  "(" ++ ", ".intercalate (List.replicate width "?") ++ ")"

/-- The text of an insert before the question mark of a cell. -/
def beforeCell (table : String) (columns : List String) (row column : Nat) : String :=
  "insert into " ++ table ++ " (" ++ ", ".intercalate columns ++ ") values " ++
    String.join (List.replicate row (group columns.length ++ ", ")) ++ "(" ++
    String.join (List.replicate column "?, ")

namespace Place

/-- The question mark of a text with `i` others before it stands for the place. -/
def MarkedAt (text : String) (i : Nat) : Place → Prop
  | predicate column operator =>
    StandsBetween [" where ", " and "] (column ++ " " ++ operator.cql ++ " ") "" text i
  | assignment column operation =>
    StandsBetween [" set ", ", "] (assignmentSides column operation).1
      (assignmentSides column operation).2 text i
  | cell columns row column =>
    column < columns.length ∧ i = row * columns.length + column ∧
      ∃ table rest, text = beforeCell table columns row column ++ "?" ++ rest ∧
        questionMarks (beforeCell table columns row column) = i

end Place

/-- The question marks of a text stand for the places, one after another. -/
structure Marked (text : String) (places : List Place) : Prop where
  count : questionMarks text = places.length
  each : ∀ (i : Nat) (place : Place), places[i]? = some place → place.MarkedAt text i

/-- The arguments of a statement are those of the slots, and its question marks stand for the places
of the slots, so that each argument has the question mark that it is meant for. -/
structure Statement.Aligned (s : Statement) (slots : List Slot) : Prop where
  arguments : s.arguments = slots.map Slot.value
  marked : Marked s.cql (slots.map Slot.place)

/-- A clause with one question mark, given by what stands on either side of it. -/
def markBetween (sides : String × String) : String :=
  sides.1 ++ "?" ++ sides.2

/-- No side of the clause has a question mark of its own. -/
def Unmarked (sides : String × String) : Prop :=
  questionMarks sides.1 = 0 ∧ questionMarks sides.2 = 0

theorem questionMarks_markBetween {sides : String × String} (h : Unmarked sides) :
    questionMarks (markBetween sides) = 1 := by
  obtain ⟨hleft, hright⟩ := h
  have hmark : questionMarks "?" = 1 := rfl
  rw [markBetween, questionMarks_append, questionMarks_append, hleft, hmark, hright]

section Lists

variable {separator : String} {clauses : List (String × String)}

theorem questionMarks_intercalate (hseparator : questionMarks separator = 0)
    (hclauses : ∀ sides ∈ clauses, Unmarked sides) :
    questionMarks (separator.intercalate (clauses.map markBetween)) = clauses.length := by
  induction clauses with
  | nil => rfl
  | cons sides rest ih =>
    have hone := questionMarks_markBetween (hclauses sides (by simp))
    have hrest := ih fun other hother => hclauses other (by simp [hother])
    cases rest with
    | nil => simpa using hone
    | cons next rest =>
      rw [List.map_cons, List.map_cons, String.intercalate_cons_cons, questionMarks_append,
        questionMarks_append, hone, hseparator, ← List.map_cons, hrest,
        List.length_cons (a := sides)]
      omega

/-- In a joined list of clauses each clause has its question mark at its own index, counted from the
question marks before the list. -/
theorem standsBetween_intercalate {leads : List String} {first head tail : String}
    (hfirst : first ∈ leads) (hlead : separator ∈ leads) (hopener : separator ∈ clauseOpeners)
    (htail : EndsClause tail) (hseparator : questionMarks separator = 0)
    (hclauses : ∀ sides ∈ clauses, Unmarked sides)
    {i : Nat} {sides : String × String} (hi : clauses[i]? = some sides) :
    StandsBetween leads sides.1 sides.2
      (head ++ first ++ separator.intercalate (clauses.map markBetween) ++ tail)
      (questionMarks (head ++ first) + i) := by
  induction clauses generalizing head first i with
  | nil => simp at hi
  | cons clause rest ih =>
    have hclause := hclauses clause (by simp)
    cases i with
    | zero =>
      obtain rfl : clause = sides := by simpa using hi
      cases rest with
      | nil =>
        refine ⟨head, first, tail, hfirst, ?_, ?_, htail⟩
        · simp [markBetween, String.append_assoc]
        · rw [questionMarks_append, hclause.1, Nat.add_zero]
      | cons next rest =>
        refine ⟨head, first, separator ++ (separator.intercalate
          ((next :: rest).map markBetween) ++ tail), hfirst, ?_, ?_, ?_⟩
        · simp [markBetween, String.append_assoc, String.intercalate_cons_cons]
        · rw [questionMarks_append, hclause.1, Nat.add_zero]
        · exact Or.inr ⟨separator, hopener, _, rfl⟩
    | succ i =>
      rw [List.getElem?_cons_succ] at hi
      cases rest with
      | nil => simp at hi
      | cons next rest =>
        have hnext := @ih separator (head ++ first ++ markBetween clause) hlead
          (fun other hother => hclauses other (by simp [hother])) i hi
        have htext : head ++ first ++ separator.intercalate
              ((clause :: next :: rest).map markBetween) ++ tail =
            head ++ first ++ markBetween clause ++ separator ++
              separator.intercalate ((next :: rest).map markBetween) ++ tail := by
          simp [String.append_assoc, String.intercalate_cons_cons]
        have hcount : questionMarks (head ++ first ++ markBetween clause ++ separator) =
            questionMarks (head ++ first) + 1 := by
          rw [questionMarks_append, questionMarks_append, questionMarks_markBetween hclause,
            hseparator]
        rw [hcount, Nat.add_assoc, Nat.add_comm 1 i] at hnext
        rw [htext]
        exact hnext

end Lists

/-- In a joined list of equal parts, `i` of them and their separators stand before the next one. -/
theorem intercalate_replicate (separator part : String) {i count : Nat} (h : i < count) :
    ∃ rest, separator.intercalate (List.replicate count part) =
      String.join (List.replicate i (part ++ separator)) ++ part ++ rest := by
  induction i generalizing count with
  | zero =>
    obtain ⟨count, rfl⟩ : ∃ n, count = n + 1 := ⟨count - 1, by omega⟩
    cases count with
    | zero => exact ⟨"", by simp⟩
    | succ count =>
      exact ⟨separator ++ separator.intercalate (List.replicate (count + 1) part),
        by simp [List.replicate_succ, String.intercalate_cons_cons, String.append_assoc]⟩
  | succ i ih =>
    obtain ⟨count, rfl⟩ : ∃ n, count = n + 2 := ⟨count - 2, by omega⟩
    have hi : i < count + 1 := by omega
    obtain ⟨rest, hrest⟩ := ih hi
    refine ⟨rest, ?_⟩
    rw [List.replicate_succ, List.replicate_succ, String.intercalate_cons_cons,
      ← List.replicate_succ, hrest, List.replicate_succ, String.join_cons]
    simp only [String.append_assoc]

theorem questionMarks_intercalate_eq_zero {separator : String} {parts : List String}
    (hseparator : questionMarks separator = 0) (hparts : ∀ part ∈ parts, questionMarks part = 0) :
    questionMarks (separator.intercalate parts) = 0 := by
  induction parts with
  | nil => rfl
  | cons part rest ih =>
    have hpart := hparts part (by simp)
    have hrest := ih fun other hother => hparts other (by simp [hother])
    cases rest with
    | nil => simpa using hpart
    | cons next rest =>
      rw [String.intercalate_cons_cons, questionMarks_append, questionMarks_append, hpart,
        hseparator, hrest]

theorem questionMarks_join_replicate (part : String) (count : Nat) :
    questionMarks (String.join (List.replicate count part)) = count * questionMarks part := by
  induction count with
  | zero => simp [questionMarks]
  | succ count ih =>
    rw [List.replicate_succ, String.join_cons, questionMarks_append, ih, Nat.succ_mul]
    omega

theorem questionMarks_intercalate_replicate {separator : String}
    (hseparator : questionMarks separator = 0) (part : String) (count : Nat) :
    questionMarks (separator.intercalate (List.replicate count part)) =
      count * questionMarks part := by
  induction count with
  | zero => simp [questionMarks]
  | succ count ih =>
    cases count with
    | zero => simp
    | succ count =>
      rw [List.replicate_succ, List.replicate_succ, String.intercalate_cons_cons,
        questionMarks_append, questionMarks_append, hseparator, ← List.replicate_succ, ih,
        Nat.succ_mul (count + 1)]
      omega

theorem questionMarks_group (width : Nat) : questionMarks (group width) = width := by
  have hopen : questionMarks "(" = 0 := rfl
  have hclose : questionMarks ")" = 0 := rfl
  have hcomma : questionMarks ", " = 0 := rfl
  have hmark : questionMarks "?" = 1 := rfl
  rw [group, questionMarks_append, questionMarks_append, hopen, hclose,
    questionMarks_intercalate_replicate hcomma, hmark]
  omega

/-- The text of an insert of `rows` rows. -/
def insertOf (table : String) (columns : List String) (rows : Nat) : String :=
  "insert into " ++ table ++ " (" ++ ", ".intercalate columns ++ ") values " ++
    ", ".intercalate (List.replicate rows (group columns.length))

section Insert

variable {table : String} {columns : List String} {rows : Nat}

theorem questionMarks_insertOf (htable : questionMarks table = 0)
    (hcolumns : ∀ name ∈ columns, questionMarks name = 0) :
    questionMarks (insertOf table columns rows) = rows * columns.length := by
  have hcomma : questionMarks ", " = 0 := rfl
  have hinsert : questionMarks "insert into " = 0 := rfl
  have hopen : questionMarks " (" = 0 := rfl
  have hvalues : questionMarks ") values " = 0 := rfl
  unfold insertOf
  rw [questionMarks_append, questionMarks_append, questionMarks_append, questionMarks_append,
    questionMarks_append, htable, questionMarks_intercalate_eq_zero hcomma hcolumns,
    questionMarks_intercalate_replicate hcomma, questionMarks_group, hinsert, hopen, hvalues]
  omega

/-- Every cell of an insert has its question mark, counted row by row. -/
theorem markedAt_cell {row column : Nat} (htable : questionMarks table = 0)
    (hcolumns : ∀ name ∈ columns, questionMarks name = 0) (hrow : row < rows)
    (hcolumn : column < columns.length) :
    Place.MarkedAt (insertOf table columns rows) (row * columns.length + column)
      (.cell columns row column) := by
  obtain ⟨later, hrows⟩ := intercalate_replicate ", " (group columns.length) hrow
  obtain ⟨more, hgroup⟩ := intercalate_replicate ", " "?" hcolumn
  have hmark : "?" ++ ", " = "?, " := by simp
  rw [hmark] at hgroup
  refine ⟨hcolumn, rfl, table, more ++ ")" ++ later, ?_, ?_⟩
  · have hopened : group columns.length =
        "(" ++ (String.join (List.replicate column "?, ") ++ "?" ++ more) ++ ")" := by
      rw [group, hgroup]
    have hcells := hrows.trans (congrArg (fun part =>
      String.join (List.replicate row (group columns.length ++ ", ")) ++ part ++ later) hopened)
    unfold insertOf beforeCell
    rw [hcells]
    simp only [String.append_assoc]
  · have hcomma : questionMarks ", " = 0 := rfl
    have hone : questionMarks "?, " = 1 := rfl
    have hinsert : questionMarks "insert into " = 0 := rfl
    have hcolumnsOpen : questionMarks " (" = 0 := rfl
    have hvalues : questionMarks ") values " = 0 := rfl
    have hopen : questionMarks "(" = 0 := rfl
    unfold beforeCell
    simp only [questionMarks_append, questionMarks_join_replicate, questionMarks_group, htable,
      questionMarks_intercalate_eq_zero hcomma hcolumns, hcomma, hone, hinsert, hcolumnsOpen,
      hvalues, hopen, Nat.add_zero, Nat.zero_add, Nat.mul_one]

end Insert

end Cql
