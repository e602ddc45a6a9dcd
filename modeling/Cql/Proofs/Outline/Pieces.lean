import Cql.Proofs.Outline.Write

/-!
Outlines piece by piece. What is written from an outline is a list of pieces, names and what stands
around them. Joined, the pieces are the text of the outline; the names among them are those that it
holds, in the order in which the text has them.
-/

namespace Cql

/-- A piece of a text: a name, or something around names. -/
inductive Piece where
  | name (s : String)
  | other (s : String)

namespace Piece

@[simp] def text : Piece → String
  | name s | other s => s

@[simp] def name? : Piece → Option String
  | name s => some s
  | other _ => none

/-- The text of the pieces, one behind another. -/
def join (pieces : List Piece) : String :=
  String.join (pieces.map text)

/-- The names among the pieces, from left to right. -/
def names (pieces : List Piece) : List String :=
  pieces.filterMap name?

@[simp] theorem join_nil : join [] = "" :=
  rfl

@[simp] theorem join_cons (piece : Piece) (pieces : List Piece) :
    join (piece :: pieces) = piece.text ++ join pieces :=
  String.join_cons

@[simp] theorem join_append (pieces more : List Piece) :
    join (pieces ++ more) = join pieces ++ join more := by
  rw [join, List.map_append, String.join_append]
  rfl

@[simp] theorem names_nil : names [] = [] :=
  rfl

@[simp] theorem names_cons (piece : Piece) (pieces : List Piece) :
    names (piece :: pieces) = piece.name?.toList ++ names pieces := by
  cases piece <;> rfl

@[simp] theorem names_append (pieces more : List Piece) :
    names (pieces ++ more) = names pieces ++ names more :=
  List.filterMap_append

/-- Groups of pieces with a separator between them. -/
def separated (separator : String) (groups : List (List Piece)) : List Piece :=
  [other separator].intercalate groups

theorem join_separated (separator : String) (groups : List (List Piece)) :
    join (separated separator groups) = separator.intercalate (groups.map join) := by
  induction groups with
  | nil => simp [separated]
  | cons group groups ih =>
    cases groups with
    | nil => simp [separated]
    | cons next groups =>
      rw [separated] at ih ⊢
      rw [List.intercalate_cons_cons, join_append, join_append, ih, List.map_cons, List.map_cons,
        List.map_cons, String.intercalate_cons_cons]
      simp

theorem names_separated (separator : String) (groups : List (List Piece)) :
    names (separated separator groups) = groups.flatMap names := by
  induction groups with
  | nil => rfl
  | cons group groups ih =>
    cases groups with
    | nil => simp [separated]
    | cons next groups =>
      rw [separated] at ih ⊢
      rw [List.intercalate_cons_cons, names_append, names_append, ih, List.flatMap_cons,
        List.flatMap_cons, List.flatMap_cons]
      simp

/-- Columns with commas between them. -/
def ofColumns (columns : List String) : List Piece :=
  separated ", " (columns.map fun column => [name column])

@[simp] theorem join_ofColumns (columns : List String) :
    join (ofColumns columns) = ", ".intercalate columns := by
  have hjoin : (join ∘ fun column => [name column]) = id := by
    funext column
    simp
  rw [ofColumns, join_separated, List.map_map, hjoin, List.map_id]

@[simp] theorem names_ofColumns (columns : List String) : names (ofColumns columns) = columns := by
  rw [ofColumns, names_separated, List.flatMap_map]
  exact List.flatMap_singleton' columns

/-- The place of the table, where nothing stands as long as none is selected. -/
def ofTable (table : Option String) : List Piece :=
  table.toList.map name

@[simp] theorem join_ofTable (table : Option String) : join (ofTable table) = table.getD "" := by
  cases table <;> simp [ofTable]

@[simp] theorem names_ofTable (table : Option String) : names (ofTable table) = table.toList := by
  cases table <;> rfl

/-- An assignment. A column that is changed stands on both sides. -/
def ofTarget : String × Option CollectionChange → List Piece
  | (column, some .append) => [name column, other " = ", name column, other " + ?"]
  | (column, some .prepend) => [name column, other " = ? + ", name column]
  | (column, some .remove) => [name column, other " = ", name column, other " - ?"]
  | (column, none) => [name column, other " = ?"]

theorem join_ofTarget (target : String × Option CollectionChange) :
    join (ofTarget target) = targetText target := by
  obtain ⟨column, operation⟩ := target
  rw [← String.toList_inj]
  cases operation with
  | none => simp [ofTarget, targetText, changeText]
  | some operation => cases operation <;> simp [ofTarget, targetText, changeText]

def ofCondition (condition : String × Operator) : List Piece :=
  [name condition.1, other " ", other condition.2.cql, other " ?"]

theorem join_ofCondition (condition : String × Operator) :
    join (ofCondition condition) = conditionText condition := by
  simp [ofCondition, conditionText, String.append_assoc]

/-- The clause of the predicates, which is left out if there are none. -/
def ofConditions (conditions : List (String × Operator)) : List Piece :=
  if conditions.isEmpty then []
  else other " where " :: separated " and " (conditions.map ofCondition)

theorem join_ofConditions (conditions : List (String × Operator)) :
    join (ofConditions conditions) = whereClause conditions := by
  unfold ofConditions whereClause
  split
  · rfl
  · have hcondition : join ∘ ofCondition = conditionText := funext join_ofCondition
    rw [join_cons, join_separated, List.map_map, hcondition, text]

theorem names_ofConditions (conditions : List (String × Operator)) :
    names (ofConditions conditions) = conditions.map Prod.fst := by
  unfold ofConditions
  split
  · rename_i hempty
    rw [List.isEmpty_iff.mp hempty]
    rfl
  · rw [names_cons, names_separated, List.flatMap_map, List.map_eq_flatMap]
    rfl

/-- The clauses at the end of a statement. -/
def ofTail (tail : Tail) : List Piece :=
  ofConditions tail.conditions ++
    [other (limitClause tail.limit), other (filteringClause tail.allowFiltering)]

@[simp] theorem join_ofTail (tail : Tail) : join (ofTail tail) = tail.text := by
  simp [ofTail, join_ofConditions, Tail.text]

@[simp] theorem names_ofTail (tail : Tail) :
    names (ofTail tail) = tail.conditions.map Prod.fst := by
  simp [ofTail, names_ofConditions]

/-- The columns of a delete. -/
def ofDeleted (columns : List String) : List Piece :=
  if columns.isEmpty then [] else other " " :: ofColumns columns

@[simp] theorem join_ofDeleted (columns : List String) :
    join (ofDeleted columns) = DeleteOutline.columnsText columns := by
  unfold ofDeleted DeleteOutline.columnsText
  split
  · rfl
  · rw [join_cons, join_ofColumns, text]

@[simp] theorem names_ofDeleted (columns : List String) : names (ofDeleted columns) = columns := by
  unfold ofDeleted
  split
  · rename_i hempty
    rw [List.isEmpty_iff.mp hempty]
    rfl
  · exact names_ofColumns columns

end Piece

/-- A statement without its values: its kind, and all that its text is written from. -/
inductive Outline where
  | select (o : SelectOutline)
  | update (o : UpdateOutline)
  | delete (o : DeleteOutline)
  | insert (o : InsertOutline)
  | index (o : IndexOutline)

namespace Outline

open Piece (other names join separated ofColumns ofTable ofTail)

def text : Outline → String
  | select o => o.text
  | update o => o.text
  | delete o => o.text
  | insert o => o.text
  | index o => o.text

def pieces : Outline → List Piece
  | select o =>
    other "select " :: other (if o.distinct then "distinct " else "") :: ofColumns o.columns ++
      other " from " :: ofTable o.table ++ ofTail o.tail
  | update o =>
    other "update " :: ofTable o.table ++
      other " set " :: separated ", " (o.targets.map Piece.ofTarget) ++ ofTail o.tail
  | delete o =>
    other "delete" :: Piece.ofDeleted o.columns ++ other " from " :: ofTable o.table ++
      ofTail o.tail
  | insert o =>
    other "insert into " :: ofTable o.table ++ other " (" :: ofColumns o.columns ++
      [other ") values ", other (", ".intercalate (List.replicate o.rows (group o.columns.length)))]
  | index o =>
    other "CREATE INDEX IF NOT EXISTS ON " :: ofTable o.table ++ other "(" :: ofColumns o.columns ++
      [other ")"]

/-- Joined, the pieces of an outline are its text. -/
theorem join_pieces (o : Outline) : join o.pieces = o.text := by
  cases o with
  | select o =>
    unfold pieces text SelectOutline.text
    simp
  | update o =>
    have htarget : join ∘ Piece.ofTarget = targetText := funext Piece.join_ofTarget
    unfold pieces text UpdateOutline.text
    simp [Piece.join_separated, htarget]
  | delete o =>
    unfold pieces text DeleteOutline.text
    simp
  | insert o =>
    unfold pieces text InsertOutline.text insertOf
    simp [String.append_assoc]
  | index o =>
    unfold pieces text IndexOutline.text
    simp

end Outline

end Cql
