import Cql.Query

/-!
The texts of statements. Values never occur in a text: each stands for itself as a question mark, in
the order in which the arguments are bound.
-/

namespace Cql

/-- Rows or assignments: names of columns with their values. -/
abbrev Cells := List (String × Value)

/-- A clause behind what comes before it, unless it is empty. -/
def clause (text : String) : String :=
  if text.isEmpty then "" else " " ++ text

/-- As many question marks as there are values. -/
def placeholders (count : Nat) : String :=
  ", ".intercalate (List.replicate count "?")

def Predicate.text (p : Predicate) : String :=
  Name.wrap p.column ++ " " ++ p.operator.cql ++ " ?"

def Mutation.text (m : Mutation) : String :=
  let column := Name.wrap m.column
  match m.operation with
  | some .append => column ++ " = " ++ column ++ " + ?"
  | some .prepend => column ++ " = ? + " ++ column
  | some .remove => column ++ " = " ++ column ++ " - ?"
  | none => column ++ " = ?"

/-- Mutations with commas between them. -/
def Mutation.listText (mutations : List Mutation) : String :=
  ", ".intercalate (mutations.map Mutation.text)

namespace Query

def predicateText (q : Query) : String :=
  if q.predicates.isEmpty then ""
  else "where " ++ " and ".intercalate (q.predicates.map Predicate.text)

def filteringText (q : Query) : String :=
  if q.allowFiltering then "allow filtering" else ""

def limitText (q : Query) : String :=
  match q.limit with
  | some n => "limit " ++ n.toNat.repr
  | none => ""

/-- The columns of the projection; all columns as long as none is named. -/
def projectionText (q : Query) : String :=
  match q.columns with
  | some (column :: columns) => Name.list (column :: columns)
  | _ => "*"

def selectText (q : Query) : String :=
  "select " ++ (if q.distinct then "distinct " else "") ++ q.projectionText ++ " from " ++
    Name.wrap q.tableName ++ clause q.predicateText ++ clause q.limitText ++
    clause q.filteringText

/-- The columns are those of the first row; each row is a group of question marks. -/
def insertText (q : Query) (rows : List Cells) : String :=
  let columns := (rows.head?.getD []).map Prod.fst
  let groups := rows.map fun row => "(" ++ placeholders row.length ++ ")"
  "insert into " ++ Name.wrap q.tableName ++ " (" ++ Name.list columns ++ ") values " ++
    ", ".intercalate groups

/-- Mutations of collections come before plain assignments. -/
def updateText (q : Query) (assignments : Cells) : String :=
  let mutations := if q.mutations.isEmpty then [] else [Mutation.listText q.mutations]
  let plain := assignments.map fun a => Name.wrap a.1 ++ " = ?"
  "update " ++ Name.wrap q.tableName ++ " set " ++ ", ".intercalate (mutations ++ plain) ++
    clause q.predicateText ++ clause q.filteringText

/-- Without columns the whole row is deleted. -/
def deleteText (q : Query) (columns : List String) : String :=
  "delete" ++ (if columns.isEmpty then "" else " " ++ Name.list columns) ++ " from " ++
    Name.wrap q.tableName ++ clause q.predicateText ++ clause q.filteringText

def indexText (q : Query) (columns : List String) : String :=
  "CREATE INDEX IF NOT EXISTS ON " ++ Name.wrap q.tableName ++ "(" ++ Name.list columns ++ ")"

end Query

end Cql
