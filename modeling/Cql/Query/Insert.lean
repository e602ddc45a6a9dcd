import Cql.Query.Text

/-!
The payload of an insert: one row in the order of its cells, or a batch of rows, each of which is
put into ascending order of its columns so that all rows share one list of columns.
-/

namespace Cql

inductive Payload where
  | single (cells : Cells)
  | batch (rows : List Cells)

namespace Payload

/-- One row without order: of several values of one column the last one counts. -/
def ofFields (fields : Fields Value) : Payload :=
  single fields.entries

/-- There is nothing to insert. A batch of empty rows is not empty. -/
def isEmpty : Payload → Bool
  | single cells => cells.isEmpty
  | batch rows => rows.isEmpty

def sortCells (cells : Cells) : Cells :=
  cells.mergeSort fun a b => decide (a.1 ≤ b.1)

/-- The rows with each row of a batch in order. -/
def ordered : Payload → List Cells
  | single cells => [cells]
  | batch rows => rows.map sortCells

def columnsOf (cells : Cells) : List String :=
  cells.map Prod.fst

/-- Each column is a name of its own, given the columns before it. -/
def checkColumns (seen : List String) : List String → Except Error Unit
  | [] => .ok ()
  | column :: columns => do
    Name.checkColumn column
    if column = "*" ∨ seen.contains column then .error (.insertColumn column)
    else checkColumns (column :: seen) columns

/-- All rows, counted from `index`, have the expected columns. -/
def checkRows (expected : List String) : (index : Nat) → List Cells → Except Error Unit
  | _, [] => .ok ()
  | index, row :: rows =>
    if columnsOf row = expected then checkRows expected (index + 1) rows
    else .error (.insertRowColumns index (columnsOf row) expected)

/-- The rows to insert, which share one list of columns. There is at least one of both. -/
def rows? (p : Payload) : Except Error (List Cells) :=
  match p.ordered with
  | [] => .error .emptyInsert
  | first :: rest =>
    if first.isEmpty then .error .emptyInsert
    else do
      checkColumns [] (columnsOf first)
      checkRows (columnsOf first) 1 rest
      return first :: rest

end Payload

end Cql
