import Cql.Error
import Cql.Value

/-!
Rows of a result: values by the names of their columns.
-/

namespace Cql

structure Row where
  columns : Fields Value

namespace Row

instance : EmptyCollection Row := ⟨⟨∅⟩⟩

/-- Of several cells of one column the last one counts. -/
def ofCells (cells : List (String × Value)) : Row :=
  ⟨Fields.ofList cells⟩

def get (row : Row) (column : String) : Except Error Value :=
  match row.columns.find? column with
  | some v => .ok v
  | none => .error (.columnMissing column)

/-- The value of a column, unless the column is missing or its value is null. -/
def present? (row : Row) (column : String) : Option Value :=
  (row.columns.find? column).filter fun v => !v.isNull

def size (row : Row) : Nat :=
  row.columns.size

def isEmpty (row : Row) : Bool :=
  row.columns.isEmpty

def toJson (row : Row) : Json :=
  .ofFields (row.columns.map Value.toJson)

end Row

end Cql
