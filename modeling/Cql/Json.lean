import Cql.Fields

/-!
JSON values. Whole numbers and floating point numbers are told apart. The members of an object are
in ascending order of their names, each name once.
-/

namespace Cql

inductive Json where
  | null
  | bool (b : Bool)
  | int (n : Int)
  | float (x : Float)
  | str (s : String)
  | arr (items : List Json)
  | obj (members : List (String × Json))
  deriving Inhabited

namespace Json

def ofFields (fields : Fields Json) : Json :=
  obj fields.entries

/-- The member of an object with the given name. -/
def member? : Json → String → Option Json
  | obj members, name => members.lookup name
  | _, _ => none

end Json

end Cql
