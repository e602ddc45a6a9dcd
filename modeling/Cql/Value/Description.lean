import Cql.Text.Described
import Cql.Value

/-!
Descriptions of values for messages: the name of the variant and its content in parentheses.
-/

namespace Cql

def NativeType.label : NativeType → String
  | ascii => "Ascii"
  | bigInt => "BigInt"
  | blob => "Blob"
  | boolean => "Boolean"
  | date => "Date"
  | decimal => "Decimal"
  | double => "Double"
  | float => "Float"
  | inet => "Inet"
  | int => "Int"
  | smallInt => "SmallInt"
  | text => "Text"
  | time => "Time"
  | timestamp => "Timestamp"
  | timeUuid => "TimeUuid"
  | tinyInt => "TinyInt"
  | uuid => "Uuid"
  | varchar => "Varchar"

/-- A text with quotes and escapes. -/
def describeText (s : String) : String :=
  String.ofList (Text.described s.toList)

/-- Items between brackets. -/
def describeItems (items : List String) : String :=
  "[" ++ ", ".intercalate items ++ "]"

/-- A name and named parts between braces. -/
def describeRecord (name : String) (parts : List (String × String)) : String :=
  name ++ " \x7b " ++ ", ".intercalate (parts.map fun p => p.1 ++ ": " ++ p.2) ++ " \x7d"

namespace Value

mutual

def describe : Value → String
  | null => "Null"
  | boolean b => if b then "Boolean(true)" else "Boolean(false)"
  | tinyInt n => "TinyInt(" ++ n.toInt.repr ++ ")"
  | smallInt n => "SmallInt(" ++ n.toInt.repr ++ ")"
  | int n => "Int(" ++ n.toInt.repr ++ ")"
  | bigInt n => "BigInt(" ++ n.toInt.repr ++ ")"
  | float x => "Float(" ++ String.ofList (Floating.ofFloat32 x).description ++ ")"
  | double x => "Double(" ++ String.ofList (Floating.ofFloat x).description ++ ")"
  | decimal d => "Decimal(" ++ String.ofList d.toText ++ ")"
  | text s => "Text(" ++ describeText s ++ ")"
  | blob bytes => "Blob(" ++ describeItems (bytes.map fun b => b.toNat.repr) ++ ")"
  | inet ip => "Inet(" ++ String.ofList ip.toText ++ ")"
  | uuid u => "Uuid(" ++ String.ofList u.toText ++ ")"
  | timeUuid u => "TimeUuid(" ++ String.ofList u.toText ++ ")"
  | date d => "Date(" ++ String.ofList d.toText ++ ")"
  | time t => "Time(" ++ String.ofList t.toText ++ ")"
  | timestamp t => "Timestamp(" ++ String.ofList t.toFullText ++ ")"
  | collection c => "Collection(" ++ describeCollection c ++ ")"

def describeCollection : Collection Value → String
  | .map key value entries =>
    describeRecord "Map" [("key_type", key.label), ("value_type", value.label),
      ("entries", describeItems (describeEntries entries))]
  | .set element values =>
    describeRecord "Set" [("element_type", element.label),
      ("values", describeItems (describeElements values))]
  | .list element values =>
    describeRecord "List" [("element_type", element.label),
      ("values", describeItems (describeElements values))]

def describeEntries : List (Value × Value) → List String
  | [] => []
  | entry :: entries => describeEntry entry :: describeEntries entries

def describeEntry : Value × Value → String
  | (k, v) => "(" ++ k.describe ++ ", " ++ v.describe ++ ")"

def describeElements : List Value → List String
  | [] => []
  | v :: values => v.describe :: describeElements values

end

end Value

end Cql
