import Cql.Vocabulary
import Cql.Json
import Cql.Text.Quoted
import Cql.Value.Decimal
import Cql.Value.Floating
import Cql.Value.IpAddress
import Cql.Value.Timestamp
import Cql.Value.Uuid

/-!
The values that are bound to statements and read back from rows. A value has a type name, a literal,
a raw text, which is the literal without its quotes, and a form as JSON. The elements of a
collection are written by the declared type of the element: a string type calls for quotes.
-/

namespace Cql

/-- A map, set or list of elements of type `α`, with the declared types of its elements. -/
inductive Collection (α : Type) where
  | map (key value : NativeType) (entries : List (α × α))
  | set (element : NativeType) (values : List α)
  | list (element : NativeType) (values : List α)

namespace Collection

variable {α : Type}

def kind : Collection α → CollectionKind
  | map _ _ _ => .map
  | set _ _ => .set
  | list _ _ => .list

def size : Collection α → Nat
  | map _ _ entries => entries.length
  | set _ values => values.length
  | list _ values => values.length

def isEmpty (c : Collection α) : Bool :=
  c.size == 0

def signature : Collection α → String
  | map key value _ => s!"map<{key.name}, {value.name}>"
  | set element _ => s!"set<{element.name}>"
  | list element _ => s!"list<{element.name}>"

end Collection

inductive Value where
  | null
  | boolean (b : Bool)
  | tinyInt (n : Int8)
  | smallInt (n : Int16)
  | int (n : Int32)
  | bigInt (n : Int64)
  | float (x : Float32)
  | double (x : Float)
  | decimal (d : Decimal)
  | text (s : String)
  | blob (bytes : List UInt8)
  | inet (ip : IpAddress)
  | uuid (u : Uuid)
  | timeUuid (u : Uuid)
  | date (d : Date)
  | time (t : TimeOfDay)
  | timestamp (t : Timestamp)
  | collection (c : Collection Value)

namespace Value

instance : Inhabited Value := ⟨null⟩

def typeName : Value → String
  | null => "null"
  | boolean _ => "boolean"
  | tinyInt _ => "tinyint"
  | smallInt _ => "smallint"
  | int _ => "int"
  | bigInt _ => "bigint"
  | float _ => "float"
  | double _ => "double"
  | decimal _ => "decimal"
  | text _ => "text"
  | blob _ => "blob"
  | inet _ => "inet"
  | uuid _ => "uuid"
  | timeUuid _ => "timeuuid"
  | date _ => "date"
  | time _ => "time"
  | timestamp _ => "timestamp"
  | collection c => c.kind.name

def isNull : Value → Bool
  | null => true
  | _ => false

def collection? : Value → Option (Collection Value)
  | collection c => some c
  | _ => none

/-- The types whose columns and collection slots can hold the value. A text of ASCII characters fits
in all three text types, and a time-based identifier is an identifier as well. -/
def fits : Value → NativeType → Bool
  | text s, .ascii => s.toList.all fun c => c.toNat < 128
  | text _, .text | text _, .varchar => true
  | boolean _, .boolean => true
  | tinyInt _, .tinyInt => true
  | smallInt _, .smallInt => true
  | int _, .int => true
  | bigInt _, .bigInt => true
  | float _, .float => true
  | double _, .double => true
  | decimal _, .decimal => true
  | blob _, .blob => true
  | inet _, .inet => true
  | uuid _, .uuid => true
  | timeUuid _, .uuid | timeUuid _, .timeUuid => true
  | date _, .date => true
  | time _, .time => true
  | timestamp _, .timestamp => true
  | _, _ => false

/-- The text of a value whose literal is that text between quotes. -/
def unquoted? : Value → Option String
  | text s => some s
  | inet ip => some (String.ofList ip.toText)
  | date d => some (String.ofList d.toText)
  | time t => some (String.ofList t.toText)
  | _ => none

/-- How an element is written where the declared type is `type`: `plain` is its text without quotes
and `literal` the value on its own. -/
def inSlot (type : NativeType) (plain literal : String) : String :=
  if type.isStringType then quote plain else literal

mutual

/-- The value as written in a statement. -/
def literal : Value → String
  | null => "null"
  | boolean b => if b then "true" else "false"
  | tinyInt n => n.toInt.repr
  | smallInt n => n.toInt.repr
  | int n => n.toInt.repr
  | bigInt n => n.toInt.repr
  | float x => String.ofList (Floating.ofFloat32 x).literal
  | double x => String.ofList (Floating.ofFloat x).literal
  | decimal d => String.ofList d.toText
  | text s => quote s
  | blob bytes => String.ofList ('0' :: 'x' :: Text.hexBytes bytes)
  | inet ip => quote (String.ofList ip.toText)
  | uuid u => String.ofList u.toText
  | timeUuid u => String.ofList u.toText
  | date d => quote (String.ofList d.toText)
  | time t => quote (String.ofList t.toText)
  | timestamp t => t.millis.repr
  | collection c => collectionLiteral c

/-- Braces around the entries of a map or a set, brackets around those of a list, and braces alone
for every empty collection. -/
def collectionLiteral : Collection Value → String
  | .map _ _ [] | .set _ [] | .list _ [] => "\x7b\x7d"
  | .map key value entries => "\x7b" ++ ", ".intercalate (entryLiterals key value entries) ++ "\x7d"
  | .set element values => "\x7b" ++ ", ".intercalate (elementLiterals element values) ++ "\x7d"
  | .list element values => "[" ++ ", ".intercalate (elementLiterals element values) ++ "]"

def entryLiterals (key value : NativeType) : List (Value × Value) → List String
  | [] => []
  | entry :: entries => entryLiteral key value entry :: entryLiterals key value entries

def entryLiteral (key value : NativeType) : Value × Value → String
  | (k, v) =>
    inSlot key (k.unquoted?.getD k.literal) k.literal ++ ": " ++
      inSlot value (v.unquoted?.getD v.literal) v.literal

def elementLiterals (element : NativeType) : List Value → List String
  | [] => []
  | v :: values =>
    inSlot element (v.unquoted?.getD v.literal) v.literal :: elementLiterals element values

end

/-- The literal without its quotes. -/
def rawText (v : Value) : String :=
  v.unquoted?.getD v.literal

/-- The literal of an element in a slot of the given type. -/
def elementLiteral (v : Value) (type : NativeType) : String :=
  inSlot type v.rawText v.literal

/-- A floating point number as JSON, which has none that are infinite or undefined. -/
def floatJson (x : Float) : Json :=
  if x.isFinite then .float x else .null

mutual

def toJson : Value → Json
  | null => .null
  | boolean b => .bool b
  | tinyInt n => .int n.toInt
  | smallInt n => .int n.toInt
  | int n => .int n.toInt
  | bigInt n => .int n.toInt
  | float x => floatJson x.toFloat
  | double x => floatJson x
  | decimal d => .str (String.ofList d.toText)
  | text s => .str s
  | blob bytes => .str (String.ofList ('0' :: 'x' :: Text.hexBytes bytes))
  | inet ip => .str (String.ofList ip.toText)
  | uuid u => .str (String.ofList u.toText)
  | timeUuid u => .str (String.ofList u.toText)
  | date d => .str (String.ofList d.toText)
  | time t => .str (String.ofList t.toText)
  | timestamp t => .str (String.ofList t.toText)
  | collection c => collectionJson c

/-- An object with the raw texts of the keys as names, or an array. -/
def collectionJson : Collection Value → Json
  | .map _ _ entries => .ofFields (Fields.ofList (entriesJson entries))
  | .set _ values => .arr (elementsJson values)
  | .list _ values => .arr (elementsJson values)

def entriesJson : List (Value × Value) → List (String × Json)
  | [] => []
  | entry :: entries => entryJson entry :: entriesJson entries

def entryJson : Value × Value → String × Json
  | (k, v) => (k.rawText, v.toJson)

def elementsJson : List Value → List Json
  | [] => []
  | v :: values => v.toJson :: elementsJson values

end

mutual

/-- Equality of values: of one type, with floating point numbers compared as numbers, so that an
undefined one differs from itself, decimals compared as numbers, and collections compared with
their element types and in order. -/
def same : Value → Value → Bool
  | null, null => true
  | boolean a, boolean b => a == b
  | tinyInt a, tinyInt b => a == b
  | smallInt a, smallInt b => a == b
  | int a, int b => a == b
  | bigInt a, bigInt b => a == b
  | float a, float b => a == b
  | double a, double b => a == b
  | decimal a, decimal b => a.sameNumber b
  | text a, text b => a == b
  | blob a, blob b => a == b
  | inet a, inet b => a == b
  | uuid a, uuid b => a == b
  | timeUuid a, timeUuid b => a == b
  | date a, date b => a == b
  | time a, time b => a == b
  | timestamp a, timestamp b => a == b
  | collection a, collection b => sameCollection a b
  | _, _ => false

def sameCollection : Collection Value → Collection Value → Bool
  | .map k v xs, .map k' v' ys => k == k' && v == v' && sameEntries xs ys
  | .set e xs, .set e' ys => e == e' && sameElements xs ys
  | .list e xs, .list e' ys => e == e' && sameElements xs ys
  | _, _ => false

def sameEntries : List (Value × Value) → List (Value × Value) → Bool
  | [], [] => true
  | x :: xs, y :: ys => sameEntry x y && sameEntries xs ys
  | _, _ => false

def sameEntry : Value × Value → Value × Value → Bool
  | (k, v), (k', v') => same k k' && same v v'

def sameElements : List Value → List Value → Bool
  | [], [] => true
  | x :: xs, y :: ys => same x y && sameElements xs ys
  | _, _ => false

end

instance : BEq Value := ⟨same⟩

end Value

namespace Collection

def literal (c : Collection Value) : String :=
  Value.collectionLiteral c

def toJson (c : Collection Value) : Json :=
  Value.collectionJson c

end Collection

end Cql
