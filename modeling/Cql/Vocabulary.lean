import Cql.Text.Blank

/-!
The names of the language: the native column types, the three kinds of collection, the casters of
key columns, the buckets of bound values and the operators of predicates.
-/

namespace Cql

/-- The native types a column or a collection element may have. -/
inductive NativeType where
  | ascii | bigInt | blob | boolean | date | decimal | double | float | inet | int | smallInt
  | text | time | timestamp | timeUuid | tinyInt | uuid | varchar
  deriving DecidableEq, Repr

namespace NativeType

def all : List NativeType :=
  [ascii, bigInt, blob, boolean, date, decimal, double, float, inet, int, smallInt,
    text, time, timestamp, timeUuid, tinyInt, uuid, varchar]

def name : NativeType → String
  | ascii => "ascii"
  | bigInt => "bigint"
  | blob => "blob"
  | boolean => "boolean"
  | date => "date"
  | decimal => "decimal"
  | double => "double"
  | float => "float"
  | inet => "inet"
  | int => "int"
  | smallInt => "smallint"
  | text => "text"
  | time => "time"
  | timestamp => "timestamp"
  | timeUuid => "timeuuid"
  | tinyInt => "tinyint"
  | uuid => "uuid"
  | varchar => "varchar"

/-- The types whose literals are written between quotes. -/
def isStringType : NativeType → Bool
  | varchar | ascii | inet | text => true
  | _ => false

def ofName? (name : String) : Option NativeType :=
  all.find? fun t => t.name == name

/-- What is left of a type name when blanks around it and the case of its letters are ignored. -/
def normalizeName (s : String) : String :=
  String.ofList ((Text.trim s.toList).map Char.toLower)

end NativeType

inductive CollectionKind where
  | map | set | list
  deriving DecidableEq, Repr

def CollectionKind.name : CollectionKind → String
  | map => "map"
  | set => "set"
  | list => "list"

/-- The conversions that a key column may ask for. -/
inductive Caster where
  | uuid | timeUuid | bigInt | int | text | timestamp | date | decimal | inet
  deriving DecidableEq, Repr

namespace Caster

def all : List Caster :=
  [uuid, timeUuid, bigInt, int, text, timestamp, date, decimal, inet]

/-- The name of the caster in messages. -/
def label : Caster → String
  | uuid => "Uuid"
  | timeUuid => "TimeUuid"
  | bigInt => "BigInt"
  | int => "Int"
  | text => "Text"
  | timestamp => "Timestamp"
  | date => "Date"
  | decimal => "Decimal"
  | inet => "Inet"

/-- The name of the caster in key descriptions. -/
def name : Caster → String
  | uuid => "uuid"
  | timeUuid => "timeuuid"
  | bigInt => "bigint"
  | int => "int"
  | text => "text"
  | timestamp => "timestamp"
  | date => "date"
  | decimal => "decimal"
  | inet => "inet"

def ofName? (name : String) : Option Caster :=
  all.find? fun c => c.name == name

end Caster

/-- The buckets of bound values. -/
inductive Bucket where
  | select | predicate | updateCollection | join
  deriving DecidableEq, Repr

namespace Bucket

/-- The buckets in the order in which they are flattened. -/
def all : List Bucket :=
  [select, predicate, updateCollection, join]

def name : Bucket → String
  | select => "select"
  | predicate => "where"
  | updateCollection => "updateCollection"
  | join => "join"

def ofName? (name : String) : Option Bucket :=
  all.find? fun k => k.name == name

end Bucket

/-- The operators of predicates. -/
inductive Operator where
  | eq | lt | gt | lte | gte | like | contains | containsKey
  deriving DecidableEq, Repr

namespace Operator

def all : List Operator :=
  [eq, lt, gt, lte, gte, like, contains, containsKey]

/-- The operator as written in a statement. -/
def cql : Operator → String
  | eq => "="
  | lt => "<"
  | gt => ">"
  | lte => "<="
  | gte => ">="
  | like => "like"
  | contains => "contains"
  | containsKey => "contains key"

def label : Operator → String
  | eq => "Eq"
  | lt => "Lt"
  | gt => "Gt"
  | lte => "Lte"
  | gte => "Gte"
  | like => "Like"
  | contains => "Contains"
  | containsKey => "ContainsKey"

def ofLabel? (label : String) : Option Operator :=
  all.find? fun o => o.label == label

/-- Reads an operator in any case, with blanks around it and any run of blanks between its words. -/
def ofText? (s : String) : Option Operator :=
  let words := (Text.words s.toList).map fun w => String.ofList (w.map Char.toLower)
  all.find? fun o => o.cql == String.intercalate " " words

end Operator

/-- The operations on a collection column; to replace the column is none of them. -/
inductive CollectionChange where
  | append | prepend | remove
  deriving DecidableEq, Repr

end Cql
