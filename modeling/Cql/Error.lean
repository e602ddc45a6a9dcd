import Cql.Vocabulary

/-!
What can go wrong, one constructor for each cause. An error has a kind and a text; what is shown to
a user is the heading of its kind and then its text. The kinds `transport`, `timeout` and
`unavailable` only ever come from the connection, through `Error.raised`.
-/

namespace Cql

inductive ErrorKind where
  | configuration | invalidBindingType | notImplemented | notFound | query | validation
  | serialization | transport | timeout | unavailable
  deriving DecidableEq, Repr

namespace ErrorKind

def all : List ErrorKind :=
  [configuration, invalidBindingType, notImplemented, notFound, query, validation,
    serialization, transport, timeout, unavailable]

def label : ErrorKind → String
  | configuration => "Configuration"
  | invalidBindingType => "InvalidBindingType"
  | notImplemented => "NotImplemented"
  | notFound => "NotFound"
  | query => "Query"
  | validation => "Validation"
  | serialization => "Serialization"
  | transport => "Transport"
  | timeout => "Timeout"
  | unavailable => "Unavailable"

def ofLabel? (label : String) : Option ErrorKind :=
  all.find? fun k => k.label == label

def heading : ErrorKind → String
  | configuration => "Configuration error"
  | invalidBindingType => "Invalid binding type"
  | notImplemented => "Not implemented"
  | notFound => "Not found"
  | query => "Query error"
  | validation => "Validation error"
  | serialization => "Serialization error"
  | transport => "Transport error"
  | timeout => "Timeout"
  | unavailable => "Unavailable"

/-- The builder or the model was set up in a way that no statement can express. -/
def isConfiguration : ErrorKind → Bool
  | configuration | invalidBindingType | notImplemented => true
  | _ => false

/-- The statement was sent and the store did not answer it. -/
def isTransport : ErrorKind → Bool
  | transport | timeout | unavailable => true
  | _ => false

end ErrorKind

/-- The longest name of a keyspace or a table, in bytes. -/
def maxNameLength : Nat := 48

inductive Error where
  /-- The connection answered with this error. -/
  | raised (kind : ErrorKind) (text : String)
  | unknownBucket (name : String)
  | keyNotSet
  | keyColumnMissing (column : String)
  | keyNeedsMapping
  | keyNotGiven
  | settingNotInteger (setting raw : String)
  | defaultPageSizeNotPositive (size : Int)
  | notACollection (typeName : String)
  | disjunction (column : String)
  | negatedKey
  | rowMissing (table key : String)
  | emptyTableName
  | malformedTable (name : String)
  | systemKeyspace (name : String)
  | nameTooLong (name : String)
  | emptyIdentifier
  | identifierNotNormal (name : String)
  | identifierStart (name : String)
  | identifierCharacter (name : String) (c : Char)
  | reservedWord (name : String)
  | unsupportedOperator (operator : String)
  | columnMissing (column : String)
  | tableNotSelected
  | emptyInsert
  | insertColumn (column : String)
  | insertRowColumns (index : Nat) (columns expected : List String)
  | emptyUpdate
  | emptyIndex
  | emptyColumnDelete
  | noNextPage
  | pageSizeNotPositive (size : Int)
  | unknownType (name : String)
  | nestedCollection (inner outer : CollectionKind)
  | unstorable (typeName : String) (kind : CollectionKind) (type : NativeType)
  | prependTo (kind : CollectionKind) (column : String)
  | invalidKey (caster : Caster)
  | uncastable (typeName : String) (caster : Caster)
  /-- A text that is not JSON, or JSON of another shape than the one asked for. -/
  | unreadable
  deriving DecidableEq

namespace Error

def kind : Error → ErrorKind
  | raised kind _ => kind
  | unknownBucket _ | keyNotSet | keyColumnMissing _ | keyNeedsMapping | keyNotGiven
  | settingNotInteger _ _ | defaultPageSizeNotPositive _ => .configuration
  | notACollection _ => .invalidBindingType
  | disjunction _ | negatedKey => .notImplemented
  | rowMissing _ _ => .notFound
  | emptyTableName | malformedTable _ | systemKeyspace _ | nameTooLong _ | emptyIdentifier
  | identifierNotNormal _ | identifierStart _ | identifierCharacter _ _ | reservedWord _
  | unsupportedOperator _ | columnMissing _ | tableNotSelected | emptyInsert | insertColumn _
  | insertRowColumns _ _ _ | emptyUpdate | emptyIndex | emptyColumnDelete | noNextPage
  | pageSizeNotPositive _ => .query
  | unknownType _ | nestedCollection _ _ | unstorable _ _ _ | prependTo _ _ | invalidKey _
  | uncastable _ _ => .validation
  | unreadable => .serialization

def text : Error → String
  | raised _ text => text
  | unknownBucket name => s!"Invalid binding type: {name}."
  | keyNotSet => "Primary key not set"
  | keyColumnMissing column => s!"No value for primary key column '{column}'"
  | keyNeedsMapping => "A composite primary key needs a column to value mapping"
  | keyNotGiven => "No primary key was specified"
  | settingNotInteger setting raw => s!"{setting} must be an integer, got '{raw}'"
  | defaultPageSizeNotPositive size => s!"default_page_size must be positive, got {size}"
  | notACollection typeName => s!"{typeName}, should be any one of map, set, list"
  | disjunction column => s!"or_where({column}): CQL does not support OR predicates"
  | negatedKey => "where_key_not is not supported by CQL; use the query builder"
  | rowMissing table key => s!"No row in '{table}' for key {key}"
  | emptyTableName => "Table name cannot be empty"
  | malformedTable name =>
    s!"Invalid qualified table '{name}': must be in format 'keyspace.table'"
  | systemKeyspace name => s!"Access to system keyspace '{name}' is not allowed"
  | nameTooLong name => s!"Name '{name}' exceeds maximum length of {maxNameLength}"
  | emptyIdentifier => "Identifier cannot be empty"
  | identifierNotNormal name => s!"Identifier '{name}' is not in NFKC normal form"
  | identifierStart name => s!"Identifier '{name}' must start with a letter or underscore"
  | identifierCharacter name c => s!"Identifier '{name}' contains invalid character '{c}'"
  | reservedWord name => s!"Identifier '{name}' is a reserved CQL keyword"
  | unsupportedOperator operator => s!"Unsupported operator '{operator}'"
  | columnMissing column => s!"Column '{column}' not found in result set"
  | tableNotSelected => "No table selected; call from() first"
  | emptyInsert => "Cannot insert with no values"
  | insertColumn column => s!"Invalid insert column '{column}'"
  | insertRowColumns index columns expected =>
    let columns := String.intercalate ", " columns
    let expected := String.intercalate ", " expected
    s!"Insert row {index} has columns [{columns}], expected [{expected}]"
  | emptyUpdate => "Cannot update with no values"
  | emptyIndex => "Cannot create an index on no columns"
  | emptyColumnDelete => "No columns given to delete"
  | noNextPage => "Cannot fetch next page: result is on its last page"
  | pageSizeNotPositive size => s!"Page size must be positive, got {size}"
  | unknownType name => s!"Unknown CQL type '{name}'"
  | nestedCollection inner outer =>
    s!"Nested {inner.name} inside a {outer.name} is not supported"
  | unstorable typeName kind type =>
    s!"Cannot store {typeName} value in {kind.name}<{type.name}>"
  | prependTo kind column => s!"Cannot prepend to a {kind.name} column '{column}'"
  | invalidKey caster => s!"Value is not a valid {caster.label} key"
  | uncastable typeName caster => s!"Cannot cast {typeName} value to {caster.label}"
  | unreadable => "malformed JSON"

/-- The error as shown to a user. -/
def display (e : Error) : String :=
  s!"{e.kind.heading}: {e.text}"

end Error

end Cql
