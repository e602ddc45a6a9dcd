import Cql.Key.Cast
import Cql.Query
import Cql.Row
import Cql.Value.Description

/-!
Primary keys and the predicates they stand for. A key is one column, or several components, each of
which may have a caster. A key value names one row by a value, or by values for columns.
-/

namespace Cql

structure KeyColumn where
  name : String
  caster : Option Caster := none
  deriving DecidableEq

def KeyColumn.cast (component : KeyColumn) (v : Value) : Except Error Value :=
  match component.caster with
  | some caster => caster.cast v
  | none => .ok v

inductive PrimaryKey where
  | single (name : String)
  /-- In the order of the predicates. -/
  | composite (components : List KeyColumn)
  deriving DecidableEq

inductive KeyValue where
  | single (v : Value)
  /-- Columns with their values; columns that are missing or null are skipped. -/
  | composite (entries : List (String × Value))

namespace KeyValue

/-- The value of a column, which is the first one of that name. -/
def find? (id : KeyValue) (name : String) : Option Value :=
  match id with
  | single _ => none
  | composite entries => entries.lookup name

def describeEntry (entry : String × Value) : String :=
  "(" ++ describeText entry.1 ++ ", " ++ entry.2.describe ++ ")"

def describe : KeyValue → String
  | single v => "Single(" ++ v.describe ++ ")"
  | composite entries => "Composite(" ++ describeItems (entries.map describeEntry) ++ ")"

end KeyValue

namespace PrimaryKey

def components : PrimaryKey → List KeyColumn
  | single name => [⟨name, none⟩]
  | composite components => components

def names (key : PrimaryKey) : List String :=
  key.components.map KeyColumn.name

/-- There is a column, and every column has a name. -/
def validate (key : PrimaryKey) : Except Error Unit :=
  if key.names.isEmpty || key.names.any String.isEmpty then .error .keyNotSet else .ok ()

/-- Adds the predicate of a component with a cast value. -/
def restrictComponent (q : Query) (component : KeyColumn) (v : Value) : Except Error Query := do
  let v ← component.cast v
  q.restrictEq component.name v

/-- Ties a save to the stored row: each component has its value in the row as it was loaded, or else
in the row as it was changed since. -/
def restrictSave (key : PrimaryKey) (q : Query) (loaded changed : Row) :
    Except Error Query := do
  key.validate
  key.components.foldlM
    (fun q component =>
      match loaded.present? component.name <|> changed.present? component.name with
      | some v => restrictComponent q component v
      | none => .error (.keyColumnMissing component.name))
    q

/-- The components that a key value has a value for, in the order of the key. -/
def resolve (components : List KeyColumn) (id : KeyValue) : List (KeyColumn × Value) :=
  components.filterMap fun component =>
    match id.find? component.name with
    | some v => if v.isNull then none else some (component, v)
    | none => none

/-- Ties a query to the rows with the given key value. -/
def restrict (key : PrimaryKey) (q : Query) (id : KeyValue) : Except Error Query :=
  match key, id with
  | single name, .single v => q.restrictEq name v
  | single name, .composite _ =>
    match id.find? name with
    | some v => q.restrictEq name v
    | none => .error (.keyColumnMissing name)
  | composite _, .single _ => .error .keyNeedsMapping
  | composite components, .composite _ =>
    match resolve components id with
    | [] => .error .keyNotGiven
    | resolved => resolved.foldlM (fun q (component, v) => restrictComponent q component v) q

end PrimaryKey

end Cql
