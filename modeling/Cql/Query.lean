import Cql.Name
import Cql.Query.Bindings

/-!
Queries under construction. A query collects a table, a projection, predicates, flags, mutations of
collection columns, options for the connection and bound values. Each step checks what it is given
and leaves the query alone otherwise.
-/

namespace Cql

/-- `column operator ?`, with the value for the placeholder. -/
structure Predicate where
  column : String
  operator : Operator
  value : Value

/-- A change of a collection column in an update; without an operation the column is replaced. -/
structure Mutation where
  column : String
  operation : Option CollectionChange
  value : Collection Value

/-- Rows per page where neither the caller nor the session says otherwise. -/
def standardPageSize : Int32 := 15

structure Query where
  table : Option String := none
  /-- The projection, as long as one was chosen. -/
  columns : Option (List String) := none
  predicates : List Predicate := []
  limit : Option UInt32 := none
  distinct : Bool := false
  allowFiltering : Bool := false
  mutations : List Mutation := []
  /-- Options that are handed to the connection unread. -/
  options : Fields Json := ∅
  bindings : Bindings := ∅
  pageSize : Int32 := standardPageSize

namespace Query

instance : EmptyCollection Query := ⟨{}⟩

/-- The name of the table, empty as long as none is selected. -/
def tableName (q : Query) : String :=
  q.table.getD ""

def onTable (q : Query) (table : String) : Except Error Query := do
  Name.checkTable table
  return { q with table := some table }

def select (q : Query) (columns : List String) : Except Error Query := do
  columns.forM Name.checkColumn
  return { q with columns := some columns }

/-- Adds a predicate. The predicates of a query all have to hold. -/
def restrict (q : Query) (column : String) (operator : Operator) (v : Value) :
    Except Error Query := do
  Name.checkIdentifier column
  return { q with
    bindings := q.bindings.push .predicate v
    predicates := q.predicates ++ [⟨column, operator, v⟩] }

def restrictEq (q : Query) (column : String) (v : Value) : Except Error Query :=
  q.restrict column .eq v

/-- Adds a predicate with an operator given as text. -/
def restrictBy (q : Query) (column operator : String) (v : Value) : Except Error Query :=
  match Operator.ofText? operator with
  | some operator => q.restrict column operator v
  | none => .error (.unsupportedOperator operator)

/-- There is no disjunction of predicates. -/
def orRestrict (_ : Query) (column : String) : Except Error Query :=
  .error (.disjunction column)

def withDistinct (q : Query) : Query :=
  { q with distinct := true }

def withFiltering (q : Query) : Query :=
  { q with allowFiltering := true }

def withLimit (q : Query) (limit : UInt32) : Query :=
  { q with limit := some limit }

/-- Replaces all options. -/
def withOptions (q : Query) (options : Fields Json) : Query :=
  { q with options }

def withPageSize (q : Query) (size : Int32) : Query :=
  { q with pageSize := size }

/-- Binds a value that no clause of the query asks for. -/
def bind (q : Query) (kind : Bucket) (v : Value) : Query :=
  { q with bindings := q.bindings.push kind v }

def bindNamed (q : Query) (kind : String) (v : Value) : Except Error Query :=
  match Bucket.ofName? kind with
  | some kind => .ok (q.bind kind v)
  | none => .error (.unknownBucket kind)

/-- Adds a mutation of a collection column. Only a list has a front to put elements at. -/
def updateCollection (q : Query) (column : String) (operation : Option CollectionChange)
    (v : Value) : Except Error Query :=
  match v with
  | .collection c => do
    Name.checkIdentifier column
    if operation = some .prepend ∧ c.kind ≠ .list then .error (.prependTo c.kind column)
    else
      return { q with
        bindings := q.bindings.push .updateCollection v
        mutations := q.mutations ++ [⟨column, operation, c⟩] }
  | v => .error (.notACollection v.typeName)

/-- Adds a mutation that sets a collection column. -/
def replaceCollection (q : Query) (column : String) (v : Value) : Except Error Query :=
  q.updateCollection column none v

def requireTable (q : Query) : Except Error Unit :=
  if q.table.isSome then .ok () else .error .tableNotSelected

/-- Sets the projection if none was chosen. -/
def selectDefault (q : Query) (columns : List String) : Except Error Query :=
  if q.columns.isSome then .ok q else q.select columns

end Query

end Cql
