import Cql.Key
import Cql.Run.Query

/-!
Models: a query on a table together with the primary key of that table, by which rows are found.
-/

namespace Cql

structure Model where
  query : Query
  key : PrimaryKey

namespace Model

def ofQuery (q : Query) (key : PrimaryKey) : Except Error Model := do
  key.validate
  return ⟨q, key⟩

/-- Ties the query to the rows with the given key value. -/
def restrict (m : Model) (id : KeyValue) : Except Error Model := do
  return { m with query := ← m.key.restrict m.query id }

/-- There is no negation of a key. -/
def restrictNot (_ : Model) (_ : KeyValue) : Except Error Model :=
  .error .negatedKey

def mapQuery (m : Model) (f : Query → Except Error Query) : Except Error Model := do
  return { m with query := ← f m.query }

/-- The row with the given key value, if there is one. -/
def find (m : Model) (id : KeyValue) (columns : List String) : Exec (Option Row) := do
  let m ← Exec.ofExcept (m.restrict id)
  m.query.first columns

/-- The row with the given key value, which has to exist. -/
def findOrFail (m : Model) (id : KeyValue) (columns : List String) : Exec Row := do
  match ← m.find id columns with
  | some row => return row
  | none => throw (.rowMissing m.query.tableName id.describe)

/-- The rows of all pages. -/
def getAll (m : Model) (columns : List String) : Exec (List Row) := do
  let h ← m.query.openRows columns
  let rows ← h.collectAll
  Exec.trace (.loaded rows.length)
  return rows

end Model

end Cql
