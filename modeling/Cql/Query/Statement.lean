import Cql.Query.Insert

/-!
Statements: a text and the arguments for its question marks, from a query and the payload of the
operation.
-/

namespace Cql

structure Statement where
  cql : String
  arguments : List Value

namespace Query

/-- Queued mutations of collections belong to updates and are left out. -/
def selectStatement (q : Query) : Statement :=
  ⟨q.selectText, q.bindings.flattenExcept [.updateCollection]⟩

def insertStatement (q : Query) (payload : Payload) : Except Error Statement := do
  let rows ← payload.rows?
  return ⟨q.insertText rows, rows.flatten.map Prod.snd⟩

def updateStatement (q : Query) (assignments : Cells) : Except Error Statement :=
  if assignments.isEmpty && q.mutations.isEmpty then .error .emptyUpdate
  else do
    assignments.forM fun a => Name.checkIdentifier a.1
    return ⟨q.updateText assignments, q.bindings.updateArguments (assignments.map Prod.snd)⟩

/-- Without columns the whole row is deleted. -/
def deleteStatement (q : Query) (columns : List String) : Except Error Statement := do
  columns.forM Name.checkIdentifier
  return ⟨q.deleteText columns, q.bindings.flattenExcept [.updateCollection]⟩

def indexStatement (q : Query) (columns : List String) : Except Error Statement :=
  if columns.isEmpty then .error .emptyIndex
  else do
    columns.forM Name.checkIdentifier
    return ⟨q.indexText columns, []⟩

end Query

end Cql
