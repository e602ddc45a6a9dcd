import Cql.Run.Stream

/-!
The operations that send the statement of a query. Each one first checks the query and builds the
statement, and only then sends it; so a query that is refused sends nothing.
-/

namespace Cql

def Exec.ofExcept {α : Type} (outcome : Except Error α) : Exec α :=
  ExceptT.mk fun c => (outcome, c)

namespace Query

/-- The query with a projection, provided that it has a table. -/
def ready (q : Query) (columns : List String) : Except Error Query := do
  q.requireTable
  q.selectDefault columns

/-- The options of a statement with the given arguments. -/
def statementOptions (q : Query) (arguments : List Value) : StatementOptions :=
  { arguments, extra := q.options }

/-- Sends a statement of the query and waits for its first page. -/
def send (q : Query) (s : Statement) : Exec Page :=
  Exec.execute s.cql (q.statementOptions s.arguments)

/-- Hands over a statement of the query. -/
def dispatch (q : Query) (s : Statement) : Exec (Except Error Page) :=
  Exec.dispatch s.cql (q.statementOptions s.arguments)

/-- The first page, as a handle that reaches the later ones. -/
def openRows (q : Query) (columns : List String) : Exec Handle := do
  let q ← Exec.ofExcept (q.ready columns)
  let s := q.selectStatement
  let page ← q.send s
  return ⟨s.cql, q.statementOptions s.arguments, page⟩

/-- The rows of the first page. -/
def get (q : Query) (columns : List String) : Exec (List Row) := do
  let h ← q.openRows columns
  return h.page.rows

/-- The first row of the first page, where at most one row is asked for. -/
def first (q : Query) (columns : List String) : Exec (Option Row) := do
  let rows ← (q.withLimit 1).get columns
  return rows.head?

/-- The number of rows on all pages, each of which is fetched. -/
def count (q : Query) (columns : List String) : Exec Nat :=
  Exec.within (.count q.tableName) do
    Exec.trace <|
      if q.predicates.isEmpty then .countingTable q.tableName else .countingMatches q.tableName
    let h ← q.openRows columns
    h.countAll

/-- One page of at most `size` rows, or of as many as the query says. -/
def paginate (q : Query) (size : Option Int32) (columns : List String)
    (state : Option PagingState) : Exec Page := do
  let q ← Exec.ofExcept (q.ready columns)
  let size := size.getD q.pageSize
  if size ≤ 0 then throw (.pageSizeNotPositive size.toInt)
  let s := q.selectStatement
  Exec.execute s.cql
    { q.statementOptions s.arguments with pageSize := some size, pagingState := state }

/-- Inserts rows. There is nothing to send for an empty payload. -/
def insert (q : Query) (payload : Payload) : Exec Unit := do
  if payload.isEmpty then Exec.trace (.emptyInsert q.tableName)
  else
    Exec.ofExcept q.requireTable
    let s ← Exec.ofExcept (q.insertStatement payload)
    discard (q.send s)

def update (q : Query) (assignments : Cells) : Exec Page := do
  Exec.ofExcept q.requireTable
  let s ← Exec.ofExcept (q.updateStatement assignments)
  q.send s

def createIndex (q : Query) (columns : List String) : Exec Page := do
  Exec.ofExcept q.requireTable
  let s ← Exec.ofExcept (q.indexStatement columns)
  q.send s

/-- Hands over the select; the result is what will come of it. -/
def getLater (q : Query) (columns : List String) : Exec (Except Error Page) := do
  let q ← Exec.ofExcept (q.ready columns)
  q.dispatch q.selectStatement

/-- Hands over an insert. An empty payload comes to an empty page. -/
def insertLater (q : Query) (payload : Payload) : Exec (Except Error Page) := do
  if payload.isEmpty then
    Exec.trace (.emptyInsert q.tableName)
    return .ok ∅
  else
    Exec.ofExcept q.requireTable
    let s ← Exec.ofExcept (q.insertStatement payload)
    q.dispatch s

/-- Hands over a delete of the given columns, or of whole rows if there are none. -/
def deleteLater (q : Query) (columns : List String) : Exec (Except Error Page) := do
  Exec.ofExcept q.requireTable
  let s ← Exec.ofExcept (q.deleteStatement columns)
  q.dispatch s

def deleteRows (q : Query) : Exec (Except Error Page) :=
  q.deleteLater []

def deleteColumns (q : Query) (columns : List String) : Exec (Except Error Page) :=
  if columns.isEmpty then throw .emptyColumnDelete else q.deleteLater columns

end Query

end Cql
