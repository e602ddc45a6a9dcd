import Cql.Model
import Cql.Query.Call
import Cql.Session

/-!
Workbenches: a session and its connection, with at most one query, page handle, cursor and model in
hand. A command works on what is in hand and gives an answer. A query or a model stays in hand when
it is used; a page handle is used up by the commands that walk it to its end. A command that fails
changes nothing in hand but a handle that it uses up.
-/

namespace Cql

/-- What a command may need in hand. -/
inductive Tool where
  | query | handle | cursor | model
  deriving DecidableEq

def Tool.text : Tool → String
  | query => "no builder"
  | handle => "no page handle"
  | cursor => "no cursor"
  | model => "no model"

inductive Fault where
  | error (e : Error)
  | missing (tool : Tool)
  deriving DecidableEq

/-- Commands that send a statement of a query. -/
inductive Operation where
  | get (columns : List String)
  | first (columns : List String)
  | openRows (columns : List String)
  | count (columns : List String)
  | paginate (size : Option Int32) (columns : List String) (state : Option PagingState)
  | insert (payload : Payload)
  | update (assignments : Cells)
  | createIndex (columns : List String)
  /-- For these four the flag says that nobody waits for the outcome. -/
  | getLater (columns : List String) (drop : Bool)
  | insertLater (payload : Payload) (drop : Bool)
  | deleteRows (drop : Bool)
  | deleteColumns (columns : List String) (drop : Bool)

inductive Command where
  /-- A query of the session, on a table. -/
  | table (name : String)
  /-- A query of the session. -/
  | query
  /-- A query without the settings of the session. -/
  | bareQuery
  | settings
  | call (call : Call)
  | bindings
  | options
  | selectStatement
  | insertStatement (payload : Payload)
  | updateStatement (assignments : Cells)
  | deleteStatement (columns : List String)
  | indexStatement (columns : List String)
  | selectText
  | insertText (rows : List Cells)
  | updateText (assignments : Cells)
  | deleteText (columns : List String)
  | indexText (columns : List String)
  | predicateText
  | run (operation : Operation)
  | nextPage
  | countAll
  | collectAll
  | intoPage
  | stream (count : Nat)
  | intoCursor
  | cursorNext
  | model (key : PrimaryKey)
  | restrictModel (id : KeyValue)
  | restrictModelNot (id : KeyValue)
  /-- Calls on the query of the model, all or none. -/
  | mapModel (calls : List Call)
  | modelQuery
  | find (id : KeyValue) (columns : List String)
  | findOrFail (id : KeyValue) (columns : List String)
  | getModels (columns : List String)
  | runModel (operation : Operation)

inductive Answer where
  | query (q : Query)
  | settings (settings : SessionSettings)
  | bindings (bindings : Bindings)
  | options (options : Fields Json)
  | statement (s : Statement)
  | text (cql : String)
  | predicates (cql filtering : String)
  | rows (rows : List Row)
  | row (row : Option Row)
  | handle (h : Handle)
  | count (n : Nat)
  | page (page : Page)
  | accepted
  | dropped
  | items (items : List (Except Error Row))
  | cursor (cursor : Cursor)
  | cursorRows (outcome : Except Error (Option (List Row))) (hasNext : Bool)
  | model (m : Model)

structure Workbench where
  session : Session
  connection : Connection
  query : Option Query := none
  handle : Option Handle := none
  cursor : Option Cursor := none
  model : Option Model := none

abbrev Work := ExceptT Fault (StateM Workbench)

namespace Work

def ofExcept {α : Type} (outcome : Except Error α) : Work α :=
  match outcome with
  | .ok a => pure a
  | .error e => throw (.error e)

/-- Runs an operation on the connection. -/
def exec {α : Type} (operation : Exec α) : Work α := do
  let w ← get
  let (outcome, connection) := operation.run w.connection
  set { w with connection }
  ofExcept outcome

def require {α : Type} (tool : Tool) (inHand : Workbench → Option α) : Work α := do
  match inHand (← get) with
  | some a => return a
  | none => throw (.missing tool)

def currentQuery : Work Query :=
  require .query Workbench.query

def currentHandle : Work Handle :=
  require .handle Workbench.handle

def currentModel : Work Model :=
  require .model Workbench.model

/-- The page handle, which is no longer in hand. -/
def takeHandle : Work Handle := do
  let h ← currentHandle
  modify fun w => { w with handle := none }
  return h

def putQuery (q : Query) : Work Answer := do
  modify fun w => { w with query := some q }
  return .query q

def putHandle (h : Handle) : Work Answer := do
  modify fun w => { w with handle := some h }
  return .handle h

def putModel (m : Model) : Work Answer := do
  modify fun w => { w with model := some m }
  return .statement m.query.selectStatement

/-- Waits for an outcome, or does not. -/
def settle (drop : Bool) (outcome : Except Error Page) : Work Answer :=
  if drop then return .dropped else return .page (← ofExcept outcome)

def operate (q : Query) : Operation → Work Answer
  | .get columns => return .rows (← exec (q.get columns))
  | .first columns => return .row (← exec (q.first columns))
  | .openRows columns => do putHandle (← exec (q.openRows columns))
  | .count columns => return .count (← exec (q.count columns))
  | .paginate size columns state => return .page (← exec (q.paginate size columns state))
  | .insert payload => do
    exec (q.insert payload)
    return .accepted
  | .update assignments => return .page (← exec (q.update assignments))
  | .createIndex columns => return .page (← exec (q.createIndex columns))
  | .getLater columns drop => do settle drop (← exec (q.getLater columns))
  | .insertLater payload drop => do settle drop (← exec (q.insertLater payload))
  | .deleteRows drop => do settle drop (← exec q.deleteRows)
  | .deleteColumns columns drop => do settle drop (← exec (q.deleteColumns columns))

/-- The next items of a stream of all rows. -/
def stream (h : Handle) (count : Nat) : Work Answer := do
  let w ← get
  let (items, connection) := (RowStream.ofHandle h).take w.connection count
  set { w with connection }
  return .items items

def cursorNext : Work Answer := do
  let cursor ← require .cursor Workbench.cursor
  let w ← get
  let ((outcome, cursor), connection) := cursor.next w.connection
  set { w with connection, cursor := some cursor }
  return .cursorRows outcome cursor.hasNext

def run : Command → Work Answer
  | .table name => do
    let w ← get
    putQuery (← ofExcept (w.session.table name))
  | .query => do
    let w ← get
    putQuery w.session.query
  | .bareQuery => putQuery ∅
  | .settings => return .settings (← get).session.settings
  | .call call => do
    let q ← currentQuery
    putQuery (← ofExcept (call.apply q))
  | .bindings => return .bindings (← currentQuery).bindings
  | .options => return .options (← currentQuery).options
  | .selectStatement => return .statement (← currentQuery).selectStatement
  | .insertStatement payload => do
    let q ← currentQuery
    return .statement (← ofExcept (q.insertStatement payload))
  | .updateStatement assignments => do
    let q ← currentQuery
    return .statement (← ofExcept (q.updateStatement assignments))
  | .deleteStatement columns => do
    let q ← currentQuery
    return .statement (← ofExcept (q.deleteStatement columns))
  | .indexStatement columns => do
    let q ← currentQuery
    return .statement (← ofExcept (q.indexStatement columns))
  | .selectText => return .text (← currentQuery).selectText
  | .insertText rows => do
    let q ← currentQuery
    return .text (q.insertText rows)
  | .updateText assignments => do
    let q ← currentQuery
    return .text (q.updateText assignments)
  | .deleteText columns => do
    let q ← currentQuery
    return .text (q.deleteText columns)
  | .indexText columns => do
    let q ← currentQuery
    return .text (q.indexText columns)
  | .predicateText => do
    let q ← currentQuery
    return .predicates q.predicateText q.filteringText
  | .run operation => do
    let q ← currentQuery
    operate q operation
  | .nextPage => do
    let h ← currentHandle
    putHandle (← exec (ExceptT.mk h.next))
  | .countAll => do
    let h ← takeHandle
    return .count (← exec h.countAll)
  | .collectAll => do
    let h ← takeHandle
    return .rows (← exec h.collectAll)
  | .intoPage => return .page (← takeHandle).page
  | .stream count => do
    let h ← takeHandle
    stream h count
  | .intoCursor => do
    let h ← takeHandle
    modify fun w => { w with cursor := some (.here h) }
    return .cursor (.here h)
  | .cursorNext => cursorNext
  | .model key => do
    let q ← currentQuery
    let m ← ofExcept (Model.ofQuery q key)
    modify fun w => { w with model := some m }
    return .model m
  | .restrictModel id => do
    let m ← currentModel
    putModel (← ofExcept (m.restrict id))
  | .restrictModelNot id => do
    let m ← currentModel
    putModel (← ofExcept (m.restrictNot id))
  | .mapModel calls => do
    let m ← currentModel
    putModel (← ofExcept (m.mapQuery fun q => Call.applyAll q calls))
  | .modelQuery => do
    let m ← currentModel
    modify fun w => { w with model := none }
    putQuery m.query
  | .find id columns => do
    let m ← currentModel
    return .row (← exec (m.find id columns))
  | .findOrFail id columns => do
    let m ← currentModel
    return .row (some (← exec (m.findOrFail id columns)))
  | .getModels columns => do
    let m ← currentModel
    return .rows (← exec (m.getAll columns))
  | .runModel operation => do
    let m ← currentModel
    operate m.query operation

end Work

namespace Workbench

/-- A workbench over a connection. Without settings the session has the standard ones. -/
def start (settings : Option SessionSettings) (script : List Reply) (deferring : Bool) :
    Except Error Workbench × List TraceEntry :=
  let connection : Connection := { script, settings := (settings.getD {}).log, deferring }
  match settings with
  | none => (.ok { session := {}, connection }, [])
  | some settings =>
    let (outcome, connection) := (Session.configure settings).run connection
    (outcome.map fun session => { session, connection }, connection.trace)

/-- The workbench before the next command, with a log that begins anew. -/
def ready (w : Workbench) : Workbench :=
  { w with connection := { w.connection with log := [] } }

/-- Runs a command. The log of the connection begins anew with each command. -/
def run (w : Workbench) (command : Command) : Except Fault Answer × Workbench :=
  ExceptT.run (Work.run command) w.ready

end Workbench

end Cql
