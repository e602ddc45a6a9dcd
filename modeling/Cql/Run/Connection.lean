import Cql.Query.Statement
import Cql.Run.Options
import Cql.Run.Trace

/-!
Connections. A connection answers each statement with the next reply of its script, and after the
last one with an empty page. It keeps one log of all that happens, in which the statements it was
sent stand between what was traced. `Exec` is the type of operations on a connection that may fail.
-/

namespace Cql

/-- The answer to a statement, and the milliseconds it took. -/
structure Reply where
  outcome : Except Error Page
  elapsed : Nat := 0

/-- A statement as handed to the store. -/
structure Sent where
  cql : String
  options : StatementOptions
  /-- Handed over without waiting for the answer. -/
  deferred : Bool

/-- What is logged about statements: how long is slow, in milliseconds, and how many characters of a
statement are shown. -/
structure LogSettings where
  slowThreshold : Nat := 1000
  previewLength : Nat := 100
  deriving DecidableEq

/-- What happens on a connection, one thing at a time. -/
inductive Occurrence where
  /-- An event is written, or a span begins. -/
  | told (entry : TraceEntry)
  /-- Of the spans that have not ended, the one that began last ends. -/
  | ended
  | handed (statement : Sent)

namespace Occurrence

def statement? : Occurrence → Option Sent
  | handed statement => some statement
  | _ => none

def entry? : Occurrence → Option TraceEntry
  | told entry => some entry
  | _ => none

end Occurrence

structure Connection where
  script : List Reply
  settings : LogSettings
  /-- The store has a way of its own to take statements without waiting. -/
  deferring : Bool := false
  /-- What happened so far. -/
  log : List Occurrence := []

abbrev Exec := ExceptT Error (StateM Connection)

namespace Connection

/-- The statements that were handed to the store. -/
def sent (c : Connection) : List Sent :=
  c.log.filterMap Occurrence.statement?

/-- The events and the beginnings of spans. -/
def trace (c : Connection) : List TraceEntry :=
  c.log.filterMap Occurrence.entry?

/-- The reply to the next statement. -/
def reply (c : Connection) : Reply :=
  c.script.head?.getD ⟨.ok ∅, 0⟩

/-- The connection after one more statement. -/
def afterSending (c : Connection) (statement : Sent) : Connection :=
  { c with script := c.script.tail, log := c.log ++ [.handed statement] }

def note (c : Connection) (entry : TraceEntry) : Connection :=
  { c with log := c.log ++ [.told entry] }

/-- The connection once the innermost span ended. -/
def leave (c : Connection) : Connection :=
  { c with log := c.log ++ [.ended] }

@[simp] theorem sent_afterSending (c : Connection) (statement : Sent) :
    (c.afterSending statement).sent = c.sent ++ [statement] :=
  List.filterMap_append

@[simp] theorem sent_note (c : Connection) (entry : TraceEntry) : (c.note entry).sent = c.sent :=
  List.filterMap_append.trans (List.append_nil _)

@[simp] theorem sent_leave (c : Connection) : c.leave.sent = c.sent :=
  List.filterMap_append.trans (List.append_nil _)

/-- The start of a statement that is shown in the trace. -/
def preview (c : Connection) (cql : String) : String :=
  String.ofList (cql.toList.take c.settings.previewLength)

/-- What the trace says about an answered statement. -/
def completion (c : Connection) (cql : String) (reply : Reply) : TraceEntry :=
  match reply.outcome with
  | .error e => .failed (c.preview cql) reply.elapsed e
  | .ok page =>
    if c.settings.slowThreshold ≤ reply.elapsed then
      .slow (c.preview cql) reply.elapsed c.settings.slowThreshold page.count
    else .completed (c.preview cql) reply.elapsed page.count

/-- Sends a statement, waits for the reply, and traces both in a span of their own. -/
def execute (c : Connection) (cql : String) (options : StatementOptions) :
    Except Error Page × Connection :=
  let before := c.note <|
    .execute (c.preview cql) options.arguments.length options.pagingState.isSome
  let after := (before.afterSending ⟨cql, options, false⟩).note (c.completion cql c.reply)
  (c.reply.outcome, after.leave)

@[simp] theorem sent_execute (c : Connection) (cql : String) (options : StatementOptions) :
    (c.execute cql options).2.sent = c.sent ++ [⟨cql, options, false⟩] := by
  simp [execute]

/-- Hands a statement over. It runs at once; its outcome is for whoever asks. -/
def dispatch (c : Connection) (cql : String) (options : StatementOptions) :
    Except Error Page × Connection :=
  let before := c.note (.dispatched (c.preview cql) options.arguments.length)
  (c.reply.outcome, before.afterSending ⟨cql, options, c.deferring⟩)

@[simp] theorem sent_dispatch (c : Connection) (cql : String) (options : StatementOptions) :
    (c.dispatch cql options).2.sent = c.sent ++ [⟨cql, options, c.deferring⟩] := by
  simp [dispatch]

end Connection

namespace Exec

def trace (entry : TraceEntry) : Exec Unit :=
  modify fun c => c.note entry

/-- Runs an operation inside a span, which ends with it even where it fails. -/
def within {α : Type} (span : TraceEntry) (x : Exec α) : Exec α :=
  ExceptT.mk fun c =>
    let (outcome, c) := x.run (c.note span)
    (outcome, c.leave)

/-- Runs a statement and returns its first page. -/
def execute (cql : String) (options : StatementOptions) : Exec Page :=
  ExceptT.mk fun c => c.execute cql options

/-- Hands over a statement and returns what will come of it. -/
def dispatch (cql : String) (options : StatementOptions) : Exec (Except Error Page) :=
  ExceptT.mk fun c =>
    let (outcome, c) := c.dispatch cql options
    (.ok outcome, c)

end Exec

end Cql
