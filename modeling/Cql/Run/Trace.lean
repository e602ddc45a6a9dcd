import Cql.Error

/-!
What is traced: spans, which begin a piece of work, and events inside it. `TraceEntry.record` gives
the level, the message and the fields under which an entry is written.
-/

namespace Cql

inductive TraceEntry where
  /-- A session is configured. -/
  | configure (pageSize : Int) (slowThreshold : Nat)
  | sessionReady
  /-- A statement runs. -/
  | execute (preview : String) (arguments : Nat) (paged : Bool)
  | completed (preview : String) (elapsed rows : Nat)
  | slow (preview : String) (elapsed threshold rows : Nat)
  | failed (preview : String) (elapsed : Nat) (error : Error)
  /-- A statement is handed over without waiting. -/
  | dispatched (preview : String) (arguments : Nat)
  | emptyInsert (table : String)
  /-- The rows of a query are counted. -/
  | count (table : String)
  | countingTable (table : String)
  | countingMatches (table : String)
  | counted (pages rows : Nat)
  | loaded (rows : Nat)

inductive TraceLevel where
  | debug | info | warn
  deriving DecidableEq

def TraceLevel.label : TraceLevel → String
  | debug => "DEBUG"
  | info => "INFO"
  | warn => "WARN"

/-- An entry as written: a span has no level. -/
structure TraceRecord where
  level : Option TraceLevel
  text : String
  fields : List (String × String)

namespace TraceEntry

def span (name : String) (fields : List (String × String)) : TraceRecord :=
  ⟨none, name, fields⟩

def event (level : TraceLevel) (text : String) (fields : List (String × String)) : TraceRecord :=
  ⟨some level, text, fields⟩

def record : TraceEntry → TraceRecord
  | configure pageSize slowThreshold =>
    span "with_config" [("default_page_size", pageSize.repr),
      ("slow_query_threshold_ms", slowThreshold.repr)]
  | sessionReady => event .info "Session initialized" []
  | execute preview arguments paged =>
    span "execute" [("cql_preview", preview), ("arguments", arguments.repr),
      ("paged", if paged then "true" else "false")]
  | completed preview elapsed rows =>
    event .debug "Statement completed"
      [("cql", preview), ("elapsed_ms", elapsed.repr), ("rows", rows.repr)]
  | slow preview elapsed threshold rows =>
    event .warn "Slow statement detected"
      [("cql", preview), ("elapsed_ms", elapsed.repr), ("threshold_ms", threshold.repr),
        ("rows", rows.repr)]
  | failed preview elapsed error =>
    event .warn "Statement failed"
      [("cql", preview), ("elapsed_ms", elapsed.repr), ("error", error.display)]
  | dispatched preview arguments =>
    event .debug "Dispatching asynchronous statement"
      [("cql", preview), ("arguments", arguments.repr)]
  | emptyInsert table => event .debug "Empty insert skipped" [("table", table)]
  | count table => span "count" [("table", table)]
  | countingTable table =>
    event .warn "Counting rows without predicates scans the whole table" [("table", table)]
  | countingMatches table => event .debug "Counting rows page by page" [("table", table)]
  | counted pages rows =>
    event .debug "Counted rows across pages" [("pages", pages.repr), ("rows", rows.repr)]
  | loaded rows => event .debug "Loaded rows across all pages" [("rows", rows.repr)]

end TraceEntry

end Cql
