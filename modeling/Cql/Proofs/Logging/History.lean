import Mathlib.Data.List.Basic
import Cql.Run.Connection

/-!
What a connection goes through, as a history: statements, events, and spans with what happens inside
them. A statement that somebody waits for begins a span of its own, is handed over, and ends with
one event inside that span; one that nobody waits for is told of before it is handed over. A history
comes out in the log as a list of occurrences, from which it can be told in what order things went.
-/

namespace Cql

/-- A statement that went over a connection, and the reply it took. -/
structure Passage where
  cql : String
  options : StatementOptions
  /-- Somebody waits for the reply. -/
  awaited : Bool
  reply : Reply

/-- The texts of what is traced about statements. -/
def statementTexts : List String :=
  ["execute", "Statement failed", "Slow statement detected", "Statement completed",
    "Dispatching asynchronous statement"]

def TraceRecord.onStatement (r : TraceRecord) : Bool :=
  statementTexts.contains r.text

theorem TraceRecord.onStatement_of_mem {r : TraceRecord} (h : r.text ∈ statementTexts) :
    r.onStatement = true :=
  List.contains_iff_mem.mpr h

def TraceEntry.isSpan (entry : TraceEntry) : Bool :=
  entry.record.level.isNone

namespace Occurrence

/-- The spans that have not ended, the innermost first, after one more thing happened. -/
def spans (begun : List TraceEntry) : Occurrence → List TraceEntry
  | told entry => if entry.isSpan then entry :: begun else begun
  | ended => begun.tail
  | handed _ => begun

end Occurrence

/-- The spans of a log that have not ended, the innermost first. -/
def openSpans (log : List Occurrence) : List TraceEntry :=
  log.foldl Occurrence.spans []

namespace Passage

variable (settings : LogSettings) (deferring : Bool)

/-- The first characters of the statement, or all of them if it is short. -/
def preview (p : Passage) : String :=
  String.ofList (p.cql.toList.take (min settings.previewLength p.cql.length))

/-- The statement as it is handed to the store. -/
def sent (p : Passage) : Sent :=
  ⟨p.cql, p.options, !p.awaited && deferring⟩

/-- The event at the end of a statement that somebody waits for. -/
def ending (p : Passage) : TraceEntry :=
  match p.reply.outcome with
  | .error e => .failed (p.preview settings) p.reply.elapsed e
  | .ok page =>
    if settings.slowThreshold ≤ p.reply.elapsed then
      .slow (p.preview settings) p.reply.elapsed settings.slowThreshold page.rows.length
    else .completed (p.preview settings) p.reply.elapsed page.rows.length

/-- What happens with the statement, in this order and with nothing in between. -/
def occurrences (p : Passage) : List Occurrence :=
  let arguments := p.options.arguments.length
  if p.awaited then
    [.told (.execute (p.preview settings) arguments p.options.pagingState.isSome),
      .handed (p.sent deferring), .told (p.ending settings), .ended]
  else [.told (.dispatched (p.preview settings) arguments), .handed (p.sent deferring)]

/-- What is written at the end. -/
def endingRecord (p : Passage) : TraceRecord :=
  let elapsed := ("elapsed_ms", p.reply.elapsed.repr)
  match p.reply.outcome with
  | .error e =>
    ⟨some .warn, "Statement failed", [("cql", p.preview settings), elapsed, ("error", e.display)]⟩
  | .ok page =>
    if settings.slowThreshold ≤ p.reply.elapsed then
      ⟨some .warn, "Slow statement detected", [("cql", p.preview settings), elapsed,
        ("threshold_ms", settings.slowThreshold.repr), ("rows", page.rows.length.repr)]⟩
    else
      ⟨some .debug, "Statement completed",
        [("cql", p.preview settings), elapsed, ("rows", page.rows.length.repr)]⟩

/-- What is written about the statement. -/
def records (p : Passage) : List TraceRecord :=
  let arguments := p.options.arguments.length.repr
  if p.awaited then
    [⟨none, "execute", [("cql_preview", p.preview settings), ("arguments", arguments),
      ("paged", if p.options.pagingState.isSome then "true" else "false")]⟩,
      p.endingRecord settings]
  else
    [⟨some .debug, "Dispatching asynchronous statement",
      [("cql", p.preview settings), ("arguments", arguments)]⟩]

theorem preview_eq (p : Passage) (c : Connection) : p.preview c.settings = c.preview p.cql := by
  rw [preview, Connection.preview, ← String.length_toList]
  exact congrArg _ (List.take_eq_take_iff.mpr (by simp))

theorem statement?_occurrences (p : Passage) :
    (p.occurrences settings deferring).filterMap Occurrence.statement? = [p.sent deferring] := by
  unfold occurrences
  split <;> rfl

theorem record_ending (p : Passage) : (p.ending settings).record = p.endingRecord settings := by
  unfold ending endingRecord
  cases p.reply.outcome with
  | error e => rfl
  | ok page =>
    simp only
    split <;> rfl

/-- What is told of a statement is written like this. -/
theorem record_occurrences (p : Passage) :
    ((p.occurrences settings deferring).filterMap Occurrence.entry?).map TraceEntry.record =
      p.records settings := by
  unfold occurrences records
  split
  · rw [← record_ending]
    rfl
  · rfl

theorem isSpan_ending (p : Passage) : (p.ending settings).isSpan = false := by
  rw [TraceEntry.isSpan, record_ending]
  unfold endingRecord
  cases p.reply.outcome with
  | error e => rfl
  | ok page =>
    simp only
    split <;> rfl

/-- The span of a statement ends with it. -/
theorem spans_occurrences (p : Passage) (begun : List TraceEntry) :
    (p.occurrences settings deferring).foldl Occurrence.spans begun = begun := by
  unfold occurrences
  split
  · simp only [List.foldl_cons, List.foldl_nil, Occurrence.spans, isSpan_ending]
    rfl
  · rfl

theorem onStatement_endingRecord (p : Passage) :
    (p.endingRecord settings).onStatement = true := by
  unfold endingRecord
  cases p.reply.outcome with
  | error e => exact TraceRecord.onStatement_of_mem (by simp [statementTexts])
  | ok page =>
    simp only
    split <;> exact TraceRecord.onStatement_of_mem (by simp [statementTexts])

theorem onStatement_records {p : Passage} {r : TraceRecord} (hr : r ∈ p.records settings) :
    r.onStatement = true := by
  unfold records at hr
  split at hr
  · rcases List.mem_pair.mp hr with rfl | rfl
    · exact TraceRecord.onStatement_of_mem (by simp [statementTexts])
    · exact p.onStatement_endingRecord settings
  · obtain rfl := List.mem_singleton.mp hr
    exact TraceRecord.onStatement_of_mem (by simp [statementTexts])

end Passage

/-- What a connection went through, one thing after another. -/
inductive History where
  | nil
  | statement (p : Passage) (rest : History)
  /-- Something else that was worth telling. -/
  | event (entry : TraceEntry) (rest : History)
  /-- A span that is not that of a statement. -/
  | span (entry : TraceEntry) (inside rest : History)

namespace History

def append : History → History → History
  | nil, more => more
  | statement p rest, more => statement p (rest.append more)
  | event entry rest, more => event entry (rest.append more)
  | span entry inside rest, more => span entry inside (rest.append more)

/-- The statements, in their order. -/
def passages : History → List Passage
  | nil => []
  | statement p rest => p :: rest.passages
  | event _ rest => rest.passages
  | span _ inside rest => inside.passages ++ rest.passages

/-- What stands in the log. -/
def occurrences (settings : LogSettings) (deferring : Bool) : History → List Occurrence
  | nil => []
  | statement p rest => p.occurrences settings deferring ++ rest.occurrences settings deferring
  | event entry rest => .told entry :: rest.occurrences settings deferring
  | span entry inside rest =>
    .told entry :: inside.occurrences settings deferring ++
      .ended :: rest.occurrences settings deferring

/-- What is written to the trace. -/
def records (settings : LogSettings) : History → List TraceRecord
  | nil => []
  | statement p rest => p.records settings ++ rest.records settings
  | event entry rest => entry.record :: rest.records settings
  | span entry inside rest => entry.record :: inside.records settings ++ rest.records settings

variable (settings : LogSettings) (deferring : Bool) (history : History)

theorem passages_append (first second : History) :
    (first.append second).passages = first.passages ++ second.passages := by
  induction first with
  | nil => rfl
  | statement p rest ih => exact congrArg (p :: ·) ih
  | event entry rest ih => exact ih
  | span entry inside rest _ ih => rw [append, passages, passages, ih, List.append_assoc]

theorem statement?_occurrences :
    (history.occurrences settings deferring).filterMap Occurrence.statement? =
      history.passages.map (Passage.sent deferring) := by
  induction history with
  | nil => rfl
  | statement p rest ih =>
    rw [occurrences, List.filterMap_append, p.statement?_occurrences, ih]
    rfl
  | event entry rest ih => exact ih
  | span entry inside rest hinside hrest =>
    rw [occurrences, passages, List.map_append, ← hinside, ← hrest, List.cons_append,
      List.filterMap_cons_none rfl, List.filterMap_append, List.filterMap_cons_none rfl]

theorem record_occurrences :
    ((history.occurrences settings deferring).filterMap Occurrence.entry?).map TraceEntry.record =
      history.records settings := by
  induction history with
  | nil => rfl
  | statement p rest ih =>
    rw [occurrences, List.filterMap_append, List.map_append, p.record_occurrences, ih]
    rfl
  | event entry rest ih => exact congrArg (entry.record :: ·) ih
  | span entry inside rest hinside hrest =>
    have htold : Occurrence.entry? (.told entry) = some entry := rfl
    rw [occurrences, records, ← hinside, ← hrest, List.cons_append,
      List.filterMap_cons_some htold, List.filterMap_append, List.filterMap_cons_none rfl,
      List.map_cons, List.map_append]
    rfl

/-- The occurrences of each statement stand together, behind those of the statements before it. -/
theorem occurrences_split {k : Nat} {p : Passage} (hp : history.passages[k]? = some p) :
    ∃ before after, history.occurrences settings deferring =
        before ++ p.occurrences settings deferring ++ after ∧
      (before.filterMap Occurrence.statement?).length = k := by
  induction history generalizing k with
  | nil => cases hp
  | statement first rest ih =>
    cases k with
    | zero =>
      obtain rfl : first = p := Option.some.inj hp
      exact ⟨[], rest.occurrences settings deferring, rfl, rfl⟩
    | succ k =>
      obtain ⟨before, after, hsplit, hlength⟩ := ih hp
      refine ⟨first.occurrences settings deferring ++ before, after, ?_, ?_⟩
      · rw [occurrences, hsplit]
        simp only [List.append_assoc]
      · rw [List.filterMap_append, List.length_append, first.statement?_occurrences, hlength,
          List.length_singleton, Nat.add_comm]
  | event entry rest ih =>
    obtain ⟨before, after, hsplit, hlength⟩ := ih hp
    refine ⟨.told entry :: before, after, ?_, hlength⟩
    rw [occurrences, hsplit]
    rfl
  | span entry inside rest hinside hrest =>
    rw [passages] at hp
    by_cases hk : k < inside.passages.length
    · rw [List.getElem?_append_left hk] at hp
      obtain ⟨before, after, hsplit, hlength⟩ := hinside hp
      refine ⟨.told entry :: before, after ++ .ended :: rest.occurrences settings deferring, ?_,
        hlength⟩
      rw [occurrences, hsplit]
      simp only [List.cons_append, List.append_assoc]
    · rw [List.getElem?_append_right (Nat.le_of_not_lt hk)] at hp
      obtain ⟨before, after, hsplit, hlength⟩ := hrest hp
      refine ⟨.told entry :: inside.occurrences settings deferring ++ .ended :: before, after,
        ?_, ?_⟩
      · rw [occurrences, hsplit]
        simp only [List.cons_append, List.append_assoc]
      · rw [List.cons_append, List.filterMap_cons_none rfl, List.filterMap_append,
          List.filterMap_cons_none rfl, List.length_append, inside.statement?_occurrences,
          List.length_map, hlength]
        omega

end History

end Cql
