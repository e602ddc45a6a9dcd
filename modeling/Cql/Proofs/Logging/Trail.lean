import Cql.Proofs.Logging.History

/-!
Trails. A connection leaves a history behind if each statement of it takes the next reply, and if
whatever else is told is not about statements. What the history says then is what the log says, so
the statements that were handed over and the trace can be held against each other in one order.
-/

namespace Cql

/-- The connection after a statement went over it. -/
def Connection.passed (c : Connection) (p : Passage) : Connection :=
  { c with
    script := c.script.tail
    log := c.log ++ p.occurrences c.settings c.deferring }

/-- A connection goes through all this. -/
inductive Trail : Connection → History → Connection → Prop
  | nil (c : Connection) : Trail c .nil c
  | statement {c d : Connection} {p : Passage} {rest : History} (hreply : p.reply = c.reply)
      (h : Trail (c.passed p) rest d) : Trail c (.statement p rest) d
  | event {c d : Connection} {entry : TraceEntry} {rest : History}
      (hevent : entry.isSpan = false) (hother : entry.record.onStatement = false)
      (h : Trail (c.note entry) rest d) : Trail c (.event entry rest) d
  | span {c m d : Connection} {entry : TraceEntry} {inside rest : History}
      (hspan : entry.isSpan = true) (hother : entry.record.onStatement = false)
      (hinside : Trail (c.note entry) inside m) (h : Trail m.leave rest d) :
    Trail c (.span entry inside rest) d

namespace Trail

variable {c d e : Connection} {history more : History}

theorem append (hfirst : Trail c history d) (hsecond : Trail d more e) :
    Trail c (history.append more) e := by
  induction hfirst with
  | nil c => exact hsecond
  | statement hreply _ ih => exact .statement hreply (ih hsecond)
  | event hevent hother _ ih => exact .event hevent hother (ih hsecond)
  | span hspan hother hinside _ _ ih => exact .span hspan hother hinside (ih hsecond)

theorem settings_eq (h : Trail c history d) :
    d.settings = c.settings ∧ d.deferring = c.deferring := by
  induction h with
  | nil c => exact ⟨rfl, rfl⟩
  | statement _ _ ih => exact ih
  | event _ _ _ ih => exact ih
  | span _ _ _ _ hinside hrest =>
    exact ⟨hrest.1.trans hinside.1, hrest.2.trans hinside.2⟩

/-- The log goes on with the history, and with nothing else. -/
theorem log_eq (h : Trail c history d) :
    d.log = c.log ++ history.occurrences c.settings c.deferring := by
  induction h with
  | nil c => exact (List.append_nil _).symm
  | statement _ _ ih => exact ih.trans (List.append_assoc ..)
  | event _ _ _ ih => exact ih.trans (List.append_assoc ..)
  | @span c m d entry inside rest _ _ hm _ hinside hrest =>
    obtain ⟨hsettings, hdeferring⟩ := hm.settings_eq
    have hleave : m.leave.log = m.log ++ [.ended] := rfl
    have hnote : (c.note entry).log = c.log ++ [.told entry] := rfl
    have hsettings' : m.leave.settings = c.settings := hsettings
    have hdeferring' : m.leave.deferring = c.deferring := hdeferring
    rw [hrest, hleave, hinside, hnote, hsettings', hdeferring', History.occurrences]
    simp only [List.append_assoc, List.cons_append, List.nil_append]
    rfl

theorem script_eq (h : Trail c history d) :
    d.script = c.script.drop history.passages.length := by
  induction h with
  | nil c => rfl
  | @statement c d p rest _ _ ih =>
    have hpassed : (c.passed p).script = c.script.drop 1 := List.drop_one.symm
    rw [ih, hpassed, List.drop_drop, Nat.add_comm]
    rfl
  | event _ _ _ ih => exact ih
  | @span c m d entry inside rest _ _ _ _ hinside hrest =>
    have hleave : m.leave.script = m.script := rfl
    rw [hrest, hleave, hinside, List.drop_drop, History.passages, List.length_append]
    rfl

/-- Statements take the replies one after another. -/
theorem reply_eq (h : Trail c history d) {k : Nat} {p : Passage}
    (hp : history.passages[k]? = some p) : p.reply = c.script[k]?.getD ⟨.ok ∅, 0⟩ := by
  induction h generalizing k with
  | nil c => cases hp
  | @statement c d first rest hreply _ ih =>
    cases k with
    | zero =>
      obtain rfl : first = p := Option.some.inj hp
      rw [hreply, Connection.reply, List.head?_eq_getElem?]
    | succ k =>
      have hrest := ih hp
      have hpassed : (c.passed first).script = c.script.tail := rfl
      rwa [hpassed, List.getElem?_tail] at hrest
  | event _ _ _ ih => exact ih hp
  | @span c m d entry inside rest _ _ hm _ hinside hrest =>
    rw [History.passages] at hp
    by_cases hk : k < inside.passages.length
    · rw [List.getElem?_append_left hk] at hp
      exact hinside hp
    · rw [List.getElem?_append_right (Nat.le_of_not_lt hk)] at hp
      have hreply := hrest hp
      have hleave : m.leave.script = c.script.drop inside.passages.length := hm.script_eq
      rwa [hleave, List.getElem?_drop, Nat.add_sub_cancel' (Nat.le_of_not_lt hk)] at hreply

theorem sent_eq (h : Trail c history d) :
    d.sent = c.sent ++ history.passages.map (Passage.sent c.deferring) := by
  rw [Connection.sent, h.log_eq, List.filterMap_append, History.statement?_occurrences]
  rfl

theorem trace_eq (h : Trail c history d) :
    d.trace.map TraceEntry.record =
      c.trace.map TraceEntry.record ++ history.records c.settings := by
  rw [Connection.trace, h.log_eq, List.filterMap_append, List.map_append,
    History.record_occurrences]
  rfl

/-- Every span of the history ends in it, and it ends no other span. -/
theorem spans_occurrences (h : Trail c history d) (settings : LogSettings) (deferring : Bool)
    (begun : List TraceEntry) :
    (history.occurrences settings deferring).foldl Occurrence.spans begun = begun := by
  induction h generalizing begun with
  | nil c => rfl
  | @statement c d p rest _ _ ih =>
    rw [History.occurrences, List.foldl_append, p.spans_occurrences, ih]
  | @event c d entry rest hevent _ _ ih =>
    have htold : Occurrence.spans begun (.told entry) = begun := by
      rw [Occurrence.spans, hevent]
      rfl
    rw [History.occurrences, List.foldl_cons, htold, ih]
  | @span c m d entry inside rest hspan _ _ _ hinside hrest =>
    have htold : Occurrence.spans begun (.told entry) = entry :: begun := by
      rw [Occurrence.spans, hspan]
      rfl
    have hended : Occurrence.spans (entry :: begun) .ended = begun := rfl
    rw [History.occurrences, List.cons_append, List.foldl_cons, htold, List.foldl_append, hinside,
      List.foldl_cons, hended, hrest]

theorem openSpans_eq (h : Trail c history d) : openSpans d.log = openSpans c.log := by
  rw [openSpans, h.log_eq, List.foldl_append, h.spans_occurrences]
  rfl

/-- Whatever in the trace looks like a statement is what is told of the statements. -/
theorem filter_records (h : Trail c history d) (settings : LogSettings) :
    (history.records settings).filter TraceRecord.onStatement =
      history.passages.flatMap (Passage.records settings) := by
  induction h with
  | nil c => rfl
  | @statement c d p rest _ _ ih =>
    have hall : (p.records settings).filter TraceRecord.onStatement = p.records settings :=
      List.filter_eq_self.mpr fun r => p.onStatement_records settings
    rw [History.records, List.filter_append, ih, hall]
    rfl
  | @event c d entry rest _ hother _ ih =>
    rw [History.records, List.filter_cons_of_neg (by simp [hother]), ih]
    rfl
  | @span c m d entry inside rest _ hother _ _ hinside hrest =>
    rw [History.records, List.cons_append, List.filter_cons_of_neg (by simp [hother]),
      List.filter_append, hinside, hrest, History.passages, List.flatMap_append]

end Trail

end Cql
