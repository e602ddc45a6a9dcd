import Cql.Proofs.Logging.Trail
import Cql.Proofs.Runs

/-!
Every statement of a run is told of exactly once. Each step on a connection leaves a trail, so every
operation, every walk and every action of a client does, and with them a whole run.
-/

namespace Cql

variable {awaited : Bool}

namespace Connection

variable {c d e : Connection}

/-- The connection leaves a trail, on which all statements are awaited or none is. -/
def Traced (awaited : Bool) (c d : Connection) : Prop :=
  ∃ history, Trail c history d ∧ ∀ p ∈ history.passages, p.awaited = awaited

theorem traced_refl (c : Connection) : Traced awaited c c :=
  ⟨.nil, .nil c, List.forall_mem_nil _⟩

theorem Traced.trans (hfirst : Traced awaited c d) (hsecond : Traced awaited d e) :
    Traced awaited c e := by
  obtain ⟨first, htrail, hfirst⟩ := hfirst
  obtain ⟨second, htrail', hsecond⟩ := hsecond
  refine ⟨first.append second, htrail.append htrail', fun p hp => ?_⟩
  rw [History.passages_append, List.mem_append] at hp
  exact hp.elim (hfirst p) (hsecond p)

theorem traced_note {entry : TraceEntry} (hevent : entry.isSpan = false)
    (hother : entry.record.onStatement = false) (c : Connection) :
    Traced awaited c (c.note entry) :=
  ⟨.event entry .nil, .event hevent hother (.nil _), List.forall_mem_nil _⟩

theorem traced_within {entry : TraceEntry} (hspan : entry.isSpan = true)
    (hother : entry.record.onStatement = false) (h : Traced awaited (c.note entry) d) :
    Traced awaited c d.leave := by
  obtain ⟨inside, htrail, hinside⟩ := h
  refine ⟨.span entry inside .nil, .span hspan hother htrail (.nil _), fun p hp => ?_⟩
  rw [History.passages, History.passages, List.append_nil] at hp
  exact hinside p hp

theorem traced_execute (c : Connection) (cql : String) (options : StatementOptions) :
    Traced true c (c.execute cql options).2 := by
  let p : Passage := ⟨cql, options, true, c.reply⟩
  have hending : p.ending c.settings = c.completion cql c.reply := by
    rw [Passage.ending, p.preview_eq]
    rfl
  have hpassed : c.passed p = (c.execute cql options).2 := by
    simp only [Connection.passed, Passage.occurrences, hending, p.preview_eq, execute, note,
      afterSending, leave, List.append_assoc]
    rfl
  rw [← hpassed]
  exact ⟨.statement p .nil, .statement rfl (.nil _), List.forall_mem_singleton.mpr rfl⟩

theorem traced_dispatch (c : Connection) (cql : String) (options : StatementOptions) :
    Traced false c (c.dispatch cql options).2 := by
  let p : Passage := ⟨cql, options, false, c.reply⟩
  have hpassed : c.passed p = (c.dispatch cql options).2 := by
    simp only [Connection.passed, Passage.occurrences, p.preview_eq, dispatch, note,
      afterSending, List.append_assoc]
    rfl
  rw [← hpassed]
  exact ⟨.statement p .nil, .statement rfl (.nil _), List.forall_mem_singleton.mpr rfl⟩

end Connection

namespace Exec

variable {α β : Type} {x : Exec α} {f : α → Exec β}

/-- The operation leaves a trail wherever it runs. -/
def Traced (awaited : Bool) (x : Exec α) : Prop :=
  ∀ c, Connection.Traced awaited c (x.run c).2

theorem traced_pure (a : α) : (pure a : Exec α).Traced awaited :=
  fun c => c.traced_refl

theorem traced_throw (e : Error) : (throw e : Exec α).Traced awaited :=
  fun c => c.traced_refl

theorem traced_ofExcept (outcome : Except Error α) : (ofExcept outcome).Traced awaited :=
  fun c => c.traced_refl

theorem traced_trace {entry : TraceEntry} (hevent : entry.isSpan = false)
    (hother : entry.record.onStatement = false) : (trace entry).Traced awaited :=
  Connection.traced_note hevent hother

theorem traced_within {entry : TraceEntry} (hspan : entry.isSpan = true)
    (hother : entry.record.onStatement = false) (hx : x.Traced awaited) :
    (within entry x).Traced awaited :=
  fun c => Connection.traced_within hspan hother (hx (c.note entry))

theorem traced_execute (cql : String) (options : StatementOptions) :
    (execute cql options).Traced true :=
  fun c => c.traced_execute cql options

theorem traced_bind (hx : x.Traced awaited) (hf : ∀ a, (f a).Traced awaited) :
    (x >>= f).Traced awaited := by
  intro c
  have hfirst := hx c
  rw [run_bind]
  split
  · rename_i a later hrun
    rw [hrun] at hfirst
    exact hfirst.trans (hf a later)
  · rename_i e later hrun
    rw [hrun] at hfirst
    exact hfirst

theorem traced_discard (hx : x.Traced awaited) : (discard x).Traced awaited :=
  traced_bind hx fun _ => traced_pure _

end Exec

namespace Handle

theorem traced_next (h : Handle) : Exec.Traced true (ExceptT.mk h.next) := by
  intro c
  change Connection.Traced true c (h.next c).2
  cases hnext : h.page.next with
  | none =>
    rw [next_of_last hnext]
    exact c.traced_refl
  | some state =>
    cases hreply : c.reply.outcome with
    | error e =>
      rw [next_failed hnext hreply]
      exact c.traced_execute _ _
    | ok page =>
      rw [next_turned hnext hreply]
      exact c.traced_execute _ _

/-- A walk leaves the trail of its requests. -/
theorem traced_afterWalk (h : Handle) (c : Connection) :
    Connection.Traced true c (h.afterWalk c) := by
  induction h, c using walk_induction with
  | last h c hlast =>
    rw [afterWalk_of_last hlast]
    exact c.traced_refl
  | failed h c state e hstate hreply =>
    rw [afterWalk_failed hstate hreply]
    exact c.traced_execute _ _
  | turned h c state page hstate hreply ih =>
    rw [afterWalk_turned hstate hreply]
    exact (c.traced_execute _ _).trans ih

theorem traced_collectAll (h : Handle) : h.collectAll.Traced true := by
  intro c
  rw [h.run_collectAll]
  exact h.traced_afterWalk c

theorem traced_countAll (h : Handle) : h.countAll.Traced true := by
  intro c
  rw [h.run_countAll, afterCount]
  split
  · exact (h.traced_afterWalk c).trans (Connection.traced_note rfl rfl _)
  · exact h.traced_afterWalk c

theorem traced_walker (h : Handle) (walker : Walker) : (walker.exec h).Traced true := by
  cases walker with
  | count => exact Exec.traced_discard h.traced_countAll
  | collect => exact Exec.traced_discard h.traced_collectAll
  | turn =>
    intro c
    change Connection.Traced true c (h.turnAll c).2
    rw [h.turnAll_eq]
    exact h.traced_afterWalk c
  | pull =>
    intro c
    change Connection.Traced true c ((Cursor.here h).pullAll c).2
    rw [Cursor.pullAll_here]
    exact h.traced_afterWalk c

end Handle

namespace Cursor

theorem traced_next (cursor : Cursor) (c : Connection) :
    Connection.Traced true c (cursor.next c).2 := by
  cases cursor with
  | here h => exact c.traced_refl
  | done => exact c.traced_refl
  | after h =>
    have htraced : Connection.Traced true c (h.next c).2 := h.traced_next c
    rcases hnext : h.next c with ⟨outcome, later⟩
    rw [hnext] at htraced
    cases outcome with
    | ok fetched =>
      simp only [next, hnext]
      exact htraced
    | error e =>
      simp only [next, hnext]
      exact htraced

end Cursor

/-- A pull, on whose trail there is a statement for each page that has no row and for the one after
them. -/
theorem RowStream.traced_next (s : RowStream) (c : Connection) :
    Connection.Traced true c (s.next c).2 := by
  induction s, c using RowStream.next.induct with
  | case1 s c row rest hready =>
    obtain ⟨ready, pages⟩ := s
    obtain rfl : ready = row :: rest := hready
    rw [next_ready]
    exact c.traced_refl
  | case2 s c hready rows later after hnext ih =>
    obtain ⟨ready, pages⟩ := s
    obtain rfl : ready = [] := hready
    have hpages := pages.traced_next c
    rw [hnext] at hpages
    rw [next_refill hnext]
    exact hpages.trans ih
  | case3 s c hready later after hnext =>
    obtain ⟨ready, pages⟩ := s
    obtain rfl : ready = [] := hready
    have hpages := pages.traced_next c
    rw [hnext] at hpages
    rw [next_step, hnext]
    exact hpages
  | case4 s c hready e later after hnext =>
    obtain ⟨ready, pages⟩ := s
    obtain rfl : ready = [] := hready
    have hpages := pages.traced_next c
    rw [hnext] at hpages
    rw [next_failed hnext]
    exact hpages

namespace Query

variable (q : Query) (columns : List String)

theorem traced_send (s : Statement) : (q.send s).Traced true :=
  Exec.traced_execute _ _

theorem traced_dispatch (s : Statement) : (q.dispatch s).Traced false :=
  fun c => c.traced_dispatch _ _

theorem traced_openRows : (q.openRows columns).Traced true :=
  Exec.traced_bind (Exec.traced_ofExcept _) fun ready =>
    Exec.traced_bind (ready.traced_send _) fun _ => Exec.traced_pure _

theorem traced_get : (q.get columns).Traced true :=
  Exec.traced_bind (q.traced_openRows columns) fun _ => Exec.traced_pure _

theorem traced_first : (q.first columns).Traced true :=
  Exec.traced_bind ((q.withLimit 1).traced_get columns) fun _ => Exec.traced_pure _

/-- What is told before the rows are opened is not about a statement. -/
theorem traced_count : (q.count columns).Traced true := by
  refine Exec.traced_within rfl rfl (Exec.traced_bind ?_ fun _ =>
    Exec.traced_bind (q.traced_openRows columns) Handle.traced_countAll)
  split
  · exact Exec.traced_trace rfl rfl
  · exact Exec.traced_trace rfl rfl

theorem traced_paginate (size : Option Int32) (state : Option PagingState) :
    (q.paginate size columns state).Traced true := by
  refine Exec.traced_bind (Exec.traced_ofExcept _) fun ready => ?_
  dsimp only
  split
  · exact Exec.traced_bind (Exec.traced_throw _) fun _ => Exec.traced_execute _ _
  · exact Exec.traced_execute _ _

/-- Steps behind the checks of a statement that is no select. -/
theorem traced_required {α : Type} {awaited : Bool} {statement : Except Error Statement}
    {x : Statement → Exec α} (h : ∀ s, (x s).Traced awaited) :
    (Exec.ofExcept q.requireTable >>= fun _ => Exec.ofExcept statement >>= x).Traced awaited :=
  Exec.traced_bind (Exec.traced_ofExcept _) fun _ => Exec.traced_bind (Exec.traced_ofExcept _) h

theorem traced_insert (payload : Payload) : (q.insert payload).Traced true := by
  unfold insert
  split
  · exact Exec.traced_trace rfl rfl
  · exact q.traced_required fun s => Exec.traced_discard (q.traced_send s)

theorem traced_insertLater (payload : Payload) : (q.insertLater payload).Traced false := by
  unfold insertLater
  split
  · exact Exec.traced_bind (Exec.traced_trace rfl rfl) fun _ => Exec.traced_pure _
  · exact q.traced_required q.traced_dispatch

theorem traced_deleteLater : (q.deleteLater columns).Traced false :=
  q.traced_required q.traced_dispatch

end Query

theorem Operation.traced_exec (operation : Operation) (q : Query) :
    (operation.exec q).Traced (!operation.isDeferred) := by
  cases operation with
  | get columns => exact Exec.traced_discard (q.traced_get columns)
  | first columns => exact Exec.traced_discard (q.traced_first columns)
  | openRows columns => exact Exec.traced_discard (q.traced_openRows columns)
  | count columns => exact Exec.traced_discard (q.traced_count columns)
  | paginate size columns state =>
    exact Exec.traced_discard (q.traced_paginate columns size state)
  | insert payload => exact q.traced_insert payload
  | update assignments =>
    exact Exec.traced_discard (q.traced_required q.traced_send)
  | createIndex columns =>
    exact Exec.traced_discard (q.traced_required q.traced_send)
  | getLater columns drop =>
    exact Exec.traced_discard (Exec.traced_bind (Exec.traced_ofExcept _) fun ready =>
      ready.traced_dispatch _)
  | insertLater payload drop => exact Exec.traced_discard (q.traced_insertLater payload)
  | deleteRows drop => exact Exec.traced_discard (q.traced_deleteLater [])
  | deleteColumns columns drop =>
    refine Exec.traced_discard ?_
    unfold Query.deleteColumns
    split
    · exact Exec.traced_throw _
    · exact q.traced_deleteLater columns

namespace Model

variable (m : Model) (id : KeyValue) (columns : List String)

theorem traced_find : (m.find id columns).Traced true :=
  Exec.traced_bind (Exec.traced_ofExcept _) fun m => m.query.traced_first columns

theorem traced_findOrFail : (m.findOrFail id columns).Traced true := by
  refine Exec.traced_bind (m.traced_find id columns) fun row? => ?_
  cases row? with
  | none => exact Exec.traced_throw _
  | some row => exact Exec.traced_pure _

theorem traced_getAll : (m.getAll columns).Traced true :=
  Exec.traced_bind (m.query.traced_openRows columns) fun h =>
    Exec.traced_bind h.traced_collectAll fun _ =>
      Exec.traced_bind (Exec.traced_trace rfl rfl) fun _ => Exec.traced_pure _

end Model

namespace Terminal

/-- Nobody waits for what is sent. -/
def isDeferred : Terminal → Bool
  | operate _ operation => operation.isDeferred
  | _ => false

theorem traced_exec (t : Terminal) : t.exec.Traced (!t.isDeferred) := by
  cases t with
  | operate q operation =>
    intro c
    change Connection.Traced _ c ((operation.awaited q).run c).2
    rw [← Operation.exec_eq_awaited]
    exact operation.traced_exec q c
  | find m id columns => exact Exec.traced_discard (m.traced_find id columns)
  | findOrFail m id columns => exact Exec.traced_discard (m.traced_findOrFail id columns)
  | getAll m columns => exact Exec.traced_discard (m.traced_getAll columns)
  | next h => exact Exec.traced_discard h.traced_next
  | walk h walker => exact h.traced_walker walker

variable {t : Terminal} {c : Connection} {history : History}

/-- The statements on the trail are those that are sent. -/
theorem sends_of_trail (h : Trail c history (t.exec.run c).2) :
    history.passages.map (Passage.sent c.deferring) = t.sends c := by
  have hsent := h.sent_eq
  rw [(t.sent_exec c).1] at hsent
  exact (List.append_cancel_left hsent).symm

theorem refused_of_trail {e : Error} (h : Trail c history (t.exec.run c).2)
    (he : t.requests c = .error e) :
    (t.exec.run c).1 = .error e ∧ history.passages = [] := by
  have hsettles := t.settles c
  rw [he] at hsettles
  have hnone : t.sends c = [] := by rw [sends, he]
  exact ⟨hsettles.1, List.map_eq_nil_iff.mp ((sends_of_trail h).trans hnone)⟩

/-- An insert of nothing tells that it was skipped. -/
theorem trail_of_idle {q : Query} {operation : Operation} (hidle : operation.isIdle = true)
    (c : Connection) :
    Trail c (.event (.emptyInsert q.tableName) .nil) ((operate q operation).exec.run c).2 := by
  rw [exec, Operation.run_awaited_of_idle hidle c]
  exact .event rfl rfl (.nil _)

end Terminal

namespace Action

/-- What is sent, if anything, is handed over without waiting. -/
def isDeferred : Action → Bool
  | run t => t.isDeferred
  | _ => false

/-- The connection is not touched. -/
def isSilent : Action → Bool
  | run _ | cursorNext _ | pull _ => false
  | _ => true

/-- What an action leaves behind: statements that are awaited or handed over as befits the action,
for a terminal those it sends, and none if it is refused; for an insert of nothing only that it was
skipped; and nothing at all where the connection is not touched. -/
structure Logs (s : Session) (c : Connection) (a : Action) (history : History) : Prop where
  trail : Trail c history (a.effect s c).2
  awaited : ∀ p ∈ history.passages, p.awaited = !a.isDeferred
  sends : ∀ t, a = run t → history.passages.map (Passage.sent c.deferring) = t.sends c
  refused : ∀ t e, a = run t → t.requests c = .error e →
    (t.exec.run c).1 = .error e ∧ history.passages = []
  idle : ∀ q operation, a = run (.operate q operation) → operation.isIdle = true →
    history = .event (.emptyInsert q.tableName) .nil
  silent : a.isSilent = true → history = .nil

variable {s : Session} {c : Connection}

/-- Of an action that runs no terminal. -/
theorem logs_of_trail {a : Action} {history : History} (hrun : ∀ t, a ≠ run t)
    (htrail : Trail c history (a.effect s c).2)
    (hawaited : ∀ p ∈ history.passages, p.awaited = !a.isDeferred)
    (hsilent : a.isSilent = true → history = .nil) : a.Logs s c history := by
  refine ⟨htrail, hawaited, ?_, ?_, ?_, hsilent⟩
  · intro t ht
    exact absurd ht (hrun t)
  · intro t e ht
    exact absurd ht (hrun t)
  · intro q operation ht
    exact absurd ht (hrun _)

/-- Of a terminal, where the trail of an insert of nothing is the one it should be. -/
theorem logs_of_terminal {t : Terminal} {history : History}
    (htrail : Trail c history (t.exec.run c).2)
    (hawaited : ∀ p ∈ history.passages, p.awaited = !t.isDeferred)
    (hidle : ∀ q operation, t = .operate q operation → operation.isIdle = true →
      history = .event (.emptyInsert q.tableName) .nil) : (run t).Logs s c history := by
  refine ⟨htrail, hawaited, ?_, ?_, ?_, by rintro ⟨⟩⟩
  · rintro _ ⟨⟩
    exact Terminal.sends_of_trail htrail
  · rintro _ e ⟨⟩ he
    exact Terminal.refused_of_trail htrail he
  · rintro q operation ⟨⟩ hoperation
    exact hidle q operation rfl hoperation

theorem logs_run (s : Session) (c : Connection) (t : Terminal) :
    ∃ history, (run t).Logs s c history := by
  by_cases hidle : ∃ q operation, t = .operate q operation ∧ operation.isIdle = true
  · obtain ⟨q, operation, rfl, hidle⟩ := hidle
    refine ⟨_, logs_of_terminal (Terminal.trail_of_idle hidle c) (List.forall_mem_nil _) ?_⟩
    rintro _ _ ⟨⟩ _
    rfl
  · obtain ⟨history, htrail, hawaited⟩ := t.traced_exec c
    refine ⟨history, logs_of_terminal htrail hawaited ?_⟩
    intro q operation ht hoperation
    exact absurd ⟨q, operation, ht, hoperation⟩ hidle

theorem logs_effect (s : Session) (c : Connection) (a : Action) :
    ∃ history, a.Logs s c history := by
  cases a with
  | run t => exact logs_run s c t
  | cursorNext cursor =>
    obtain ⟨history, htrail, hawaited⟩ := cursor.traced_next c
    exact ⟨history, logs_of_trail (by rintro _ ⟨⟩) htrail hawaited (by rintro ⟨⟩)⟩
  | pull stream =>
    obtain ⟨history, htrail, hawaited⟩ := stream.traced_next c
    exact ⟨history, logs_of_trail (by rintro _ ⟨⟩) htrail hawaited (by rintro ⟨⟩)⟩
  | _ =>
    exact ⟨.nil, logs_of_trail (by rintro _ ⟨⟩) (.nil c) (List.forall_mem_nil _) fun _ => rfl⟩

end Action

namespace Client

variable {s : Session} {w final : Client} {actions : List Action}

/-- The history is what the actions leave behind, one after another. -/
def Logged (s : Session) : Client → List Action → History → Prop
  | _, [], history => history = .nil
  | w, a :: actions, history => ∃ first rest : History, history = first.append rest ∧
      a.Logs s w.connection first ∧ Logged s (w.perform s a) actions rest

theorem trail_of_runs (h : Runs s w actions final) :
    ∃ history, Trail w.connection history final.connection ∧ Logged s w actions history := by
  induction h with
  | nil w => exact ⟨.nil, .nil _, rfl⟩
  | @cons w final a actions hsubject _ ih =>
    obtain ⟨first, hfirst⟩ := a.logs_effect s w.connection
    obtain ⟨rest, htrail, hrest⟩ := ih
    exact ⟨first.append rest, hfirst.trail.append htrail, first, rest, rfl, hfirst, hrest⟩

/-- Every statement of a run is logged exactly once. What the log has more at the end is what
happened, one thing after another, and every span that began has ended. The statements that happened
are those that were handed over, in the same order and each with its own reply. What happens with
one of them stands together in the log: if somebody waits, its span begins, it is handed over, one
event follows, and the span ends; if nobody does, one event comes before it is handed over. Nothing
else that is written is about statements. -/
theorem logged_once (h : Runs s w actions final) : ∃ history : History,
    Trail w.connection history final.connection ∧ Logged s w actions history ∧
    final.connection.log = w.connection.log ++
      history.occurrences w.connection.settings w.connection.deferring ∧
    openSpans final.connection.log = openSpans w.connection.log ∧
    final.connection.sent =
      w.connection.sent ++ history.passages.map (Passage.sent w.connection.deferring) ∧
    (∀ (k : Nat) (p : Passage), history.passages[k]? = some p →
      p.reply = w.connection.script[k]?.getD ⟨.ok ∅, 0⟩ ∧
      ∃ before after, final.connection.log = before ++
          p.occurrences w.connection.settings w.connection.deferring ++ after ∧
        (before.filterMap Occurrence.statement?).length = w.connection.sent.length + k) ∧
    ∃ written : List TraceRecord, written = history.records w.connection.settings ∧
      final.connection.trace.map TraceEntry.record =
        w.connection.trace.map TraceEntry.record ++ written ∧
      written.filter TraceRecord.onStatement =
        history.passages.flatMap (Passage.records w.connection.settings) := by
  obtain ⟨history, htrail, hlogged⟩ := trail_of_runs h
  refine ⟨history, htrail, hlogged, htrail.log_eq, htrail.openSpans_eq, htrail.sent_eq, ?_, _, rfl,
    htrail.trace_eq, htrail.filter_records _⟩
  intro k p hp
  obtain ⟨before, after, hsplit, hlength⟩ :=
    history.occurrences_split w.connection.settings w.connection.deferring hp
  refine ⟨htrail.reply_eq hp, w.connection.log ++ before, after, ?_, ?_⟩
  · rw [htrail.log_eq, hsplit]
    simp only [List.append_assoc]
  · rw [List.filterMap_append, List.length_append, hlength]
    rfl

/-- A client hands over a select, inserts nothing, opens rows that take their time, and turns to a
page that does not arrive. -/
theorem logged_once_of_users :
    ∃ (s : Session) (w final : Client) (actions : List Action) (history : History),
      Runs s w actions final ∧ Trail w.connection history final.connection ∧
      Logged s w actions history ∧ history.passages.length = 3 ∧
      final.connection.log.map (fun
        | .told entry => entry.record.text
        | .handed _ => "handed over"
        | .ended => "end") =
        ["Dispatching asynchronous statement", "handed over", "Empty insert skipped",
          "execute", "handed over", "Slow statement detected", "end",
          "execute", "handed over", "Statement failed", "end"] := by
  let s : Session := {}
  let q : Query := { s.query with table := some "users" }
  let ready : Query := { q with columns := some ["*"] }
  let h : Handle := ready.opened ⟨[], some ⟨[1]⟩⟩
  let c : Connection :=
    { script := [⟨.ok ∅, 0⟩, ⟨.ok ⟨[], some ⟨[1]⟩⟩, 1000⟩, ⟨.error (.raised .timeout "late"), 7⟩]
      settings := {} }
  let first : Action := .run (.operate q (.getLater ["*"] true))
  let second : Action := .run (.operate q (.insert (.batch [])))
  let third : Action := .run (.operate q (.openRows ["*"]))
  let last : Action := .run (.next h)
  let w₀ : Client := ⟨c, [.query q]⟩
  let w₁ := w₀.perform s first
  let w₂ := w₁.perform s second
  let w₃ := w₂.perform s third
  have hquery : Holding.query q ∈ w₀.held := List.mem_singleton.mpr rfl
  have hhandle : Holding.handle h ∈ w₃.held := mem_perform_of_effect rfl
  have hlast : Runs s w₃ [last] (w₃.perform s last) := by
    refine .cons ?_ (.nil _)
    rintro _ ⟨⟩
    exact hhandle
  have hopens : Runs s w₂ [third, last] (w₃.perform s last) := by
    refine .cons ?_ hlast
    rintro _ ⟨⟩
    exact mem_perform (mem_perform hquery first) second
  have hinserts : Runs s w₁ [second, third, last] (w₃.perform s last) := by
    refine .cons ?_ hopens
    rintro _ ⟨⟩
    exact mem_perform hquery first
  have hruns : Runs s w₀ [first, second, third, last] (w₃.perform s last) := by
    refine .cons ?_ hinserts
    rintro _ ⟨⟩
    exact hquery
  obtain ⟨history, htrail, hlogged, _, _, hsent, _⟩ := logged_once hruns
  have hlength : history.passages.length = 3 := by
    have hcount := congrArg List.length hsent
    rw [List.length_append, List.length_map] at hcount
    have hthree : (w₃.perform s last).connection.sent.length = 3 := by
      dsimp +zetaDelta only
      decide +kernel
    have hnone : w₀.connection.sent.length = 0 := rfl
    omega
  refine ⟨s, w₀, _, _, history, hruns, htrail, hlogged, hlength, ?_⟩
  dsimp +zetaDelta only
  decide +kernel

end Client

end Cql
