import Cql.Proofs.Paging.Turning
import Cql.Proofs.Sending

/-!
What becomes of the replies. An operation that sends statements takes a reply for each of them, and
the first reply that is an error is the last one and what the operation comes to. So it is with
operations on a query, with walks over the pages of a result, and with what is made of the two.
-/

namespace Cql

namespace Connection

variable {c later : Connection} {count : Nat}

/-- What the connection answers to the statement that comes after so many others. -/
def answer (c : Connection) (count : Nat) : Except Error Page :=
  (c.script[count]?.getD ⟨.ok ∅, 0⟩).outcome

theorem answer_zero (c : Connection) : c.answer 0 = c.reply.outcome := by
  rw [answer, reply, List.head?_eq_getElem?]

theorem answer_of_drop (h : later.script = c.script.drop count) (k : Nat) :
    later.answer k = c.answer (count + k) := by
  rw [answer, answer, h, List.getElem?_drop]

/-- So many statements ask for one page after another: behind each of them there is one more if and
only if it is answered with a page that another page follows. -/
def Pages (c : Connection) (count : Nat) : Prop :=
  ∀ k, k < count →
    (k + 1 < count ↔ ∃ page state, c.answer k = .ok page ∧ page.next = some state)

end Connection

namespace Exec

variable {α β : Type} {c : Connection} {requests : List Sent} {own : Option Error}

/-- The operation sends these statements and takes a reply for each of them. If one of the replies is
an error, it is the last reply and what the operation comes to. If none is, the operation succeeds
or comes to an error of its own. -/
structure Relays (x : Exec α) (c : Connection) (requests : List Sent) (own : Option Error) :
    Prop where
  sent : (x.run c).2.sent = c.sent ++ requests
  script : (x.run c).2.script = c.script.drop requests.length
  failed : ∀ k e, k < requests.length → c.answer k = .error e →
    requests.length = k + 1 ∧ (x.run c).1 = .error e
  answered : (∀ k, k < requests.length → ∃ page, c.answer k = .ok page) →
    (∃ a, (x.run c).1 = .ok a) ∨ ∃ e, own = some e ∧ (x.run c).1 = .error e

/-- The operation is refused and has sent nothing, or else it sends these statements. -/
def Settles (x : Exec α) (c : Connection) (own : Option Error) : Except Error (List Sent) → Prop
  | .error e =>
    (x.run c).1 = .error e ∧ (x.run c).2.sent = c.sent ∧ (x.run c).2.script = c.script
  | .ok requests => x.Relays c requests own

/-- Steps that send nothing and succeed. -/
theorem relays_of_ok {x : Exec α} {a : α} {later : Connection} (hrun : x.run c = (.ok a, later))
    (hsent : later.sent = c.sent) (hscript : later.script = c.script) : x.Relays c [] own := by
  refine ⟨?_, by rw [hrun]; exact hscript, ?_, ?_⟩
  · rw [hrun, List.append_nil]
    exact hsent
  · intro k e hk
    cases hk
  · intro _
    exact .inl ⟨a, by rw [hrun]⟩

/-- An error of an operation itself. -/
theorem relays_throw (e : Error) (c : Connection) : (throw e : Exec α).Relays c [] (some e) := by
  refine ⟨(List.append_nil c.sent).symm, rfl, ?_, fun _ => .inr ⟨e, rfl, rfl⟩⟩
  intro k e hk
  cases hk

/-- An operation that goes on after its first statements. -/
theorem relays_bind {x : Exec α} {f : α → Exec β} {first rest : List Sent}
    (h : x.Relays c first own) (hfailed : ∀ e, (x.run c).1 = .error e → rest = [])
    (hf : ∀ a later, x.run c = (.ok a, later) → (f a).Relays later rest own) :
    (x >>= f).Relays c (first ++ rest) own := by
  rcases hx : x.run c with ⟨outcome, later⟩
  obtain ⟨hsent, hscript, herror, hanswered⟩ := h
  rw [hx] at hsent hscript herror hanswered hfailed
  cases outcome with
  | error e =>
    -- there is no rest behind a failure
    obtain rfl := hfailed e rfl
    rw [List.append_nil]
    refine ⟨?_, ?_, ?_, ?_⟩
    · rw [run_bind_error hx]
      exact hsent
    · rw [run_bind_error hx]
      exact hscript
    · intro k other hk hother
      obtain ⟨hlength, houtcome⟩ := herror k other hk hother
      obtain rfl := Except.error.inj houtcome
      exact ⟨hlength, by rw [run_bind_error hx]⟩
    · intro hall
      rcases hanswered hall with ⟨_, hok⟩ | ⟨other, hown, hother⟩
      · cases hok
      · obtain rfl := Except.error.inj hother
        exact .inr ⟨e, hown, by rw [run_bind_error hx]⟩
  | ok a =>
    obtain ⟨hsent', hscript', herror', hanswered'⟩ := hf a later hx
    -- the replies to the rest stand behind those to the first statements
    have hanswer := Connection.answer_of_drop hscript
    refine ⟨?_, ?_, ?_, ?_⟩
    · rw [run_bind_ok hx, hsent', hsent, List.append_assoc]
    · rw [run_bind_ok hx, hscript', hscript, List.drop_drop, List.length_append]
    · intro k e hk he
      rw [run_bind_ok hx, List.length_append]
      rw [List.length_append] at hk
      by_cases hfirst : k < first.length
      · obtain ⟨_, hfailure⟩ := herror k e hfirst he
        cases hfailure
      · obtain ⟨j, rfl⟩ := Nat.exists_eq_add_of_le (Nat.le_of_not_lt hfirst)
        rw [← hanswer] at he
        obtain ⟨hlength, houtcome⟩ := herror' j e (by omega) he
        exact ⟨by omega, houtcome⟩
    · intro hall
      rw [run_bind_ok hx]
      refine hanswered' fun k hk => ?_
      rw [hanswer]
      exact hall _ (by rw [List.length_append]; omega)

theorem settles_of_asks {x : Exec α} {opening : Except Error Sent} (h : x.Asks c Relayed opening) :
    x.Settles c own (opening.map fun s => [s]) := by
  cases opening with
  | error e => exact h
  | ok s =>
    obtain ⟨hrelayed, hsent, hscript⟩ := h
    refine ⟨hsent, hscript.trans List.drop_one.symm, ?_, ?_⟩
    · intro k e hk he
      obtain rfl : k = 0 := Nat.lt_one_iff.mp hk
      rw [Connection.answer_zero] at he
      exact ⟨rfl, (relayed_error_iff hrelayed e).mpr he⟩
    · intro hall
      obtain ⟨page, hpage⟩ := hall 0 Nat.zero_lt_one
      rw [Connection.answer_zero] at hpage
      cases houtcome : (x.run c).1 with
      | ok a => exact .inl ⟨a, rfl⟩
      | error e =>
        rw [(relayed_error_iff hrelayed e).mp houtcome] at hpage
        cases hpage

/-- What happens behind the last reply. -/
theorem settles_bind {x : Exec α} {f : α → Exec β} {requests : Except Error (List Sent)}
    (h : x.Settles c own requests)
    (hf : ∀ a later, x.run c = (.ok a, later) → (f a).Relays later [] own) :
    (x >>= f).Settles c own requests := by
  cases requests with
  | error e =>
    obtain ⟨houtcome, hsame⟩ := h
    have hrun : x.run c = (.error e, (x.run c).2) := Prod.ext houtcome rfl
    rw [Settles, run_bind_error hrun]
    exact ⟨rfl, hsame⟩
  | ok requests =>
    have hrest := relays_bind h (fun _ _ => rfl) hf
    rwa [List.append_nil] at hrest

theorem settles_discard {x : Exec α} {requests : Except Error (List Sent)}
    (h : x.Settles c own requests) : (discard x).Settles c own requests :=
  settles_bind h fun _ _ _ => relays_of_ok rfl rfl rfl

end Exec

namespace Walk

theorem along_eq_nil_iff {next : Option PagingState} {script : List Reply} :
    along next script = [] ↔ next = none := by
  cases next with
  | none => simp [along]
  | some state =>
    cases script with
    | nil => simp [along]
    | cons reply script => simp [along]

/-- Behind a request there is one more if and only if it was answered with a page that another page
follows. -/
theorem along_succ_iff {next : Option PagingState} {script : List Reply} {k : Nat}
    (hk : k < (along next script).length) :
    k + 1 < (along next script).length ↔
      ∃ page state, (script[k]?.getD ⟨.ok ∅, 0⟩).outcome = .ok page ∧ page.next = some state := by
  induction script generalizing next k with
  | nil =>
    cases next with
    | none => simp [along] at hk
    | some state =>
      obtain rfl : k = 0 := by simpa [along] using hk
      refine iff_of_false (Nat.lt_irrefl 1) ?_
      rintro ⟨page, next, hpage, hnext⟩
      obtain rfl : (∅ : Page) = page := Except.ok.inj hpage
      cases hnext
  | cons reply script ih =>
    cases next with
    | none => simp [along] at hk
    | some state =>
      cases houtcome : reply.outcome with
      | error e =>
        obtain rfl : k = 0 := by simpa [along, houtcome] using hk
        simp [along, houtcome]
      | ok page =>
        simp only [along, houtcome, List.length_cons] at hk ⊢
        cases k with
        | zero =>
          have hmore : (along page.next script).length = 0 ↔ page.next = none := by
            rw [List.length_eq_zero_iff, along_eq_nil_iff]
          cases hnext : page.next with
          | none =>
            rw [hnext] at hmore
            simp [hmore, houtcome, hnext]
          | some next =>
            rw [hnext] at hmore
            simp [houtcome, hnext, Nat.pos_iff_ne_zero, hmore]
        | succ k =>
          have hk' : k < (along page.next script).length := by omega
          simpa using ih hk'

theorem pages_along (next : Option PagingState) (c : Connection) :
    c.Pages (along next c.script).length :=
  fun _ hk => along_succ_iff hk

end Walk

namespace Handle

variable {α : Type} {c : Connection}

/-- The requests that go through the pages behind the one of the handle. -/
def requests (h : Handle) (c : Connection) : List Sent :=
  (h.walk c).map fun x => h.request x.state

/-- Whatever leaves the connection of the walk behind and stops at its failure. -/
theorem relays_of_walk {h : Handle} {x : Exec α}
    (hsent : (x.run c).2.sent = (h.afterWalk c).sent)
    (hscript : (x.run c).2.script = (h.afterWalk c).script)
    (hfailed : ∀ e, (h.walk c).failure? = some e → (x.run c).1 = .error e)
    (hdone : (h.walk c).failure? = none → ∃ a, (x.run c).1 = .ok a) :
    x.Relays c (h.requests c) none := by
  have hlength : (h.requests c).length = (h.walk c).length := List.length_map ..
  have houtcome (k : Nat) (hk : k < (h.walk c).length) : ((h.walk c)[k]).outcome = c.answer k :=
    Walk.outcome_of_along (List.getElem?_eq_getElem hk)
  refine ⟨hsent.trans (h.sent_afterWalk c), ?_, ?_, ?_⟩
  · rw [hscript, h.script_afterWalk, hlength]
  · intro k e hk he
    rw [hlength] at hk ⊢
    rw [← houtcome k hk] at he
    obtain ⟨hstop, hfailure⟩ := Walk.length_of_error (List.getElem?_eq_getElem hk) he
    exact ⟨hstop, hfailed e hfailure⟩
  · intro hall
    refine .inl (hdone (Walk.failure?_eq_none_iff.mpr fun x hx => ?_))
    obtain ⟨k, hk, rfl⟩ := List.getElem_of_mem hx
    rw [houtcome k hk]
    exact hall k (by rwa [hlength])

theorem relays_collectAll (h : Handle) (c : Connection) :
    h.collectAll.Relays c (h.requests c) none := by
  have hrun := h.run_collectAll c
  refine relays_of_walk (by rw [hrun]) (by rw [hrun]) ?_ ?_
  · intro e he
    rw [hrun, Walk.collected, he]
  · intro hnone
    rw [hrun, Walk.collected, hnone]
    exact ⟨_, rfl⟩

theorem relays_countAll (h : Handle) (c : Connection) :
    h.countAll.Relays c (h.requests c) none := by
  have hrun := h.run_countAll c
  refine relays_of_walk (by rw [hrun, sent_afterCount]) ?_ ?_ ?_
  · rw [hrun, afterCount]
    split
    · rfl
    · rfl
  · intro e he
    rw [hrun, Walk.collected, he]
    rfl
  · intro hnone
    rw [hrun, Walk.collected, hnone]
    exact ⟨_, rfl⟩

/-- The statement that asks for the page behind the one of the handle, if there is one. -/
def nextRequest (h : Handle) : Except Error Sent :=
  match h.page.next with
  | none => .error .noNextPage
  | some state => .ok (h.request state)

theorem asks_next (h : Handle) (c : Connection) :
    Exec.Asks (ExceptT.mk h.next) c Exec.Relayed h.nextRequest := by
  unfold nextRequest
  cases hnext : h.page.next with
  | none =>
    rw [Exec.Asks, Exec.run_mk, next_of_last hnext]
    exact ⟨rfl, rfl, rfl⟩
  | some state =>
    rw [Exec.Asks, Exec.run_mk]
    cases hreply : c.reply.outcome with
    | error e =>
      rw [next_failed hnext hreply]
      exact ⟨rfl, h.sent_asked state c, rfl⟩
    | ok page =>
      rw [next_turned hnext hreply]
      exact ⟨rfl, h.sent_asked state c, rfl⟩

end Handle

/-- Ways through the pages of a result. -/
inductive Walker where
  | count
  | collect
  /-- Turns the pages by hand. -/
  | turn
  /-- Pulls a cursor. -/
  | pull

/-- Goes through pages up to the last one, or to the error at which that ends. -/
def Exec.untilFailure {α : Type} (walk : Connection → (α × Option Error) × Connection) : Exec Unit :=
  ExceptT.mk fun c =>
    let ((_, failure), c) := walk c
    (failure.elim (.ok ()) .error, c)

def Walker.exec (h : Handle) : Walker → Exec Unit
  | count => discard h.countAll
  | collect => discard h.collectAll
  | turn => Exec.untilFailure h.turnAll
  | pull => Exec.untilFailure (Cursor.here h).pullAll

namespace Handle

theorem relays_untilFailure {α : Type} {h : Handle} {c : Connection} {a : α}
    {walk : Connection → (α × Option Error) × Connection}
    (hwalk : walk c = ((a, (h.walk c).failure?), h.afterWalk c)) :
    (Exec.untilFailure walk).Relays c (h.requests c) none := by
  have hrun : (Exec.untilFailure walk).run c =
      ((h.walk c).failure?.elim (.ok ()) .error, h.afterWalk c) := by
    rw [Exec.untilFailure, Exec.run_mk, hwalk]
  refine relays_of_walk (by rw [hrun]) (by rw [hrun]) ?_ ?_
  · intro e he
    rw [hrun, he]
    rfl
  · intro hnone
    rw [hrun, hnone]
    exact ⟨(), rfl⟩

theorem relays_walker (h : Handle) (walker : Walker) (c : Connection) :
    (walker.exec h).Relays c (h.requests c) none := by
  cases walker with
  | count =>
    have hcount : h.countAll.Settles c none (.ok (h.requests c)) := h.relays_countAll c
    exact Exec.settles_discard hcount
  | collect =>
    have hcollect : h.collectAll.Settles c none (.ok (h.requests c)) := h.relays_collectAll c
    exact Exec.settles_discard hcollect
  | turn => exact relays_untilFailure (h.turnAll_eq c)
  | pull => exact relays_untilFailure (Cursor.pullAll_here h c)

end Handle

namespace Query

variable {α : Type} {q ready : Query} {columns : List String} {c : Connection}

/-- The select and the requests that go through the pages behind its first one. -/
def walkRequests (q : Query) (c : Connection) : List Sent :=
  q.opening ::
    match c.reply.outcome with
    | .ok page => (q.opened page).requests (q.selected c)
    | .error _ => []

/-- The requests are as many as those of a walk that the select belongs to. -/
theorem length_walkRequests (q : Query) (c : Connection) (state : PagingState) :
    (q.walkRequests c).length = (Walk.along (some state) c.script).length := by
  -- the walk from an empty page that the select fetches the next one of
  have hwalk := Handle.walk_of_some (h := q.opened ⟨[], some state⟩) (c := c) rfl
  rw [Handle.walk] at hwalk
  have hnext : (q.opened ⟨[], some state⟩).page.next = some state := rfl
  rw [hnext] at hwalk
  rw [hwalk, walkRequests]
  cases c.reply.outcome with
  | error e => rfl
  | ok page => exact congrArg Nat.succ (List.length_map ..)

/-- Opens the rows of a query and goes through their pages. -/
theorem settles_openRows {f : Handle → Exec α}
    (hf : ∀ h d, (f h).Relays d (h.requests d) none) (q : Query) (columns : List String)
    (c : Connection) :
    (q.openRows columns >>= f).Settles c none
      ((q.ready columns).map fun ready => ready.walkRequests c) := by
  cases hready : q.ready columns with
  | error e =>
    have hrun := Exec.run_bind_error (f := f) (run_openRows_refused c hready)
    exact ⟨congrArg Prod.fst hrun, by rw [hrun], by rw [hrun]⟩
  | ok ready =>
    have hopen := run_openRows c hready
    have hasks : (q.openRows columns).Asks c Exec.Relayed (.ok ready.opening) := by
      rw [Exec.Asks, hopen]
      refine ⟨?_, ready.sent_selected c, rfl⟩
      cases c.reply.outcome with
      | error e => rfl
      | ok page => rfl
    have hfirst : (q.openRows columns).Relays c [ready.opening] none := Exec.settles_of_asks hasks
    refine Exec.relays_bind hfirst ?_ ?_
    · intro e he
      rw [hopen] at he
      cases hreply : c.reply.outcome with
      | error _ => rfl
      | ok page =>
        rw [hreply] at he
        cases he
    · intro h later hrun
      obtain ⟨opened, page, hopened, hreply, rfl, rfl⟩ := opened_of_run hrun
      obtain rfl : opened = ready := Except.ok.inj (hopened.symm.trans hready)
      rw [hreply]
      exact hf _ _

end Query

theorem Query.settles_count (q : Query) (columns : List String) (c : Connection) :
    (q.count columns).Settles c none
      ((q.ready columns).map fun ready => ready.walkRequests c) := by
  have hcount := Query.settles_openRows Handle.relays_countAll q columns (q.noted c)
  cases hready : q.ready columns with
  | error e =>
    rw [hready] at hcount
    obtain ⟨houtcome, hsent, hscript⟩ := hcount
    rw [Exec.Settles.eq_def, Query.run_count_eq]
    exact ⟨houtcome, (Connection.sent_leave _).trans (hsent.trans (q.sent_noted c)), hscript⟩
  | ok ready =>
    rw [hready] at hcount
    obtain ⟨hsent, hscript, hfailed, hanswered⟩ := hcount
    rw [q.sent_noted c] at hsent
    refine ⟨?_, ?_, ?_, ?_⟩
    all_goals rw [Query.run_count_eq]
    · exact (Connection.sent_leave _).trans hsent
    · exact hscript
    · exact hfailed
    · exact hanswered

namespace Model

theorem settles_getAll (m : Model) (columns : List String) (c : Connection) :
    (m.getAll columns).Settles c none
      ((m.query.ready columns).map fun ready => ready.walkRequests c) := by
  refine Query.settles_openRows (fun h d => ?_) m.query columns c
  have hcollect : h.collectAll.Settles d none (.ok (h.requests d)) := h.relays_collectAll d
  exact Exec.settles_bind hcollect fun rows later _ =>
    Exec.relays_of_ok rfl (later.sent_note _) rfl

/-- A look-up casts its key before anything else. -/
theorem asks_find (m : Model) (id : KeyValue) (columns : List String) (c : Connection) :
    (m.find id columns).Asks c Exec.Relayed
      (m.restrict id >>= fun m => (Operation.first columns).opening m.query c) :=
  Exec.asks_ofExcept fun m _ => Operation.asks_first m.query columns c

theorem settles_findOrFail (m : Model) (id : KeyValue) (columns : List String) (c : Connection) :
    (m.findOrFail id columns).Settles c (some (.rowMissing m.query.tableName id.describe))
      ((m.restrict id >>= fun m => (Operation.first columns).opening m.query c).map
        fun s => [s]) := by
  refine Exec.settles_bind (Exec.settles_of_asks (asks_find m id columns c)) ?_
  intro row? later _
  cases row? with
  | none => exact Exec.relays_throw _ _
  | some row => exact Exec.relays_of_ok rfl rfl rfl

end Model

namespace Operation

/-- What the operation does where somebody waits for what is handed over. -/
def awaited (q : Query) (operation : Operation) : Exec Unit :=
  match operation.later? q with
  | some x => do
    let outcome ← x
    discard (Exec.ofExcept outcome)
  | none => operation.exec q

theorem awaited_of_later {q : Query} {operation : Operation} {x : Exec (Except Error Page)}
    (hlater : operation.later? q = some x) :
    operation.awaited q = x >>= fun outcome => discard (Exec.ofExcept outcome) := by
  rw [awaited, hlater]

theorem awaited_of_exec {q : Query} {operation : Operation} (hlater : operation.later? q = none) :
    operation.awaited q = operation.exec q := by
  rw [awaited, hlater]

/-- To wait or not to wait makes no difference to the connection. -/
theorem exec_eq_awaited (q : Query) (operation : Operation) (c : Connection) :
    ((operation.exec q).run c).2 = ((operation.awaited q).run c).2 := by
  cases hlater : operation.later? q with
  | none => rw [awaited_of_exec hlater]
  | some x =>
    rw [awaited_of_later hlater, exec_of_later hlater, Exec.run_discard, Exec.run_bind]
    rcases x.run c with ⟨outcome, later⟩
    cases outcome with
    | error e => rfl
    | ok reply =>
      cases reply with
      | error e => rfl
      | ok page => rfl

theorem asks_awaited {q : Query} {c : Connection} {operation : Operation}
    (hcount : operation.isCount = false) (hidle : operation.isIdle = false) :
    (operation.awaited q).Asks c Exec.Relayed (operation.opening q c) := by
  cases hlater : operation.later? q with
  | none =>
    rw [awaited_of_exec hlater]
    exact asks_exec hlater hcount hidle
  | some x =>
    rw [awaited_of_later hlater]
    refine Exec.asks_bind (k := fun outcome => outcome.map fun _ => ()) (asks_later hlater hidle)
      ?_ ?_
    · intro outcome d
      cases outcome with
      | error e => rfl
      | ok page => rfl
    · intro reply answer hanswer
      have hreply : answer = .ok reply := hanswer
      rw [hreply]
      cases reply with
      | error e => rfl
      | ok page => rfl

theorem run_awaited_of_idle {q : Query} {operation : Operation} (hidle : operation.isIdle = true)
    (c : Connection) :
    (operation.awaited q).run c = (.ok (), c.note (.emptyInsert q.tableName)) := by
  cases operation with
  | insert payload =>
    have hpayload : payload.isEmpty = true := hidle
    rw [awaited_of_exec rfl, exec, Query.insert, if_pos hpayload]
    rfl
  | insertLater payload drop =>
    have hpayload : payload.isEmpty = true := hidle
    rw [awaited_of_later rfl, Query.insertLater, if_pos hpayload]
    rfl
  | _ => cases hidle

/-- The statements that the operation sends, or the error of a check before them. -/
def requests (q : Query) (c : Connection) : Operation → Except Error (List Sent)
  | count columns => (q.ready columns).map fun ready => ready.walkRequests c
  | operation => if operation.isIdle then .ok [] else (operation.opening q c).map fun s => [s]

theorem requests_eq {q : Query} {c : Connection} {operation : Operation}
    (hcount : operation.isCount = false) :
    operation.requests q c =
      if operation.isIdle then .ok [] else (operation.opening q c).map fun s => [s] := by
  cases operation with
  | count columns => cases hcount
  | _ => rfl

theorem settles (operation : Operation) (q : Query) (c : Connection) :
    (operation.awaited q).Settles c none (operation.requests q c) := by
  cases hcount : operation.isCount with
  | true =>
    obtain ⟨columns, rfl⟩ := eq_count hcount
    exact Exec.settles_discard (q.settles_count columns c)
  | false =>
    rw [requests_eq hcount]
    cases hidle : operation.isIdle with
    | true => exact Exec.relays_of_ok (run_awaited_of_idle hidle c) (c.sent_note _) rfl
    | false => exact Exec.settles_of_asks (asks_awaited hcount hidle)

end Operation

end Cql
