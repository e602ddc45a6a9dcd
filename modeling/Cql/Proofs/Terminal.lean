import Cql.Proofs.Refusal
import Cql.Proofs.Relaying

/-!
Everything that sends statements. Each statement is sent once: an operation sends one, a walk one for
each page. The first error that the connection answers is the end of it and is handed on as it came;
an error of another making comes before anything is sent, or of a look-up whose replies all arrived.
-/

namespace Cql

/-- What sends statements: the operations on a query and on a model, a turn of a page and a walk over
pages. -/
inductive Terminal where
  | operate (q : Query) (operation : Operation)
  | find (m : Model) (id : KeyValue) (columns : List String)
  | findOrFail (m : Model) (id : KeyValue) (columns : List String)
  | getAll (m : Model) (columns : List String)
  | next (h : Handle)
  | walk (h : Handle) (walker : Walker)

namespace Terminal

def exec : Terminal → Exec Unit
  | operate q operation => operation.awaited q
  | find m id columns => discard (m.find id columns)
  | findOrFail m id columns => discard (m.findOrFail id columns)
  | getAll m columns => discard (m.getAll columns)
  | next h => discard (ExceptT.mk h.next)
  | walk h walker => walker.exec h

/-- The statements that are sent, or the error of a check before them. -/
def requests (c : Connection) : Terminal → Except Error (List Sent)
  | operate q operation => operation.requests q c
  | getAll m columns => (m.query.ready columns).map fun ready => ready.walkRequests c
  | find m id columns | findOrFail m id columns =>
    (m.restrict id >>= fun m => (Operation.first columns).opening m.query c).map fun s => [s]
  | next h => h.nextRequest.map fun s => [s]
  | walk h _ => .ok (h.requests c)

/-- The error that is added to those of the connection. -/
def own? : Terminal → Option Error
  | findOrFail m id _ => some (.rowMissing m.query.tableName id.describe)
  | _ => none

/-- One page after another is asked for. -/
def walks : Terminal → Bool
  | operate _ operation => operation.isCount
  | getAll _ _ | walk _ _ => true
  | _ => false

/-- There is nothing to send. -/
def isDone : Terminal → Bool
  | operate _ operation => operation.isIdle
  | walk h _ => h.page.isLast
  | _ => false

theorem settles (t : Terminal) (c : Connection) : t.exec.Settles c t.own? (t.requests c) := by
  cases t with
  | operate q operation => exact operation.settles q c
  | find m id columns =>
    exact Exec.settles_discard (Exec.settles_of_asks (m.asks_find id columns c))
  | findOrFail m id columns => exact Exec.settles_discard (m.settles_findOrFail id columns c)
  | getAll m columns => exact Exec.settles_discard (m.settles_getAll columns c)
  | next h => exact Exec.settles_discard (Exec.settles_of_asks (h.asks_next c))
  | walk h walker => exact h.relays_walker walker c

/-- Where nothing is sent, the error is none that only a connection answers with. -/
theorem local_requests (t : Terminal) (c : Connection) : Outcome.Local (t.requests c) := by
  have hselect (q : Query) (columns : List String) :
      Outcome.Local ((q.ready columns).map fun ready => ready.walkRequests c) :=
    Outcome.local_map (Outcome.local_bind q.local_requireTable fun _ =>
      q.local_selectDefault columns) _
  have hfind (m : Model) (id : KeyValue) (columns : List String) :
      Outcome.Local ((m.restrict id >>= fun m =>
        (Operation.first columns).opening m.query c).map fun s => [s]) :=
    Outcome.local_map (Outcome.local_bind (m.local_restrict id) fun m =>
      Operation.local_opening m.query c (.first columns)) _
  cases t with
  | operate q operation =>
    cases hcount : operation.isCount with
    | true =>
      obtain ⟨columns, rfl⟩ := Operation.eq_count hcount
      exact hselect q columns
    | false =>
      rw [requests, Operation.requests_eq hcount]
      exact Outcome.local_ite (Outcome.local_ok [])
        (Outcome.local_map (Operation.local_opening q c operation) _)
  | find m id columns => exact hfind m id columns
  | findOrFail m id columns => exact hfind m id columns
  | getAll m columns => exact hselect m.query columns
  | next h =>
    refine Outcome.local_map ?_ _
    unfold Handle.nextRequest
    split
    · exact Outcome.local_error rfl
    · exact Outcome.local_ok _
  | walk h walker => exact Outcome.local_ok _

theorem length_of_map {opening : Except Error Sent} {requests : List Sent}
    (h : (opening.map fun s => [s]) = .ok requests) : requests.length = 1 := by
  cases opening with
  | error e => cases h
  | ok s =>
    obtain rfl := Except.ok.inj h
    rfl

theorem pages_of_map {ready : Except Error Query} {c : Connection} {requests : List Sent}
    (h : (ready.map fun ready => ready.walkRequests c) = .ok requests) :
    requests ≠ [] ∧ c.Pages requests.length := by
  cases ready with
  | error e => cases h
  | ok ready =>
    obtain rfl := Except.ok.inj h
    refine ⟨List.cons_ne_nil _ _, ?_⟩
    rw [ready.length_walkRequests c ⟨[]⟩]
    exact Walk.pages_along _ c

/-- How many statements are sent: none where there is nothing to do, one for each page of a walk, and
otherwise one. -/
theorem length_requests {t : Terminal} {c : Connection} {requests : List Sent}
    (h : t.requests c = .ok requests) :
    (requests = [] ↔ t.isDone = true) ∧
      if t.walks then c.Pages requests.length else requests.length ≤ 1 := by
  have hone (hlength : requests.length = 1) (hdone : t.isDone = false) (hwalks : t.walks = false) :
      (requests = [] ↔ t.isDone = true) ∧
        if t.walks then c.Pages requests.length else requests.length ≤ 1 := by
    rw [hdone, hwalks]
    refine ⟨iff_of_false ?_ nofun, Nat.le_of_eq hlength⟩
    rintro rfl
    cases hlength
  cases t with
  | operate q operation =>
    cases hcount : operation.isCount with
    | true =>
      obtain ⟨columns, rfl⟩ := Operation.eq_count hcount
      obtain ⟨hsome, hpages⟩ := pages_of_map h
      exact ⟨iff_of_false hsome nofun, hpages⟩
    | false =>
      rw [Terminal.requests, Operation.requests_eq hcount] at h
      cases hidle : operation.isIdle with
      | true =>
        rw [hidle] at h
        obtain rfl := Except.ok.inj h
        rw [walks, hcount]
        exact ⟨iff_of_true rfl hidle, Nat.zero_le 1⟩
      | false =>
        rw [hidle] at h
        exact hone (length_of_map h) hidle hcount
  | find m id columns => exact hone (length_of_map h) rfl rfl
  | findOrFail m id columns => exact hone (length_of_map h) rfl rfl
  | getAll m columns =>
    obtain ⟨hsome, hpages⟩ := pages_of_map h
    exact ⟨iff_of_false hsome nofun, hpages⟩
  | next handle => exact hone (length_of_map h) rfl rfl
  | walk handle walker =>
    obtain rfl := Except.ok.inj h
    refine ⟨?_, ?_⟩
    · rw [Handle.requests, List.map_eq_nil_iff, Handle.walk, Walk.along_eq_nil_iff, isDone,
        Page.isLast, Option.isNone_iff_eq_none]
    · have hlength : (handle.requests c).length = (handle.walk c).length := List.length_map ..
      rw [hlength]
      exact Walk.pages_along _ c

/-- Every statement is sent once. Either a check fails, with an error that is none of those that only
a connection answers with, and nothing is sent; or what is sent is one statement, or one for each
page up to the first failure, and the error of a reply is handed on as it came. Not to wait for a
reply changes nothing that is sent, and a key is cast before anything is. -/
theorem exec_relays (t : Terminal) (c : Connection) :
    (∀ e, t.requests c = .error e →
      (t.exec.run c).1 = .error e ∧ (t.exec.run c).2.sent = c.sent ∧
        e.kind.isTransport = false) ∧
    (∀ requests, t.requests c = .ok requests →
      t.exec.Relays c requests t.own? ∧
      (requests = [] ↔ t.isDone = true) ∧
      if t.walks then c.Pages requests.length else requests.length ≤ 1) ∧
    (∀ e, t.own? = some e → e.kind = .notFound) ∧
    (∀ q operation, t = operate q operation →
      ((operation.exec q).run c).2 = (t.exec.run c).2) ∧
    ∀ m id columns e, t = find m id columns ∨ t = findOrFail m id columns →
      m.restrict id = .error e → t.exec.run c = (.error e, c) := by
  have hsettles := t.settles c
  refine ⟨?_, ?_, ?_, ?_, ?_⟩
  · intro e he
    rw [he] at hsettles
    obtain ⟨houtcome, hsent, _⟩ := hsettles
    exact ⟨houtcome, hsent, t.local_requests c e he⟩
  · intro requests hrequests
    rw [hrequests] at hsettles
    exact ⟨hsettles, length_requests hrequests⟩
  · intro e he
    cases t with
    | findOrFail m id columns => rw [← Option.some.inj he]; rfl
    | _ => cases he
  · intro q operation ht
    rw [ht]
    exact Operation.exec_eq_awaited q operation c
  · intro m id columns e ht hid
    have hfind : (m.find id columns).run c = (.error e, c) := by
      rw [Model.find, hid]
      rfl
    rcases ht with rfl | rfl
    · exact Exec.run_bind_error hfind
    · exact Exec.run_bind_error (Exec.run_bind_error hfind)

/-- A walk that breaks off at its second statement with the error of the connection, and a key that
is refused before anything is sent. -/
theorem exec_relays_of_users :
    ∃ (m : Model) (c : Connection) (requests : List Sent),
      (getAll m ["*"]).requests c = .ok requests ∧ requests.length = 2 ∧
      ((getAll m ["*"]).exec.run c).1 = .error (.raised .timeout "late") ∧
      ((getAll m ["*"]).exec.run c).2.sent = requests ∧
      (find m (.composite []) ["*"]).exec.run c = (.error (.keyColumnMissing "id"), c) := by
  let m : Model := ⟨{ table := some "users" }, .single "id"⟩
  let c : Connection :=
    { script := [⟨.ok ⟨[], some ⟨[1]⟩⟩, 0⟩, ⟨.error (.raised .timeout "late"), 0⟩,
        ⟨.ok ⟨[], none⟩, 0⟩]
      settings := {} }
  obtain ⟨_, hwalk, _⟩ := exec_relays (getAll m ["*"]) c
  obtain ⟨hrelays, _, _⟩ := hwalk _ rfl
  obtain ⟨hlength, houtcome⟩ := hrelays.failed 1 (.raised .timeout "late") (by decide) rfl
  obtain ⟨_, _, _, _, hkey⟩ := exec_relays (find m (.composite []) ["*"]) c
  exact ⟨m, c, _, rfl, hlength, houtcome, hrelays.sent, hkey m _ _ _ (.inl rfl) rfl⟩

end Terminal

end Cql
