import Cql.Proofs.Terminal

/-!
Where paging states come from. A statement that is not meant for one page of a size has no page
size, and its paging state, if it has one, came with the page that answered an earlier statement of
which it is a repetition. Handles, cursors and streams go back to such earlier statements.
-/

namespace Cql

namespace Sent

/-- The statement that comes at a place of a log asks for no page size, and it begins at the first
row or behind the page that answered an earlier statement, which it repeats. -/
def Plain (s : Sent) (c : Connection) (log : List Sent) (place : Nat) : Prop :=
  s.options.pageSize = none ∧
    (s.options.pagingState = none ∨
      ∃ i earlier page state, i < place ∧ log[i]? = some earlier ∧ c.answer i = .ok page ∧
        page.next = some state ∧ s = earlier.turned state)

variable {s : Sent} {c : Connection} {log : List Sent} {place : Nat}

theorem plain_append (h : s.Plain c log place) (hplace : place ≤ log.length) (more : List Sent) :
    s.Plain c (log ++ more) place := by
  obtain ⟨hsize, hstate⟩ := h
  refine ⟨hsize, ?_⟩
  rcases hstate with hnone | ⟨i, earlier, page, state, hi, hlog, hrest⟩
  · exact .inl hnone
  · refine .inr ⟨i, earlier, page, state, hi, ?_, hrest⟩
    rwa [List.getElem?_append_left (Nat.lt_of_lt_of_le hi hplace)]

end Sent

/-- Each of the statements that come after the given ones is plain at its place. -/
def Legal (c : Connection) (before requests : List Sent) : Prop :=
  ∀ (k : Nat) (s : Sent), requests[k]? = some s →
    s.Plain c (before ++ requests) (before.length + k)

section Legal

variable {c : Connection} {before first second : List Sent} {s : Sent}

theorem legal_nil (c : Connection) (before : List Sent) : Legal c before [] := by
  intro k s hs
  simp at hs

theorem legal_singleton (h : s.Plain c before before.length) : Legal c before [s] := by
  intro k found hfound
  cases k with
  | zero =>
    obtain rfl : s = found := by simpa using hfound
    exact Sent.plain_append h (Nat.le_refl _) [s]
  | succ k => simp at hfound

theorem legal_append (hfirst : Legal c before first) (hsecond : Legal c (before ++ first) second) :
    Legal c before (first ++ second) := by
  intro k s hs
  by_cases hk : k < first.length
  · rw [List.getElem?_append_left hk] at hs
    rw [← List.append_assoc]
    refine Sent.plain_append (hfirst k s hs) ?_ second
    rw [List.length_append]
    omega
  · obtain ⟨j, rfl⟩ := Nat.exists_eq_add_of_le (Nat.le_of_not_lt hk)
    rw [List.getElem?_append_right (Nat.le_add_right ..), Nat.add_sub_cancel_left] at hs
    have hplain := hsecond j s hs
    rwa [List.append_assoc, List.length_append, Nat.add_assoc] at hplain

end Legal

namespace Connection

variable {c d e f : Connection} {requests : List Sent}

/-- The later connection has taken one reply of the script for each statement of its log. -/
def Continues (c d : Connection) : Prop :=
  d.script = c.script.drop d.sent.length

theorem continues_of_sent (hd : c.Continues d) (hsent : e.sent = d.sent ++ requests)
    (hscript : e.script = d.script.drop requests.length) : c.Continues e := by
  unfold Continues at hd ⊢
  rw [hscript, hd, List.drop_drop, hsent, List.length_append]

theorem answer_of_continues (hd : c.Continues d) : c.answer d.sent.length = d.reply.outcome := by
  rw [← Nat.add_zero d.sent.length, ← answer_of_drop hd, answer_zero]

/-- What is sent between one connection and a later one is legal. -/
structure Onward (c d e : Connection) : Prop where
  continues : c.Continues e
  sent : ∃ requests, e.sent = d.sent ++ requests ∧ Legal c d.sent requests

theorem onward_refl (hd : c.Continues d) : c.Onward d d :=
  ⟨hd, [], (List.append_nil _).symm, legal_nil c _⟩

theorem Onward.trans (hfirst : c.Onward d e) (hsecond : c.Onward e f) : c.Onward d f := by
  obtain ⟨_, first, hfirst, hlegal⟩ := hfirst
  obtain ⟨hcontinues, second, hsecond, hlegal'⟩ := hsecond
  rw [hfirst] at hsecond hlegal'
  exact ⟨hcontinues, first ++ second, by rw [hsecond, List.append_assoc],
    legal_append hlegal hlegal'⟩

theorem onward_of_legal (hd : c.Continues d) (hsent : e.sent = d.sent ++ requests)
    (hscript : e.script = d.script.drop requests.length) (hlegal : Legal c d.sent requests) :
    c.Onward d e :=
  ⟨continues_of_sent hd hsent hscript, requests, hsent, hlegal⟩

end Connection

namespace Handle

variable {h : Handle} {c d : Connection} {state : PagingState} {page : Page} {log : List Sent}

/-- The page of the handle answered a statement of the log, and the handle asks for its next page by
that statement. -/
def Fetched (h : Handle) (c : Connection) (log : List Sent) : Prop :=
  h.options.pageSize = none ∧
    ∃ i opening, log[i]? = some opening ∧ c.answer i = .ok h.page ∧ h.Follows opening

theorem fetched_append (hfetched : h.Fetched c log) (more : List Sent) :
    h.Fetched c (log ++ more) := by
  obtain ⟨hsize, i, opening, hlog, hrest⟩ := hfetched
  obtain ⟨hi, _⟩ := List.getElem?_eq_some_iff.mp hlog
  exact ⟨hsize, i, opening, by rwa [List.getElem?_append_left hi], hrest⟩

/-- A page that answers the next statement of the log. -/
theorem fetched_of_reply (hd : c.Continues d) (hreply : d.reply.outcome = .ok h.page)
    (hsize : h.options.pageSize = none) {opening : Sent} (hfollows : h.Follows opening) :
    h.Fetched c (d.sent ++ [opening]) := by
  refine ⟨hsize, d.sent.length, opening, ?_, ?_, hfollows⟩
  · rw [List.getElem?_concat_length]
  · rw [Connection.answer_of_continues hd, hreply]

theorem plain_request (hfetched : h.Fetched c log) (hstate : h.page.next = some state) :
    (h.request state).Plain c log log.length := by
  obtain ⟨hsize, i, opening, hlog, hanswer, hfollows⟩ := hfetched
  obtain ⟨hi, _⟩ := List.getElem?_eq_some_iff.mp hlog
  exact ⟨hsize, .inr ⟨i, opening, h.page, state, hi, hlog, hanswer, hstate, hfollows state⟩⟩

theorem plain_nextRequest {s : Sent} (hfetched : h.Fetched c log) (hs : h.nextRequest = .ok s) :
    s.Plain c log log.length := by
  unfold nextRequest at hs
  split at hs
  · cases hs
  · rename_i state hstate
    rw [← Except.ok.inj hs]
    exact plain_request hfetched hstate

theorem onward_asked (hd : c.Continues d) (hfetched : h.Fetched c d.sent)
    (hstate : h.page.next = some state) : c.Onward d (h.asked state d) := by
  have hlegal : Legal c d.sent [h.request state] :=
    legal_singleton (plain_request hfetched hstate)
  exact Connection.onward_of_legal hd (h.sent_asked state d) List.drop_one.symm hlegal

theorem fetched_turned (hd : c.Continues d) (hfetched : h.Fetched c d.sent)
    (hreply : d.reply.outcome = .ok page) :
    (h.turned state page).Fetched c (h.asked state d).sent := by
  have hfollows : (h.turned state page).Follows (h.request state) := fun _ => rfl
  rw [sent_asked]
  exact fetched_of_reply (h := h.turned state page) hd hreply hfetched.1 hfollows

/-- A turn of the page, with the handle of the next one. -/
theorem onward_next (hd : c.Continues d) (hfetched : h.Fetched c d.sent) :
    c.Onward d (h.next d).2 ∧
      ∀ later, (h.next d).1 = .ok later → later.Fetched c (h.next d).2.sent := by
  cases hstate : h.page.next with
  | none =>
    rw [next_of_last hstate]
    exact ⟨Connection.onward_refl hd, nofun⟩
  | some state =>
    have honward := onward_asked hd hfetched hstate
    cases hreply : d.reply.outcome with
    | error e =>
      rw [next_failed hstate hreply]
      exact ⟨honward, nofun⟩
    | ok page =>
      rw [next_turned hstate hreply]
      refine ⟨honward, ?_⟩
      intro later hlater
      rw [← Except.ok.inj hlater]
      exact fetched_turned hd hfetched hreply

theorem legal_requests (hd : c.Continues d) (hfetched : h.Fetched c d.sent) :
    Legal c d.sent (h.requests d) := by
  induction h, d using walk_induction with
  | last h d hlast =>
    rw [requests, walk_of_last hlast]
    exact legal_nil c _
  | failed h d state e hstate hreply =>
    rw [requests, walk_failed hstate hreply]
    exact legal_singleton (plain_request hfetched hstate)
  | turned h d state page hstate hreply ih =>
    have hfirst : Legal c d.sent [h.request state] :=
      legal_singleton (plain_request hfetched hstate)
    have hrest := ih (onward_asked hd hfetched hstate).continues (fetched_turned hd hfetched hreply)
    rw [sent_asked] at hrest
    rw [requests, walk_turned hstate hreply]
    exact legal_append hfirst hrest

end Handle

namespace Query

variable {q ready : Query} {columns : List String} {c d : Connection}

theorem legal_opening (q : Query) (c d : Connection) : Legal c d.sent [q.opening] :=
  legal_singleton ⟨rfl, .inl rfl⟩

theorem onward_selected (hd : c.Continues d) (q : Query) : c.Onward d (q.selected d) :=
  Connection.onward_of_legal hd (q.sent_selected d) List.drop_one.symm (q.legal_opening c d)

theorem fetched_opened {page : Page} (hd : c.Continues d) (hreply : d.reply.outcome = .ok page)
    (q : Query) : (q.opened page).Fetched c (q.selected d).sent := by
  rw [sent_selected]
  exact Handle.fetched_of_reply hd hreply rfl (follows_opened q page)

theorem onward_openRows (hd : c.Continues d) (q : Query) (columns : List String) :
    c.Onward d ((q.openRows columns).run d).2 ∧
      ∀ h, ((q.openRows columns).run d).1 = .ok h →
        h.Fetched c ((q.openRows columns).run d).2.sent := by
  refine ⟨?_, ?_⟩
  · cases hready : q.ready columns with
    | error e =>
      rw [run_openRows_refused d hready]
      exact Connection.onward_refl hd
    | ok ready =>
      rw [run_openRows d hready]
      exact onward_selected hd ready
  · intro h hopen
    have hrun : (q.openRows columns).run d = (.ok h, ((q.openRows columns).run d).2) :=
      Prod.ext hopen rfl
    obtain ⟨ready, page, _, hreply, rfl, hlater⟩ := opened_of_run hrun
    rw [← hlater]
    exact fetched_opened hd hreply ready

theorem legal_walkRequests (hd : c.Continues d) (q : Query) :
    Legal c d.sent (q.walkRequests d) := by
  unfold walkRequests
  cases hreply : d.reply.outcome with
  | error e => exact q.legal_opening c d
  | ok page =>
    have hrest :=
      Handle.legal_requests (onward_selected hd q).continues (fetched_opened hd hreply q)
    rw [sent_selected] at hrest
    exact legal_append (q.legal_opening c d) hrest

end Query

namespace Cursor

variable {cursor : Cursor} {c d : Connection} {log : List Sent}

/-- The page that the cursor is at was fetched. -/
def Fetched (cursor : Cursor) (c : Connection) (log : List Sent) : Prop :=
  match cursor with
  | here h | after h => h.Fetched c log
  | done => True

theorem fetched_append (hfetched : cursor.Fetched c log) (more : List Sent) :
    cursor.Fetched c (log ++ more) := by
  cases cursor with
  | here h => exact Handle.fetched_append hfetched more
  | after h => exact Handle.fetched_append hfetched more
  | done => trivial

theorem fetched_past {h : Handle} (hfetched : h.Fetched c log) : (past h).Fetched c log := by
  unfold past
  split
  · trivial
  · exact hfetched

theorem onward_next (hd : c.Continues d) (hfetched : cursor.Fetched c d.sent) :
    c.Onward d (cursor.next d).2 ∧ (cursor.next d).1.2.Fetched c (cursor.next d).2.sent := by
  cases cursor with
  | here h => exact ⟨Connection.onward_refl hd, fetched_past hfetched⟩
  | done => exact ⟨Connection.onward_refl hd, trivial⟩
  | after h =>
    obtain ⟨honward, hlater⟩ := Handle.onward_next hd hfetched
    rcases hnext : h.next d with ⟨outcome, later⟩
    rw [hnext] at honward hlater
    cases outcome with
    | ok fetched =>
      simp only [next, hnext]
      exact ⟨honward, fetched_past (hlater fetched rfl)⟩
    | error e =>
      simp only [next, hnext]
      obtain ⟨requests, hsent, _⟩ := honward.sent
      refine ⟨honward, ?_⟩
      rw [hsent]
      exact Handle.fetched_append hfetched requests

end Cursor

namespace RowStream

variable {c d : Connection}

/-- A pull, which may fetch several pages. -/
theorem onward_next (s : RowStream) (hd : c.Continues d) (hfetched : s.pages.Fetched c d.sent) :
    c.Onward d (s.next d).2 ∧ (s.next d).1.2.pages.Fetched c (s.next d).2.sent := by
  -- on the pages that are passed before one has a row
  induction s, d using RowStream.next.induct with
  | case1 s d row rest hready =>
    obtain ⟨ready, pages⟩ := s
    obtain rfl : ready = row :: rest := hready
    rw [next_ready]
    exact ⟨Connection.onward_refl hd, hfetched⟩
  | case2 s d hready rows later after hnext ih =>
    obtain ⟨ready, pages⟩ := s
    obtain rfl : ready = [] := hready
    have hpages := Cursor.onward_next hd hfetched
    rw [hnext] at hpages
    obtain ⟨honward, hlater⟩ := hpages
    obtain ⟨hrest, hfetched'⟩ := ih honward.continues hlater
    rw [next_refill hnext]
    exact ⟨honward.trans hrest, hfetched'⟩
  | case3 s d hready later after hnext =>
    obtain ⟨ready, pages⟩ := s
    obtain rfl : ready = [] := hready
    have hpages := Cursor.onward_next hd hfetched
    rw [hnext] at hpages
    rw [next_step, hnext]
    exact hpages
  | case4 s d hready e later after hnext =>
    obtain ⟨ready, pages⟩ := s
    obtain rfl : ready = [] := hready
    have hpages := Cursor.onward_next hd hfetched
    rw [hnext] at hpages
    rw [next_failed hnext]
    exact ⟨hpages.1, trivial⟩

end RowStream

namespace Terminal

/-- The handle that is used. -/
def handle? : Terminal → Option Handle
  | next h | walk h _ => some h
  | _ => none

/-- One page of a size is asked for. -/
def paginates : Terminal → Bool
  | operate _ (.paginate _ _ _) => true
  | _ => false

variable {t : Terminal} {c d : Connection} {before sent : List Sent}

theorem plain_opening {q : Query} {operation : Operation} {s : Sent}
    (hpaginates : (operate q operation).paginates = false) (h : operation.opening q d = .ok s)
    (log : List Sent) (place : Nat) : s.Plain c log place := by
  obtain ⟨_, _, statement, _, _, rfl⟩ := Operation.opening_eq_ok_iff.mp h
  cases operation with
  | paginate => cases hpaginates
  | _ => exact ⟨rfl, .inl rfl⟩

theorem plain_find {m : Model} {id : KeyValue} {columns : List String} {s : Sent}
    (h : (m.restrict id >>= fun m => (Operation.first columns).opening m.query d) = .ok s)
    (log : List Sent) (place : Nat) : s.Plain c log place := by
  obtain ⟨restricted, _, hopening⟩ := Outcome.bind_eq_ok_iff.mp h
  have hpaginates : (operate restricted.query (.first columns)).paginates = false := rfl
  exact plain_opening hpaginates hopening log place

/-- A single statement. -/
theorem legal_of_map {opening : Except Error Sent}
    (h : (opening.map fun s => [s]) = .ok sent)
    (hplain : ∀ s, opening = .ok s → s.Plain c before before.length) : Legal c before sent := by
  cases opening with
  | error e => cases h
  | ok s =>
    rw [← Except.ok.inj h]
    exact legal_singleton (hplain s rfl)

theorem legal_walk {ready : Except Error Query} (hd : c.Continues d)
    (h : (ready.map fun ready => ready.walkRequests d) = .ok sent) : Legal c d.sent sent := by
  cases ready with
  | error e => cases h
  | ok ready =>
    rw [← Except.ok.inj h]
    exact Query.legal_walkRequests hd ready

theorem legal_requests (hd : c.Continues d)
    (hhandle : ∀ h, t.handle? = some h → h.Fetched c d.sent) (hpaginates : t.paginates = false)
    (h : t.requests d = .ok sent) : Legal c d.sent sent := by
  cases t with
  | operate q operation =>
    cases hcount : operation.isCount with
    | true =>
      obtain ⟨columns, rfl⟩ := Operation.eq_count hcount
      exact legal_walk hd h
    | false =>
      rw [requests, Operation.requests_eq hcount] at h
      split at h
      · rw [← Except.ok.inj h]
        exact legal_nil c _
      · exact legal_of_map h fun s hs => plain_opening hpaginates hs _ _
  | find m id columns => exact legal_of_map h fun s hs => plain_find hs _ _
  | findOrFail m id columns => exact legal_of_map h fun s hs => plain_find hs _ _
  | getAll m columns => exact legal_walk hd h
  | next handle =>
    exact legal_of_map h fun s hs => Handle.plain_nextRequest (hhandle handle rfl) hs
  | walk handle walker =>
    rw [← Except.ok.inj h]
    exact Handle.legal_requests hd (hhandle handle rfl)

/-- What is sent besides pages of a size is legal. -/
theorem onward_exec (hd : c.Continues d) (hhandle : ∀ h, t.handle? = some h → h.Fetched c d.sent)
    (hpaginates : t.paginates = false) : c.Onward d (t.exec.run d).2 := by
  have hsettles := t.settles d
  cases hrequests : t.requests d with
  | error e =>
    rw [hrequests] at hsettles
    obtain ⟨_, hsent, hscript⟩ := hsettles
    exact Connection.onward_of_legal hd (hsent.trans (List.append_nil _).symm) hscript
      (legal_nil c _)
  | ok sent =>
    rw [hrequests] at hsettles
    exact Connection.onward_of_legal hd hsettles.sent hsettles.script
      (legal_requests hd hhandle hpaginates hrequests)

end Terminal

end Cql
