import Cql.Proofs.Provenance

/-!
Runs of a client. A client of a session holds queries, models, page handles, cursors and streams, as
many as it likes, and acts on them in any order. Whatever it does, a statement has a page size only
if it asks for a page of that size, and its paging state is one that the client handed in for it or
one that the connection answered with before.
-/

namespace Cql

namespace Call

/-- The page size that the last of the calls which sets one has set. -/
def lastPageSize? (calls : List Call) : Option Int32 :=
  (calls.filterMap pageSize?).getLast?

theorem pageSize_foldl_after (q : Query) (calls : List Call) :
    (calls.foldl after q).pageSize = (lastPageSize? calls).getD q.pageSize := by
  induction calls generalizing q with
  | nil => rfl
  | cons call calls ih =>
    have hafter : (after q call).pageSize = call.pageSize?.getD q.pageSize := rfl
    rw [List.foldl_cons, ih, hafter, lastPageSize?, lastPageSize?, List.filterMap_cons]
    cases call.pageSize? with
    | none => rfl
    | some size => simp [List.getLast?_cons]

end Call

namespace Session

/-- The session has the standard settings, or settings that it accepted. -/
inductive Obtained : Session → Prop
  | standard : Obtained {}
  | configured {settings : SessionSettings} {s : Session} {c later : Connection}
      (h : (configure settings).run c = (.ok s, later)) : Obtained s

theorem pageSize_pos {s : Session} (h : s.Obtained) : 0 < s.settings.pageSize := by
  cases h with
  | standard => decide
  | @configured settings s c later h =>
    rw [configure, Exec.run_within] at h
    cases hvalid : settings.validate with
    | error e =>
      rw [hvalid] at h
      cases h
    | ok _ =>
      rw [hvalid] at h
      obtain rfl : (⟨settings⟩ : Session) = s := Except.ok.inj (congrArg Prod.fst h)
      unfold SessionSettings.validate at hvalid
      split at hvalid
      · cases hvalid
      · rename_i hpos
        exact Int32.not_le.mp hpos

/-- The query comes of calls that began with a new query of the session. -/
def Made (s : Session) (q : Query) : Prop :=
  ∃ calls, Call.applyAll s.query calls = .ok q

variable {s : Session} {q later : Query}

theorem made_query (s : Session) : s.Made s.query :=
  ⟨[], rfl⟩

theorem made_applyAll {calls : List Call} (hq : s.Made q) (h : Call.applyAll q calls = .ok later) :
    s.Made later := by
  obtain ⟨before, hbefore⟩ := hq
  refine ⟨before ++ calls, ?_⟩
  rw [Call.applyAll, List.foldlM_append]
  exact Outcome.bind_eq_ok_iff.mpr ⟨q, hbefore, h⟩

theorem made_apply {call : Call} (hq : s.Made q) (h : call.apply q = .ok later) :
    s.Made later := by
  have hcalls : Call.applyAll q [call] = .ok later :=
    Outcome.foldlM_cons_eq_ok_iff.mpr ⟨later, h, Outcome.foldlM_nil_eq_ok_iff.mpr rfl⟩
  exact made_applyAll hq hcalls

end Session

/-- What a client may have in hand. -/
inductive Holding where
  | query (q : Query)
  | model (m : Model)
  | handle (h : Handle)
  | cursor (cursor : Cursor)
  | stream (stream : RowStream)

/-- A connection and what was obtained so far. -/
structure Client where
  connection : Connection
  held : List Holding

namespace Terminal

/-- What is worked on. -/
def subject : Terminal → Holding
  | operate q _ => .query q
  | find m _ _ | findOrFail m _ _ | getAll m _ => .model m
  | next h | walk h _ => .handle h

/-- The page handle that is obtained. -/
def opens? (c : Connection) : Terminal → Option Handle
  | operate q (.openRows columns) => ((q.openRows columns).run c).1.toOption
  | next h => (h.next c).1.toOption
  | _ => none

end Terminal

inductive Action where
  /-- A query of the session. -/
  | query
  | call (q : Query) (call : Call)
  | model (q : Query) (key : PrimaryKey)
  | restrict (m : Model) (id : KeyValue)
  /-- Calls on the query of a model. -/
  | mapModel (m : Model) (calls : List Call)
  | modelQuery (m : Model)
  | run (t : Terminal)
  | intoCursor (h : Handle)
  | cursorNext (cursor : Cursor)
  | intoStream (h : Handle)
  /-- Pulls one item. -/
  | pull (stream : RowStream)

namespace Action

/-- What has to be in hand. -/
def subject? : Action → Option Holding
  | query => none
  | call q _ | model q _ => some (.query q)
  | restrict m _ | mapModel m _ | modelQuery m => some (.model m)
  | run t => some t.subject
  | intoCursor h | intoStream h => some (.handle h)
  | cursorNext cursor => some (.cursor cursor)
  | pull stream => some (.stream stream)

/-- What is obtained by the action, and the connection after it. -/
def effect (s : Session) (c : Connection) : Action → Option Holding × Connection
  | query => (some (.query s.query), c)
  | call q step => ((step.apply q).toOption.map .query, c)
  | model q key => ((Model.ofQuery q key).toOption.map .model, c)
  | restrict m id => ((m.restrict id).toOption.map .model, c)
  | mapModel m calls => ((m.mapQuery fun q => Call.applyAll q calls).toOption.map .model, c)
  | modelQuery m => (some (.query m.query), c)
  | run t => ((t.opens? c).map .handle, (t.exec.run c).2)
  | intoCursor h => (some (.cursor (.here h)), c)
  | cursorNext cursor => (some (.cursor (cursor.next c).1.2), (cursor.next c).2)
  | intoStream h => (some (.stream (.ofHandle h)), c)
  | pull stream => (some (.stream (stream.next c).1.2), (stream.next c).2)

/-- What an action of a client may send, behind what was sent before: for one page of a size that
statement, with the size that is asked for or else the one that was last set on the query, and with
the paging state that was handed in; and besides nothing that is not legal. -/
def Admits (s : Session) (c : Connection) (before sent : List Sent) : Action → Prop
  | run (.operate q (.paginate size _ state)) =>
    s.Made q ∧ ∀ calls, Call.applyAll s.query calls = .ok q → ∀ request ∈ sent,
      request.options.pageSize =
          some (size.getD ((Call.lastPageSize? calls).getD s.settings.pageSize)) ∧
        0 < size.getD ((Call.lastPageSize? calls).getD s.settings.pageSize) ∧
        request.options.pagingState = state
  | run (.next h) =>
    Legal c before sent ∧ ∀ request ∈ sent, request.options.pagingState = h.page.next
  | _ => Legal c before sent

end Action

namespace Client

/-- The client after an action. -/
def perform (s : Session) (w : Client) (a : Action) : Client :=
  let step := a.effect s w.connection
  ⟨step.2, w.held ++ step.1.toList⟩

/-- Actions one after another, each on something in hand. -/
inductive Runs (s : Session) : Client → List Action → Client → Prop
  | nil (w : Client) : Runs s w [] w
  | cons {w final : Client} {a : Action} {actions : List Action}
      (hsubject : ∀ x, a.subject? = some x → x ∈ w.held) (h : Runs s (w.perform s a) actions final) :
    Runs s w (a :: actions) final

/-- The statements are what the actions may send, one action after another. -/
def Admitted (s : Session) (c : Connection) (before : List Sent) :
    List Action → List Sent → Prop
  | [], sent => sent = []
  | a :: actions, sent => ∃ first rest, sent = first ++ rest ∧ a.Admits s c before first ∧
      Admitted s c (before ++ first) actions rest

end Client

/-- A holding goes back to the session or to a statement of the log. -/
def Holding.Sound (s : Session) (c : Connection) (log : List Sent) : Holding → Prop
  | query q => s.Made q
  | model m => s.Made m.query
  | handle h => h.Fetched c log
  | cursor pages => pages.Fetched c log
  | stream rows => rows.pages.Fetched c log

theorem Holding.sound_append {s : Session} {c : Connection} {log : List Sent} {x : Holding}
    (h : x.Sound s c log) (more : List Sent) : x.Sound s c (log ++ more) := by
  cases x with
  | query q => exact h
  | model m => exact h
  | handle handle => exact Handle.fetched_append h more
  | cursor cursor => exact Cursor.fetched_append h more
  | stream stream => exact Cursor.fetched_append h more

theorem eq_ok_of_toOption {α : Type} {outcome : Except Error α} {a : α}
    (h : outcome.toOption = some a) : outcome = .ok a := by
  cases outcome with
  | error e => cases h
  | ok b => rw [Option.some.inj h]

namespace Terminal

variable {c d : Connection}

theorem fetched_opens {t : Terminal} {s : Session} {h : Handle} (hd : c.Continues d)
    (hsubject : t.subject.Sound s c d.sent) (hopens : t.opens? d = some h) :
    h.Fetched c (t.exec.run d).2.sent := by
  cases t with
  | operate q operation =>
    cases operation with
    | openRows columns =>
      have hrun : ((operate q (.openRows columns)).exec.run d).2 =
          ((q.openRows columns).run d).2 := congrArg Prod.snd (Exec.run_discard _ d)
      rw [hrun]
      exact (Query.onward_openRows hd q columns).2 h (eq_ok_of_toOption hopens)
    | _ => cases hopens
  | next handle =>
    have hrun : ((next handle).exec.run d).2 = (handle.next d).2 :=
      congrArg Prod.snd (Exec.run_discard _ d)
    rw [hrun]
    exact (Handle.onward_next hd hsubject).2 h (eq_ok_of_toOption hopens)
  | _ => cases hopens

end Terminal

namespace Terminal

/-- The statements that are sent. -/
def sends (t : Terminal) (c : Connection) : List Sent :=
  match t.requests c with
  | .ok requests => requests
  | .error _ => []

variable {c d : Connection} {request : Sent}

theorem sent_exec (t : Terminal) (d : Connection) :
    (t.exec.run d).2.sent = d.sent ++ t.sends d ∧
      (t.exec.run d).2.script = d.script.drop (t.sends d).length := by
  have hsettles := t.settles d
  unfold sends
  cases hrequests : t.requests d with
  | error e =>
    rw [hrequests] at hsettles
    exact ⟨hsettles.2.1.trans (List.append_nil _).symm, hsettles.2.2⟩
  | ok requests =>
    rw [hrequests] at hsettles
    exact ⟨hsettles.sent, hsettles.script⟩

theorem eq_ok_of_map {opening : Except Error Sent} {requests : List Sent}
    (h : (opening.map fun s => [s]) = .ok requests) (hrequest : request ∈ requests) :
    opening = .ok request := by
  cases opening with
  | error e => cases h
  | ok s =>
    rw [← Except.ok.inj h] at hrequest
    rw [List.mem_singleton.mp hrequest]

theorem mem_sends {t : Terminal} (h : request ∈ t.sends d) :
    ∃ requests, t.requests d = .ok requests ∧ request ∈ requests := by
  unfold sends at h
  split at h
  · rename_i requests hrequests
    exact ⟨requests, hrequests, h⟩
  · cases h

/-- The only statement with a page size, and the only one with a paging state from outside. -/
theorem paginate_of_mem_sends {q : Query} {size : Option Int32} {columns : List String}
    {state : Option PagingState}
    (h : request ∈ (operate q (.paginate size columns state)).sends d) :
    request.options.pageSize = some (size.getD q.pageSize) ∧ 0 < size.getD q.pageSize ∧
      request.options.pagingState = state := by
  obtain ⟨requests, hrequests, hmem⟩ := mem_sends h
  obtain ⟨_, _, statement, _, hsize, rfl⟩ :=
    Operation.opening_eq_ok_iff.mp (eq_ok_of_map hrequests hmem)
  have hpos := Operation.checkPageSize_eq_ok_iff.mp hsize size columns state rfl
  exact ⟨rfl, Int32.not_le.mp hpos, rfl⟩

theorem next_of_mem_sends {h : Handle} (hrequest : request ∈ (next h).sends d) :
    request.options.pagingState = h.page.next := by
  obtain ⟨requests, hrequests, hmem⟩ := mem_sends hrequest
  have hnext : h.nextRequest = .ok request := eq_ok_of_map hrequests hmem
  unfold Handle.nextRequest at hnext
  split at hnext
  · cases hnext
  · rename_i state hstate
    rw [← Except.ok.inj hnext, hstate]
    rfl

end Terminal

namespace Action

variable {s : Session} {c d : Connection} {a : Action}

/-- What an action obtains is sound if what it acts on is. -/
theorem sound_effect (hd : c.Continues d) (hsubject : ∀ x, a.subject? = some x → x.Sound s c d.sent)
    {x : Holding} (hx : (a.effect s d).1 = some x) : x.Sound s c (a.effect s d).2.sent := by
  cases a with
  | query =>
    cases hx
    exact s.made_query
  | call q step =>
    obtain ⟨later, hlater, rfl⟩ := Option.map_eq_some_iff.mp hx
    exact Session.made_apply (hsubject (.query q) rfl) (eq_ok_of_toOption hlater)
  | model q key =>
    obtain ⟨m, hm, rfl⟩ := Option.map_eq_some_iff.mp hx
    obtain ⟨_, _, hm⟩ := Outcome.bind_eq_ok_iff.mp (eq_ok_of_toOption hm)
    cases hm
    exact hsubject (.query q) rfl
  | restrict m id =>
    obtain ⟨later, hlater, rfl⟩ := Option.map_eq_some_iff.mp hx
    obtain ⟨q, hq, hlater⟩ := Outcome.bind_eq_ok_iff.mp (eq_ok_of_toOption hlater)
    cases hlater
    have happly : (Call.restrictKey m.key id).apply m.query = .ok q := hq
    exact Session.made_apply (hsubject (.model m) rfl) happly
  | mapModel m calls =>
    obtain ⟨later, hlater, rfl⟩ := Option.map_eq_some_iff.mp hx
    obtain ⟨q, hq, hlater⟩ := Outcome.bind_eq_ok_iff.mp (eq_ok_of_toOption hlater)
    cases hlater
    exact Session.made_applyAll (hsubject (.model m) rfl) hq
  | modelQuery m =>
    cases hx
    exact hsubject (.model m) rfl
  | run t =>
    obtain ⟨h, hopens, rfl⟩ := Option.map_eq_some_iff.mp hx
    exact Terminal.fetched_opens hd (hsubject _ rfl) hopens
  | intoCursor h =>
    cases hx
    exact hsubject (.handle h) rfl
  | cursorNext cursor =>
    cases hx
    exact (Cursor.onward_next hd (hsubject (.cursor cursor) rfl)).2
  | intoStream h =>
    cases hx
    exact hsubject (.handle h) rfl
  | pull stream =>
    cases hx
    exact (stream.onward_next hd (hsubject (.stream stream) rfl)).2

/-- A page of a size is asked for. -/
def paginates : Action → Bool
  | run t => t.paginates
  | _ => false

theorem onward_effect (hd : c.Continues d)
    (hsubject : ∀ x, a.subject? = some x → x.Sound s c d.sent) (hpaginates : a.paginates = false) :
    c.Onward d (a.effect s d).2 := by
  cases a with
  | run t =>
    refine Terminal.onward_exec hd ?_ hpaginates
    intro h hhandle
    cases t with
    | next handle | walk handle walker =>
      cases hhandle
      exact hsubject (.handle h) rfl
    | _ => cases hhandle
  | cursorNext cursor => exact (Cursor.onward_next hd (hsubject (.cursor cursor) rfl)).1
  | pull stream => exact (stream.onward_next hd (hsubject (.stream stream) rfl)).1
  | _ => exact Connection.onward_refl hd

/-- An action sends what it may send. -/
theorem admits_effect (hd : c.Continues d)
    (hsubject : ∀ x, a.subject? = some x → x.Sound s c d.sent) :
    ∃ sent, (a.effect s d).2.sent = d.sent ++ sent ∧ a.Admits s c d.sent sent ∧
      c.Continues (a.effect s d).2 := by
  have hlegal (hpaginates : a.paginates = false) : ∃ sent,
      (a.effect s d).2.sent = d.sent ++ sent ∧ Legal c d.sent sent ∧
        c.Continues (a.effect s d).2 := by
    obtain ⟨hcontinues, sent, hsent, hlegal⟩ := onward_effect hd hsubject hpaginates
    exact ⟨sent, hsent, hlegal, hcontinues⟩
  -- two actions promise more than that: one page of a size, and a turn of a page
  cases a with
  | run t =>
    cases t with
    | operate q operation =>
      cases operation with
      | paginate size columns state =>
        obtain ⟨hsent, hscript⟩ := (Terminal.operate q (.paginate size columns state)).sent_exec d
        refine ⟨_, hsent, ⟨hsubject (.query q) rfl, ?_⟩,
          Connection.continues_of_sent hd hsent hscript⟩
        intro calls hcalls request hrequest
        have hsize : q.pageSize = (Call.lastPageSize? calls).getD s.settings.pageSize := by
          rw [← (Call.applyAll_eq_ok hcalls).1, Call.pageSize_foldl_after]
          rfl
        rw [← hsize]
        exact Terminal.paginate_of_mem_sends hrequest
      | _ => exact hlegal rfl
    | next h =>
      obtain ⟨sent, hsent, hlegal, hcontinues⟩ := hlegal rfl
      obtain ⟨hsends, _⟩ := (Terminal.next h).sent_exec d
      obtain rfl : sent = (Terminal.next h).sends d :=
        List.append_cancel_left (hsent.symm.trans hsends)
      exact ⟨_, hsent, ⟨hlegal, fun _ => Terminal.next_of_mem_sends⟩, hcontinues⟩
    | _ => exact hlegal rfl
  | _ => exact hlegal rfl

end Action

namespace Client

variable {s : Session} {c : Connection} {w final : Client} {a : Action} {actions : List Action}

/-- The connection took a reply for each statement, and everything in hand is sound. -/
structure Sound (s : Session) (c : Connection) (w : Client) : Prop where
  continues : c.Continues w.connection
  held : ∀ x ∈ w.held, x.Sound s c w.connection.sent

/-- One action keeps a client sound and sends what it may send. -/
theorem sound_perform (hw : w.Sound s c) (hsubject : ∀ x, a.subject? = some x → x ∈ w.held) :
    (w.perform s a).Sound s c ∧ ∃ sent,
      (w.perform s a).connection.sent = w.connection.sent ++ sent ∧
        a.Admits s c w.connection.sent sent := by
  obtain ⟨hcontinues, hheld⟩ := hw
  have hsound : ∀ x, a.subject? = some x → x.Sound s c w.connection.sent :=
    fun x hx => hheld x (hsubject x hx)
  obtain ⟨sent, hsent, hadmits, hcontinues'⟩ := Action.admits_effect hcontinues hsound
  refine ⟨⟨hcontinues', ?_⟩, sent, hsent, hadmits⟩
  intro x hx
  rcases List.mem_append.mp hx with hold | hnew
  -- what was in hand goes back to the same statements of a longer log
  · have hkept := Holding.sound_append (hheld x hold) sent
    rw [← hsent] at hkept
    exact hkept
  · exact Action.sound_effect hcontinues hsound (Option.mem_toList.mp hnew)

/-- A run keeps a client sound and sends what its actions may send, one after another. -/
theorem sound_of_runs (hw : w.Sound s c) (h : Runs s w actions final) :
    final.Sound s c ∧ ∃ sent, final.connection.sent = w.connection.sent ++ sent ∧
      Admitted s c w.connection.sent actions sent := by
  induction h with
  | nil w => exact ⟨hw, [], (List.append_nil _).symm, rfl⟩
  | @cons w final a actions hsubject h ih =>
    obtain ⟨hlater, first, hfirst, hadmits⟩ := sound_perform hw hsubject
    obtain ⟨hfinal, rest, hrest, hadmitted⟩ := ih hlater
    rw [hfirst] at hrest hadmitted
    exact ⟨hfinal, first ++ rest, by rw [hrest, List.append_assoc], first, rest, rfl, hadmits,
      hadmitted⟩

/-- Whatever a client of a session does, it sends no page size but a positive one with a page that is
asked for, the size given there or else the one last set on the query or the session; and no paging
state but one handed in there or one that the connection answered with, for the statement that it
answered. So it is with all that was sent, and with what any further action sends. -/
theorem admitted_of_session (hs : s.Obtained) (hc : c.sent = [])
    (h : Runs s ⟨c, []⟩ actions final) :
    0 < s.settings.pageSize ∧
      Admitted s c [] actions final.connection.sent ∧
      ∀ a : Action, (∀ x, a.subject? = some x → x ∈ final.held) →
        ∃ sent, (final.perform s a).connection.sent = final.connection.sent ++ sent ∧
          a.Admits s c final.connection.sent sent := by
  have hcontinues : c.Continues c := by
    rw [Connection.Continues, hc]
    rfl
  have hsound : (⟨c, []⟩ : Client).Sound s c := by
    refine ⟨hcontinues, ?_⟩
    intro x hx
    cases hx
  obtain ⟨hfinal, sent, hsent, hadmitted⟩ := sound_of_runs hsound h
  have hstart : (⟨c, []⟩ : Client).connection.sent = [] := hc
  rw [hstart] at hsent hadmitted
  refine ⟨Session.pageSize_pos hs, ?_, ?_⟩
  · rw [hsent]
    exact hadmitted
  · intro a hsubject
    exact (sound_perform hfinal hsubject).2

theorem mem_perform {x : Holding} (hx : x ∈ w.held) (a : Action) : x ∈ (w.perform s a).held :=
  List.mem_append_left _ hx

theorem mem_perform_of_effect {x : Holding} (hx : (a.effect s w.connection).1 = some x) :
    x ∈ (w.perform s a).held :=
  List.mem_append_right _ (Option.mem_toList.mpr hx)

/-- A client asks for a page behind a paging state of its own, opens the rows of the same query, and
turns a page. -/
theorem admitted_of_users :
    ∃ (s : Session) (c : Connection) (final : Client) (actions : List Action),
      s.Obtained ∧ c.sent = [] ∧ Runs s ⟨c, []⟩ actions final ∧
      final.connection.sent.map (fun request =>
        (request.options.pageSize, request.options.pagingState)) =
        [(some 15, some ⟨[9]⟩), (none, none), (none, some ⟨[1]⟩)] ∧
      Admitted s c [] actions final.connection.sent := by
  let s : Session := {}
  let q : Query := { s.query with table := some "users" }
  let ready : Query := { q with columns := some ["*"] }
  let h : Handle := ready.opened ⟨[], some ⟨[1]⟩⟩
  let c : Connection :=
    { script := [⟨.ok ⟨[], none⟩, 0⟩, ⟨.ok ⟨[], some ⟨[1]⟩⟩, 0⟩], settings := {} }
  let first : Action := .call s.query (.onTable "users")
  let second : Action := .run (.operate q (.paginate none ["*"] (some ⟨[9]⟩)))
  let third : Action := .run (.operate q (.openRows ["*"]))
  let last : Action := .run (.next h)
  let w₀ : Client := ⟨c, [.query s.query]⟩
  let w₁ := w₀.perform s first
  let w₂ := w₁.perform s second
  let w₃ := w₂.perform s third
  have htable : Name.checkTable "users" = .ok () :=
    Name.checkTable_of_checkIdentifier (Name.checkIdentifier_eq_ok_iff.mpr (by decide)) (by decide)
  have happly : (Call.onTable "users").apply s.query = .ok q := by
    rw [Call.apply, Query.onTable, htable]
    rfl
  have hquery : .query q ∈ w₁.held := by
    refine mem_perform_of_effect ?_
    rw [Action.effect, happly]
    rfl
  have hhandle : .handle h ∈ w₃.held := mem_perform_of_effect rfl
  have hlast : Runs s w₃ [last] (w₃.perform s last) := by
    refine .cons ?_ (.nil _)
    rintro _ ⟨⟩
    exact hhandle
  have hopens : Runs s w₂ [third, last] (w₃.perform s last) := by
    refine .cons ?_ hlast
    rintro _ ⟨⟩
    exact mem_perform hquery second
  have hpaginates : Runs s w₁ [second, third, last] (w₃.perform s last) := by
    refine .cons ?_ hopens
    rintro _ ⟨⟩
    exact hquery
  have hcalls : Runs s w₀ [first, second, third, last] (w₃.perform s last) := by
    refine .cons ?_ hpaginates
    rintro _ ⟨⟩
    exact List.mem_singleton.mpr rfl
  have hruns : Runs s ⟨c, []⟩ [.query, first, second, third, last] (w₃.perform s last) := by
    refine .cons ?_ hcalls
    intro x hx
    cases hx
  obtain ⟨_, hadmitted, _⟩ := admitted_of_session .standard rfl hruns
  refine ⟨s, c, _, _, .standard, rfl, hruns, ?_, hadmitted⟩
  dsimp +zetaDelta only
  decide +kernel

end Client

end Cql
