import Cql.Proofs.Paging.Agreement

/-!
Turning pages. Every handle that goes back to one select asks for its next page as the select was
asked for, with the paging state of its own page in it, however many handles there are and in
whatever order they are asked. To feed the paging states back by hand comes to the same statements,
each with a page size.
-/

namespace Cql

namespace Sent

/-- The statement for the page behind a paging state. -/
def turned (s : Sent) (state : PagingState) : Sent :=
  { s with options := { s.options with pagingState := some state } }

/-- The statement for pages of a size. -/
def sized (s : Sent) (size : Int32) : Sent :=
  { s with options := { s.options with pageSize := some size } }

end Sent

namespace Handle

/-- The handle asks for its next page by this statement, apart from the paging state. -/
def Follows (h : Handle) (opening : Sent) : Prop :=
  ∀ state, h.request state = opening.turned state

variable {h : Handle} {opening : Sent} {c : Connection} {state : PagingState} {page : Page}

theorem follows_turned (hfollows : h.Follows opening) (state : PagingState) (page : Page) :
    (h.turned state page).Follows opening :=
  hfollows

theorem sent_asked_of_follows (hfollows : h.Follows opening) :
    (h.asked state c).sent = c.sent ++ [opening.turned state] := by
  rw [← hfollows state]
  exact h.sent_asked state c

end Handle

/-- Handles that were fetched one from another, and the connection. -/
structure Turns where
  handles : List Handle
  connection : Connection

namespace Turns

/-- Asks the handle at a place for its next page. The page comes as a further handle. -/
def turn (turns : Turns) (place : Nat) : Turns :=
  match turns.handles[place]? with
  | none => turns
  | some h =>
    match h.next turns.connection with
    | (.ok next, c) => ⟨turns.handles ++ [next], c⟩
    | (.error _, c) => ⟨turns.handles, c⟩

variable {turns : Turns} {place : Nat} {h : Handle} {opening : Sent} {state : PagingState}
  {page : Page} {e : Error}

theorem turn_of_last (hplace : turns.handles[place]? = some h) (hlast : h.page.next = none) :
    turns.turn place = turns := by
  rw [turn, hplace]
  simp only [Handle.next_of_last hlast]

theorem turn_failed (hplace : turns.handles[place]? = some h) (hstate : h.page.next = some state)
    (hreply : turns.connection.reply.outcome = .error e) :
    turns.turn place = ⟨turns.handles, h.asked state turns.connection⟩ := by
  rw [turn, hplace]
  simp only [Handle.next_failed hstate hreply]

theorem turn_turned (hplace : turns.handles[place]? = some h) (hstate : h.page.next = some state)
    (hreply : turns.connection.reply.outcome = .ok page) :
    turns.turn place =
      ⟨turns.handles ++ [h.turned state page], h.asked state turns.connection⟩ := by
  rw [turn, hplace]
  simp only [Handle.next_turned hstate hreply]

/-- Whatever the reply, a turn asks for the page behind the one of its handle. -/
theorem connection_turn (hplace : turns.handles[place]? = some h)
    (hstate : h.page.next = some state) :
    (turns.turn place).connection = h.asked state turns.connection := by
  cases hreply : turns.connection.reply.outcome with
  | error e => rw [turn_failed hplace hstate hreply]
  | ok page => rw [turn_turned hplace hstate hreply]

/-- A turn keeps to the statement by which the first page was asked for. -/
theorem follows_turn (h : ∀ g ∈ turns.handles, g.Follows opening) (place : Nat) :
    ∀ g ∈ (turns.turn place).handles, g.Follows opening := by
  cases hplace : turns.handles[place]? with
  | none =>
    rw [turn, hplace]
    exact h
  | some asked =>
    have hasked : asked.Follows opening := h asked (List.mem_of_getElem? hplace)
    cases hstate : asked.page.next with
    | none => rwa [turn_of_last hplace hstate]
    | some state =>
      cases hreply : turns.connection.reply.outcome with
      | error e => rwa [turn_failed hplace hstate hreply]
      | ok page =>
        rw [turn_turned hplace hstate hreply]
        intro g hg
        rcases List.mem_append.mp hg with hold | hnew
        · exact h g hold
        · rw [List.mem_singleton.mp hnew]
          exact Handle.follows_turned hasked state page

theorem follows_turns (h : ∀ g ∈ turns.handles, g.Follows opening) (places : List Nat) :
    ∀ g ∈ (places.foldl turn turns).handles, g.Follows opening := by
  induction places generalizing turns with
  | nil => exact h
  | cons place places ih => exact ih (follows_turn h place)

end Turns

namespace Query

variable {q ready : Query} {columns : List String} {c d : Connection} {size : Int32}
  {state : Option PagingState} {page : Page} {e : Error}

/-- The statement of a select for its first page. -/
def opening (q : Query) : Sent :=
  ⟨q.selectStatement.cql, q.statementOptions q.selectStatement.arguments, false⟩

/-- The connection after the select of a query for one page of a size. -/
def paged (q : Query) (size : Int32) (state : Option PagingState) (c : Connection) : Connection :=
  (c.execute q.selectStatement.cql
    { q.statementOptions q.selectStatement.arguments with
      pageSize := some size, pagingState := state }).2

theorem sent_paged (q : Query) (size : Int32) (state : Option PagingState) (c : Connection) :
    (q.paged size state c).sent = c.sent ++
      [⟨q.selectStatement.cql, { q.statementOptions q.selectStatement.arguments with
        pageSize := some size, pagingState := state }, false⟩] :=
  c.sent_execute _ _

theorem follows_opened (q : Query) (page : Page) : (q.opened page).Follows q.opening :=
  fun _ => rfl

theorem run_paginate_refused (size : Option Int32) (state : Option PagingState) (c : Connection)
    (h : q.ready columns = .error e) :
    (q.paginate size columns state).run c = (.error e, c) := by
  apply Exec.run_bind_error
  rw [Exec.run_ofExcept, h]

theorem run_paginate (size : Option Int32) (state : Option PagingState) (c : Connection)
    (h : q.ready columns = .ok ready) :
    (q.paginate size columns state).run c =
      if size.getD ready.pageSize ≤ 0 then
        (.error (.pageSizeNotPositive (size.getD ready.pageSize).toInt), c)
      else (c.reply.outcome, ready.paged (size.getD ready.pageSize) state c) := by
  have hready : (Exec.ofExcept (q.ready columns)).run c = (.ok ready, c) := by
    rw [Exec.run_ofExcept, h]
  rw [paginate, Exec.run_bind_ok hready]
  dsimp only
  split
  · rfl
  · rfl

/-- A page that is followed by another one was in the script. -/
theorem script_of_paginate {size : Option Int32} {next : PagingState}
    (hrun : (q.paginate size columns state).run c = (.ok page, d)) (hnext : page.next = some next) :
    d.script.length < c.script.length := by
  cases hready : q.ready columns with
  | error e =>
    rw [run_paginate_refused size state c hready] at hrun
    cases hrun
  | ok ready =>
    rw [run_paginate size state c hready] at hrun
    split at hrun
    · cases hrun
    · obtain ⟨hreply, rfl⟩ := Prod.mk.inj hrun
      have hscript : (ready.paged (size.getD ready.pageSize) state c).script = c.script.tail := rfl
      rw [Connection.reply] at hreply
      rw [hscript, List.length_tail]
      cases hreplies : c.script with
      | nil =>
        rw [hreplies] at hreply
        obtain rfl : (∅ : Page) = page := Except.ok.inj hreply
        cases hnext
      | cons reply script => simp

/-- Asks for one page after another, each time with the paging state of the page before it. -/
def paginateAll (q : Query) (size : Int32) (columns : List String) (state : Option PagingState)
    (c : Connection) : (List Page × Option Error) × Connection :=
  match _step : (q.paginate (some size) columns state).run c with
  | (.error e, c) => (([], some e), c)
  | (.ok page, c) =>
    match _next : page.next with
    | none => (([page], none), c)
    | some next =>
      let ((pages, failure), c) := q.paginateAll size columns (some next) c
      ((page :: pages, failure), c)
termination_by c.script.length
decreasing_by exact script_of_paginate _step _next

/-- Opens the first page and turns the others by hand. -/
def turnAll (q : Query) (columns : List String) (c : Connection) :
    (List Page × Option Error) × Connection :=
  match (q.openRows columns).run c with
  | (.ok h, c) => h.turnAll c
  | (.error e, c) => (([], some e), c)

theorem paginateAll_refused (state : Option PagingState) (c : Connection)
    (h : q.ready columns = .error e) : q.paginateAll size columns state c = (([], some e), c) := by
  have hrun := run_paginate_refused (some size) state c h
  rw [paginateAll]
  split
  · rename_i hstep
    rw [hrun] at hstep
    cases hstep
    rfl
  · rename_i hstep
    rw [hrun] at hstep
    cases hstep

/-- One turn of the loop. -/
theorem paginateAll_step (state : Option PagingState) (c : Connection)
    (h : q.ready columns = .ok ready) (hsize : 0 < size) :
    q.paginateAll size columns state c =
      match c.reply.outcome with
      | .error e => (([], some e), ready.paged size state c)
      | .ok page =>
        match page.next with
        | none => (([page], none), ready.paged size state c)
        | some next =>
          let rest := q.paginateAll size columns (some next) (ready.paged size state c)
          ((page :: rest.1.1, rest.1.2), rest.2) := by
  have hrun := run_paginate (some size) state c h
  rw [Option.getD_some, if_neg (Int32.not_le.mpr hsize)] at hrun
  rw [paginateAll]
  split
  · rename_i e later hstep
    obtain ⟨hreply, hlater⟩ := Prod.mk.inj (hrun.symm.trans hstep)
    rw [hreply, hlater]
  · rename_i page later hstep
    obtain ⟨hreply, hlater⟩ := Prod.mk.inj (hrun.symm.trans hstep)
    rw [hreply, hlater]
    dsimp only
    split
    · rename_i hnext
      rw [hnext]
    · rename_i next hnext
      rw [hnext]

/-- The loop goes on behind the page it was answered, if that is not the last one. -/
theorem paginateAll_answered {h : Handle} (state : Option PagingState)
    (hready : q.ready columns = .ok ready) (hsize : 0 < size) (hreply : d.reply.outcome = .ok h.page)
    (hrest : ∀ next, h.page.next = some next →
      (q.paginateAll size columns (some next) (ready.paged size state d)).1 =
          ((h.walk c).pages, (h.walk c).failure?) ∧
        (q.paginateAll size columns (some next) (ready.paged size state d)).2.sent =
          (ready.paged size state d).sent ++
            (h.walk c).map fun x => (h.request x.state).sized size) :
    (q.paginateAll size columns state d).1 = (h.page :: (h.walk c).pages, (h.walk c).failure?) ∧
      (q.paginateAll size columns state d).2.sent =
        (ready.paged size state d).sent ++
          (h.walk c).map fun x => (h.request x.state).sized size := by
  rw [paginateAll_step state d hready hsize, hreply]
  dsimp only
  cases hnext : h.page.next with
  | none =>
    rw [Handle.walk_of_last hnext]
    exact ⟨rfl, (List.append_nil _).symm⟩
  | some next =>
    obtain ⟨hpages, hsent⟩ := hrest next hnext
    dsimp only
    rw [hpages]
    exact ⟨rfl, hsent⟩

/-- The loop is where turning pages by hand is: behind the page of a handle, on a connection with
the same script. It sends the same requests, with a page size. -/
theorem paginateAll_follows {h : Handle} (hready : q.ready columns = .ok ready) (hsize : 0 < size)
    (hfollows : h.Follows ready.opening) {next : PagingState} (hnext : h.page.next = some next)
    (hscript : d.script = c.script) :
    (q.paginateAll size columns (some next) d).1 = ((h.walk c).pages, (h.walk c).failure?) ∧
      (q.paginateAll size columns (some next) d).2.sent =
        d.sent ++ (h.walk c).map fun x => (h.request x.state).sized size := by
  induction h, c using Handle.walk_induction generalizing d next with
  | last h c hlast =>
    rw [hlast] at hnext
    cases hnext
  | failed h c state e hstate hreply =>
    obtain rfl := Option.some.inj (hstate.symm.trans hnext)
    have hreplyd : d.reply.outcome = .error e := by rw [Connection.reply, hscript]; exact hreply
    rw [paginateAll_step (some state) d hready hsize, hreplyd, Handle.walk_failed hstate hreply]
    refine ⟨rfl, ?_⟩
    rw [List.map_singleton, hfollows]
    exact ready.sent_paged size (some state) d
  | turned h c state page hstate hreply ih =>
    obtain rfl := Option.some.inj (hstate.symm.trans hnext)
    have hreplyd : d.reply.outcome = .ok page := by rw [Connection.reply, hscript]; exact hreply
    have hlater : (ready.paged size (some state) d).script = (h.asked state c).script :=
      congrArg List.tail hscript
    obtain ⟨hpages, hsent⟩ := paginateAll_answered (h := h.turned state page) (c := h.asked state c)
      (some state) hready hsize hreplyd
      fun next hnext => ih (Handle.follows_turned hfollows state page) hnext hlater
    have hpaged : (ready.paged size (some state) d).sent =
        d.sent ++ [(h.request state).sized size] := by
      rw [hfollows]
      exact ready.sent_paged size (some state) d
    rw [hpages, hsent, hpaged, Handle.walk_turned hstate hreply, List.append_assoc]
    exact ⟨rfl, rfl⟩

theorem turnAll_refused (c : Connection) (h : q.ready columns = .error e) :
    q.turnAll columns c = (([], some e), c) := by
  rw [turnAll, run_openRows_refused c h]

theorem turnAll_opened (c : Connection) (h : q.ready columns = .ok ready) :
    q.turnAll columns c =
      match c.reply.outcome with
      | .ok page => (ready.opened page).turnAll (ready.selected c)
      | .error e => (([], some e), ready.selected c) := by
  rw [turnAll, run_openRows c h]
  cases c.reply.outcome with
  | error e => rfl
  | ok page => rfl

/-- To feed the paging states back sends what turning pages by hand sends, each statement with a
page size, and comes by the same pages and the same failure. -/
theorem paginateAll_simulates (q : Query) (columns : List String) (c : Connection)
    (hsize : 0 < size) :
    ∃ requests, (q.turnAll columns c).2.sent = c.sent ++ requests ∧
      (q.paginateAll size columns none c).2.sent = c.sent ++ requests.map (·.sized size) ∧
      (q.paginateAll size columns none c).1 = (q.turnAll columns c).1 := by
  cases hready : q.ready columns with
  | error e =>
    rw [paginateAll_refused none c hready, turnAll_refused c hready]
    exact ⟨[], (List.append_nil _).symm, (List.append_nil _).symm, rfl⟩
  | ok ready =>
    rw [turnAll_opened c hready]
    cases hreply : c.reply.outcome with
    | error e =>
      rw [paginateAll_step none c hready hsize, hreply]
      exact ⟨[ready.opening], ready.sent_selected c, ready.sent_paged size none c, rfl⟩
    | ok page =>
      have hlater : (ready.paged size none c).script = (ready.selected c).script := rfl
      obtain ⟨hpages, hsent⟩ := paginateAll_answered (h := ready.opened page)
        (c := ready.selected c) none hready hsize hreply
        fun next hnext => paginateAll_follows hready hsize (follows_opened ready page) hnext hlater
      dsimp only
      rw [hpages, hsent, Handle.turnAll_eq, Handle.sent_afterWalk, sent_selected, sent_paged]
      refine ⟨ready.opening :: ((ready.opened page).walk (ready.selected c)).map
        (fun x => (ready.opened page).request x.state), ?_, ?_, rfl⟩
      · exact List.append_assoc ..
      · rw [List.map_cons, List.map_map]
        exact List.append_assoc ..

/-- A handle that was opened asks for its next page by the statement that opened it. -/
theorem follows_of_openRows {h : Handle} {opened : Connection}
    (hopen : (q.openRows columns).run c = (.ok h, opened)) :
    ∃ opening, opened.sent = c.sent ++ [opening] ∧ h.Follows opening := by
  obtain ⟨ready, page, _, _, rfl, rfl⟩ := opened_of_run hopen
  exact ⟨ready.opening, ready.sent_selected c, follows_opened ready page⟩

/-- Every handle that goes back to one select sends the statement of that select with the paging
state of its own page, or nothing where its page is the last one; a turn that fails leaves all
handles as they are. A loop that feeds the paging states back sends the same with a page size. -/
theorem turn_sends (q : Query) (columns : List String) (c : Connection) :
    (∀ h opened, (q.openRows columns).run c = (.ok h, opened) →
      ∃ opening, opened.sent = c.sent ++ [opening] ∧
        ∀ (places : List Nat) (place : Nat) (g : Handle),
          let turns := places.foldl Turns.turn ⟨[h], opened⟩
          turns.handles[place]? = some g →
          (g.page.next = none →
            turns.turn place = turns ∧
              ∃ e, g.next turns.connection = (.error e, turns.connection) ∧ e.kind = .query) ∧
          ∀ state, g.page.next = some state →
            (turns.turn place).connection.sent =
              turns.connection.sent ++ [opening.turned state] ∧
            (∀ page, turns.connection.reply.outcome = .ok page →
              ∃ next, next.page = page ∧ (turns.turn place).handles = turns.handles ++ [next]) ∧
            ∀ e, turns.connection.reply.outcome = .error e →
              (g.next turns.connection).1 = .error e ∧
                (turns.turn place).handles = turns.handles) ∧
    ∀ size : Int32, 0 < size →
      ∃ requests, (q.turnAll columns c).2.sent = c.sent ++ requests ∧
        (q.paginateAll size columns none c).2.sent = c.sent ++ requests.map (·.sized size) ∧
        (q.paginateAll size columns none c).1 = (q.turnAll columns c).1 := by
  refine ⟨?_, fun size hsize => paginateAll_simulates q columns c hsize⟩
  intro h opened hopen
  obtain ⟨opening, hsent, hfollows⟩ := follows_of_openRows hopen
  refine ⟨opening, hsent, ?_⟩
  intro places place g turns hplace
  have hfirst : ∀ g ∈ [h], g.Follows opening := by
    intro g hg
    rwa [List.mem_singleton.mp hg]
  have hturned : g.Follows opening :=
    Turns.follows_turns hfirst places g (List.mem_of_getElem? hplace)
  refine ⟨?_, ?_⟩
  · intro hlast
    exact ⟨Turns.turn_of_last hplace hlast, _, Handle.next_of_last hlast, rfl⟩
  · intro state hstate
    refine ⟨?_, ?_, ?_⟩
    · rw [Turns.connection_turn hplace hstate, Handle.sent_asked_of_follows hturned]
    · intro page hreply
      rw [Turns.turn_turned hplace hstate hreply]
      exact ⟨g.turned state page, rfl, rfl⟩
    · intro e hreply
      rw [Turns.turn_failed hplace hstate hreply, Handle.next_failed hstate hreply]
      exact ⟨rfl, rfl⟩

/-- One handle is asked three times, at first with a failure, and then a handle that came of it. The
loop stops at the failure. -/
theorem turn_sends_in_a_tree :
    ∃ (q : Query) (c opened : Connection) (h : Handle) (opening : Sent),
      (q.openRows ["*"]).run c = (.ok h, opened) ∧ opened.sent = [opening] ∧
      ([0, 0, 0, 1].foldl Turns.turn ⟨[h], opened⟩).connection.sent =
        [opening, opening.turned ⟨[1]⟩, opening.turned ⟨[1]⟩, opening.turned ⟨[1]⟩,
          opening.turned ⟨[2]⟩] ∧
      (q.paginateAll 2 ["*"] none c).2.sent =
        [opening.sized 2, (opening.turned ⟨[1]⟩).sized 2] := by
  let q : Query := { table := some "users" }
  let ready : Query := { q with columns := some ["*"] }
  let c : Connection :=
    { script := [⟨.ok ⟨[], some ⟨[1]⟩⟩, 0⟩, ⟨.error (.raised .timeout "late"), 0⟩,
        ⟨.ok ⟨[], some ⟨[2]⟩⟩, 0⟩, ⟨.ok ⟨[], none⟩, 0⟩]
      settings := {} }
  have hready : q.ready ["*"] = .ok ready := rfl
  have hopen := run_openRows c hready
  obtain ⟨htree, hloop⟩ := turn_sends q ["*"] c
  obtain ⟨opening, hopened, hturns⟩ := htree _ _ hopen
  have hsame : [ready.opening] = [opening] := hopened
  obtain rfl := (List.cons.inj hsame).1
  refine ⟨q, c, _, _, _, hopen, hopened, ?_, ?_⟩
  · have hone := ((hturns [] 0 _ rfl).2 ⟨[1]⟩ rfl).1
    have htwo := ((hturns [0] 0 _ rfl).2 ⟨[1]⟩ rfl).1
    have hthree := ((hturns [0, 0] 0 _ rfl).2 ⟨[1]⟩ rfl).1
    have hfour := ((hturns [0, 0, 0] 1 _ rfl).2 ⟨[2]⟩ rfl).1
    simp only [List.foldl_cons, List.foldl_nil] at hone htwo hthree hfour ⊢
    rw [hfour, hthree, htwo, hone, hopened]
    rfl
  · obtain ⟨requests, hsent, hsized, _⟩ := hloop 2 (by decide)
    have hpage : c.reply.outcome = .ok ⟨[], some ⟨[1]⟩⟩ := rfl
    rw [turnAll_opened c hready, hpage] at hsent
    dsimp only at hsent
    rw [Handle.turnAll_eq, Handle.sent_afterWalk] at hsent
    have hrequests : [ready.opening, ready.opening.turned ⟨[1]⟩] = requests := hsent
    rw [hsized, ← hrequests]
    rfl

end Query

end Cql
