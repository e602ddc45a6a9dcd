import Cql.Proofs.Exec

/-!
Walks over the pages of a result. What a walk sends and what it is answered can be read off the page
it begins with and the script of the connection: each paging state asks for one more page, up to the
last page or to a statement that fails. Whoever fetches the pages, the connection is the same after.
-/

namespace Cql

namespace Page

theorem isLast_of_none {page : Page} (h : page.next = none) : page.isLast = true := by
  rw [isLast, h]
  rfl

theorem isLast_of_some {page : Page} {state : PagingState} (h : page.next = some state) :
    page.isLast = false := by
  rw [isLast, h]
  rfl

end Page

/-- A request for a page and what came of it. -/
structure Exchange where
  state : PagingState
  outcome : Except Error Page

/-- The requests that follow a page, one after another. -/
abbrev Walk := List Exchange

namespace Walk

/-- The walk that begins with a paging state and takes its replies from a script. Behind the end of
the script comes one empty page, which is the last. -/
def along : Option PagingState → List Reply → Walk
  | none, _ => []
  | some state, [] => [⟨state, .ok ∅⟩]
  | some state, reply :: script =>
    ⟨state, reply.outcome⟩ ::
      match reply.outcome with
      | .ok page => along page.next script
      | .error _ => []

/-- The pages that were fetched. -/
def pages (walk : Walk) : List Page :=
  walk.filterMap fun x => x.outcome.toOption

def rows (walk : Walk) : List Row :=
  walk.pages.flatMap Page.rows

/-- The error at which the walk stopped. -/
def failure? (walk : Walk) : Option Error :=
  walk.findSome? fun x =>
    match x.outcome with
    | .ok _ => none
    | .error e => some e

/-- All rows, behind those of the page where the walk began, or the error at which it stopped. -/
def collected (first : List Row) (walk : Walk) : Except Error (List Row) :=
  match walk.failure? with
  | some e => .error e
  | none => .ok (first ++ walk.rows)

/-- The rows one by one, and last the error at which the walk stopped. -/
def items (first : List Row) (walk : Walk) : List (Except Error Row) :=
  (first ++ walk.rows).map .ok ++ walk.failure?.toList.map .error

variable {state : PagingState} {page : Page} {e : Error} {walk : Walk} {first : List Row}

@[simp] theorem rows_nil : rows [] = [] := rfl

@[simp] theorem rows_ok : rows (⟨state, .ok page⟩ :: walk) = page.rows ++ walk.rows := rfl

@[simp] theorem rows_error : rows [⟨state, .error e⟩] = [] := rfl

@[simp] theorem failure?_nil : failure? [] = none := rfl

@[simp] theorem failure?_ok : failure? (⟨state, .ok page⟩ :: walk) = walk.failure? := rfl

@[simp] theorem failure?_error : failure? (⟨state, .error e⟩ :: walk) = some e := rfl

@[simp] theorem collected_nil : collected first [] = .ok first := by
  simp [collected]

@[simp] theorem collected_error : collected first [⟨state, .error e⟩] = .error e := rfl

theorem collected_append (first second : List Row) :
    collected (first ++ second) walk = (collected second walk).map (first ++ ·) := by
  unfold collected
  cases walk.failure? with
  | some e => rfl
  | none =>
    rw [List.append_assoc]
    rfl

theorem collected_ok :
    collected first (⟨state, .ok page⟩ :: walk) = collected (first ++ page.rows) walk := by
  rw [collected, collected, rows_ok, failure?_ok, List.append_assoc]

theorem items_append (first second : List Row) :
    items (first ++ second) walk = first.map .ok ++ items second walk := by
  simp only [items, List.map_append, List.append_assoc]

theorem items_ok : items first (⟨state, .ok page⟩ :: walk) = items (first ++ page.rows) walk := by
  rw [items, items, rows_ok, failure?_ok, List.append_assoc]

/-- A walk stops at no error if every request was answered with a page. -/
theorem failure?_eq_none_iff : walk.failure? = none ↔ ∀ x ∈ walk, ∃ page, x.outcome = .ok page := by
  rw [failure?, List.findSome?_eq_none_iff]
  constructor
  · intro h x hx
    have hnone := h x hx
    split at hnone
    · exact ⟨_, by assumption⟩
    · cases hnone
  · intro h x hx
    obtain ⟨page, hpage⟩ := h x hx
    rw [hpage]

theorem length_along_le (next : Option PagingState) (script : List Reply) :
    (along next script).length ≤ script.length + 1 := by
  induction script generalizing next with
  | nil => cases next <;> simp [along]
  | cons reply script ih =>
    cases next with
    | none => simp [along]
    | some state =>
      cases houtcome : reply.outcome with
      | error e => simp [along, houtcome]
      | ok page =>
        have hrest := ih page.next
        simp only [along, houtcome, List.length_cons]
        omega

/-- Each request is answered by the reply at its place in the script. -/
theorem outcome_of_along {next : Option PagingState} {script : List Reply} {k : Nat} {x : Exchange}
    (h : (along next script)[k]? = some x) :
    x.outcome = (script[k]?.getD ⟨.ok ∅, 0⟩).outcome := by
  induction script generalizing next k with
  | nil =>
    cases next with
    | none => simp [along] at h
    | some state =>
      cases k with
      | zero =>
        obtain rfl : ⟨state, .ok ∅⟩ = x := by simpa [along] using h
        rfl
      | succ k => simp [along] at h
  | cons reply script ih =>
    cases next with
    | none => simp [along] at h
    | some state =>
      cases k with
      | zero =>
        obtain rfl : ⟨state, reply.outcome⟩ = x := by simpa [along] using h
        rfl
      | succ k =>
        simp only [along, List.getElem?_cons_succ] at h
        split at h
        · simpa using ih h
        · simp at h

/-- A walk stops at the first failure. -/
theorem length_of_error {next : Option PagingState} {script : List Reply} {k : Nat} {x : Exchange}
    (h : (along next script)[k]? = some x) (herror : x.outcome = .error e) :
    (along next script).length = k + 1 ∧ (along next script).failure? = some e := by
  induction script generalizing next k with
  | nil =>
    cases next with
    | none => simp [along] at h
    | some state =>
      cases k with
      | zero =>
        obtain rfl : ⟨state, .ok ∅⟩ = x := by simpa [along] using h
        cases herror
      | succ k => simp [along] at h
  | cons reply script ih =>
    cases next with
    | none => simp [along] at h
    | some state =>
      cases houtcome : reply.outcome with
      | error other =>
        simp only [along, houtcome] at h ⊢
        cases k with
        | zero =>
          obtain rfl : ⟨state, .error other⟩ = x := by simpa using h
          obtain rfl := Except.error.inj herror
          exact ⟨rfl, rfl⟩
        | succ k => simp at h
      | ok page =>
        simp only [along, houtcome] at h ⊢
        cases k with
        | zero =>
          obtain rfl : ⟨state, .ok page⟩ = x := by simpa using h
          cases herror
        | succ k =>
          obtain ⟨hlength, hfailure⟩ := ih (by simpa using h)
          exact ⟨by simp [hlength], by simpa using hfailure⟩

end Walk

namespace Handle

/-- The handle of the page behind a paging state. -/
def turned (h : Handle) (state : PagingState) (page : Page) : Handle :=
  ⟨h.cql, h.advance state, page⟩

/-- The connection after it was asked for the page behind a paging state. -/
def asked (h : Handle) (state : PagingState) (c : Connection) : Connection :=
  (c.execute h.cql (h.advance state)).2

/-- The statement that asks for the page behind a paging state. -/
def request (h : Handle) (state : PagingState) : Sent :=
  ⟨h.cql, h.advance state, false⟩

/-- The requests that follow the page of the handle. -/
def walk (h : Handle) (c : Connection) : Walk :=
  .along h.page.next c.script

/-- The connection after all requests. -/
def afterWalk (h : Handle) (c : Connection) : Connection :=
  (h.walk c).foldl (fun c x => h.asked x.state c) c

variable {h : Handle} {c : Connection} {state : PagingState} {page : Page} {e : Error}

theorem sent_asked (h : Handle) (state : PagingState) (c : Connection) :
    (h.asked state c).sent = c.sent ++ [h.request state] :=
  c.sent_execute h.cql (h.advance state)

theorem walk_of_last (hlast : h.page.next = none) : h.walk c = [] := by
  rw [walk, hlast, Walk.along]

theorem walk_of_some (hstate : h.page.next = some state) :
    h.walk c = ⟨state, c.reply.outcome⟩ ::
      match c.reply.outcome with
      | .ok page => Walk.along page.next c.script.tail
      | .error _ => [] := by
  rw [walk, hstate]
  unfold Connection.reply
  cases c.script with
  | nil => rfl
  | cons reply script => rfl

theorem walk_failed (hstate : h.page.next = some state) (hreply : c.reply.outcome = .error e) :
    h.walk c = [⟨state, .error e⟩] := by
  rw [walk_of_some hstate, hreply]

theorem walk_turned (hstate : h.page.next = some state) (hreply : c.reply.outcome = .ok page) :
    h.walk c = ⟨state, .ok page⟩ :: (h.turned state page).walk (h.asked state c) := by
  rw [walk_of_some hstate, hreply]
  rfl

theorem afterWalk_of_last (hlast : h.page.next = none) : h.afterWalk c = c := by
  rw [afterWalk, walk_of_last hlast]
  rfl

theorem afterWalk_failed (hstate : h.page.next = some state)
    (hreply : c.reply.outcome = .error e) : h.afterWalk c = h.asked state c := by
  rw [afterWalk, walk_failed hstate hreply]
  rfl

theorem afterWalk_turned (hstate : h.page.next = some state)
    (hreply : c.reply.outcome = .ok page) :
    h.afterWalk c = (h.turned state page).afterWalk (h.asked state c) := by
  rw [afterWalk, walk_turned hstate hreply]
  rfl

theorem next_of_last (hlast : h.page.next = none) : h.next c = (.error .noNextPage, c) := by
  unfold next
  rw [hlast]

theorem next_failed (hstate : h.page.next = some state) (hreply : c.reply.outcome = .error e) :
    h.next c = (.error e, h.asked state c) := by
  have hexecute : c.execute h.cql (h.advance state) = (.error e, h.asked state c) := by
    rw [← hreply]
    rfl
  unfold next
  rw [hstate]
  simp only [hexecute]

theorem next_turned (hstate : h.page.next = some state) (hreply : c.reply.outcome = .ok page) :
    h.next c = (.ok (h.turned state page), h.asked state c) := by
  have hexecute : c.execute h.cql (h.advance state) = (.ok page, h.asked state c) := by
    rw [← hreply]
    rfl
  unfold next
  rw [hstate]
  simp only [hexecute]
  rfl

/-- Walks are finite: what holds of last pages and of failing requests, and of a page if it holds of
the one fetched after it, holds of every page. -/
theorem walk_induction {motive : Handle → Connection → Prop}
    (last : ∀ h c, h.page.next = none → motive h c)
    (failed : ∀ h c state e, h.page.next = some state → c.reply.outcome = .error e → motive h c)
    (turned : ∀ (h : Handle) c state page, h.page.next = some state →
      c.reply.outcome = .ok page → motive (h.turned state page) (h.asked state c) → motive h c)
    (h : Handle) (c : Connection) : motive h c := by
  cases hnext : h.page.next with
  | none => exact last h c hnext
  | some state =>
    cases hreply : c.reply.outcome with
    | error e => exact failed h c state e hnext hreply
    | ok page =>
      have hstep := next_turned hnext hreply
      exact turned h c state page hnext hreply (walk_induction last failed turned _ _)
termination_by h.remaining c
decreasing_by exact remaining_next_lt hstep

theorem sent_afterWalk (h : Handle) (c : Connection) :
    (h.afterWalk c).sent = c.sent ++ (h.walk c).map fun x => h.request x.state := by
  induction h, c using walk_induction with
  | last h c hlast => simp [afterWalk_of_last hlast, walk_of_last hlast]
  | failed h c state e hstate hreply =>
    rw [afterWalk_failed hstate hreply, walk_failed hstate hreply, sent_asked]
    rfl
  | turned h c state page hstate hreply ih =>
    rw [afterWalk_turned hstate hreply, ih, walk_turned hstate hreply, sent_asked, List.map_cons,
      List.append_assoc]
    rfl

theorem script_afterWalk (h : Handle) (c : Connection) :
    (h.afterWalk c).script = c.script.drop (h.walk c).length := by
  induction h, c using walk_induction with
  | last h c hlast => simp [afterWalk_of_last hlast, walk_of_last hlast]
  | failed h c state e hstate hreply =>
    have hscript : (h.asked state c).script = c.script.tail := rfl
    rw [afterWalk_failed hstate hreply, walk_failed hstate hreply, hscript]
    simp
  | turned h c state page hstate hreply ih =>
    have hscript : (h.asked state c).script = c.script.tail := rfl
    rw [afterWalk_turned hstate hreply, ih, walk_turned hstate hreply, hscript]
    simp [Nat.add_comm]

end Handle

namespace Cursor

variable {h : Handle} {c : Connection} {state : PagingState} {page : Page} {e : Error}

theorem past_of_last (hlast : h.page.next = none) : past h = done := by
  rw [past, if_pos (Page.isLast_of_none hlast)]

theorem past_of_some (hstate : h.page.next = some state) : past h = after h := by
  rw [past, Page.isLast_of_some hstate]
  rfl

theorem next_failed (hstate : h.page.next = some state) (hreply : c.reply.outcome = .error e) :
    (after h).next c = ((.error e, after h), h.asked state c) := by
  simp only [next, Handle.next_failed hstate hreply]

theorem next_turned (hstate : h.page.next = some state) (hreply : c.reply.outcome = .ok page) :
    (after h).next c =
      ((.ok (some page.rows), past (h.turned state page)), h.asked state c) := by
  simp only [next, Handle.next_turned hstate hreply]
  rfl

end Cursor

namespace Query

/-- The handle of the first page of a select. -/
def opened (q : Query) (page : Page) : Handle :=
  ⟨q.selectStatement.cql, q.statementOptions q.selectStatement.arguments, page⟩

/-- The connection after the select of a query. -/
def selected (q : Query) (c : Connection) : Connection :=
  (c.execute q.selectStatement.cql (q.statementOptions q.selectStatement.arguments)).2

theorem sent_selected (q : Query) (c : Connection) :
    (q.selected c).sent = c.sent ++
      [⟨q.selectStatement.cql, q.statementOptions q.selectStatement.arguments, false⟩] :=
  c.sent_execute _ _

variable {q ready : Query} {columns : List String}

theorem run_openRows_refused {e : Error} (c : Connection) (h : q.ready columns = .error e) :
    (q.openRows columns).run c = (.error e, c) := by
  apply Exec.run_bind_error
  rw [Exec.run_ofExcept, h]

theorem run_openRows (c : Connection) (h : q.ready columns = .ok ready) :
    (q.openRows columns).run c = (c.reply.outcome.map ready.opened, ready.selected c) := by
  have hready : (Exec.ofExcept (q.ready columns)).run c = (.ok ready, c) := by
    rw [Exec.run_ofExcept, h]
  have hsend : (ready.send ready.selectStatement).run c = (c.reply.outcome, ready.selected c) := rfl
  rw [openRows, Exec.run_bind_ok hready]
  dsimp only
  rw [Exec.run_bind, hsend]
  cases c.reply.outcome with
  | error e => rfl
  | ok page => rfl

/-- Where rows are opened, the connection answered the select with their first page. -/
theorem opened_of_run {c later : Connection} {h : Handle}
    (hopen : (q.openRows columns).run c = (.ok h, later)) :
    ∃ ready page, q.ready columns = .ok ready ∧ c.reply.outcome = .ok page ∧
      ready.opened page = h ∧ ready.selected c = later := by
  cases hready : q.ready columns with
  | error e =>
    rw [run_openRows_refused c hready] at hopen
    cases hopen
  | ok ready =>
    rw [run_openRows c hready] at hopen
    obtain ⟨hopened, hlater⟩ := Prod.mk.inj hopen
    cases hreply : c.reply.outcome with
    | error e =>
      rw [hreply] at hopened
      cases hopened
    | ok page =>
      rw [hreply] at hopened
      exact ⟨ready, page, rfl, rfl, Except.ok.inj hopened, hlater⟩

end Query

end Cql
