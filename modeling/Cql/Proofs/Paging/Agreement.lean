import Cql.Proofs.Paging.Walk

/-!
All ways to go through the pages of a result agree. Counting, collecting, draining the stream of the
rows, pulling a cursor and turning pages by hand send the requests of the walk, take their rows from
its pages and stop at its failure.
-/

namespace Cql

namespace Handle

/-- Turns pages by hand, up to the last page or to a failure. -/
def turnAll (h : Handle) (c : Connection) : (List Page × Option Error) × Connection :=
  if h.page.isLast then (([h.page], none), c)
  else
    match _step : h.next c with
    | (.ok next, c) =>
      let ((pages, failure), c) := turnAll next c
      ((h.page :: pages, failure), c)
    | (.error e, c) => (([h.page], some e), c)
termination_by h.remaining c
decreasing_by exact remaining_next_lt _step

end Handle

namespace Cursor

/-- Pulls a cursor as long as it has a next page, up to a failure. -/
def pullAll (cursor : Cursor) (c : Connection) : (List (List Row) × Option Error) × Connection :=
  if cursor.hasNext then
    match _step : cursor.next c with
    | ((.ok (some rows), later), c) =>
      let ((pages, failure), c) := pullAll later c
      ((rows :: pages, failure), c)
    | ((.ok none, _), c) => (([], none), c)
    | ((.error e, _), c) => (([], some e), c)
  else (([], none), c)
termination_by cursor.remaining c
decreasing_by exact remaining_next_lt _step

end Cursor

namespace Handle

variable {h : Handle} {c : Connection} {state : PagingState} {page : Page} {e : Error}

/-- One turn of a page by hand. -/
theorem turnAll_step (hlast : h.page.isLast = false) :
    h.turnAll c =
      match h.next c with
      | (.ok next, c) =>
        ((h.page :: (next.turnAll c).1.1, (next.turnAll c).1.2), (next.turnAll c).2)
      | (.error e, c) => (([h.page], some e), c) := by
  rw [turnAll, hlast]
  simp only [Bool.false_eq_true, if_false]
  split
  · rename_i hnext
    rw [hnext]
  · rename_i hnext
    rw [hnext]

theorem countFrom_step (pages rows : Nat) (hlast : h.page.isLast = false) :
    countFrom pages rows h c =
      match h.next c with
      | (.ok next, c) => countFrom (pages + 1) (rows + h.page.count) next c
      | (.error e, c) => (.error e, c) := by
  rw [countFrom, hlast]
  simp only [Bool.false_eq_true, if_false]
  split
  · rename_i hnext
    rw [hnext]
  · rename_i hnext
    rw [hnext]

theorem turnAll_eq (h : Handle) (c : Connection) :
    h.turnAll c = ((h.page :: (h.walk c).pages, (h.walk c).failure?), h.afterWalk c) := by
  induction h, c using walk_induction with
  | last h c hlast =>
    rw [turnAll, if_pos (Page.isLast_of_none hlast), walk_of_last hlast, afterWalk_of_last hlast]
    rfl
  | failed h c state e hstate hreply =>
    rw [turnAll_step (Page.isLast_of_some hstate), next_failed hstate hreply,
      walk_failed hstate hreply, afterWalk_failed hstate hreply]
    rfl
  | turned h c state page hstate hreply ih =>
    rw [turnAll_step (Page.isLast_of_some hstate), next_turned hstate hreply,
      walk_turned hstate hreply, afterWalk_turned hstate hreply]
    dsimp only
    rw [ih]
    rfl

/-- Counting adds the pages and the rows of the walk to those before it. -/
theorem countFrom_eq (pages rows : Nat) (h : Handle) (c : Connection) :
    countFrom pages rows h c =
      (((h.walk c).collected h.page.rows).map fun all =>
        (pages + (h.walk c).pages.length + 1, rows + all.length), h.afterWalk c) := by
  induction h, c using walk_induction generalizing pages rows with
  | last h c hlast =>
    rw [countFrom, if_pos (Page.isLast_of_none hlast), walk_of_last hlast,
      afterWalk_of_last hlast, Walk.collected_nil]
    rfl
  | failed h c state e hstate hreply =>
    rw [countFrom_step _ _ (Page.isLast_of_some hstate), next_failed hstate hreply,
      walk_failed hstate hreply, afterWalk_failed hstate hreply]
    rfl
  | turned h c state page hstate hreply ih =>
    rw [countFrom_step _ _ (Page.isLast_of_some hstate), next_turned hstate hreply,
      walk_turned hstate hreply, afterWalk_turned hstate hreply, Walk.collected_ok,
      Walk.collected_append]
    dsimp only
    rw [ih]
    have hpage : (h.turned state page).page = page := rfl
    rw [hpage]
    cases ((h.turned state page).walk (h.asked state c)).collected page.rows with
    | error e => rfl
    | ok all =>
      have hpages (walk : Walk) :
          (Walk.pages (⟨state, .ok page⟩ :: walk)).length = walk.pages.length + 1 := rfl
      simp only [Except.map, List.length_append, Page.count, hpages]
      congr 3 <;> omega

end Handle

namespace Cursor

variable {cursor : Cursor} {c : Connection}

theorem pullAll_step (hmore : cursor.hasNext = true) :
    cursor.pullAll c =
      match cursor.next c with
      | ((.ok (some rows), later), c) =>
        ((rows :: (later.pullAll c).1.1, (later.pullAll c).1.2), (later.pullAll c).2)
      | ((.ok none, _), c) => (([], none), c)
      | ((.error e, _), c) => (([], some e), c) := by
  rw [pullAll, hmore]
  simp only [if_true]
  split
  all_goals
    rename_i hnext
    rw [hnext]

theorem pullAll_done (c : Connection) : done.pullAll c = (([], none), c) := by
  rw [pullAll]
  rfl

theorem pullAll_past (h : Handle) (c : Connection) :
    (past h).pullAll c =
      (((h.walk c).pages.map Page.rows, (h.walk c).failure?), h.afterWalk c) := by
  induction h, c using Handle.walk_induction with
  | last h c hlast =>
    rw [past_of_last hlast, pullAll_done, Handle.walk_of_last hlast,
      Handle.afterWalk_of_last hlast]
    rfl
  | failed h c state e hstate hreply =>
    rw [past_of_some hstate, pullAll_step rfl, next_failed hstate hreply,
      Handle.walk_failed hstate hreply, Handle.afterWalk_failed hstate hreply]
    rfl
  | turned h c state page hstate hreply ih =>
    rw [past_of_some hstate, pullAll_step rfl, next_turned hstate hreply,
      Handle.walk_turned hstate hreply, Handle.afterWalk_turned hstate hreply]
    dsimp only
    rw [ih]
    rfl

theorem pullAll_here (h : Handle) (c : Connection) :
    (here h).pullAll c =
      ((h.page.rows :: (h.walk c).pages.map Page.rows, (h.walk c).failure?), h.afterWalk c) := by
  rw [pullAll_step rfl]
  dsimp only [next]
  rw [pullAll_past]

end Cursor

namespace RowStream

variable {pages later : Cursor} {rows : List Row} {items : List (Except Error Row)}
  {c after : Connection} {e : Error}

/-- The stream hands out the items and no more, and leaves the connection behind after the last. -/
def Yields (s : RowStream) (c : Connection) (items : List (Except Error Row))
    (after : Connection) : Prop :=
  ∀ n, (s.take c n).1 = items.take n ∧ (items.length < n → (s.take c n).2 = after)

theorem next_ready (row : Row) (rest : List Row) (pages : Cursor) (c : Connection) :
    (⟨row :: rest, pages⟩ : RowStream).next c = ((some (.ok row), ⟨rest, pages⟩), c) := by
  rw [next]

theorem next_step (pages : Cursor) (c : Connection) :
    (⟨[], pages⟩ : RowStream).next c =
      match pages.next c with
      | ((.ok (some rows), later), c) => (⟨rows, later⟩ : RowStream).next c
      | ((.ok none, later), c) => ((none, ⟨[], later⟩), c)
      | ((.error e, _), c) => ((some (.error e), ⟨[], .done⟩), c) := by
  rw [next]
  dsimp only
  split
  all_goals
    rename_i hnext
    rw [hnext]

theorem next_refill (h : pages.next c = ((.ok (some rows), later), after)) :
    (⟨[], pages⟩ : RowStream).next c = (⟨rows, later⟩ : RowStream).next after := by
  rw [next_step, h]

theorem next_failed (h : pages.next c = ((.error e, later), after)) :
    (⟨[], pages⟩ : RowStream).next c = ((some (.error e), ⟨[], .done⟩), after) := by
  rw [next_step, h]

theorem next_done (c : Connection) :
    (⟨[], .done⟩ : RowStream).next c = ((none, ⟨[], .done⟩), c) :=
  next_step .done c

theorem drain_step (s : RowStream) (c : Connection) :
    s.drain c =
      match s.next c with
      | ((some (.ok row), later), c) =>
        ((later.drain c).1.map (row :: ·), (later.drain c).2)
      | ((some (.error e), _), c) => (.error e, c)
      | ((none, _), c) => (.ok [], c) := by
  rw [drain]
  split
  · rename_i row later c' hnext
    rw [hnext]
    dsimp only
    rcases later.drain c' with ⟨outcome, c''⟩
    cases outcome with
    | error e => rfl
    | ok rows => rfl
  · rename_i hnext
    rw [hnext]
  · rename_i hnext
    rw [hnext]

/-- Rows that were fetched come before those of later pages. -/
theorem drain_ready (ready : List Row) (pages : Cursor) (c : Connection) :
    (⟨ready, pages⟩ : RowStream).drain c =
      (((⟨[], pages⟩ : RowStream).drain c).1.map (ready ++ ·),
        ((⟨[], pages⟩ : RowStream).drain c).2) := by
  induction ready with
  | nil =>
    rcases (⟨[], pages⟩ : RowStream).drain c with ⟨outcome, c'⟩
    cases outcome with
    | error e => rfl
    | ok rows => rfl
  | cons row rest ih =>
    rw [drain_step, next_ready]
    dsimp only
    rw [ih]
    rcases (⟨[], pages⟩ : RowStream).drain c with ⟨outcome, c'⟩
    cases outcome with
    | error e => rfl
    | ok rows => rfl

theorem drain_refill (h : pages.next c = ((.ok (some rows), later), after)) :
    (⟨[], pages⟩ : RowStream).drain c = (⟨rows, later⟩ : RowStream).drain after := by
  rw [drain_step, next_refill h, ← drain_step]

theorem drain_past (h : Handle) (c : Connection) :
    (⟨[], .past h⟩ : RowStream).drain c = ((h.walk c).collected [], h.afterWalk c) := by
  induction h, c using Handle.walk_induction with
  | last h c hlast =>
    rw [Cursor.past_of_last hlast, drain_step, next_done, Handle.walk_of_last hlast,
      Handle.afterWalk_of_last hlast, Walk.collected_nil]
  | failed h c state e hstate hreply =>
    rw [Cursor.past_of_some hstate, drain_step, next_failed (Cursor.next_failed hstate hreply),
      Handle.walk_failed hstate hreply, Handle.afterWalk_failed hstate hreply]
    rfl
  | turned h c state page hstate hreply ih =>
    rw [Cursor.past_of_some hstate, drain_refill (Cursor.next_turned hstate hreply), drain_ready,
      ih, Handle.walk_turned hstate hreply, Handle.afterWalk_turned hstate hreply,
      ← Walk.collected_append, List.append_nil, Walk.collected_ok]
    rfl

theorem drain_ofHandle (h : Handle) (c : Connection) :
    (ofHandle h).drain c = ((h.walk c).collected h.page.rows, h.afterWalk c) := by
  have hnext : (Cursor.here h).next c = ((.ok (some h.page.rows), .past h), c) := rfl
  rw [ofHandle, drain_refill hnext, drain_ready, drain_past, ← Walk.collected_append,
    List.append_nil]

theorem yields_ready (h : (⟨[], pages⟩ : RowStream).Yields c items after) (ready : List Row) :
    (⟨ready, pages⟩ : RowStream).Yields c (ready.map .ok ++ items) after := by
  induction ready with
  | nil => exact h
  | cons row rest ih =>
    intro n
    cases n with
    | zero => exact ⟨rfl, fun hlength => by omega⟩
    | succ n =>
      obtain ⟨hitems, hafter⟩ := ih n
      simp only [take, next_ready, List.map_cons, List.cons_append, List.take_succ_cons, hitems,
        List.length_cons]
      exact ⟨trivial, fun hlength => hafter (by omega)⟩

theorem yields_refill (hnext : pages.next c = ((.ok (some rows), later), after))
    {final : Connection} (h : (⟨rows, later⟩ : RowStream).Yields after items final) :
    (⟨[], pages⟩ : RowStream).Yields c items final := by
  intro n
  cases n with
  | zero => exact ⟨by simp [take], fun hlength => by omega⟩
  | succ n =>
    have hn := h (n + 1)
    rw [take, ← next_refill hnext, ← take] at hn
    exact hn

theorem yields_done (c : Connection) : (⟨[], .done⟩ : RowStream).Yields c [] c := by
  intro n
  cases n with
  | zero => exact ⟨rfl, fun _ => rfl⟩
  | succ n =>
    rw [take, next_done]
    exact ⟨rfl, fun _ => rfl⟩

theorem yields_failed (hnext : pages.next c = ((.error e, later), after)) :
    (⟨[], pages⟩ : RowStream).Yields c [.error e] after := by
  intro n
  cases n with
  | zero => exact ⟨rfl, fun hlength => by simp at hlength⟩
  | succ n =>
    rw [take, next_failed hnext]
    exact ⟨by simp, fun _ => rfl⟩

theorem yields_past (h : Handle) (c : Connection) :
    (⟨[], .past h⟩ : RowStream).Yields c ((h.walk c).items []) (h.afterWalk c) := by
  induction h, c using Handle.walk_induction with
  | last h c hlast =>
    rw [Cursor.past_of_last hlast, Handle.walk_of_last hlast, Handle.afterWalk_of_last hlast]
    exact yields_done c
  | failed h c state e hstate hreply =>
    rw [Cursor.past_of_some hstate, Handle.walk_failed hstate hreply,
      Handle.afterWalk_failed hstate hreply]
    exact yields_failed (Cursor.next_failed hstate hreply)
  | turned h c state page hstate hreply ih =>
    have hready := yields_ready ih page.rows
    rw [← Walk.items_append, List.append_nil] at hready
    rw [Cursor.past_of_some hstate, Handle.walk_turned hstate hreply,
      Handle.afterWalk_turned hstate hreply, Walk.items_ok]
    exact yields_refill (Cursor.next_turned hstate hreply) hready

theorem yields_ofHandle (h : Handle) (c : Connection) :
    (ofHandle h).Yields c ((h.walk c).items h.page.rows) (h.afterWalk c) := by
  have hnext : (Cursor.here h).next c = ((.ok (some h.page.rows), .past h), c) := rfl
  have hready := yields_ready (yields_past h c) h.page.rows
  rw [← Walk.items_append, List.append_nil] at hready
  exact yields_refill hnext hready

end RowStream

theorem Handle.run_collectAll (h : Handle) (c : Connection) :
    h.collectAll.run c = ((h.walk c).collected h.page.rows, h.afterWalk c) :=
  RowStream.drain_ofHandle h c

/-- What counting leaves behind: the connection of the walk, with a note if there was no failure. -/
def Handle.afterCount (h : Handle) (c : Connection) : Connection :=
  match (h.walk c).collected h.page.rows with
  | .ok rows => (h.afterWalk c).note (.counted ((h.walk c).pages.length + 1) rows.length)
  | .error _ => h.afterWalk c

theorem Handle.run_countAll (h : Handle) (c : Connection) :
    h.countAll.run c =
      (((h.walk c).collected h.page.rows).map List.length, h.afterCount c) := by
  rw [countAll, Exec.run_bind, Exec.run_mk, countFrom_eq, afterCount]
  cases (h.walk c).collected h.page.rows with
  | error e => rfl
  | ok rows =>
    simp only [Except.map, Nat.zero_add]
    rfl

theorem Handle.sent_afterCount (h : Handle) (c : Connection) :
    (h.afterCount c).sent = (h.afterWalk c).sent := by
  rw [afterCount]
  split
  · exact Connection.sent_note _ _
  · rfl

namespace Query

variable {q : Query} {columns : List String}

/-- The connection with the notes that counting begins with. -/
def noted (q : Query) (c : Connection) : Connection :=
  (c.note (.count q.tableName)).note
    (if q.predicates.isEmpty then .countingTable q.tableName else .countingMatches q.tableName)

theorem sent_noted (q : Query) (c : Connection) : (q.noted c).sent = c.sent := by
  rw [noted, Connection.sent_note, Connection.sent_note]

/-- Counting is done in a span of its own. -/
theorem run_count_eq (q : Query) (columns : List String) (c : Connection) :
    (q.count columns).run c =
      (((q.openRows columns >>= Handle.countAll).run (q.noted c)).1,
        ((q.openRows columns >>= Handle.countAll).run (q.noted c)).2.leave) := by
  unfold count
  rw [Exec.run_within, Exec.run_bind, Exec.run_trace]
  rfl

/-- Counting the rows of a query gives the length of the list of all its rows, or the same error,
and both send the same statements. -/
theorem run_count (q : Query) (key : PrimaryKey) (columns : List String) (c : Connection) :
    ((q.count columns).run c).1 =
        (((⟨q, key⟩ : Model).getAll columns).run c).1.map List.length ∧
      ((q.count columns).run c).2.sent = (((⟨q, key⟩ : Model).getAll columns).run c).2.sent := by
  rw [run_count_eq, Model.getAll]
  dsimp only
  rw [Connection.sent_leave]
  cases hready : q.ready columns with
  | error e =>
    rw [Exec.run_bind_error (run_openRows_refused (q.noted c) hready),
      Exec.run_bind_error (run_openRows_refused c hready)]
    exact ⟨rfl, q.sent_noted c⟩
  | ok ready =>
    have hopen := run_openRows c hready
    have hnoted := run_openRows (q.noted c) hready
    have hreply : (q.noted c).reply = c.reply := rfl
    have hselected : (ready.selected (q.noted c)).sent = (ready.selected c).sent := by
      rw [sent_selected, sent_selected, sent_noted]
    rw [hreply] at hnoted
    cases hpage : c.reply.outcome with
    | error e =>
      rw [hpage] at hopen hnoted
      rw [Exec.run_bind_error hopen, Exec.run_bind_error hnoted]
      exact ⟨rfl, hselected⟩
    | ok page =>
      rw [hpage] at hopen hnoted
      rw [Exec.run_bind_ok hopen, Exec.run_bind_ok hnoted, Handle.run_countAll, Exec.run_bind,
        Handle.run_collectAll]
      have hwalk : (ready.opened page).walk (ready.selected (q.noted c)) =
          (ready.opened page).walk (ready.selected c) := rfl
      have hsent : ((ready.opened page).afterWalk (ready.selected (q.noted c))).sent =
          ((ready.opened page).afterWalk (ready.selected c)).sent := by
        rw [Handle.sent_afterWalk, Handle.sent_afterWalk, hwalk, hselected]
      rw [Handle.sent_afterCount, hsent, hwalk]
      cases ((ready.opened page).walk (ready.selected c)).collected
          (ready.opened page).page.rows with
      | error e => exact ⟨rfl, rfl⟩
      | ok rows => exact ⟨rfl, (Connection.sent_note _ _).symm⟩

end Query

/-- All ways through the pages of a result agree. They send the requests of the walk, one for each
reply and at most one more; they take their rows from its pages, and a request that fails is the
last one. -/
theorem walkers_agree (h : Handle) (c : Connection) :
    (h.walk c).length ≤ c.script.length + 1 ∧
    (∀ k x, (h.walk c)[k]? = some x →
      x.outcome = (c.script[k]?.getD ⟨.ok ∅, 0⟩).outcome ∧
      ∀ e, x.outcome = .error e → (h.walk c).length = k + 1 ∧ (h.walk c).failure? = some e) ∧
    ((h.walk c).failure? = none ↔ ∀ x ∈ h.walk c, ∃ page, x.outcome = .ok page) ∧
    (h.afterWalk c).sent = c.sent ++ (h.walk c).map (fun x => h.request x.state) ∧
    (h.afterWalk c).script = c.script.drop (h.walk c).length ∧
    h.turnAll c = ((h.page :: (h.walk c).pages, (h.walk c).failure?), h.afterWalk c) ∧
    (Cursor.here h).pullAll c =
      ((h.page.rows :: (h.walk c).pages.map Page.rows, (h.walk c).failure?), h.afterWalk c) ∧
    (RowStream.ofHandle h).Yields c ((h.walk c).items h.page.rows) (h.afterWalk c) ∧
    h.collectAll.run c = ((h.walk c).collected h.page.rows, h.afterWalk c) ∧
    (h.countAll.run c).1 = (h.collectAll.run c).1.map List.length ∧
    (h.countAll.run c).2.sent = (h.afterWalk c).sent ∧
    (∀ (q : Query) (key : PrimaryKey) (columns : List String),
      ((q.count columns).run c).1 =
        (((⟨q, key⟩ : Model).getAll columns).run c).1.map List.length) := by
  refine ⟨Walk.length_along_le _ _, ?_, Walk.failure?_eq_none_iff, h.sent_afterWalk c,
    h.script_afterWalk c, h.turnAll_eq c, Cursor.pullAll_here h c, RowStream.yields_ofHandle h c,
    h.run_collectAll c, ?_, ?_, ?_⟩
  · intro k x hx
    exact ⟨Walk.outcome_of_along hx, fun e he => Walk.length_of_error hx he⟩
  · rw [h.run_countAll, h.run_collectAll]
  · rw [h.run_countAll]
    exact h.sent_afterCount c
  · exact fun q key columns => (q.run_count key columns c).1

/-- A walk over an empty page with a row behind it that breaks off at its second request. -/
theorem walkers_agree_at_failure :
    ∃ (h : Handle) (c : Connection) (x : Exchange), h.page.rows = [] ∧ (h.walk c).rows = [∅] ∧
      (h.walk c)[1]? = some x ∧ x.outcome = .error (.raised .transport "gone") ∧
      (h.walk c).length = 2 ∧
      h.collectAll.run c = (.error (.raised .transport "gone"), h.afterWalk c) := by
  let h : Handle := ⟨"select * from users", { arguments := [] }, ⟨[], some ⟨[1]⟩⟩⟩
  let c : Connection :=
    { script := [⟨.ok ⟨[∅], some ⟨[2]⟩⟩, 0⟩, ⟨.error (.raised .transport "gone"), 0⟩]
      settings := {} }
  obtain ⟨_, hwalk, _, _, _, _, _, _, hcollect, _⟩ := walkers_agree h c
  obtain ⟨_, hstop⟩ := hwalk 1 ⟨⟨[2]⟩, .error (.raised .transport "gone")⟩ rfl
  obtain ⟨hlength, hfailure⟩ := hstop _ rfl
  refine ⟨h, c, _, rfl, rfl, rfl, rfl, hlength, ?_⟩
  rw [hcollect, Walk.collected, hfailure]

end Cql
