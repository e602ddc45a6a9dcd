import Cql.Run.Connection

/-!
Page handles. A handle is a page with the statement it came from, so that the next page can be
asked for: the same statement, with the paging state of the page. There is no way back.
-/

namespace Cql

structure Handle where
  cql : String
  options : StatementOptions
  page : Page

namespace Handle

/-- The options under which the next page is asked for. -/
def advance (h : Handle) (state : PagingState) : StatementOptions :=
  { h.options with pagingState := some state }

/-- Fetches the next page. -/
def next (h : Handle) (c : Connection) : Except Error Handle × Connection :=
  match h.page.next with
  | none => (.error .noNextPage, c)
  | some state =>
    match c.execute h.cql (h.advance state) with
    | (.ok page, c) => (.ok ⟨h.cql, h.advance state, page⟩, c)
    | (.error e, c) => (.error e, c)

/-- How many more pages there can be: one for each reply left and the empty one after them. -/
def remaining (h : Handle) (c : Connection) : Nat :=
  if h.page.isLast then 0 else c.script.length + 1

theorem remaining_next_lt {h next : Handle} {c after : Connection}
    (step : h.next c = (.ok next, after)) : next.remaining after < h.remaining c := by
  unfold Handle.next at step
  split at step
  · simp at step
  · rename_i state hstate
    have hbefore : h.remaining c = c.script.length + 1 := by
      simp [remaining, Page.isLast, hstate]
    rw [hbefore]
    split at step
    · rename_i page c' hexec
      simp only [Prod.mk.injEq, Except.ok.injEq] at step
      obtain ⟨rfl, rfl⟩ := step
      simp only [Connection.execute, Connection.reply, Prod.mk.injEq] at hexec
      obtain ⟨hout, rfl⟩ := hexec
      cases hs : c.script with
      | nil =>
        simp only [hs, List.head?_nil, Option.getD_none, Except.ok.injEq] at hout
        subst hout
        simp [remaining, Page.isLast, EmptyCollection.emptyCollection, Page.empty]
      | cons reply rest =>
        simp only [remaining, Connection.note, Connection.afterSending, Connection.leave, hs,
          List.tail_cons, List.length_cons]
        split <;> omega
    · simp at step

/-- Numbers of pages and rows from this page to the last one, added to those before it. -/
def countFrom (pages rows : Nat) (h : Handle) (c : Connection) :
    Except Error (Nat × Nat) × Connection :=
  let rows := rows + h.page.count
  if h.page.isLast then (.ok (pages + 1, rows), c)
  else
    match _step : h.next c with
    | (.ok next, c) => countFrom (pages + 1) rows next c
    | (.error e, c) => (.error e, c)
termination_by h.remaining c
decreasing_by exact remaining_next_lt _step

/-- The number of rows from this page to the last one. -/
def countAll (h : Handle) : Exec Nat := do
  let (pages, rows) ← ExceptT.mk (countFrom 0 0 h)
  Exec.trace (.counted pages rows)
  return rows

end Handle

end Cql
