import Cql.Run.Handle

/-!
Page cursors, which hand out the rows of one page after another and fetch a page when it is asked
for. Where a page cannot be fetched the cursor stays where it is, and the next call asks again.
-/

namespace Cql

inductive Cursor where
  /-- The rows of this page are next. -/
  | here (h : Handle)
  /-- The rows of the page after this one are next. -/
  | after (h : Handle)
  | done

namespace Cursor

def hasNext : Cursor → Bool
  | done => false
  | _ => true

def describe (cursor : Cursor) : String :=
  "PageCursor \x7b has_next: " ++ (if cursor.hasNext then "true" else "false") ++ " \x7d"

/-- The cursor once the rows of a page were handed out. -/
def past (h : Handle) : Cursor :=
  if h.page.isLast then done else after h

/-- The rows of the next page, or nothing after the last one. -/
def next (cursor : Cursor) (c : Connection) :
    (Except Error (Option (List Row)) × Cursor) × Connection :=
  match cursor with
  | here h => ((.ok (some h.page.rows), past h), c)
  | after h =>
    match h.next c with
    | (.ok next, c) => ((.ok (some next.page.rows), past next), c)
    | (.error e, c) => ((.error e, after h), c)
  | done => ((.ok none, done), c)

/-- How many more pages there can be. -/
def remaining (cursor : Cursor) (c : Connection) : Nat :=
  match cursor with
  | here h => h.remaining c + 1
  | after h => h.remaining c
  | done => 0

theorem remaining_past (h : Handle) (c : Connection) : (past h).remaining c = h.remaining c := by
  unfold past
  split <;> simp_all [remaining, Handle.remaining]

theorem remaining_next_lt {cursor later : Cursor} {c after : Connection} {rows : List Row}
    (step : cursor.next c = ((.ok (some rows), later), after)) :
    later.remaining after < cursor.remaining c := by
  unfold Cursor.next at step
  split at step
  · simp only [Prod.mk.injEq, Except.ok.injEq, Option.some.injEq] at step
    obtain ⟨⟨_, rfl⟩, rfl⟩ := step
    rw [remaining_past]
    exact Nat.lt_succ_self _
  · rename_i h
    split at step
    · rename_i hnext
      simp only [Prod.mk.injEq, Except.ok.injEq, Option.some.injEq] at step
      obtain ⟨⟨_, rfl⟩, rfl⟩ := step
      rw [remaining_past]
      exact Handle.remaining_next_lt hnext
    · simp at step
  · simp at step

end Cursor

end Cql
