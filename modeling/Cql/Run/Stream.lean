import Cql.Run.Cursor

/-!
Row streams, which hand out the rows of all pages one at a time. A page is fetched when the rows of
the pages before it are used up. A stream ends after an error.
-/

namespace Cql

structure RowStream where
  /-- Rows that were fetched and not yet handed out. -/
  ready : List Row
  pages : Cursor

namespace RowStream

def ofHandle (h : Handle) : RowStream :=
  ⟨[], .here h⟩

/-- The next row or error, or nothing at the end. -/
def next (s : RowStream) (c : Connection) : (Option (Except Error Row) × RowStream) × Connection :=
  match s.ready with
  | row :: rest => ((some (.ok row), ⟨rest, s.pages⟩), c)
  | [] =>
    match _step : s.pages.next c with
    | ((.ok (some rows), pages), c) => next ⟨rows, pages⟩ c
    | ((.ok none, pages), c) => ((none, ⟨[], pages⟩), c)
    | ((.error e, _), c) => ((some (.error e), ⟨[], .done⟩), c)
termination_by s.pages.remaining c
decreasing_by exact Cursor.remaining_next_lt _step

theorem next_decreases {s later : RowStream} {c after : Connection} {row : Row}
    (step : s.next c = ((some (.ok row), later), after)) :
    later.pages.remaining after < s.pages.remaining c ∨
      later.pages.remaining after = s.pages.remaining c ∧ later.ready.length < s.ready.length := by
  fun_induction RowStream.next s c with
  | case1 s c r rest hready =>
    simp only [Prod.mk.injEq] at step
    obtain ⟨⟨_, rfl⟩, rfl⟩ := step
    right
    simp [hready]
  | case2 s c hready rows pages c' hnext ih =>
    left
    rcases ih step with h | h
    · exact Nat.lt_trans h (Cursor.remaining_next_lt hnext)
    · exact h.1 ▸ Cursor.remaining_next_lt hnext
  | case3 => simp at step
  | case4 => simp at step

/-- All rows that are left, unless a page cannot be fetched. -/
def drain (s : RowStream) (c : Connection) : Except Error (List Row) × Connection :=
  match _step : s.next c with
  | ((some (.ok row), later), c) =>
    match drain later c with
    | (.ok rows, c) => (.ok (row :: rows), c)
    | (.error e, c) => (.error e, c)
  | ((some (.error e), _), c) => (.error e, c)
  | ((none, _), c) => (.ok [], c)
termination_by (s.pages.remaining c, s.ready.length)
decreasing_by
  rcases next_decreases _step with h | h
  · exact Prod.Lex.left _ _ h
  · exact h.1 ▸ Prod.Lex.right _ h.2

/-- The next items, at most as many as asked for. An error can only be the last one. -/
def take (s : RowStream) (c : Connection) : Nat → List (Except Error Row) × Connection
  | 0 => ([], c)
  | n + 1 =>
    match s.next c with
    | ((none, _), c) => ([], c)
    | ((some (.error e), _), c) => ([.error e], c)
    | ((some (.ok row), later), c) =>
      let (items, c) := later.take c n
      (.ok row :: items, c)

end RowStream

/-- All rows from this page to the last one. -/
def Handle.collectAll (h : Handle) : Exec (List Row) :=
  ExceptT.mk (RowStream.ofHandle h).drain

end Cql
