import Cql.Proofs.Call
import Cql.Proofs.Paging.Agreement

/-!
Look-ups of one row. They read the first page of their statement alone, which need not have a row
even if a later page has: a page may be empty and still be followed by others. So a look-up finds
the first row of the walk exactly where it is on the first page or nowhere.
-/

namespace Cql

namespace Query

variable {q : Query} {columns : List String} {c after : Connection} {h : Handle} {e : Error}

theorem run_first (hopen : ((q.withLimit 1).openRows columns).run c = (.ok h, after)) :
    (q.first columns).run c = (.ok h.page.rows.head?, after) := by
  have hget : ((q.withLimit 1).get columns).run c = (.ok h.page.rows, after) := by
    rw [get, Exec.run_bind_ok hopen, Exec.run_pure]
  rw [first, Exec.run_bind_ok hget, Exec.run_pure]

theorem run_first_refused
    (hopen : ((q.withLimit 1).openRows columns).run c = (.error e, after)) :
    (q.first columns).run c = (.error e, after) := by
  have hget : ((q.withLimit 1).get columns).run c = (.error e, after) := by
    rw [get, Exec.run_bind_error hopen]
  rw [first, Exec.run_bind_error hget]

end Query

namespace Model

variable {m : Model} {id : KeyValue} {q : Query} {columns : List String}

theorem run_restrict (c : Connection) (hid : m.key.restrict m.query id = .ok q) :
    (Exec.ofExcept (m.restrict id)).run c = (.ok { m with query := q }, c) := by
  rw [Exec.run_ofExcept, restrict, hid]
  rfl

theorem run_find (c : Connection) (hid : m.key.restrict m.query id = .ok q) :
    (m.find id columns).run c = (q.first columns).run c := by
  rw [find, Exec.run_bind_ok (run_restrict c hid)]

theorem run_findOrFail {c after : Connection} {row? : Option Row}
    (hid : m.key.restrict m.query id = .ok q)
    (hfirst : (q.first columns).run c = (.ok row?, after)) :
    (m.findOrFail id columns).run c =
      (row?.elim (.error (.rowMissing m.query.tableName id.describe)) .ok, after) := by
  rw [← run_find c hid] at hfirst
  rw [findOrFail, Exec.run_bind_ok hfirst]
  cases row? with
  | none => rfl
  | some row => rfl

end Model

theorem head?_append_eq_iff {first later : List Row} :
    first.head? = (first ++ later).head? ↔ (first = [] → first ++ later = []) := by
  cases first with
  | cons row rest => simp
  | nil =>
    cases later with
    | nil => simp
    | cons row rest => simp

namespace Query

variable {q : Query} {columns : List String}

theorem ready_of_accepted (htable : q.table.isSome = true)
    (hcolumns : ∀ column ∈ columns, Name.checkColumn column = .ok ()) :
    ∃ ready, q.ready columns = .ok ready := by
  have hrequired : q.requireTable = .ok () := by
    rw [requireTable, if_pos htable]
  have hchecked : columns.forM Name.checkColumn = .ok () := Outcome.forM_eq_ok_iff.mpr hcolumns
  cases hprojection : q.columns.isSome with
  | true =>
    have hselect : q.selectDefault columns = .ok q := by
      rw [selectDefault, if_pos hprojection]
    exact ⟨q, Outcome.bind_eq_ok_iff.mpr ⟨(), hrequired, hselect⟩⟩
  | false =>
    have hselect : q.selectDefault columns = .ok { q with columns := some columns } := by
      rw [selectDefault, hprojection]
      exact Outcome.bind_eq_ok_iff.mpr ⟨(), hchecked, rfl⟩
    exact ⟨_, Outcome.bind_eq_ok_iff.mpr ⟨(), hrequired, hselect⟩⟩

/-- A look-up answers with the first row of the first page. That is the first row of the walk unless
the first page is empty and a later page has a row; there the row exists and is not found. -/
theorem first_eq_walk_iff (c : Connection) (htable : q.table.isSome = true)
    (hcolumns : ∀ column ∈ columns, Name.checkColumn column = .ok ()) :
    ∃ ready, (q.withLimit 1).ready columns = .ok ready ∧
      (∀ e, c.reply.outcome = .error e → ((q.first columns).run c).1 = .error e) ∧
      ∀ page, c.reply.outcome = .ok page →
        let rows := page.rows ++ ((ready.opened page).walk (ready.selected c)).rows
        ((q.first columns).run c).1 = .ok page.rows.head? ∧
        (((q.first columns).run c).1 = .ok rows.head? ↔ (page.rows = [] → rows = [])) ∧
        ∀ (m : Model) (id : KeyValue), m.key.restrict m.query id = .ok q →
          ((m.find id columns).run c).1 = .ok page.rows.head? ∧
          (((m.findOrFail id columns).run c).1 =
            .error (.rowMissing m.query.tableName id.describe) ↔ page.rows = []) := by
  obtain ⟨ready, hready⟩ := @ready_of_accepted (q.withLimit 1) columns htable hcolumns
  have hopen := run_openRows c hready
  refine ⟨ready, hready, ?_, ?_⟩
  · intro e he
    rw [he] at hopen
    rw [run_first_refused hopen]
  · intro page hpage
    rw [hpage] at hopen
    have hfirst := run_first hopen
    have hrows : (ready.opened page).page.rows = page.rows := rfl
    rw [hrows] at hfirst
    refine ⟨by rw [hfirst], ?_, ?_⟩
    · rw [hfirst, ← head?_append_eq_iff]
      simp
    · intro m id hid
      refine ⟨by rw [Model.run_find c hid, hfirst], ?_⟩
      rw [Model.run_findOrFail hid hfirst]
      cases page.rows with
      | nil => simp
      | cons row rest => simp

/-- A look-up by key whose row is on the first page. -/
theorem first_finds_first_page :
    ∃ (m : Model) (id : KeyValue) (c : Connection) (row : Row),
      m.query.table = some "users" ∧ ((m.find id ["*"]).run c).1 = .ok (some row) ∧
      ((m.findOrFail id ["*"]).run c).1 ≠ .error (.rowMissing m.query.tableName id.describe) := by
  let m : Model := ⟨{ table := some "users" }, .single "id"⟩
  let id : KeyValue := .single (.int 1)
  let row : Row := .ofCells [("id", .int 1)]
  let q : Query := m.query.addPredicates [⟨"id", .eq, .int 1⟩]
  let c : Connection := { script := [⟨.ok ⟨[row], none⟩, 0⟩], settings := {} }
  have hname : Name.checkIdentifier "id" = .ok () := by
    simp [Name.checkIdentifier_eq_ok_iff, Name.isIdentifier, Name.isStart, Name.isPart,
      Name.reservedWords, Name.lower, ← String.toList_inj]
  have hid : m.key.restrict m.query id = .ok q :=
    restrict_eq_ok_iff.mpr ⟨hname, rfl⟩
  have hcolumns : ∀ column ∈ ["*"], Name.checkColumn column = .ok () := by
    simp [Name.checkColumn]
  obtain ⟨_, _, _, hpage⟩ := @first_eq_walk_iff q ["*"] c rfl hcolumns
  obtain ⟨_, _, hlookup⟩ := hpage _ rfl
  obtain ⟨hfind, hfail⟩ := hlookup m id hid
  refine ⟨m, id, c, row, rfl, hfind, ?_⟩
  intro herror
  cases hfail.mp herror

/-- A row on the second page, which a walk over the same statement reaches and a look-up misses. -/
theorem first_misses_second_page :
    ∃ (q : Query) (c : Connection) (row : Row), q.table = some "users" ∧
      ((q.withLimit 1).openRows ["*"] >>= Handle.collectAll |>.run c).1 = .ok [row] ∧
      ((q.first ["*"]).run c).1 = .ok none := by
  let q : Query := { table := some "users" }
  let row : Row := .ofCells [("id", .int 1)]
  let c : Connection :=
    { script := [⟨.ok ⟨[], some ⟨[1]⟩⟩, 0⟩, ⟨.ok ⟨[row], none⟩, 0⟩]
      settings := {} }
  have hready : (q.withLimit 1).ready ["*"] =
      .ok { q.withLimit 1 with columns := some ["*"] } := rfl
  have hopen := run_openRows c hready
  refine ⟨q, c, row, rfl, ?_, ?_⟩
  · rw [Exec.run_bind_ok hopen, Handle.run_collectAll]
    rfl
  · rw [run_first hopen]
    rfl

end Query

end Cql
