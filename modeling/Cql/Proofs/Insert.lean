import Cql.Proofs.Clauses
import Cql.Proofs.Payload

/-!
The question marks of an insert stand for its cells, row by row, and its arguments are the values of
these cells.
-/

namespace Cql

def rowSlots (r : Nat) (row : Cells) : List Slot :=
  row.zipIdx.map fun entry => ⟨.cell (Payload.columnsOf row) r entry.2, entry.1.2⟩

/-- The slots of rows to insert, row by row. -/
def cellSlots (rows : List Cells) : List Slot :=
  rows.zipIdx.flatMap fun entry => rowSlots entry.2 entry.1

theorem map_value_rowSlots (r : Nat) (row : Cells) :
    (rowSlots r row).map Slot.value = row.map Prod.snd := by
  have hcells : (row.zipIdx.map Prod.fst).map Prod.snd = row.map Prod.snd := by
    rw [List.zipIdx_map_fst]
  rw [← hcells, rowSlots, List.map_map, List.map_map]
  rfl

theorem map_value_cellSlots (k : Nat) (rows : List Cells) :
    ((rows.zipIdx k).flatMap fun entry => rowSlots entry.2 entry.1).map Slot.value =
      rows.flatten.map Prod.snd := by
  induction rows generalizing k with
  | nil => rfl
  | cons row rows ih =>
    rw [List.zipIdx_cons, List.flatMap_cons, List.map_append, ih, map_value_rowSlots,
      List.flatten_cons, List.map_append]

/-- Where all rows have one width, the slot of a cell is found by counting row by row. -/
theorem getElem?_cellSlots {rows : List Cells} {width k i : Nat} {slot : Slot}
    (hwidth : ∀ row ∈ rows, row.length = width)
    (h : ((rows.zipIdx k).flatMap fun entry => rowSlots entry.2 entry.1)[i]? = some slot) :
    ∃ r c row cell, rows[r]? = some row ∧ row[c]? = some cell ∧ i = r * width + c ∧
      slot = ⟨.cell (Payload.columnsOf row) (k + r) c, cell.2⟩ := by
  induction rows generalizing k i with
  | nil => simp at h
  | cons row rows ih =>
    have hrow : (rowSlots k row).length = width := by
      rw [rowSlots, List.length_map, List.length_zipIdx]
      exact hwidth row (by simp)
    rw [List.zipIdx_cons, List.flatMap_cons] at h
    dsimp only at h
    by_cases hlt : i < width
    · rw [List.getElem?_append_left (by omega), rowSlots, List.getElem?_map, List.getElem?_zipIdx,
        Option.map_map, Option.map_eq_some_iff] at h
      obtain ⟨cell, hcell, rfl⟩ := h
      exact ⟨0, i, row, cell, rfl, hcell, by omega, by simp⟩
    · rw [List.getElem?_append_right (by omega), hrow] at h
      obtain ⟨r, c, later, cell, hlater, hcell, hindex, hslot⟩ :=
        ih (fun other hother => hwidth other (by simp [hother])) h
      refine ⟨r + 1, c, later, cell, by simpa using hlater, hcell, ?_, ?_⟩
      · rw [Nat.succ_mul]
        omega
      · rw [hslot, Nat.add_assoc, Nat.add_comm 1 r]

theorem length_cellSlots {rows : List Cells} {width : Nat} (k : Nat)
    (hwidth : ∀ row ∈ rows, row.length = width) :
    ((rows.zipIdx k).flatMap fun entry => rowSlots entry.2 entry.1).length =
      rows.length * width := by
  induction rows generalizing k with
  | nil => simp
  | cons row rows ih =>
    rw [List.zipIdx_cons, List.flatMap_cons, List.length_append,
      ih _ fun other hother => hwidth other (by simp [hother]), rowSlots, List.length_map,
      List.length_zipIdx, hwidth row (by simp), List.length_cons, Nat.succ_mul, Nat.add_comm]

namespace Query

variable {q : Query}

/-- The text of an insert whose rows all have the columns of the first one. -/
theorem insertText_of_columns (q : Query) {rows : List Cells} {columns : List String}
    (hnames : ∀ column ∈ columns, Name.checkIdentifier column = .ok ())
    (hfirst : rows.head?.map Payload.columnsOf = some columns)
    (hrows : ∀ row ∈ rows, Payload.columnsOf row = columns) :
    q.insertText rows = insertOf (Name.wrap q.tableName) columns rows.length := by
  have hhead : (rows.head?.getD []).map Prod.fst = columns := by
    cases rows with
    | nil => simp at hfirst
    | cons first rest => exact hrows first (by simp)
  have hlist : Name.list columns = ", ".intercalate columns := by
    have hwrap : columns.map Name.wrap = columns := by
      rw [List.map_congr_left fun column hcolumn =>
        Name.wrap_of_checkIdentifier (hnames column hcolumn), List.map_id']
    rw [Name.list, hwrap]
  have hgroups : (rows.map fun row => "(" ++ placeholders row.length ++ ")") =
      List.replicate rows.length (group columns.length) := by
    rw [List.eq_replicate_iff]
    refine ⟨by simp, ?_⟩
    intro text htext
    obtain ⟨row, hrow, rfl⟩ := List.mem_map.mp htext
    rw [Payload.length_of_columns hrows row hrow]
    rfl
  unfold insertText insertOf
  dsimp only
  rw [hhead, hlist, hgroups]

theorem insertText_eq (hq : q.Checked) {rows : List Cells} {columns : List String}
    (hnames : ∀ column ∈ columns, Name.checkIdentifier column = .ok ())
    (hfirst : rows.head?.map Payload.columnsOf = some columns)
    (hrows : ∀ row ∈ rows, Payload.columnsOf row = columns) :
    q.insertText rows = insertOf q.tableName columns rows.length := by
  rw [insertText_of_columns q hnames hfirst hrows, wrap_tableName hq]

theorem aligned_insertStatement (hq : q.Checked) {payload : Payload} {s : Statement}
    (h : q.insertStatement payload = .ok s) : s.Aligned (cellSlots payload.ordered) := by
  obtain ⟨rows, hrows, hs⟩ := Outcome.bind_eq_ok_iff.mp h
  obtain ⟨rfl, columns, hne, hnames, hfirst, hcolumns⟩ := Payload.rows?_eq_ok hrows
  obtain rfl := Except.ok.inj hs
  have hwidth := Payload.length_of_columns hcolumns
  have hmarks : ∀ column ∈ columns, questionMarks column = 0 := fun column hcolumn =>
    questionMarks_of_checkIdentifier (hnames column hcolumn)
  refine ⟨(map_value_cellSlots 0 payload.ordered).symm, ?_, ?_⟩
  · rw [insertText_eq hq hnames hfirst hcolumns, List.length_map, cellSlots,
      length_cellSlots 0 hwidth]
    exact questionMarks_insertOf (questionMarks_tableName hq) hmarks
  · intro i place hi
    rw [List.getElem?_map, Option.map_eq_some_iff] at hi
    obtain ⟨slot, hslot, rfl⟩ := hi
    obtain ⟨r, c, row, cell, hrow, hcell, rfl, rfl⟩ := getElem?_cellSlots hwidth hslot
    have hr : r < payload.ordered.length := (List.getElem?_eq_some_iff.mp hrow).1
    have hc : c < columns.length := by
      rw [← hwidth row (List.mem_of_getElem? hrow)]
      exact (List.getElem?_eq_some_iff.mp hcell).1
    rw [hcolumns row (List.mem_of_getElem? hrow), Nat.zero_add,
      insertText_eq hq hnames hfirst hcolumns]
    exact markedAt_cell (questionMarks_tableName hq) hmarks hr hc

end Query

end Cql
