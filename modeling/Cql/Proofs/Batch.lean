import Mathlib.Data.List.Nodup
import Cql.Proofs.Insert

/-!
What an insert takes and what becomes of its rows. A batch is taken if all its rows have the
columns of the first one, in any order; each row is put into the ascending order of its columns,
and since no column occurs twice that order says which value is meant for which column. The main
statement is that every value of every row is bound to its own column.
-/

namespace Cql.Payload

/-- The rows as they are handed over, each in the order of its cells. -/
def given : Payload → List Cells
  | single cells => [cells]
  | batch rows => rows

/-- There is a first row, its columns are fit for an insert, and every other row has the same ones,
each once, in any order. -/
def Uniform (p : Payload) : Prop :=
  ∃ first rest, p.given = first :: rest ∧ Insertable (columnsOf first) ∧
    ∀ row ∈ rest, (columnsOf row).Nodup ∧
      ∀ column, column ∈ columnsOf row ↔ column ∈ columnsOf first

/-- A single row has its columns in its own order, a batch has them in ascending order. -/
def ColumnOrder (columns : List String) : Payload → Prop
  | single cells => columns = columnsOf cells
  | batch _ => columns.Pairwise (· < ·)

theorem columnsOf_sortCells (row : Cells) :
    columnsOf (sortCells row) = (columnsOf row).mergeSort := by
  unfold columnsOf sortCells
  rw [List.map_mergeSort]
  intros
  rfl

theorem pairwise_mergeSort_columns (columns : List String) :
    columns.mergeSort.Pairwise (· ≤ ·) := by
  have hsorted := @List.pairwise_mergeSort String (fun a b => decide (a ≤ b))
    (fun a b c hab hbc => by
      simp only [decide_eq_true_eq] at *
      exact String.le_trans hab hbc)
    (fun a b => by simpa using String.le_total a b) columns
  simpa only [decide_eq_true_eq] using hsorted

/-- Columns in order are determined by which ones they are. -/
theorem mergeSort_columns_eq_iff {columns others : List String} :
    columns.mergeSort = others.mergeSort ↔ columns.Perm others := by
  constructor
  · intro h
    exact (List.mergeSort_perm columns _).symm.trans (h ▸ List.mergeSort_perm others _)
  · intro h
    exact List.Perm.eq_of_pairwise (fun _ _ _ _ => String.le_antisymm)
      (pairwise_mergeSort_columns columns) (pairwise_mergeSort_columns others)
      ((List.mergeSort_perm columns _).trans (h.trans (List.mergeSort_perm others _).symm))

theorem pairwise_lt_mergeSort_columns {columns : List String} (h : columns.Nodup) :
    columns.mergeSort.Pairwise (· < ·) := by
  have hnodup : columns.mergeSort.Pairwise (· ≠ ·) :=
    (List.mergeSort_perm columns _).nodup_iff.mpr h
  refine ((pairwise_mergeSort_columns columns).and hnodup).imp fun ⟨hle, hne⟩ => ?_
  exact Std.lt_of_le_of_ne hle hne

/-- Two sorted rows have the same columns if these are the same in any order. -/
theorem columnsOf_sortCells_eq_iff {row first : Cells} (hfirst : (columnsOf first).Nodup) :
    columnsOf (sortCells row) = columnsOf (sortCells first) ↔
      (columnsOf row).Nodup ∧ ∀ column, column ∈ columnsOf row ↔ column ∈ columnsOf first := by
  rw [columnsOf_sortCells, columnsOf_sortCells, mergeSort_columns_eq_iff]
  constructor
  · intro h
    exact ⟨h.nodup_iff.mpr hfirst, fun column => h.mem_iff⟩
  · rintro ⟨hrow, hmem⟩
    exact (List.perm_ext_iff_of_nodup hrow hfirst).mpr hmem

theorem insertable_congr {columns others : List String} (h : columns.Perm others) :
    Insertable columns ↔ Insertable others := by
  have hmp : ∀ {xs ys : List String}, xs.Perm ys → Insertable xs → Insertable ys := by
    intro xs ys hperm hxs
    refine ⟨?_, fun column hcolumn => hxs.identifiers column (hperm.mem_iff.mpr hcolumn),
      hperm.nodup_iff.mp hxs.nodup⟩
    rintro rfl
    exact hxs.ne_nil hperm.eq_nil
  exact ⟨hmp h, hmp h.symm⟩

/-- The payloads whose rows are accepted. -/
theorem exists_rows?_iff (p : Payload) : (∃ rows, p.rows? = .ok rows) ↔ p.Uniform := by
  simp only [rows?_eq_ok_iff, exists_eq_left']
  cases p with
  | single cells => simp [ordered, Uniform, given]
  | batch rows =>
    cases rows with
    | nil => simp [ordered, Uniform, given]
    | cons first rest =>
      have hperm : (columnsOf (sortCells first)).Perm (columnsOf first) :=
        columnsOf_sortCells first ▸ List.mergeSort_perm _ _
      simp only [ordered, Uniform, given, List.map_cons, List.cons.injEq]
      constructor
      · rintro ⟨_, _, ⟨rfl, rfl⟩, hfirst, hrest⟩
        have hfirst := (insertable_congr hperm).mp hfirst
        refine ⟨first, rest, ⟨rfl, rfl⟩, hfirst, fun row hrow => ?_⟩
        exact (columnsOf_sortCells_eq_iff hfirst.nodup).mp
          (hrest _ (List.mem_map_of_mem hrow))
      · rintro ⟨_, _, ⟨rfl, rfl⟩, hfirst, hrest⟩
        refine ⟨_, _, ⟨rfl, rfl⟩, (insertable_congr hperm).mpr hfirst, ?_⟩
        rw [List.forall_mem_map]
        exact fun row hrow => (columnsOf_sortCells_eq_iff hfirst.nodup).mpr (hrest row hrow)

/-- The order of the cells of a row is lost where its columns are distinct. -/
theorem sortCells_eq_of_perm {row row' : Cells} (h : row.Perm row')
    (hnodup : (columnsOf row).Nodup) : sortCells row = sortCells row' := by
  have hsorted : ∀ cells : Cells, (columnsOf cells).Nodup →
      (sortCells cells).Pairwise fun a b => a.1 < b.1 := by
    intro cells hcells
    have hcolumns := pairwise_lt_mergeSort_columns hcells
    rw [← columnsOf_sortCells] at hcolumns
    exact List.pairwise_map.mp hcolumns
  have hnodup' : (columnsOf row').Nodup := (h.map Prod.fst).nodup_iff.mp hnodup
  refine List.Perm.eq_of_pairwise ?_ (hsorted row hnodup) (hsorted row' hnodup') ?_
  · intro a b _ _ hab hba
    exact absurd hba (String.not_lt.mpr (Std.le_of_lt hab))
  · exact (List.mergeSort_perm row _).trans (h.trans (List.mergeSort_perm row' _).symm)

theorem rows?_congr {p p' : Payload} (h : p.ordered = p'.ordered) : p.rows? = p'.rows? := by
  unfold rows?
  rw [h]

/-- The cells of a sorted row are those of the row. -/
theorem mem_ordered {p : Payload} {i : Nat} {row : Cells} (h : p.given[i]? = some row) :
    ∃ ordered, p.ordered[i]? = some ordered ∧ ordered.Perm row := by
  cases p with
  | single cells => exact ⟨row, h, .refl _⟩
  | batch rows =>
    refine ⟨sortCells row, ?_, List.mergeSort_perm _ _⟩
    rw [ordered, List.getElem?_map]
    exact congrArg (Option.map sortCells) h

theorem length_ordered (p : Payload) : p.ordered.length = p.given.length := by
  cases p <;> simp [ordered, given]

theorem Uniform.insertable {p : Payload} (h : p.Uniform) {row : Cells} (hrow : row ∈ p.given) :
    Insertable (columnsOf row) := by
  obtain ⟨first, rest, hgiven, hfirst, hrest⟩ := h
  rw [hgiven] at hrow
  rcases List.mem_cons.mp hrow with rfl | hrow
  · exact hfirst
  · obtain ⟨hnodup, hmem⟩ := hrest row hrow
    exact (insertable_congr ((List.perm_ext_iff_of_nodup hnodup hfirst.nodup).mpr hmem)).mpr hfirst

/-- In a batch of uniform rows the order of the cells is lost. -/
theorem ordered_eq_of_perm {rows rows' : List Cells} (h : Uniform (.batch rows))
    (hperm : List.Forall₂ List.Perm rows rows') :
    (Payload.batch rows).ordered = (Payload.batch rows').ordered := by
  have hnodup : ∀ row ∈ rows, (columnsOf row).Nodup := fun row hrow => (h.insertable hrow).nodup
  clear h
  simp only [ordered]
  induction hperm with
  | nil => rfl
  | cons hrow _ ih =>
    rw [List.forall_mem_cons] at hnodup
    rw [List.map_cons, List.map_cons, sortCells_eq_of_perm hrow hnodup.1, ih hnodup.2]

/-- In rows of one width the cells are counted row by row. -/
theorem getElem?_flatten {rows : List Cells} {width i j : Nat} {row : Cells}
    (hwidth : ∀ row ∈ rows, row.length = width) (hrow : rows[i]? = some row) (hj : j < width) :
    rows.flatten[i * width + j]? = row[j]? := by
  induction rows generalizing i with
  | nil => simp at hrow
  | cons first rest ih =>
    have hfirst : first.length = width := hwidth first (by simp)
    rw [List.flatten_cons]
    cases i with
    | zero =>
      obtain rfl : first = row := by simpa using hrow
      rw [Nat.zero_mul, Nat.zero_add, List.getElem?_append_left (by omega)]
    | succ i =>
      rw [List.getElem?_cons_succ] at hrow
      have hindex : (i + 1) * width + j - first.length = i * width + j := by
        rw [hfirst, Nat.succ_mul]
        omega
      rw [List.getElem?_append_right (by rw [hfirst, Nat.succ_mul]; omega), hindex]
      exact ih (fun other hother => hwidth other (by simp [hother])) hrow

theorem length_flatten {rows : List Cells} {width : Nat}
    (hwidth : ∀ row ∈ rows, row.length = width) :
    rows.flatten.length = rows.length * width := by
  rw [List.length_flatten, List.map_congr_left hwidth, List.map_const', List.sum_replicate_nat]

/-- The columns of accepted rows are distinct, and they stand in the order that the payload calls
for. -/
theorem nodup_columnOrder_of_rows? {p : Payload} {rows : List Cells} {columns : List String}
    (h : p.rows? = .ok rows) (hcolumns : ∀ row ∈ rows, columnsOf row = columns) :
    columns.Nodup ∧ p.ColumnOrder columns := by
  obtain ⟨rfl, first, rest, hrows, hfirst, _⟩ := rows?_eq_ok_iff.mp h
  have hhead : columnsOf first = columns := hcolumns first (by simp [hrows])
  refine ⟨hhead ▸ hfirst.nodup, ?_⟩
  cases p with
  | single cells =>
    obtain ⟨rfl, _⟩ := List.cons.inj hrows
    exact hhead.symm
  | batch given =>
    cases given with
    | nil => cases hrows
    | cons row given =>
      obtain ⟨rfl, _⟩ := List.cons.inj hrows
      rw [columnsOf_sortCells] at hhead hfirst
      rw [← hhead]
      exact pairwise_lt_mergeSort_columns
        ((List.mergeSort_perm (columnsOf row) _).nodup_iff.mp hfirst.nodup)

/-- A cell among others of distinct columns is the only one of its column. -/
theorem mem_iff_of_getElem? {row ordered : Cells} {j : Nat} {cell : String × Value}
    (hperm : ordered.Perm row) (hnodup : (columnsOf ordered).Nodup) (hj : ordered[j]? = some cell)
    (v : Value) : (cell.1, v) ∈ row ↔ v = cell.2 := by
  have hcell : cell ∈ ordered := List.mem_of_getElem? hj
  rw [← hperm.mem_iff]
  constructor
  · intro hv
    have heq := List.inj_on_of_nodup_map hnodup hv hcell rfl
    exact congrArg Prod.snd heq
  · rintro rfl
    exact hcell

/-- The argument in row `i` and column `j` of accepted rows is the value that the row given as row
`i` has for that column. -/
theorem argument_of_rows? {p : Payload} {rows : List Cells} {columns : List String}
    (h : p.rows? = .ok rows) (hcolumns : ∀ row ∈ rows, columnsOf row = columns) {i : Nat}
    {row : Cells} (hrow : p.given[i]? = some row) :
    (∀ column, column ∈ columnsOf row ↔ column ∈ columns) ∧
      ∀ j column, columns[j]? = some column →
        ∃ v, (rows.flatten.map Prod.snd)[i * columns.length + j]? = some v ∧
          ∀ w, (column, w) ∈ row ↔ w = v := by
  have hwidth := length_of_columns hcolumns
  obtain ⟨sorted, hsorted, hperm⟩ := mem_ordered hrow
  rw [(rows?_eq_ok_iff.mp h).1] at hsorted
  have hmem : sorted ∈ rows := List.mem_of_getElem? hsorted
  have hsortedColumns := hcolumns sorted hmem
  refine ⟨fun column => ?_, fun j column hj => ?_⟩
  · rw [← hsortedColumns]
    exact (hperm.map Prod.fst).mem_iff.symm
  · rw [← hsortedColumns, columnsOf, List.getElem?_map, Option.map_eq_some_iff] at hj
    obtain ⟨cell, hcell, rfl⟩ := hj
    have hnodup : (columnsOf sorted).Nodup :=
      hsortedColumns ▸ (nodup_columnOrder_of_rows? h hcolumns).1
    have hjlt : j < columns.length := by
      rw [← hwidth sorted hmem]
      exact (List.getElem?_eq_some_iff.mp hcell).1
    refine ⟨cell.2, ?_, mem_iff_of_getElem? hperm hnodup hcell⟩
    rw [List.getElem?_map, getElem?_flatten hwidth hsorted hjlt, hcell, Option.map_some]

end Cql.Payload

namespace Cql.Query

open Payload

/-- An insert takes the payloads of uniform rows and no others. Its text has one group of question
marks for each row, as wide as the list of columns, and the question mark in row `i` and column `j`
stands for the value that row `i` has for the column `j`. So the order of the cells in the rows of a
batch does not matter. -/
theorem insertStatement_uniform (q : Query) (p : Payload) :
    ((∃ s, q.insertStatement p = .ok s) ↔ p.Uniform) ∧
    (∀ row ∈ p.given, "*" ∈ columnsOf row → ∀ s, q.insertStatement p ≠ .ok s) ∧
    ∀ s, q.insertStatement p = .ok s →
      (∃ columns, p.ColumnOrder columns ∧
        s.cql = insertOf (Name.wrap q.tableName) columns p.given.length ∧
        s.arguments.length = p.given.length * columns.length ∧
        ∀ i row, p.given[i]? = some row →
          (∀ column, column ∈ columnsOf row ↔ column ∈ columns) ∧
          ∀ j column, columns[j]? = some column →
            ∃ v, s.arguments[i * columns.length + j]? = some v ∧
              ∀ w, (column, w) ∈ row ↔ w = v) ∧
      ∀ rows rows', p = .batch rows → List.Forall₂ List.Perm rows rows' →
        q.insertStatement (.batch rows') = .ok s := by
  have hrows : ∀ s, q.insertStatement p = .ok s ↔
      ∃ rows, p.rows? = .ok rows ∧ ⟨q.insertText rows, rows.flatten.map Prod.snd⟩ = s := by
    intro s
    rw [insertStatement, Outcome.bind_eq_ok_iff]
    simp [pure, Except.pure]
  have huniform : (∃ s, q.insertStatement p = .ok s) ↔ p.Uniform := by
    rw [← exists_rows?_iff]
    simp [hrows]
  refine ⟨huniform, ?_, ?_⟩
  · intro row hrow hstar s hs
    have hrefused : Name.checkIdentifier "*" ≠ .ok () := by
      rw [Ne, Name.checkIdentifier_eq_ok_iff]
      decide
    exact hrefused (((huniform.mp ⟨s, hs⟩).insertable hrow).identifiers _ hstar)
  · intro s hs
    obtain ⟨rows, haccepted, rfl⟩ := (hrows s).mp hs
    obtain ⟨hordered, columns, hne, hnames, hfirst, hcolumns⟩ := rows?_eq_ok haccepted
    have hlength : rows.length = p.given.length := by
      rw [← hordered, length_ordered]
    refine ⟨⟨columns, (nodup_columnOrder_of_rows? haccepted hcolumns).2, ?_, ?_, ?_⟩, ?_⟩
    · rw [insertText_of_columns q hnames hfirst hcolumns, hlength]
    · rw [List.length_map, length_flatten (length_of_columns hcolumns), hlength]
    · exact fun i row hrow => argument_of_rows? haccepted hcolumns hrow
    · rintro given given' rfl hperm
      have hsame := rows?_congr (ordered_eq_of_perm (huniform.mp ⟨_, hs⟩) hperm)
      rw [insertStatement, ← hsame]
      exact hs

/-- Two rows with their cells in different orders, and the same rows the other way round. -/
theorem insertStatement_uniform_of_users :
    ∃ s columns, insertStatement { table := some "users" }
        (.batch [[("name", .text "Ada"), ("id", .int 1)],
          [("id", .int 2), ("name", .text "Grace")]]) = .ok s ∧
      columns.Pairwise (· < ·) ∧ s.cql = insertOf (Name.wrap "users") columns 2 ∧
      s.arguments.length = 2 * columns.length ∧
      insertStatement { table := some "users" }
        (.batch [[("id", .int 1), ("name", .text "Ada")],
          [("name", .text "Grace"), ("id", .int 2)]]) = .ok s := by
  have hnames : Name.checkIdentifier "name" = .ok () ∧ Name.checkIdentifier "id" = .ok () := by
    simp only [Name.checkIdentifier_eq_ok_iff]
    decide
  have huniform : Uniform (.batch [[("name", .text "Ada"), ("id", .int 1)],
      [("id", .int 2), ("name", .text "Grace")]]) := by
    refine ⟨_, _, rfl, ⟨by simp [columnsOf], ?_, by decide⟩, ?_⟩
    · simpa [columnsOf] using hnames
    · have hrow : columnsOf [("id", .int 2), ("name", .text "Grace")] = ["id", "name"] := rfl
      have hfirst : columnsOf [("name", .text "Ada"), ("id", .int 1)] = ["name", "id"] := rfl
      simp [hrow, hfirst, or_comm]
  obtain ⟨haccepted, _, hspec⟩ := insertStatement_uniform { table := some "users" } _
  obtain ⟨s, hs⟩ := haccepted.mpr huniform
  obtain ⟨⟨columns, horder, hcql, hlength, _⟩, hperm⟩ := hspec s hs
  exact ⟨s, columns, hs, horder, hcql, hlength,
    hperm _ _ rfl (.cons (.swap _ _ _) (.cons (.swap _ _ _) .nil))⟩

end Cql.Query
