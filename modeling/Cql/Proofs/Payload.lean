import Cql.Query.Insert
import Cql.Proofs.Name

/-!
What an accepted payload is: its rows in order, at least one of them, all with the columns of the
first one, which are identifiers, each of them once.
-/

namespace Cql.Payload

/-- Columns to insert: at least one, all of them identifiers, each of them once. -/
structure Insertable (columns : List String) : Prop where
  ne_nil : columns ≠ []
  identifiers : ∀ column ∈ columns, Name.checkIdentifier column = .ok ()
  nodup : columns.Nodup

/-- The star is no identifier, so that the check of a projection is one of identifiers here. -/
theorem checkColumns_eq_ok_iff {seen columns : List String} :
    checkColumns seen columns = .ok () ↔
      (∀ column ∈ columns, Name.checkIdentifier column = .ok () ∧ column ∉ seen) ∧
        columns.Nodup := by
  induction columns generalizing seen with
  | nil => simp [checkColumns]
  | cons column columns ih =>
    have hcheck : checkColumns seen (column :: columns) = .ok () ↔
        Name.checkIdentifier column = .ok () ∧ column ∉ seen ∧
          checkColumns (column :: seen) columns = .ok () := by
      rw [checkColumns, Outcome.bind_eq_ok_iff, Unique.exists_iff]
      by_cases hstar : column = "*"
      · subst hstar
        have hrefused : Name.checkIdentifier "*" ≠ .ok () := by
          rw [Ne, Name.checkIdentifier_eq_ok_iff]
          decide
        simp [hrefused]
      · by_cases hseen : column ∈ seen <;> simp [Name.checkColumn, hstar, hseen]
    rw [hcheck, ih, List.forall_mem_cons, List.nodup_cons]
    constructor
    · rintro ⟨hcolumn, hseen, hcolumns, hnodup⟩
      refine ⟨⟨⟨hcolumn, hseen⟩, fun other hother => ?_⟩, fun hmem => ?_, hnodup⟩
      · exact ⟨(hcolumns other hother).1, fun h => (hcolumns other hother).2 (by simp [h])⟩
      · exact (hcolumns column hmem).2 (by simp)
    · rintro ⟨⟨⟨hcolumn, hseen⟩, hcolumns⟩, hfresh, hnodup⟩
      refine ⟨hcolumn, hseen, fun other hother => ⟨(hcolumns other hother).1, ?_⟩, hnodup⟩
      rw [List.mem_cons, not_or]
      exact ⟨fun h => hfresh (h ▸ hother), (hcolumns other hother).2⟩

theorem checkRows_eq_ok_iff {expected : List String} {index : Nat} {rows : List Cells} :
    checkRows expected index rows = .ok () ↔ ∀ row ∈ rows, columnsOf row = expected := by
  induction rows generalizing index with
  | nil => simp [checkRows]
  | cons row rows ih =>
    rw [checkRows]
    split
    · rename_i hrow
      simp [ih, hrow]
    · rename_i hrow
      simp [hrow]

/-- Accepted rows are the rows of the payload in order: at least one, and all with the columns of
the first one. -/
theorem rows?_eq_ok_iff {p : Payload} {rows : List Cells} :
    p.rows? = .ok rows ↔ p.ordered = rows ∧ ∃ first rest, rows = first :: rest ∧
      Insertable (columnsOf first) ∧ ∀ row ∈ rest, columnsOf row = columnsOf first := by
  unfold rows?
  cases hordered : p.ordered with
  | nil => grind
  | cons first rest =>
    have hcolumns : checkColumns [] (columnsOf first) = .ok () ↔
        (∀ column ∈ columnsOf first, Name.checkIdentifier column = .ok ()) ∧
          (columnsOf first).Nodup := by
      simp [checkColumns_eq_ok_iff]
    dsimp only
    split
    · rename_i hempty
      have hnil : columnsOf first = [] := by
        rw [List.isEmpty_iff.mp hempty]
        rfl
      constructor
      · intro h
        cases h
      · rintro ⟨rfl, _, _, heq, hfirst, _⟩
        obtain ⟨rfl, rfl⟩ := List.cons.inj heq
        exact absurd hnil hfirst.ne_nil
    · rename_i hempty
      have hne : columnsOf first ≠ [] := by
        simpa [columnsOf] using hempty
      constructor
      · intro h
        obtain ⟨_, hnames, h⟩ := Outcome.bind_eq_ok_iff.mp h
        obtain ⟨_, hrows, h⟩ := Outcome.bind_eq_ok_iff.mp h
        obtain ⟨hidentifiers, hnodup⟩ := hcolumns.mp hnames
        exact ⟨Except.ok.inj h, first, rest, (Except.ok.inj h).symm, ⟨hne, hidentifiers, hnodup⟩,
          checkRows_eq_ok_iff.mp hrows⟩
      · rintro ⟨rfl, _, _, heq, hfirst, hrows⟩
        obtain ⟨rfl, rfl⟩ := List.cons.inj heq
        exact Outcome.bind_eq_ok_iff.mpr ⟨(), hcolumns.mpr ⟨hfirst.identifiers, hfirst.nodup⟩,
          Outcome.bind_eq_ok_iff.mpr ⟨(), checkRows_eq_ok_iff.mpr hrows, rfl⟩⟩

theorem length_of_columns {rows : List Cells} {columns : List String}
    (hcolumns : ∀ row ∈ rows, columnsOf row = columns) :
    ∀ row ∈ rows, row.length = columns.length := by
  intro row hrow
  rw [← hcolumns row hrow, columnsOf, List.length_map]

theorem rows?_eq_ok {p : Payload} {rows : List Cells} (h : p.rows? = .ok rows) :
    p.ordered = rows ∧ ∃ columns, columns ≠ [] ∧
      (∀ column ∈ columns, Name.checkIdentifier column = .ok ()) ∧
      rows.head?.map columnsOf = some columns ∧ ∀ row ∈ rows, columnsOf row = columns := by
  obtain ⟨hordered, first, rest, rfl, hfirst, hrest⟩ := rows?_eq_ok_iff.mp h
  exact ⟨hordered, columnsOf first, hfirst.ne_nil, hfirst.identifiers, rfl,
    List.forall_mem_cons.mpr ⟨rfl, hrest⟩⟩

end Cql.Payload
