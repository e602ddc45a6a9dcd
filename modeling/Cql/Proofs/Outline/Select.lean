import Cql.Proofs.Arguments
import Cql.Proofs.Outline.Clause

/-!
What the text of a select says. The outline of a query is all that its select is written from: the
table, the columns, the flags, the predicates without their values and the limit. The text of an
outline whose names passed their checks tells the outline.
-/

namespace Cql

namespace Query

/-- The predicates without their values. -/
def conditions (q : Query) : List (String × Operator) :=
  q.predicates.map fun p => (p.column, p.operator)

/-- The columns that are selected; the star stands for all of them as long as none is named. -/
def projection (q : Query) : List String :=
  match q.columns with
  | some (column :: columns) => column :: columns
  | _ => ["*"]

end Query

structure SelectOutline where
  distinct : Bool
  columns : List String
  table : Option String
  tail : Tail

namespace SelectOutline

def text (o : SelectOutline) : String :=
  "select " ++ ((if o.distinct then "distinct " else "") ++ (", ".intercalate o.columns ++
    (" from " ++ (o.table.getD "" ++ o.tail.text))))

/-- The names passed their checks, and there is a projection. -/
structure Checked (o : SelectOutline) : Prop where
  columns_ne : o.columns ≠ []
  columns : ∀ column ∈ o.columns, Name.checkColumn column = .ok ()
  table : ∀ name, o.table = some name → Name.checkTable name = .ok ()
  tail : o.tail.Checked

variable {o p : SelectOutline}

/-- The flag in front of the columns is no column: behind it stands a column, and behind a column of
that name a comma or the reserved word in front of the table. -/
theorem distinct_append_ne {columns others : List String} {rest more : String}
    (hne : columns ≠ []) (hcolumns : ∀ column ∈ columns, Name.checkColumn column = .ok ())
    (hne' : others ≠ []) (hothers : ∀ column ∈ others, Name.checkColumn column = .ok ()) :
    ", ".intercalate others ++ (" from " ++ more) ≠
      "distinct" ++ (" " ++ (", ".intercalate columns ++ (" from " ++ rest))) := by
  intro heq
  obtain ⟨first, later, rfl⟩ := List.exists_cons_of_ne_nil hne'
  obtain ⟨_, hright⟩ := first_column_eq (hothers first (by simp))
    (by simp [isColumnPart, Name.isPart]) (opensWith_append (by simp) more) heq
  cases later with
  | nil =>
    have hspace : " from " ++ more = " " ++ ("from" ++ (" " ++ more)) := by
      simp [← String.toList_inj]
    rw [Legible.laterText, String.empty_append, hspace, String.append_right_inj] at hright
    exact columns_append_ne_from hne hcolumns (opensWith_append (by simp) rest) more hright.symm
  | cons second later =>
    have hapart : Apart ", " " " := by decide
    rw [Legible.laterText, String.append_assoc] at hright
    exact hapart.append_ne _ _ hright

/-- The start of a select tells whether the flag is there. -/
theorem distinct_eq (ho : o.Checked) (hp : p.Checked) {rest more : String}
    (h : (if o.distinct then "distinct " else "") ++
        (", ".intercalate o.columns ++ (" from " ++ rest)) =
      (if p.distinct then "distinct " else "") ++
        (", ".intercalate p.columns ++ (" from " ++ more))) :
    o.distinct = p.distinct ∧ ", ".intercalate o.columns ++ (" from " ++ rest) =
      ", ".intercalate p.columns ++ (" from " ++ more) := by
  have hflag : "distinct " = "distinct" ++ " " := by decide
  cases hod : o.distinct <;> cases hpd : p.distinct <;>
    simp only [hod, hpd, if_true, Bool.false_eq_true, if_false, String.empty_append, hflag,
      String.append_assoc] at h
  · exact ⟨rfl, h⟩
  · exact absurd h (distinct_append_ne hp.columns_ne hp.columns ho.columns_ne ho.columns)
  · exact absurd h.symm (distinct_append_ne ho.columns_ne ho.columns hp.columns_ne hp.columns)
  · rw [String.append_right_inj, String.append_right_inj] at h
    exact ⟨rfl, h⟩

/-- The text of a select tells its outline. -/
theorem eq_of_text_eq (ho : o.Checked) (hp : p.Checked) (h : o.text = p.text) : o = p := by
  rw [text, text, String.append_right_inj] at h
  obtain ⟨hdistinct, h⟩ := distinct_eq ho hp h
  obtain ⟨hcolumns, h⟩ := @legible_columns [" from "] (by decide) (by decide) o.columns p.columns
    _ _ ⟨ho.columns_ne, ho.columns⟩ ⟨hp.columns_ne, hp.columns⟩ (opensWith_append (by simp) _)
    (opensWith_append (by simp) _) h
  rw [String.append_right_inj] at h
  obtain ⟨htable, htail⟩ := Tail.eq_of_table_text_eq ho.table hp.table ho.tail hp.tail h
  cases o
  cases p
  simp_all

end SelectOutline

namespace Query

variable {q : Query}

def selectOutline (q : Query) : SelectOutline where
  distinct := q.distinct
  columns := q.projection
  table := q.table
  tail := ⟨q.conditions, q.limit, q.allowFiltering⟩

theorem checkIdentifier_conditions (hq : q.Checked) :
    ∀ condition ∈ q.conditions, Name.checkIdentifier condition.1 = .ok () := by
  intro condition hcondition
  obtain ⟨p, hp, rfl⟩ := List.mem_map.mp hcondition
  exact hq.predicates p hp

theorem checked_selectOutline (hq : q.Checked) : q.selectOutline.Checked := by
  refine ⟨?_, ?_, hq.table, checkIdentifier_conditions hq⟩
  · simp only [selectOutline, projection]
    split <;> simp
  · simp only [selectOutline, projection]
    split
    · rename_i column columns hcolumns
      exact hq.columns _ hcolumns
    · simp [Name.checkColumn]

theorem clause_predicateText_eq (hq : q.Checked) :
    clause q.predicateText = whereClause q.conditions := by
  by_cases h : q.predicates = []
  · simp [predicateText, clause, whereClause, conditions, h]
  · have hne : ¬ q.conditions.isEmpty = true := by simpa [conditions] using h
    have htexts : (q.predicates.map Predicate.sides).map markBetween =
        q.conditions.map conditionText := by
      rw [conditions, List.map_map, List.map_map]
      refine List.map_congr_left fun p _ => ?_
      simp [markBetween, Predicate.sides, conditionText, ← String.toList_inj]
    rw [clause_predicateText hq h, whereClause, if_neg hne, htexts]

theorem clause_limitText_eq (q : Query) : clause q.limitText = limitClause q.limit := by
  unfold limitText limitClause
  cases q.limit with
  | none => rfl
  | some n =>
    have hlimit : " " ++ "limit " = " limit " := by simp
    rw [clause_eq (by simp), ← String.append_assoc, hlimit]

theorem clause_filteringText_eq (q : Query) :
    clause q.filteringText = filteringClause q.allowFiltering := by
  unfold filteringText filteringClause
  cases q.allowFiltering <;> rfl

theorem list_eq_intercalate {names : List String} (h : ∀ name ∈ names, Name.wrap name = name) :
    Name.list names = ", ".intercalate names := by
  rw [Name.list, List.map_congr_left h, List.map_id']

theorem projectionText_eq (hq : q.Checked) : q.projectionText = ", ".intercalate q.projection := by
  unfold projectionText projection
  cases hcolumns : q.columns with
  | none => simp
  | some columns =>
    cases columns with
    | nil => simp
    | cons column columns =>
      exact list_eq_intercalate fun name hname =>
        Name.wrap_of_checkColumn (hq.columns _ hcolumns name hname)

/-- The text of a select is written from its outline. -/
theorem selectText_eq (hq : q.Checked) : q.selectText = q.selectOutline.text := by
  have htable : q.tableName = q.table.getD "" := rfl
  unfold selectText
  rw [projectionText_eq hq, wrap_tableName hq, clause_predicateText_eq hq, clause_limitText_eq,
    clause_filteringText_eq, htable]
  simp only [SelectOutline.text, Tail.text, selectOutline, String.append_assoc]
  rfl

end Query

end Cql
