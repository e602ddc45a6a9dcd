import Cql.Proofs.Call
import Cql.Proofs.Placeholder

/-!
The question marks in the texts of selects, deletes, updates and indexes. Names have none, since
they passed their checks, so each predicate and each assignment has exactly its own.
-/

namespace Cql

theorem questionMarks_of_checkIdentifier {name : String} (h : Name.checkIdentifier name = .ok ()) :
    questionMarks name = 0 :=
  List.count_eq_zero.mpr (Name.not_mem_of_checkIdentifier h (by decide))

theorem questionMarks_of_checkColumn {name : String} (h : Name.checkColumn name = .ok ()) :
    questionMarks name = 0 := by
  apply List.count_eq_zero.mpr
  intro hmem
  have := Name.isPart_or_star_of_checkColumn h hmem
  revert this
  decide

theorem questionMarks_of_checkTable {name : String} (h : Name.checkTable name = .ok ()) :
    questionMarks name = 0 := by
  apply List.count_eq_zero.mpr
  intro hmem
  have := Name.isPart_or_point_of_checkTable h hmem
  revert this
  decide

def Predicate.slot (p : Predicate) : Slot :=
  ⟨.predicate p.column p.operator, p.value⟩

def Mutation.slot (m : Mutation) : Slot :=
  ⟨.assignment m.column m.operation, .collection m.value⟩

/-- The slot of a plain assignment, which replaces what the column holds. -/
def assignmentSlot (assignment : String × Value) : Slot :=
  ⟨.assignment assignment.1 none, assignment.2⟩

theorem clause_eq {text : String} (h : text ≠ "") : clause text = " " ++ text := by
  simp [clause, h]

namespace Predicate

def sides (p : Predicate) : String × String :=
  (p.column ++ " " ++ p.operator.cql ++ " ", "")

theorem questionMarks_cql (operator : Operator) : questionMarks operator.cql = 0 := by
  cases operator <;> decide

variable {p : Predicate}

theorem text_eq (h : Name.checkIdentifier p.column = .ok ()) : p.text = markBetween p.sides := by
  rw [text, Name.wrap_of_checkIdentifier h, ← String.toList_inj]
  simp [markBetween, sides]

theorem unmarked_sides (h : Name.checkIdentifier p.column = .ok ()) : Unmarked p.sides := by
  refine ⟨?_, rfl⟩
  simp only [sides, questionMarks_append, questionMarks_of_checkIdentifier h, questionMarks_cql]
  rfl

end Predicate

theorem unmarked_assignmentSides {column : String} (operation : Option CollectionChange)
    (h : Name.checkIdentifier column = .ok ()) : Unmarked (assignmentSides column operation) := by
  have hcolumn := questionMarks_of_checkIdentifier h
  cases operation with
  | none =>
    refine ⟨?_, rfl⟩
    simp only [assignmentSides, questionMarks_append, hcolumn]
    rfl
  | some operation =>
    cases operation with
    | append | remove =>
      refine ⟨?_, rfl⟩
      simp only [assignmentSides, questionMarks_append, hcolumn]
      rfl
    | prepend =>
      constructor
      · simp only [assignmentSides, questionMarks_append, hcolumn]
        rfl
      · simp only [assignmentSides, questionMarks_append, hcolumn]
        rfl

theorem Mutation.text_eq {m : Mutation} (h : Name.checkIdentifier m.column = .ok ()) :
    m.text = markBetween (assignmentSides m.column m.operation) := by
  rw [text, Name.wrap_of_checkIdentifier h, ← String.toList_inj]
  cases m.operation with
  | none => simp [markBetween, assignmentSides]
  | some operation => cases operation <;> simp [markBetween, assignmentSides]

namespace Query

variable {q : Query}

theorem questionMarks_tableName (hq : q.Checked) : questionMarks q.tableName = 0 := by
  unfold tableName
  cases htable : q.table with
  | none => rfl
  | some table => exact questionMarks_of_checkTable (hq.table table htable)

theorem wrap_tableName (hq : q.Checked) : Name.wrap q.tableName = q.tableName := by
  unfold tableName
  cases htable : q.table with
  | none => exact Name.wrap_eq_self (by simp)
  | some table => exact Name.wrap_of_checkTable (hq.table table htable)

theorem map_predicate_text (hq : q.Checked) :
    q.predicates.map Predicate.text = (q.predicates.map Predicate.sides).map markBetween := by
  rw [List.map_map]
  exact List.map_congr_left fun p hp => Predicate.text_eq (hq.predicates p hp)

theorem unmarked_predicates (hq : q.Checked) :
    ∀ sides ∈ q.predicates.map Predicate.sides, Unmarked sides := by
  intro sides hsides
  obtain ⟨p, hp, rfl⟩ := List.mem_map.mp hsides
  exact Predicate.unmarked_sides (hq.predicates p hp)

/-- The clause of the predicates as it stands in a statement. -/
theorem clause_predicateText (hq : q.Checked) (h : q.predicates ≠ []) :
    clause q.predicateText =
      " where " ++ " and ".intercalate ((q.predicates.map Predicate.sides).map markBetween) := by
  have hwhere : " " ++ "where " = " where " := by simp
  rw [predicateText, if_neg (by simpa using h), clause_eq (by simp), ← String.append_assoc, hwhere,
    map_predicate_text hq]

/-- The clause of the predicates has one question mark for each of them. -/
theorem questionMarks_predicates (hq : q.Checked) :
    questionMarks (clause q.predicateText) = q.predicates.length := by
  by_cases h : q.predicates = []
  · simp [predicateText, clause, h, questionMarks]
  · have hwhere : questionMarks " where " = 0 := rfl
    rw [clause_predicateText hq h, questionMarks_append, hwhere,
      questionMarks_intercalate rfl (unmarked_predicates hq), List.length_map, Nat.zero_add]

/-- The question marks of the predicates, wherever their clause stands. -/
theorem markedAt_predicates (hq : q.Checked) {head tail : String} (htail : EndsClause tail)
    {i : Nat} {p : Predicate} (hi : q.predicates[i]? = some p) :
    p.slot.place.MarkedAt (head ++ clause q.predicateText ++ tail) (questionMarks head + i) := by
  have hne : q.predicates ≠ [] := by
    intro hempty
    simp [hempty] at hi
  have hsides : (q.predicates.map Predicate.sides)[i]? = some p.sides := by
    rw [List.getElem?_map, hi]
    rfl
  have hwhere : questionMarks (head ++ " where ") = questionMarks head := by
    rw [questionMarks_append]
    rfl
  have hplace := @standsBetween_intercalate " and " (q.predicates.map Predicate.sides)
    [" where ", " and "] " where " head tail (by simp) (by simp) (by simp [clauseOpeners]) htail
    rfl (unmarked_predicates hq) i p.sides hsides
  rw [hwhere] at hplace
  rw [clause_predicateText hq hne, ← String.append_assoc]
  exact hplace

theorem endsClause_filtering : EndsClause (clause q.filteringText) := by
  unfold filteringText
  cases q.allowFiltering with
  | false => exact Or.inl (by simp [clause])
  | true => exact Or.inr ⟨" allow filtering", by simp [clauseOpeners], "", by simp [clause]⟩

theorem questionMarks_filtering : questionMarks (clause q.filteringText) = 0 := by
  unfold filteringText
  cases q.allowFiltering <;> decide

theorem endsClause_limit : EndsClause (clause q.limitText ++ clause q.filteringText) := by
  unfold limitText
  cases q.limit with
  | none => simpa [clause] using endsClause_filtering
  | some n =>
    refine Or.inr ⟨" limit ", by simp [clauseOpeners], n.toNat.repr ++ clause q.filteringText, ?_⟩
    have hlimit : " " ++ "limit " = " limit " := by simp
    rw [clause_eq (by simp), ← String.append_assoc, hlimit, String.append_assoc]

theorem questionMarks_limit : questionMarks (clause q.limitText) = 0 := by
  unfold limitText
  cases q.limit with
  | none => rfl
  | some n =>
    have hdigits : questionMarks n.toNat.repr = 0 := by
      apply List.count_eq_zero.mpr
      intro hmem
      rw [Nat.toList_repr] at hmem
      have hdigit := Nat.isDigit_of_mem_toDigits (by omega) (by omega) hmem
      revert hdigit
      decide
    rw [clause_eq (by simp), questionMarks_append, questionMarks_append, hdigits]
    rfl

theorem endsClause_predicates (hq : q.Checked) {tail : String} (htail : EndsClause tail) :
    EndsClause (clause q.predicateText ++ tail) := by
  by_cases h : q.predicates = []
  · simpa [predicateText, clause, h] using htail
  · rw [clause_predicateText hq h, String.append_assoc]
    exact Or.inr ⟨" where ", by simp [clauseOpeners], _, rfl⟩

/-- Around the clause of the predicates nothing else has a question mark. -/
theorem marked_predicates (hq : q.Checked) {head tail : String} (hhead : questionMarks head = 0)
    (htail : questionMarks tail = 0) (hends : EndsClause tail) :
    Marked (head ++ clause q.predicateText ++ tail)
      ((q.predicates.map Predicate.slot).map Slot.place) := by
  constructor
  · rw [questionMarks_append, questionMarks_append, hhead, htail, questionMarks_predicates hq]
    simp
  · intro i place hi
    rw [List.map_map, List.getElem?_map, Option.map_eq_some_iff] at hi
    obtain ⟨p, hp, rfl⟩ := hi
    have hplace := @markedAt_predicates q hq head tail hends i p hp
    rw [hhead, Nat.zero_add] at hplace
    exact hplace

theorem questionMarks_list {names : List String} (h : ∀ name ∈ names, questionMarks name = 0)
    (hwrap : ∀ name ∈ names, Name.wrap name = name) : questionMarks (Name.list names) = 0 := by
  refine questionMarks_intercalate_eq_zero rfl ?_
  intro part hpart
  obtain ⟨name, hname, rfl⟩ := List.mem_map.mp hpart
  rw [hwrap name hname, h name hname]

theorem questionMarks_identifiers {names : List String}
    (h : ∀ name ∈ names, Name.checkIdentifier name = .ok ()) :
    questionMarks (Name.list names) = 0 :=
  questionMarks_list (fun name hname => questionMarks_of_checkIdentifier (h name hname))
    (fun name hname => Name.wrap_of_checkIdentifier (h name hname))

theorem questionMarks_columns {names : List String}
    (h : ∀ name ∈ names, Name.checkColumn name = .ok ()) : questionMarks (Name.list names) = 0 :=
  questionMarks_list (fun name hname => questionMarks_of_checkColumn (h name hname))
    (fun name hname => Name.wrap_of_checkColumn (h name hname))

theorem questionMarks_projection (hq : q.Checked) : questionMarks q.projectionText = 0 := by
  unfold projectionText
  split
  · rename_i column columns hcolumns
    exact questionMarks_columns (hq.columns _ hcolumns)
  · rfl

theorem marked_selectText (hq : q.Checked) :
    Marked q.selectText ((q.predicates.map Predicate.slot).map Slot.place) := by
  have hdistinct : questionMarks (if q.distinct then "distinct " else "") = 0 := by
    cases q.distinct <;> decide
  have htext : q.selectText = "select " ++ (if q.distinct then "distinct " else "") ++
      q.projectionText ++ " from " ++ Name.wrap q.tableName ++ clause q.predicateText ++
        (clause q.limitText ++ clause q.filteringText) := by
    unfold selectText
    simp only [String.append_assoc]
  rw [htext]
  refine marked_predicates hq ?_ ?_ endsClause_limit
  · simp only [questionMarks_append, hdistinct, wrap_tableName hq, questionMarks_tableName hq,
      questionMarks_projection hq]
    rfl
  · rw [questionMarks_append, questionMarks_limit, questionMarks_filtering]

theorem marked_deleteText (hq : q.Checked) {columns : List String}
    (hcolumns : ∀ column ∈ columns, Name.checkIdentifier column = .ok ()) :
    Marked (q.deleteText columns) ((q.predicates.map Predicate.slot).map Slot.place) := by
  have hlist : questionMarks (if columns.isEmpty then "" else " " ++ Name.list columns) = 0 := by
    split
    · rfl
    · rw [questionMarks_append, questionMarks_identifiers hcolumns]
      rfl
  unfold deleteText
  refine marked_predicates hq ?_ questionMarks_filtering endsClause_filtering
  simp only [questionMarks_append, hlist, wrap_tableName hq, questionMarks_tableName hq]
  rfl

theorem marked_indexText (hq : q.Checked) {columns : List String}
    (hcolumns : ∀ column ∈ columns, Name.checkIdentifier column = .ok ()) :
    Marked (q.indexText columns) [] := by
  constructor
  · unfold indexText
    simp only [questionMarks_append, wrap_tableName hq, questionMarks_tableName hq,
      questionMarks_identifiers hcolumns]
    rfl
  · intro i place hi
    simp at hi

/-- The columns that an update assigns and how, mutations of collections first. -/
def targets (q : Query) (assignments : Cells) : List (String × Option CollectionChange) :=
  (q.mutations.map fun m => (m.column, m.operation)) ++ assignments.map fun a => (a.1, none)

/-- The sides of all assignments of an update. -/
def targetSides (q : Query) (assignments : Cells) : List (String × String) :=
  (q.targets assignments).map fun target => assignmentSides target.1 target.2

theorem intercalate_group {separator : String} {parts rest : List String} (h : parts ≠ []) :
    separator.intercalate (separator.intercalate parts :: rest) =
      separator.intercalate (parts ++ rest) := by
  cases rest with
  | nil => simp
  | cons next rest =>
    rw [String.intercalate_append_of_ne_nil h (by simp), String.intercalate_cons_cons]

theorem checkIdentifier_targets (hq : q.Checked) {assignments : Cells}
    (hassignments : ∀ a ∈ assignments, Name.checkIdentifier a.1 = .ok ()) :
    ∀ target ∈ q.targets assignments, Name.checkIdentifier target.1 = .ok () := by
  intro target htarget
  rcases List.mem_append.mp htarget with hmutation | hplain
  · obtain ⟨m, hm, rfl⟩ := List.mem_map.mp hmutation
    exact hq.mutations m hm
  · obtain ⟨a, ha, rfl⟩ := List.mem_map.mp hplain
    exact hassignments a ha

theorem unmarked_targets (hq : q.Checked) {assignments : Cells}
    (hassignments : ∀ a ∈ assignments, Name.checkIdentifier a.1 = .ok ()) :
    ∀ sides ∈ q.targetSides assignments, Unmarked sides := by
  intro sides hsides
  obtain ⟨target, htarget, rfl⟩ := List.mem_map.mp hsides
  exact unmarked_assignmentSides target.2 (checkIdentifier_targets hq hassignments target htarget)

/-- Mutations and plain assignments make one list with commas between them. -/
theorem updateText_eq (hq : q.Checked) {assignments : Cells}
    (hassignments : ∀ a ∈ assignments, Name.checkIdentifier a.1 = .ok ()) :
    q.updateText assignments = "update " ++ q.tableName ++ " set " ++
      ", ".intercalate ((q.targetSides assignments).map markBetween) ++
        clause q.predicateText ++ clause q.filteringText := by
  have hmutations : q.mutations.map Mutation.text =
      q.mutations.map fun m => markBetween (assignmentSides m.column m.operation) :=
    List.map_congr_left fun m hm => Mutation.text_eq (hq.mutations m hm)
  have hplain : (assignments.map fun a => Name.wrap a.1 ++ " = ?") =
      assignments.map fun a => markBetween (assignmentSides a.1 none) := by
    refine List.map_congr_left fun a ha => ?_
    rw [Name.wrap_of_checkIdentifier (hassignments a ha), ← String.toList_inj]
    simp [markBetween, assignmentSides]
  have hsides : (q.targetSides assignments).map markBetween =
      q.mutations.map Mutation.text ++ assignments.map fun a => Name.wrap a.1 ++ " = ?" := by
    rw [hmutations, hplain, targetSides, targets, List.map_append, List.map_append, List.map_map,
      List.map_map, List.map_map, List.map_map]
    rfl
  unfold updateText
  rw [wrap_tableName hq, hsides]
  by_cases h : q.mutations = []
  · simp [h]
  · have hnonempty : q.mutations.isEmpty = false := by simpa using h
    have htexts : q.mutations.map Mutation.text ≠ [] := by simpa using h
    simp only [hnonempty, Bool.false_eq_true, if_false, Mutation.listText, List.singleton_append,
      intercalate_group htexts]

theorem marked_updateText (hq : q.Checked) {assignments : Cells}
    (hassignments : ∀ a ∈ assignments, Name.checkIdentifier a.1 = .ok ()) :
    Marked (q.updateText assignments) ((q.mutations.map Mutation.slot ++
      assignments.map assignmentSlot ++ q.predicates.map Predicate.slot).map Slot.place) := by
  have hplaces : (q.mutations.map Mutation.slot ++ assignments.map assignmentSlot ++
      q.predicates.map Predicate.slot).map Slot.place =
        (q.targets assignments).map (fun target => Place.assignment target.1 target.2) ++
          (q.predicates.map Predicate.slot).map Slot.place := by
    simp only [targets, List.map_append, List.map_map, List.append_assoc]
    rfl
  have hhead : questionMarks ("update " ++ q.tableName) = 0 := by
    rw [questionMarks_append, questionMarks_tableName hq]
    rfl
  have hset : questionMarks ("update " ++ q.tableName ++ " set ") = 0 := by
    rw [questionMarks_append, hhead]
    rfl
  have hcomma : questionMarks ", " = 0 := rfl
  have hlist := questionMarks_intercalate hcomma (unmarked_targets hq hassignments)
  have hlength : (q.targetSides assignments).length = (q.targets assignments).length := by
    simp [targetSides]
  rw [updateText_eq hq hassignments, hplaces]
  constructor
  · rw [questionMarks_append, questionMarks_append, questionMarks_append, hset, hlist,
      questionMarks_filtering, questionMarks_predicates hq, hlength]
    simp
  · intro i place hi
    by_cases hlt : i < (q.targets assignments).length
    · rw [List.getElem?_append_left (by simpa using hlt), List.getElem?_map,
        Option.map_eq_some_iff] at hi
      obtain ⟨target, htarget, rfl⟩ := hi
      have hsides : (q.targetSides assignments)[i]? =
          some (assignmentSides target.1 target.2) := by
        rw [targetSides, List.getElem?_map, htarget]
        rfl
      have hplace := @standsBetween_intercalate ", " (q.targetSides assignments) [" set ", ", "]
        " set " ("update " ++ q.tableName) (clause q.predicateText ++ clause q.filteringText)
        (by simp) (by simp) (by simp [clauseOpeners])
        (endsClause_predicates hq endsClause_filtering) hcomma
        (unmarked_targets hq hassignments) i _ hsides
      rw [hset, Nat.zero_add, ← String.append_assoc] at hplace
      exact hplace
    · rw [List.getElem?_append_right (by simpa using hlt), List.map_map, List.getElem?_map,
        Option.map_eq_some_iff] at hi
      obtain ⟨p, hp, rfl⟩ := hi
      have hplace := @markedAt_predicates q hq ("update " ++ q.tableName ++ " set " ++
        ", ".intercalate ((q.targetSides assignments).map markBetween)) (clause q.filteringText)
        endsClause_filtering _ p hp
      have hindex : (q.targets assignments).length + (i - (q.targets assignments).length) = i := by
        omega
      rw [questionMarks_append, hset, hlist, hlength, Nat.zero_add, List.length_map,
        hindex] at hplace
      exact hplace

end Query

end Cql
