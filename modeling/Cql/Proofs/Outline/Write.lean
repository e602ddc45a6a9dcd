import Cql.Proofs.Alignment
import Cql.Proofs.Outline.Select

/-!
What the texts of updates, deletes, inserts and indexes say. Each is written from an outline, which
holds everything but the values, and tells this outline: which columns an update assigns and how,
whether a delete is one of columns or of rows, how many rows are inserted.
-/

namespace Cql

section Targets

/-- The right side of an assignment. -/
def changeText (column : String) : Option CollectionChange → String
  | some .append => column ++ " + ?"
  | some .prepend => "? + " ++ column
  | some .remove => column ++ " - ?"
  | none => "?"

/-- An assignment with a question mark for its value. -/
def targetText (target : String × Option CollectionChange) : String :=
  target.1 ++ " = " ++ changeText target.1 target.2

theorem markBetween_assignmentSides (target : String × Option CollectionChange) :
    markBetween (assignmentSides target.1 target.2) = targetText target := by
  obtain ⟨column, operation⟩ := target
  rw [← String.toList_inj]
  cases operation with
  | none => simp [markBetween, assignmentSides, targetText, changeText]
  | some operation =>
    cases operation <;> simp [markBetween, assignmentSides, targetText, changeText]

/-- What can stand behind an assignment. -/
def targetOpeners : List String :=
  ", " :: Tail.openers

theorem identifier_append_ne_mark {column : String} (h : Name.checkIdentifier column = .ok ())
    (rest more : String) : column ++ rest ≠ "?" ++ more := by
  intro heq
  have hchars := congrArg String.toList heq
  rw [String.toList_append, String.toList_append] at hchars
  rw [Name.checkIdentifier_eq_ok_iff] at h
  cases hcolumn : column.toList with
  | nil => simp [hcolumn, Name.isIdentifier] at h
  | cons first tail =>
    simp only [hcolumn, Name.isIdentifier, Bool.and_eq_true] at h
    have hfirst : first = '?' := by simpa [hcolumn] using congrArg List.head? hchars
    rw [hfirst] at h
    exact absurd h.1.1 (by decide)

/-- A column on the right side tells an operation from a plain assignment, and the sign or the place
of the column tells the operations apart. -/
theorem legible_change {column : String} (h : Name.checkIdentifier column = .ok ()) :
    Legible (fun _ => True) (changeText column) targetOpeners := by
  have hmark := identifier_append_ne_mark h
  have hsign : ∀ s t, column ++ (" + ?" ++ s) ≠ column ++ (" - ?" ++ t) := by
    intro s t heq
    have hapart : Apart " + ?" " - ?" := by decide
    exact hapart.append_ne s t ((String.append_right_inj _).mp heq)
  have hplus : ∀ s t, OpensWith targetOpeners s → "?" ++ s ≠ "? + " ++ (column ++ t) := by
    intro s t hs heq
    have hlead : "? + " = "?" ++ " + " := by decide
    rw [hlead, String.append_assoc, String.append_right_inj] at heq
    exact Legible.ne_separator_append (by decide) (by decide) hs _ heq
  have hlead : ∀ s, "? + " ++ s = "?" ++ (" + " ++ s) := by
    intro s
    rw [← String.append_assoc]
    rfl
  intro operation other rest more _ _ hrest hmore heq
  match operation, other with
  | none, none => exact ⟨rfl, (String.append_right_inj _).mp heq⟩
  | some .append, some .append => exact ⟨rfl, (String.append_right_inj _).mp heq⟩
  | some .prepend, some .prepend => exact ⟨rfl, (String.append_right_inj _).mp heq⟩
  | some .remove, some .remove => exact ⟨rfl, (String.append_right_inj _).mp heq⟩
  | some .append, some .remove =>
    simp only [changeText, String.append_assoc] at heq
    exact absurd heq (hsign _ _)
  | some .remove, some .append =>
    simp only [changeText, String.append_assoc] at heq
    exact absurd heq.symm (hsign _ _)
  | none, some .prepend =>
    simp only [changeText, String.append_assoc] at heq
    exact absurd heq (hplus _ _ hrest)
  | some .prepend, none =>
    simp only [changeText, String.append_assoc] at heq
    exact absurd heq.symm (hplus _ _ hmore)
  | some .append, none | some .remove, none =>
    simp only [changeText, String.append_assoc] at heq
    exact absurd heq (hmark _ _)
  | none, some .append | none, some .remove =>
    simp only [changeText, String.append_assoc] at heq
    exact absurd heq.symm (hmark _ _)
  | some .append, some .prepend | some .remove, some .prepend =>
    simp only [changeText, String.append_assoc, hlead] at heq
    exact absurd heq (hmark _ _)
  | some .prepend, some .append | some .prepend, some .remove =>
    simp only [changeText, String.append_assoc, hlead] at heq
    exact absurd heq.symm (hmark _ _)

theorem legible_target :
    Legible (fun target => Name.checkIdentifier target.1 = .ok ()) targetText targetOpeners := by
  rintro ⟨column, operation⟩ ⟨other, another⟩ rest more hcolumn hother hrest hmore heq
  have hequals : ∀ s t, OpensWith [" = "] (" = " ++ (s ++ t)) := by
    intro s t
    exact opensWith_append (by simp) _
  simp only [targetText, String.append_assoc] at heq
  obtain ⟨rfl, hright⟩ := @legible_identifier [" = "] (by decide) column other _ _ hcolumn hother
    (hequals _ rest) (hequals _ more) heq
  rw [String.append_right_inj] at hright
  obtain ⟨rfl, hend⟩ := legible_change hcolumn trivial trivial hrest hmore hright
  exact ⟨rfl, hend⟩

end Targets

structure UpdateOutline where
  table : Option String
  /-- The assigned columns and what becomes of them. -/
  targets : List (String × Option CollectionChange)
  conditions : List (String × Operator)
  allowFiltering : Bool

namespace UpdateOutline

def tail (o : UpdateOutline) : Tail :=
  ⟨o.conditions, none, o.allowFiltering⟩

def text (o : UpdateOutline) : String :=
  "update " ++ (o.table.getD "" ++ (" set " ++ (", ".intercalate (o.targets.map targetText) ++
    o.tail.text)))

structure Checked (o : UpdateOutline) : Prop where
  table : ∀ name, o.table = some name → Name.checkTable name = .ok ()
  targets_ne : o.targets ≠ []
  targets : ∀ target ∈ o.targets, Name.checkIdentifier target.1 = .ok ()
  tail : o.tail.Checked

/-- The text of an update tells its outline. -/
theorem eq_of_text_eq {o p : UpdateOutline} (ho : o.Checked) (hp : p.Checked)
    (h : o.text = p.text) : o = p := by
  rw [text, text, String.append_right_inj] at h
  obtain ⟨htable, h⟩ := @legible_table [" set "] (by decide) o.table p.table _ _ ho.table hp.table
    (opensWith_append (by simp) _) (opensWith_append (by simp) _) h
  rw [String.append_right_inj] at h
  have hlist : Legible
      (fun targets => targets ≠ [] ∧ ∀ target ∈ targets, Name.checkIdentifier target.1 = .ok ())
      (fun targets => ", ".intercalate (targets.map targetText)) Tail.openers :=
    legible_target.list (by decide) (by decide)
  obtain ⟨htargets, h⟩ := hlist ⟨ho.targets_ne, ho.targets⟩ ⟨hp.targets_ne, hp.targets⟩
    o.tail.opensWith_text p.tail.opensWith_text h
  have htail := Tail.eq_of_text_eq ho.tail hp.tail h
  cases o
  cases p
  simp_all [tail]

end UpdateOutline

structure DeleteOutline where
  table : Option String
  /-- The deleted columns; without any the rows are deleted. -/
  columns : List String
  conditions : List (String × Operator)
  allowFiltering : Bool

namespace DeleteOutline

def tail (o : DeleteOutline) : Tail :=
  ⟨o.conditions, none, o.allowFiltering⟩

/-- The columns behind the first word. -/
def columnsText (columns : List String) : String :=
  if columns.isEmpty then "" else " " ++ ", ".intercalate columns

def text (o : DeleteOutline) : String :=
  "delete" ++ (columnsText o.columns ++ (" from " ++ (o.table.getD "" ++ o.tail.text)))

structure Checked (o : DeleteOutline) : Prop where
  table : ∀ name, o.table = some name → Name.checkTable name = .ok ()
  columns : ∀ column ∈ o.columns, Name.checkColumn column = .ok ()
  tail : o.tail.Checked

theorem columnsText_eq {columns : List String} (h : columns ≠ []) :
    columnsText columns = " " ++ ", ".intercalate columns := by
  rw [columnsText, if_neg (by simpa using h)]

/-- A delete of columns does not read as a delete of rows: the word behind the columns is reserved. -/
theorem columnsText_append_ne {columns : List String} {rest more : String} (hne : columns ≠ [])
    (hcolumns : ∀ column ∈ columns, Name.checkColumn column = .ok ()) :
    columnsText columns ++ (" from " ++ rest) ≠ columnsText [] ++ (" from " ++ more) := by
  intro heq
  have hfrom : columnsText [] ++ (" from " ++ more) = " " ++ ("from" ++ (" " ++ more)) := by
    simp [columnsText, ← String.toList_inj]
  rw [hfrom, columnsText_eq hne, String.append_assoc, String.append_right_inj] at heq
  exact columns_append_ne_from hne hcolumns (opensWith_append (by simp) rest) more heq

/-- The start of a delete tells the columns. -/
theorem columns_eq {columns others : List String} {rest more : String}
    (hcolumns : ∀ column ∈ columns, Name.checkColumn column = .ok ())
    (hothers : ∀ column ∈ others, Name.checkColumn column = .ok ())
    (h : columnsText columns ++ (" from " ++ rest) = columnsText others ++ (" from " ++ more)) :
    columns = others ∧ rest = more := by
  by_cases hne : columns = []
  · by_cases hne' : others = []
    · rw [hne, hne', String.append_right_inj, String.append_right_inj] at h
      exact ⟨hne.trans hne'.symm, h⟩
    · rw [hne] at h
      exact absurd h.symm (columnsText_append_ne hne' hothers)
  · by_cases hne' : others = []
    · rw [hne'] at h
      exact absurd h (columnsText_append_ne hne hcolumns)
    · rw [columnsText_eq hne, columnsText_eq hne', String.append_assoc, String.append_assoc,
        String.append_right_inj] at h
      obtain ⟨heq, h⟩ := @legible_columns [" from "] (by decide) (by decide) columns others _ _
        ⟨hne, hcolumns⟩ ⟨hne', hothers⟩ (opensWith_append (by simp) _)
        (opensWith_append (by simp) _) h
      exact ⟨heq, (String.append_right_inj _).mp h⟩

/-- The text of a delete tells its outline. -/
theorem eq_of_text_eq {o p : DeleteOutline} (ho : o.Checked) (hp : p.Checked)
    (h : o.text = p.text) : o = p := by
  rw [text, text, String.append_right_inj] at h
  obtain ⟨hcolumns, h⟩ := columns_eq ho.columns hp.columns h
  obtain ⟨htable, htail⟩ := Tail.eq_of_table_text_eq ho.table hp.table ho.tail hp.tail h
  cases o
  cases p
  simp_all [tail]

end DeleteOutline

structure InsertOutline where
  table : Option String
  columns : List String
  rows : Nat

namespace InsertOutline

def text (o : InsertOutline) : String :=
  insertOf (o.table.getD "") o.columns o.rows

structure Checked (o : InsertOutline) : Prop where
  table : ∀ name, o.table = some name → Name.checkTable name = .ok ()
  columns_ne : o.columns ≠ []
  columns : ∀ column ∈ o.columns, Name.checkColumn column = .ok ()

theorem questionMarks_text {o : InsertOutline} (ho : o.Checked) :
    questionMarks o.text = o.rows * o.columns.length := by
  refine questionMarks_insertOf ?_ fun column hcolumn =>
    questionMarks_of_checkColumn (ho.columns column hcolumn)
  cases htable : o.table with
  | none => rfl
  | some name => exact questionMarks_of_checkTable (ho.table name htable)

/-- The text of an insert tells its outline. -/
theorem eq_of_text_eq {o p : InsertOutline} (ho : o.Checked) (hp : p.Checked)
    (h : o.text = p.text) : o = p := by
  have hmarks : o.rows * o.columns.length = p.rows * p.columns.length := by
    rw [← questionMarks_text ho, ← questionMarks_text hp, h]
  unfold text insertOf at h
  simp only [String.append_assoc] at h
  rw [String.append_right_inj] at h
  obtain ⟨htable, h⟩ := @legible_table [" ("] (by decide) o.table p.table _ _ ho.table hp.table
    (opensWith_append (by simp) _) (opensWith_append (by simp) _) h
  rw [String.append_right_inj] at h
  obtain ⟨hcolumns, _⟩ := @legible_columns [") values "] (by decide) (by decide) o.columns p.columns
    _ _ ⟨ho.columns_ne, ho.columns⟩ ⟨hp.columns_ne, hp.columns⟩ (opensWith_append (by simp) _)
    (opensWith_append (by simp) _) h
  have hrows : o.rows = p.rows := by
    have hpos : 0 < p.columns.length := List.length_pos_iff.mpr hp.columns_ne
    rw [hcolumns] at hmarks
    exact Nat.eq_of_mul_eq_mul_right hpos hmarks
  cases o
  cases p
  simp_all

end InsertOutline

structure IndexOutline where
  table : Option String
  columns : List String

namespace IndexOutline

def text (o : IndexOutline) : String :=
  "CREATE INDEX IF NOT EXISTS ON " ++ (o.table.getD "" ++ ("(" ++ (", ".intercalate o.columns ++
    ")")))

structure Checked (o : IndexOutline) : Prop where
  table : ∀ name, o.table = some name → Name.checkTable name = .ok ()
  columns_ne : o.columns ≠ []
  columns : ∀ column ∈ o.columns, Name.checkColumn column = .ok ()

/-- The text of an index tells its outline. -/
theorem eq_of_text_eq {o p : IndexOutline} (ho : o.Checked) (hp : p.Checked)
    (h : o.text = p.text) : o = p := by
  unfold text at h
  rw [String.append_right_inj] at h
  obtain ⟨htable, h⟩ := @legible_table ["("] (by decide) o.table p.table _ _ ho.table hp.table
    (opensWith_append (by simp) _) (opensWith_append (by simp) _) h
  rw [String.append_right_inj] at h
  have hclose : OpensWith [")"] ")" := Or.inr ⟨")", by simp, "", by simp⟩
  obtain ⟨hcolumns, _⟩ := @legible_columns [")"] (by decide) (by decide) o.columns p.columns _ _
    ⟨ho.columns_ne, ho.columns⟩ ⟨hp.columns_ne, hp.columns⟩ hclose hclose h
  cases o
  cases p
  simp_all

end IndexOutline

namespace Query

variable {q : Query} {s : Statement}

def updateOutline (q : Query) (assignments : Cells) : UpdateOutline :=
  ⟨q.table, q.targets assignments, q.conditions, q.allowFiltering⟩

def deleteOutline (q : Query) (columns : List String) : DeleteOutline :=
  ⟨q.table, columns, q.conditions, q.allowFiltering⟩

/-- All rows have the columns of the first one. -/
def insertOutline (q : Query) (payload : Payload) : InsertOutline :=
  ⟨q.table, (payload.ordered.head?.map Payload.columnsOf).getD [], payload.ordered.length⟩

def indexOutline (q : Query) (columns : List String) : IndexOutline :=
  ⟨q.table, columns⟩

theorem checkColumn_of_checkIdentifier {columns : List String}
    (h : ∀ column ∈ columns, Name.checkIdentifier column = .ok ()) :
    ∀ column ∈ columns, Name.checkColumn column = .ok () := by
  intro column hcolumn
  unfold Name.checkColumn
  split
  · rfl
  · exact h column hcolumn

theorem clauses_eq (hq : q.Checked) :
    clause q.predicateText ++ clause q.filteringText =
      Tail.text ⟨q.conditions, none, q.allowFiltering⟩ := by
  rw [clause_predicateText_eq hq, clause_filteringText_eq, Tail.text, limitClause,
    String.empty_append]

/-- There is something to update. -/
theorem targets_ne_nil {assignments : Cells} (h : q.updateStatement assignments = .ok s) :
    q.targets assignments ≠ [] := by
  unfold updateStatement at h
  split at h
  · cases h
  · rename_i hsome
    intro hnil
    simp only [targets, List.append_eq_nil_iff, List.map_eq_nil_iff] at hnil
    simp [hnil] at hsome

/-- An accepted update has the text of its outline. -/
theorem updateStatement_outline (hq : q.Checked) {assignments : Cells}
    (h : q.updateStatement assignments = .ok s) :
    (q.updateOutline assignments).Checked ∧ s.cql = (q.updateOutline assignments).text := by
  have hne := targets_ne_nil h
  obtain ⟨hnames, rfl⟩ := updateStatement_eq_ok h
  refine ⟨⟨hq.table, hne, checkIdentifier_targets hq hnames, checkIdentifier_conditions hq⟩, ?_⟩
  have hsides : (q.targetSides assignments).map markBetween =
      (q.targets assignments).map targetText := by
    rw [targetSides, List.map_map]
    exact List.map_congr_left fun target _ => markBetween_assignmentSides target
  have htable : q.tableName = q.table.getD "" := rfl
  dsimp only
  rw [updateText_eq hq hnames, hsides, htable, String.append_assoc, clauses_eq hq]
  simp only [UpdateOutline.text, updateOutline, UpdateOutline.tail, String.append_assoc]

/-- An accepted delete has the text of its outline. -/
theorem deleteStatement_outline (hq : q.Checked) {columns : List String}
    (h : q.deleteStatement columns = .ok s) :
    (q.deleteOutline columns).Checked ∧ s.cql = (q.deleteOutline columns).text := by
  obtain ⟨hnames, rfl⟩ := deleteStatement_eq_ok h
  refine ⟨⟨hq.table, checkColumn_of_checkIdentifier hnames, checkIdentifier_conditions hq⟩, ?_⟩
  have hlist : Name.list columns = ", ".intercalate columns :=
    list_eq_intercalate fun name hname => Name.wrap_of_checkIdentifier (hnames name hname)
  have htable : q.tableName = q.table.getD "" := rfl
  dsimp only
  unfold deleteText
  rw [hlist, wrap_tableName hq, htable, String.append_assoc, clauses_eq hq]
  simp only [DeleteOutline.text, DeleteOutline.columnsText, deleteOutline, DeleteOutline.tail,
    String.append_assoc]
  rfl

/-- An accepted insert has the text of its outline. -/
theorem insertStatement_outline (hq : q.Checked) {payload : Payload}
    (h : q.insertStatement payload = .ok s) :
    (q.insertOutline payload).Checked ∧ s.cql = (q.insertOutline payload).text := by
  obtain ⟨rows, hrows, hs⟩ := Outcome.bind_eq_ok_iff.mp h
  obtain ⟨rfl, columns, hne, hnames, hfirst, hcolumns⟩ := Payload.rows?_eq_ok hrows
  obtain rfl := Except.ok.inj hs
  have houtline : q.insertOutline payload = ⟨q.table, columns, payload.ordered.length⟩ := by
    rw [insertOutline, hfirst]
    rfl
  rw [houtline]
  exact ⟨⟨hq.table, hne, checkColumn_of_checkIdentifier hnames⟩, insertText_eq hq hnames hfirst
    hcolumns⟩

/-- There is a column to index. -/
theorem columns_ne_nil_of_indexStatement {columns : List String}
    (h : q.indexStatement columns = .ok s) : columns ≠ [] := by
  unfold indexStatement at h
  split at h
  · cases h
  · rename_i hsome
    simpa using hsome

/-- An accepted index has the text of its outline. -/
theorem indexStatement_outline (hq : q.Checked) {columns : List String}
    (h : q.indexStatement columns = .ok s) :
    (q.indexOutline columns).Checked ∧ s.cql = (q.indexOutline columns).text := by
  have hne := columns_ne_nil_of_indexStatement h
  obtain ⟨hnames, rfl⟩ := indexStatement_eq_ok h
  refine ⟨⟨hq.table, hne, checkColumn_of_checkIdentifier hnames⟩, ?_⟩
  have hlist : Name.list columns = ", ".intercalate columns :=
    list_eq_intercalate fun name hname => Name.wrap_of_checkIdentifier (hnames name hname)
  have htable : q.tableName = q.table.getD "" := rfl
  dsimp only
  unfold indexText IndexOutline.text
  rw [hlist, wrap_tableName hq, htable, String.append_assoc, String.append_assoc,
    String.append_assoc]
  rfl

/-- Two accepted writes of one kind have the same text just when they have the same outline. -/
theorem write_cql_eq_iff {options options' : Fields Json} {pageSize pageSize' : Int32}
    {calls calls' : List Call} {q q' : Query}
    (h : Call.applyAll { options, pageSize } calls = .ok q)
    (h' : Call.applyAll { options := options', pageSize := pageSize' } calls' = .ok q') :
    (∀ assignments assignments' s s', q.updateStatement assignments = .ok s →
      q'.updateStatement assignments' = .ok s' →
        (s.cql = s'.cql ↔ q.updateOutline assignments = q'.updateOutline assignments')) ∧
    (∀ columns columns' s s', q.deleteStatement columns = .ok s →
      q'.deleteStatement columns' = .ok s' →
        (s.cql = s'.cql ↔ q.deleteOutline columns = q'.deleteOutline columns')) ∧
    (∀ payload payload' s s', q.insertStatement payload = .ok s →
      q'.insertStatement payload' = .ok s' →
        (s.cql = s'.cql ↔ q.insertOutline payload = q'.insertOutline payload')) ∧
    (∀ columns columns' s s', q.indexStatement columns = .ok s →
      q'.indexStatement columns' = .ok s' →
        (s.cql = s'.cql ↔ q.indexOutline columns = q'.indexOutline columns')) := by
  have hq := checked_of_applyAll (checked_fresh options pageSize) h
  have hq' := checked_of_applyAll (checked_fresh options' pageSize') h'
  refine ⟨?_, ?_, ?_, ?_⟩
  · intro assignments assignments' s s' hs hs'
    obtain ⟨hchecked, htext⟩ := updateStatement_outline hq hs
    obtain ⟨hchecked', htext'⟩ := updateStatement_outline hq' hs'
    rw [htext, htext']
    exact ⟨UpdateOutline.eq_of_text_eq hchecked hchecked', congrArg UpdateOutline.text⟩
  · intro columns columns' s s' hs hs'
    obtain ⟨hchecked, htext⟩ := deleteStatement_outline hq hs
    obtain ⟨hchecked', htext'⟩ := deleteStatement_outline hq' hs'
    rw [htext, htext']
    exact ⟨DeleteOutline.eq_of_text_eq hchecked hchecked', congrArg DeleteOutline.text⟩
  · intro payload payload' s s' hs hs'
    obtain ⟨hchecked, htext⟩ := insertStatement_outline hq hs
    obtain ⟨hchecked', htext'⟩ := insertStatement_outline hq' hs'
    rw [htext, htext']
    exact ⟨InsertOutline.eq_of_text_eq hchecked hchecked', congrArg InsertOutline.text⟩
  · intro columns columns' s s' hs hs'
    obtain ⟨hchecked, htext⟩ := indexStatement_outline hq hs
    obtain ⟨hchecked', htext'⟩ := indexStatement_outline hq' hs'
    rw [htext, htext']
    exact ⟨IndexOutline.eq_of_text_eq hchecked hchecked', congrArg IndexOutline.text⟩

/-- To delete a column of a row is not to delete the row. -/
theorem delete_column_of_users :
    ∃ q s s', Call.applyAll { options := ∅, pageSize := standardPageSize }
        [.onTable "users", .restrict "id" .eq (.int 7)] = .ok q ∧
      q.deleteStatement ["name"] = .ok s ∧ q.deleteStatement [] = .ok s' ∧ s.cql ≠ s'.cql := by
  have hid : Name.checkIdentifier "id" = .ok () := Name.checkIdentifier_eq_ok_iff.mpr (by decide)
  have hname : Name.checkIdentifier "name" = .ok () :=
    Name.checkIdentifier_eq_ok_iff.mpr (by decide)
  have htable : Name.checkTable "users" = .ok () :=
    Name.checkTable_of_checkIdentifier (Name.checkIdentifier_eq_ok_iff.mpr (by decide)) (by decide)
  have hrun : ∃ q, Call.applyAll { options := ∅, pageSize := standardPageSize }
      [.onTable "users", .restrict "id" .eq (.int 7)] = .ok q := by
    simp only [Call.applyAll, List.foldlM_cons, List.foldlM_nil, Call.apply, onTable, restrict,
      htable, hid]
    exact ⟨_, rfl⟩
  obtain ⟨q, hq⟩ := hrun
  have hcolumn : q.deleteStatement ["name"] = .ok
      ⟨q.deleteText ["name"], q.bindings.flattenExcept [.updateCollection]⟩ := by
    have hcheck : (["name"] : List String).forM Name.checkIdentifier = .ok () :=
      Outcome.forM_eq_ok_iff.mpr (by simpa using hname)
    rw [deleteStatement, hcheck]
    rfl
  obtain ⟨_, hdelete, _⟩ := write_cql_eq_iff hq hq
  refine ⟨q, _, _, hq, hcolumn, rfl, ?_⟩
  intro heq
  have houtline := (hdelete ["name"] [] _ _ hcolumn rfl).mp heq
  simp [deleteOutline] at houtline

end Query

end Cql
