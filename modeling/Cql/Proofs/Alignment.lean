import Cql.Proofs.Arguments
import Cql.Proofs.Insert

/-!
Question marks and arguments come from two walks over a query: the texts go over its predicates and
mutations, the arguments over the buckets of bound values. The main statement is that after any run
of accepted calls both agree: every argument has the question mark it was given for, and what is
left over are the values that were bound for no clause.
-/

namespace Cql

namespace Query

section Accepted

variable {q : Query} {s : Statement}

theorem updateStatement_eq_ok {assignments : Cells} (h : q.updateStatement assignments = .ok s) :
    (∀ a ∈ assignments, Name.checkIdentifier a.1 = .ok ()) ∧
      s = ⟨q.updateText assignments, q.bindings.updateArguments (assignments.map Prod.snd)⟩ := by
  unfold updateStatement at h
  split at h
  · cases h
  · obtain ⟨_, hnames, hs⟩ := Outcome.bind_eq_ok_iff.mp h
    exact ⟨Outcome.forM_eq_ok_iff.mp hnames, (Except.ok.inj hs).symm⟩

theorem deleteStatement_eq_ok {columns : List String} (h : q.deleteStatement columns = .ok s) :
    (∀ column ∈ columns, Name.checkIdentifier column = .ok ()) ∧
      s = ⟨q.deleteText columns, q.bindings.flattenExcept [.updateCollection]⟩ := by
  obtain ⟨_, hnames, hs⟩ := Outcome.bind_eq_ok_iff.mp h
  exact ⟨Outcome.forM_eq_ok_iff.mp hnames, (Except.ok.inj hs).symm⟩

theorem indexStatement_eq_ok {columns : List String} (h : q.indexStatement columns = .ok s) :
    (∀ column ∈ columns, Name.checkIdentifier column = .ok ()) ∧ s = ⟨q.indexText columns, []⟩ := by
  unfold indexStatement at h
  split at h
  · cases h
  · obtain ⟨_, hnames, hs⟩ := Outcome.bind_eq_ok_iff.mp h
    exact ⟨Outcome.forM_eq_ok_iff.mp hnames, (Except.ok.inj hs).symm⟩

end Accepted

/-- After any run of accepted calls each statement binds the values that its question marks stand
for, in their order. Values bound for no clause are the only surplus: one for each call that binds
into a bucket which the statement reads. -/
theorem aligned_of_applyAll {options : Fields Json} {pageSize : Int32} {calls : List Call}
    {q : Query} (h : Call.applyAll { options, pageSize } calls = .ok q) :
    ((∀ call ∈ calls, call.binding? = none) →
      q.selectStatement.Aligned ((calls.flatMap Call.predicates).map Predicate.slot) ∧
      (∀ columns s, q.deleteStatement columns = .ok s →
        s.Aligned ((calls.flatMap Call.predicates).map Predicate.slot)) ∧
      (∀ assignments s, q.updateStatement assignments = .ok s →
        s.Aligned ((calls.flatMap Call.mutations).map Mutation.slot ++
          assignments.map assignmentSlot ++
            (calls.flatMap Call.predicates).map Predicate.slot))) ∧
    (∀ payload s, q.insertStatement payload = .ok s → s.Aligned (cellSlots payload.ordered)) ∧
    (∀ columns s, q.indexStatement columns = .ok s → s.Aligned []) ∧
    q.selectStatement.arguments.length = questionMarks q.selectStatement.cql +
      calls.countP (Call.bindsTo [.select, .predicate, .join]) ∧
    (∀ columns s, q.deleteStatement columns = .ok s →
      s.arguments.length =
        questionMarks s.cql + calls.countP (Call.bindsTo [.select, .predicate, .join])) ∧
    (∀ assignments s, q.updateStatement assignments = .ok s →
      s.arguments.length = questionMarks s.cql +
        calls.countP (Call.bindsTo [.join, .updateCollection, .predicate])) := by
  have hsum := sumOf_applyAll h
  have hselect := marked_selectText hsum.checked
  have hdelete := fun columns hcolumns => @marked_deleteText q hsum.checked columns hcolumns
  have hupdate := fun assignments hnames => @marked_updateText q hsum.checked assignments hnames
  refine ⟨?_, ?_, ?_, ?_, ?_, ?_⟩
  · intro hplain
    have hvalues : q.bindings.flattenExcept [.updateCollection] =
        ((calls.flatMap Call.predicates).map Predicate.slot).map Slot.value := by
      rw [hsum.selectArguments_of_no_binding hplain, List.map_map]
      rfl
    rw [← hsum.predicates] at hvalues ⊢
    refine ⟨⟨hvalues, hselect⟩, ?_, ?_⟩
    · intro columns s hs
      obtain ⟨hnames, rfl⟩ := deleteStatement_eq_ok hs
      exact ⟨hvalues, hdelete columns hnames⟩
    · intro assignments s hs
      obtain ⟨hnames, rfl⟩ := updateStatement_eq_ok hs
      rw [← hsum.mutations]
      refine ⟨?_, hupdate assignments hnames⟩
      rw [hsum.updateArguments_of_no_binding hplain, ← hsum.mutations, ← hsum.predicates]
      simp only [List.map_append, List.map_map]
      rfl
  · exact fun payload s hs => aligned_insertStatement hsum.checked hs
  · intro columns s hs
    obtain ⟨hnames, rfl⟩ := indexStatement_eq_ok hs
    exact ⟨rfl, marked_indexText hsum.checked hnames⟩
  · rw [selectStatement, hselect.count, hsum.length_selectArguments]
    simp
  · intro columns s hs
    obtain ⟨hnames, rfl⟩ := deleteStatement_eq_ok hs
    rw [(hdelete columns hnames).count, hsum.length_selectArguments]
    simp
  · intro assignments s hs
    obtain ⟨hnames, rfl⟩ := updateStatement_eq_ok hs
    rw [(hupdate assignments hnames).count, hsum.length_updateArguments]
    simp [Nat.add_assoc]

/-- The arguments of an update come in the order of its text, whatever the order of the calls. -/
theorem aligned_update_of_users :
    ∃ q s, Call.applyAll { options := ∅, pageSize := standardPageSize }
        [.onTable "users", .restrict "id" .eq (.int 7),
          .updateCollection "tags" (some .append) (.collection (.list .text [.text "new"]))] =
        .ok q ∧
      q.updateStatement [("name", .text "Ada")] = .ok s ∧
      s.Aligned [⟨.assignment "tags" (some .append), .collection (.list .text [.text "new"])⟩,
        ⟨.assignment "name" none, .text "Ada"⟩, ⟨.predicate "id" .eq, .int 7⟩] := by
  have hnames : (Name.checkIdentifier "users" = .ok () ∧ Name.checkIdentifier "id" = .ok ()) ∧
      Name.checkIdentifier "tags" = .ok () ∧ Name.checkIdentifier "name" = .ok () := by
    simp [Name.checkIdentifier_eq_ok_iff, Name.isIdentifier, Name.isStart, Name.isPart,
      Name.reservedWords, Name.lower, ← String.toList_inj]
  obtain ⟨⟨husers, hid⟩, htags, hname⟩ := hnames
  have htable : Name.checkTable "users" = .ok () := by
    have hsplit : "users".toList.splitOn '.' = ["users".toList] := by decide
    have hlength : "users".utf8ByteSize = 5 := rfl
    unfold Name.checkTable
    rw [hsplit]
    simp only [Name.checkSegment, husers, hlength]
    rfl
  have hrun : ∃ q, Call.applyAll { options := ∅, pageSize := standardPageSize }
      [.onTable "users", .restrict "id" .eq (.int 7),
        .updateCollection "tags" (some .append) (.collection (.list .text [.text "new"]))] =
      .ok q := by
    simp only [Call.applyAll, List.foldlM_cons, List.foldlM_nil, Call.apply, onTable, restrict,
      updateCollection, htable, hid, htags]
    exact ⟨_, rfl⟩
  obtain ⟨q, hq⟩ := hrun
  have hstatement : ∃ s, q.updateStatement [("name", .text "Ada")] = .ok s := by
    have hcheck : List.forM [("name", Value.text "Ada")] (fun a => Name.checkIdentifier a.1) =
        .ok () := Outcome.forM_eq_ok_iff.mpr (by simpa using hname)
    simp only [updateStatement, hcheck]
    exact ⟨_, rfl⟩
  obtain ⟨s, hs⟩ := hstatement
  exact ⟨q, s, hq, hs, ((aligned_of_applyAll hq).1 (by simp)).2.2 _ s hs⟩

end Query

end Cql
