import Cql.Proofs.Call

/-!
What the buckets of bound values hold after a run of calls: the values of the clauses that the calls
added and, beside them, those that were bound for no clause.
-/

namespace Cql

namespace Call

theorem values_of_no_binding {call : Call} (h : call.binding? = none) (kind : Bucket) :
    call.values kind = call.clauseValues kind := by
  rw [values, surplus, h]
  simp

theorem length_surplus {a b c : Bucket} (hab : a ≠ b) (hac : a ≠ c) (hbc : b ≠ c) (call : Call) :
    (call.surplus a).length + (call.surplus b).length + (call.surplus c).length =
      if call.bindsTo [a, b, c] then 1 else 0 := by
  unfold surplus bindsTo
  cases call.binding? with
  | none => simp
  | some binding =>
    obtain ⟨kind, v⟩ := binding
    by_cases ha : kind = a
    · subst ha
      simp [hab, hac]
    · by_cases hb : kind = b
      · subst hb
        simp [Ne.symm hab, hbc]
      · by_cases hc : kind = c
        · subst hc
          simp [Ne.symm hac, Ne.symm hbc]
        · simp [ha, hb, hc]

/-- The values bound for no clause in three buckets are as many as the calls that bind them. -/
theorem length_flatMap_surplus {a b c : Bucket} (hab : a ≠ b) (hac : a ≠ c) (hbc : b ≠ c)
    (calls : List Call) :
    (calls.flatMap fun call => call.surplus a).length +
      (calls.flatMap fun call => call.surplus b).length +
        (calls.flatMap fun call => call.surplus c).length = calls.countP (bindsTo [a, b, c]) := by
  induction calls with
  | nil => rfl
  | cons call calls ih =>
    have hcall := length_surplus hab hac hbc call
    rw [List.flatMap_cons, List.flatMap_cons, List.flatMap_cons, List.length_append,
      List.length_append, List.length_append, List.countP_cons]
    omega

theorem length_flatMap_values (calls : List Call) (kind : Bucket) :
    (calls.flatMap fun call => call.values kind).length =
      (calls.flatMap fun call => call.clauseValues kind).length +
        (calls.flatMap fun call => call.surplus kind).length := by
  induction calls with
  | nil => rfl
  | cons call calls ih =>
    rw [List.flatMap_cons, List.flatMap_cons, List.flatMap_cons, List.length_append, ih, values,
      List.length_append, List.length_append, List.length_append]
    omega

theorem flatMap_clauseValues_select (calls : List Call) :
    (calls.flatMap fun call => call.clauseValues .select) = [] := by
  simp [clauseValues]

theorem flatMap_clauseValues_join (calls : List Call) :
    (calls.flatMap fun call => call.clauseValues .join) = [] := by
  simp [clauseValues]

theorem flatMap_clauseValues_predicate (calls : List Call) :
    (calls.flatMap fun call => call.clauseValues .predicate) =
      (calls.flatMap predicates).map Predicate.value := by
  rw [List.map_flatMap]
  rfl

theorem flatMap_clauseValues_updateCollection (calls : List Call) :
    (calls.flatMap fun call => call.clauseValues .updateCollection) =
      (calls.flatMap mutations).map fun m => .collection m.value := by
  rw [List.map_flatMap]
  rfl

end Call

/-- What a query without predecessors holds after an accepted run of calls. -/
structure Query.SumOf (calls : List Call) (q : Query) : Prop where
  checked : q.Checked
  predicates : q.predicates = calls.flatMap Call.predicates
  mutations : q.mutations = calls.flatMap Call.mutations
  bindings : ∀ kind, q.bindings.get kind = calls.flatMap fun call => call.values kind

namespace Query

theorem sumOf_applyAll {options : Fields Json} {pageSize : Int32} {calls : List Call}
    {q : Query} (h : Call.applyAll { options, pageSize } calls = .ok q) : q.SumOf calls := by
  obtain ⟨rfl, _⟩ := Call.applyAll_eq_ok h
  refine ⟨checked_of_applyAll (checked_fresh options pageSize) h, ?_, ?_, ?_⟩
  · exact Call.foldl_after_append Query.predicates (fun q call => rfl) _ calls
  · exact Call.foldl_after_append Query.mutations (fun q call => rfl) _ calls
  · intro kind
    have hget := Call.foldl_after_append (fun q => q.bindings.get kind)
      (fun q call => Call.get_after_bindings q call kind) { options, pageSize } calls
    rw [hget]
    cases kind <;> rfl

namespace SumOf

variable {q : Query} {calls : List Call}

theorem length_get (hq : q.SumOf calls) (kind : Bucket) :
    (q.bindings.get kind).length =
      (calls.flatMap fun call => call.clauseValues kind).length +
        (calls.flatMap fun call => call.surplus kind).length := by
  rw [hq.bindings kind, Call.length_flatMap_values]

/-- Without values bound for no clause a bucket holds the values of the clauses. -/
theorem get_of_no_binding (hq : q.SumOf calls) (hplain : ∀ call ∈ calls, call.binding? = none)
    (kind : Bucket) :
    q.bindings.get kind = calls.flatMap fun call => call.clauseValues kind := by
  rw [hq.bindings kind, List.flatMap_def, List.flatMap_def,
    List.map_congr_left fun call hcall => Call.values_of_no_binding (hplain call hcall) kind]

theorem selectArguments_of_no_binding (hq : q.SumOf calls)
    (hplain : ∀ call ∈ calls, call.binding? = none) :
    q.bindings.flattenExcept [.updateCollection] =
      (calls.flatMap Call.predicates).map Predicate.value := by
  have hvalues := hq.get_of_no_binding hplain
  calc q.bindings.flattenExcept [.updateCollection]
      = q.bindings.get .select ++ (q.bindings.get .predicate ++ (q.bindings.get .join ++ [])) := rfl
    _ = (calls.flatMap Call.predicates).map Predicate.value := by
        rw [hvalues .select, hvalues .predicate, hvalues .join, Call.flatMap_clauseValues_select,
          Call.flatMap_clauseValues_predicate, Call.flatMap_clauseValues_join]
        simp only [List.nil_append, List.append_nil]

theorem updateArguments_of_no_binding (hq : q.SumOf calls)
    (hplain : ∀ call ∈ calls, call.binding? = none) (assigned : List Value) :
    q.bindings.updateArguments assigned =
      ((calls.flatMap Call.mutations).map fun m => .collection m.value) ++ assigned ++
        (calls.flatMap Call.predicates).map Predicate.value := by
  have hvalues := hq.get_of_no_binding hplain
  calc q.bindings.updateArguments assigned
      = q.bindings.get .join ++ q.bindings.get .updateCollection ++ assigned ++
          (q.bindings.get .predicate ++ []) := rfl
    _ = _ := by
        rw [hvalues .join, hvalues .updateCollection, hvalues .predicate,
          Call.flatMap_clauseValues_join, Call.flatMap_clauseValues_updateCollection,
          Call.flatMap_clauseValues_predicate]
        simp only [List.nil_append, List.append_nil]

theorem length_selectArguments (hq : q.SumOf calls) :
    (q.bindings.flattenExcept [.updateCollection]).length =
      q.predicates.length + calls.countP (Call.bindsTo [.select, .predicate, .join]) := by
  have hselect := hq.length_get .select
  have hpredicate := hq.length_get .predicate
  have hjoin := hq.length_get .join
  have hsurplus := @Call.length_flatMap_surplus .select .predicate .join (by decide) (by decide)
    (by decide) calls
  have hlength : (q.bindings.flattenExcept [.updateCollection]).length =
      (q.bindings.get .select).length + ((q.bindings.get .predicate).length +
        ((q.bindings.get .join).length + 0)) := by
    simp [Bindings.flattenExcept, Bucket.all]
  rw [Call.flatMap_clauseValues_predicate, List.length_map, ← hq.predicates] at hpredicate
  rw [Call.flatMap_clauseValues_select, List.length_nil] at hselect
  rw [Call.flatMap_clauseValues_join, List.length_nil] at hjoin
  omega

theorem length_updateArguments (hq : q.SumOf calls) (assigned : List Value) :
    (q.bindings.updateArguments assigned).length =
      q.mutations.length + assigned.length + q.predicates.length +
        calls.countP (Call.bindsTo [.join, .updateCollection, .predicate]) := by
  have hjoin := hq.length_get .join
  have hmutation := hq.length_get .updateCollection
  have hpredicate := hq.length_get .predicate
  have hsurplus := @Call.length_flatMap_surplus .join .updateCollection .predicate (by decide)
    (by decide) (by decide) calls
  have hlength : (q.bindings.updateArguments assigned).length =
      (q.bindings.get .join).length + (q.bindings.get .updateCollection).length +
        assigned.length + (q.bindings.get .predicate).length := by
    simp [Bindings.updateArguments, Bindings.flattenExcept, Bucket.all, Nat.add_assoc]
  rw [Call.flatMap_clauseValues_predicate, List.length_map, ← hq.predicates] at hpredicate
  rw [Call.flatMap_clauseValues_updateCollection, List.length_map, ← hq.mutations] at hmutation
  rw [Call.flatMap_clauseValues_join, List.length_nil] at hjoin
  omega

end SumOf

end Query

end Cql
