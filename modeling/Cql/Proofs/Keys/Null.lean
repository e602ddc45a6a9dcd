import Cql.Proofs.Keys.Casting
import Cql.Proofs.Keys.Condition

/-!
Null in keys. A cast keeps null and makes no other value null. Of the values for the components of a
key, and of those that a save takes from its rows, the null ones count as missing. The column of a
single key takes the value that it is given as it is, null or not.
-/

namespace Cql

namespace KeyColumn

variable {component : KeyColumn} {v : Value}

theorem isNull_of_condition {p : Predicate} (h : component.condition v = .ok p) :
    p.value.isNull = v.isNull := by
  obtain ⟨w, hcast, _, rfl⟩ := condition_eq_ok_iff.mp h
  unfold cast at hcast
  split at hcast
  · exact Caster.isNull_of_cast hcast
  · rw [Except.ok.inj hcast]

/-- A value or a name that is refused is no matter of configuration. -/
theorem kind_of_refuses {e : Error} (h : component.Refuses v e) : e.kind ≠ .configuration := by
  rcases h with hcast | ⟨_, _, hname⟩
  · unfold cast at hcast
    split at hcast
    · rw [Caster.kind_of_cast hcast]
      nofun
    · cases hcast
  · rw [Name.kind_of_checkIdentifier hname]
    nofun

end KeyColumn

namespace PrimaryKey

variable {key : PrimaryKey} {id : KeyValue} {components : List KeyColumn}

/-- The values that a key value has for the columns of a key, null or not. -/
def offered (key : PrimaryKey) : KeyValue → List Value
  | .single v =>
    match key with
    | single _ => [v]
    | composite _ => []
  | .composite entries => key.names.filterMap fun name => entries.lookup name

/-- The key is one column, and the key value has null for it. -/
def OffersNull (key : PrimaryKey) (id : KeyValue) : Prop :=
  (∃ name, key = single name) ∧ ∃ v ∈ key.offered id, v.isNull = true

theorem isNull_of_mem_resolve {item : KeyColumn × Value} (h : item ∈ resolve components id) :
    item.2.isNull = false := by
  obtain ⟨component, _, hitem⟩ := List.mem_filterMap.mp h
  split at hitem
  · split at hitem
    · cases hitem
    · rename_i hv
      rw [← Option.some.inj hitem]
      simpa using hv
  · cases hitem

variable {items : List (KeyColumn × Value)}

/-- A key value that fits a key gives the value of its one column, or the values of its components that
are not null. -/
theorem given_cases (h : key.given id = .ok items) :
    (∃ name v, key = single name ∧ key.offered id = [v] ∧ items = [(⟨name, none⟩, v)]) ∨
      ∃ components entries, key = composite components ∧ id = .composite entries ∧ items ≠ [] ∧
        resolve components id = items := by
  cases key with
  | single name =>
    cases id with
    | single v => exact Or.inl ⟨name, v, rfl, rfl, (Except.ok.inj h).symm⟩
    | composite entries =>
      unfold given at h
      dsimp only at h
      split at h
      · rename_i v hv
        have hlookup : entries.lookup name = some v := hv
        refine Or.inl ⟨name, v, rfl, ?_, (Except.ok.inj h).symm⟩
        simp [offered, names, PrimaryKey.components, hlookup]
      · cases h
  | composite components =>
    cases id with
    | single v => cases h
    | composite entries =>
      obtain ⟨hne, hresolve⟩ := given_eq_ok_iff.mp h
      exact Or.inr ⟨components, entries, rfl, rfl, hne, hresolve⟩

theorem given_ne_nil (h : key.given id = .ok items) : items ≠ [] := by
  rcases given_cases h with ⟨name, v, _, _, rfl⟩ | ⟨_, _, _, _, hne, _⟩
  · simp
  · exact hne

/-- Only the column of a single key is given null. -/
theorem null_of_given (h : key.given id = .ok items) :
    (∃ item ∈ items, item.2.isNull = true) ↔ key.OffersNull id := by
  rcases given_cases h with ⟨name, v, rfl, hoffered, rfl⟩ | ⟨_, _, rfl, _, _, rfl⟩
  · simp [OffersNull, hoffered]
  · constructor
    · rintro ⟨item, hitem, hnull⟩
      rw [isNull_of_mem_resolve hitem] at hnull
      cases hnull
    · rintro ⟨⟨_, hkey⟩, _⟩
      cases hkey

theorem mem_offered_of_given (h : key.given id = .ok items) :
    ∀ item ∈ items, item.2 ∈ key.offered id := by
  rcases given_cases h with ⟨name, v, rfl, hoffered, rfl⟩ | ⟨components, entries, rfl, rfl, _, rfl⟩
  · simp [hoffered]
  · intro item hitem
    obtain ⟨component, hcomponent, hvalue⟩ := List.mem_filterMap.mp hitem
    split at hvalue
    · rename_i v hv
      split at hvalue
      · cases hvalue
      · rw [← Option.some.inj hvalue]
        exact List.mem_filterMap.mpr
          ⟨component.name, List.mem_map.mpr ⟨component, hcomponent, rfl⟩, hv⟩
    · cases hvalue

/-- A key value that does not fit the key is a matter of configuration. -/
theorem kind_of_given {e : Error} (h : key.given id = .error e) : e.kind = .configuration := by
  unfold given at h
  repeat' split at h
  all_goals cases h
  all_goals rfl

theorem given_of_offersNull (h : key.OffersNull id) : ∃ items, key.given id = .ok items := by
  obtain ⟨⟨name, rfl⟩, v, hv, _⟩ := h
  cases id with
  | single v => exact ⟨_, rfl⟩
  | composite entries =>
    have hlookup : (KeyValue.composite entries).find? name = some v := by
      simpa [offered, names, PrimaryKey.components, KeyValue.find?] using hv
    unfold given
    dsimp only
    rw [hlookup]
    exact ⟨_, rfl⟩

/-- A key value without a value that is not null does not fit the key, unless it has null for the
column of a single key. -/
theorem given_of_null (h : ∀ v ∈ key.offered id, v.isNull = true) :
    (∃ e, key.given id = .error e) ↔ ¬ key.OffersNull id := by
  constructor
  · rintro ⟨e, he⟩ hnull
    obtain ⟨items, hitems⟩ := given_of_offersNull hnull
    rw [he] at hitems
    cases hitems
  · intro hnull
    cases hgiven : key.given id with
    | error e => exact ⟨e, rfl⟩
    | ok items =>
      obtain ⟨item, hitem⟩ := List.exists_mem_of_ne_nil items (given_ne_nil hgiven)
      exact absurd ((null_of_given hgiven).mp
        ⟨item, hitem, h item.2 (mem_offered_of_given hgiven item hitem)⟩) hnull

/-- The predicates of items are null where the values of the items are. -/
theorem null_of_conditions {ps : List Predicate}
    (h : List.Forall₂ (fun item p => item.1.condition item.2 = .ok p) items ps) :
    (∃ p ∈ ps, p.value.isNull = true) ↔ ∃ item ∈ items, item.2.isNull = true := by
  induction h with
  | nil => simp
  | cons hitem _ ih =>
    rw [List.exists_mem_cons_iff, List.exists_mem_cons_iff, ih, KeyColumn.isNull_of_condition hitem]

theorem isNull_of_keptCondition {loaded changed : Row} {component : KeyColumn} {p : Predicate}
    (h : keptCondition loaded changed component = .ok p) : p.value.isNull = false := by
  obtain ⟨v, hv, hcondition⟩ := keptCondition_eq_ok_iff.mp h
  rw [KeyColumn.isNull_of_condition hcondition]
  exact Row.isNull_of_kept? hv

theorem isNull_of_keptConditions {loaded changed : Row} {ps : List Predicate}
    (h : List.Forall₂ (fun component p => keptCondition loaded changed component = .ok p)
      components ps) : ∀ p ∈ ps, p.value.isNull = false := by
  induction h with
  | nil => simp
  | cons hcomponent _ ih => exact List.forall_mem_cons.mpr ⟨isNull_of_keptCondition hcomponent, ih⟩

/-- A save is never tied to a row by null, and a key that neither row has a value for is a matter of
configuration. -/
theorem restrictSave_null (hkey : key.validate = .ok ()) (q : Query) (loaded changed : Row) :
    (∀ later, key.restrictSave q loaded changed = .ok later →
      ∃ ps, ps ≠ [] ∧ later = q.addPredicates ps ∧ ∀ p ∈ ps, p.value.isNull = false) ∧
    ((∀ name ∈ key.names, loaded.kept? changed name = none) →
      ∃ e, key.restrictSave q loaded changed = .error e ∧ e.kind = .configuration) := by
  constructor
  · intro later hlater
    obtain ⟨ps, hps, rfl⟩ := (restrictSave_eq_ok_iff hkey).mp hlater
    refine ⟨ps, ?_, rfl, isNull_of_keptConditions hps⟩
    rintro rfl
    exact components_ne_nil hkey (List.forall₂_nil_right_iff.mp hps)
  · intro hmissing
    cases hcomponents : key.components with
    | nil => exact absurd hcomponents (components_ne_nil hkey)
    | cons component rest =>
      have hname : component.name ∈ key.names := by
        simp [names, hcomponents]
      refine ⟨.keyColumnMissing component.name, (restrictSave_eq_error_iff hkey).mpr ?_, rfl⟩
      refine ⟨[], component, rest, hcomponents, by simp, ?_⟩
      unfold keptCondition
      rw [hmissing component.name hname]

end PrimaryKey

namespace Model

/-- To restrict a query by a key is a matter of configuration only where the key value does not fit
the key. -/
theorem configuration_iff_given (m : Model) (id : KeyValue) :
    (∃ e, m.restrict id = .error e ∧ e.kind = .configuration) ↔
      ∃ e, m.key.given id = .error e := by
  constructor
  · rintro ⟨e, he, hkind⟩
    rcases restrict_eq_error_iff.mp he with hgiven | ⟨_, _, _, _, _, hitem⟩
    · exact ⟨e, hgiven⟩
    · exact absurd hkind (KeyColumn.kind_of_refuses hitem)
  · rintro ⟨e, he⟩
    exact ⟨e, restrict_eq_error_iff.mpr (.inl he), PrimaryKey.kind_of_given he⟩

/-- A query that was restricted by a key has predicates for it, and none of them is for null but the
one for a single key whose value is null. A key value without any other value is refused but there. -/
theorem restrict_null {q : Query} {key : PrimaryKey} {m : Model} (hm : ofQuery q key = .ok m)
    (id : KeyValue) :
    (∀ later, m.restrict id = .ok later →
      ∃ ps, ps ≠ [] ∧ later = ⟨q.addPredicates ps, key⟩ ∧
        ((∃ p ∈ ps, p.value.isNull = true) ↔ key.OffersNull id)) ∧
    ((∀ v ∈ key.offered id, v.isNull = true) →
      ((∃ e, m.restrict id = .error e ∧ e.kind = .configuration) ↔ ¬ key.OffersNull id)) ∧
    ∀ loaded changed,
      (∀ later, key.restrictSave q loaded changed = .ok later →
        ∃ ps, ps ≠ [] ∧ later = q.addPredicates ps ∧ ∀ p ∈ ps, p.value.isNull = false) ∧
      ((∀ name ∈ key.names, loaded.kept? changed name = none) →
        ∃ e, key.restrictSave q loaded changed = .error e ∧ e.kind = .configuration) := by
  obtain ⟨hkey, rfl⟩ := ofQuery_eq_ok hm
  refine ⟨?_, ?_, key.restrictSave_null hkey q⟩
  · intro later hlater
    obtain ⟨items, ps, hgiven, hps, rfl⟩ := restrict_eq_ok_iff.mp hlater
    refine ⟨ps, ?_, rfl, ?_⟩
    · rintro rfl
      cases hps
      exact PrimaryKey.given_ne_nil hgiven rfl
    · rw [PrimaryKey.null_of_conditions hps]
      exact PrimaryKey.null_of_given hgiven
  · intro hnull
    rw [← PrimaryKey.given_of_null hnull]
    exact configuration_iff_given _ id

/-- A component without a value is left out, and null is no value. -/
theorem restrict_skips_null :
    ∃ (q : Query) (key : PrimaryKey) (m later : Model) (ps : List Predicate),
      key = .composite [⟨"tenant", none⟩, ⟨"id", some .int⟩] ∧ ofQuery q key = .ok m ∧
      m.restrict (.composite [("id", .null), ("tenant", .text "x")]) = .ok later ∧
      later = ⟨q.addPredicates ps, key⟩ ∧ ps ≠ [] ∧ ¬ ∃ p ∈ ps, p.value.isNull = true := by
  let q : Query := { table := some "accounts" }
  let key : PrimaryKey := .composite [⟨"tenant", none⟩, ⟨"id", some .int⟩]
  let id : KeyValue := .composite [("id", .null), ("tenant", .text "x")]
  have hname : Name.checkIdentifier "tenant" = .ok () :=
    Name.checkIdentifier_eq_ok_iff.mpr (by decide)
  have hm : ofQuery q key = .ok ⟨q, key⟩ := rfl
  have hgiven : key.given id = .ok [(⟨"tenant", none⟩, .text "x")] := by
    simp [PrimaryKey.given, PrimaryKey.resolve, KeyValue.find?, List.lookup_cons, Value.isNull, key, id]
  have hcondition : KeyColumn.condition ⟨"tenant", none⟩ (.text "x") =
      .ok ⟨"tenant", .eq, .text "x"⟩ :=
    KeyColumn.condition_eq_ok_iff.mpr ⟨_, rfl, hname, rfl⟩
  have hlater : restrict ⟨q, key⟩ id = .ok ⟨q.addPredicates [⟨"tenant", .eq, .text "x"⟩], key⟩ :=
    restrict_eq_ok_iff.mpr ⟨_, _, hgiven, .cons hcondition .nil, rfl⟩
  obtain ⟨hrestricted, _⟩ := restrict_null hm id
  obtain ⟨ps, hne, hps, hnull⟩ := hrestricted _ hlater
  refine ⟨q, key, _, _, ps, rfl, hm, hlater, hps, hne, ?_⟩
  rw [hnull]
  rintro ⟨⟨_, hkey⟩, _⟩
  simp [key] at hkey

/-- Null for the column of a single key is bound, be it given alone or by name. -/
theorem restrict_binds_null :
    ∃ (q : Query) (m : Model), ofQuery q (.single "id") = .ok m ∧
      m.restrict (.single .null) = .ok ⟨q.addPredicates [⟨"id", .eq, .null⟩], .single "id"⟩ ∧
      m.restrict (.composite [("id", .null)]) =
        .ok ⟨q.addPredicates [⟨"id", .eq, .null⟩], .single "id"⟩ := by
  have hid : Name.checkIdentifier "id" = .ok () := Name.checkIdentifier_eq_ok_iff.mpr (by decide)
  have hcondition : KeyColumn.condition ⟨"id", none⟩ .null = .ok ⟨"id", .eq, .null⟩ :=
    KeyColumn.condition_eq_ok_iff.mpr ⟨_, rfl, hid, rfl⟩
  have hrestrict : ∀ (q : Query) (id : KeyValue),
      PrimaryKey.given (.single "id") id = .ok [(⟨"id", none⟩, .null)] →
      restrict ⟨q, .single "id"⟩ id =
        .ok ⟨q.addPredicates [⟨"id", .eq, .null⟩], .single "id"⟩ := by
    intro q id hgiven
    exact restrict_eq_ok_iff.mpr ⟨_, _, hgiven, .cons hcondition .nil, rfl⟩
  exact ⟨{ table := some "users" }, _, rfl, hrestrict _ _ rfl, hrestrict _ _ rfl⟩

end Model

end Cql
