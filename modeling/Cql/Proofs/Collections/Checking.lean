import Cql.Value.Collection
import Cql.Proofs.Outcome

/-!
The checks of the elements that a collection is built from. They are checked in their order, a key
before its value, and the first one that does not fit decides the error.
-/

namespace Cql

/-- A value that a slot of the type can hold in a collection. -/
structure Storable (type : NativeType) (v : Value) : Prop where
  plain : v.collection? = none
  fits : v.fits type = true

/-- The error for a value that a slot of the type cannot hold. -/
inductive Refused (kind : CollectionKind) (type : NativeType) : Value → Error → Prop
  | nested (inner : Collection Value) :
    Refused kind type (.collection inner) (.nestedCollection inner.kind kind)
  | misfit {v : Value} (plain : v.collection? = none) (misfit : v.fits type = false) :
    Refused kind type v (.unstorable v.typeName kind type)

namespace Collection

/-- The elements with the types of their slots. An entry of a map has a slot for its key and one for
its value. -/
def items : Collection Value → List (List (NativeType × Value))
  | map key value entries => entries.map fun e => [(key, e.1), (value, e.2)]
  | set element values | list element values => values.map fun v => [(element, v)]

def slots (c : Collection Value) : List (NativeType × Value) :=
  c.items.flatten

/-- Builds the collection of the same kind and types from the elements. -/
def build? : Collection Value → Except Error (Collection Value)
  | map key value entries => map? key value entries
  | set element values => set? element values
  | list element values => list? element values

/-- What is built if all elements fit. -/
def settled : Collection Value → Collection Value
  | map key value entries =>
    map key value (entries.foldl (fun kept e => putEntry e.1 e.2 kept) [])
  | set element values => set element (values.foldl addElement [])
  | list element values => list element values

def checkSlot (kind : CollectionKind) (slot : NativeType × Value) : Except Error Value :=
  checkElement kind slot.1 slot.2

section Checks

variable {kind : CollectionKind} {type : NativeType} {v w : Value} {e : Error}

theorem checkElement_of_plain (hv : v.collection? = none) :
    checkElement kind type v =
      if v.fits type then .ok v else .error (.unstorable v.typeName kind type) := by
  cases v with
  | collection inner => cases hv
  | _ => rfl

theorem checkElement_eq_ok_iff : checkElement kind type v = .ok w ↔ Storable type v ∧ v = w := by
  cases hv : v.collection? with
  | none =>
    rw [checkElement_of_plain hv]
    split
    · rename_i hfits
      exact ⟨fun h => ⟨⟨hv, hfits⟩, Except.ok.inj h⟩, fun h => h.2 ▸ rfl⟩
    · rename_i hfits
      constructor
      · intro h
        cases h
      · rintro ⟨hv, _⟩
        exact absurd hv.fits hfits
  | some inner =>
    cases v <;> cases hv
    constructor
    · intro h
      cases h
    · rintro ⟨⟨hplain, _⟩, _⟩
      cases hplain

theorem checkElement_eq_error_iff :
    checkElement kind type v = .error e ↔ Refused kind type v e := by
  cases hv : v.collection? with
  | none =>
    rw [checkElement_of_plain hv]
    split
    · rename_i hfits
      constructor
      · intro h
        cases h
      · intro h
        cases h with
        | nested inner => cases hv
        | misfit _ hmisfit => rw [hfits] at hmisfit; cases hmisfit
    · rename_i hfits
      constructor
      · rintro ⟨⟩
        exact .misfit hv (by simpa using hfits)
      · intro h
        cases h with
        | nested inner => cases hv
        | misfit => rfl
  | some inner =>
    cases v <;> cases hv
    constructor
    · rintro ⟨⟩
      exact .nested inner
    · intro h
      cases h with
      | nested => rfl
      | misfit hplain => cases hplain

theorem kind_of_refused (h : Refused kind type v e) : e.kind = .validation := by
  cases h <;> rfl

/-- Checked elements are the elements. -/
theorem mapM_checkElement (kind : CollectionKind) (type : NativeType) (values : List Value) :
    values.mapM (checkElement kind type) =
      (values.mapM (checkElement kind type)) >>= fun _ => .ok values := by
  cases h : values.mapM (checkElement kind type) with
  | error e => rfl
  | ok results =>
    have hsame : ∀ (values results : List Value),
        List.Forall₂ (fun v w => checkElement kind type v = .ok w) values results →
          values = results := by
      intro values results h
      induction h with
      | nil => rfl
      | cons hv _ ih => rw [(checkElement_eq_ok_iff.mp hv).2, ih]
    rw [hsame values results (Outcome.mapM_eq_ok_iff.mp h)]
    rfl

theorem mapM_checkEntry (key value : NativeType) (entries : List (Value × Value)) :
    entries.mapM (checkEntry key value) =
      (entries.flatMap fun e => [(key, e.1), (value, e.2)]).mapM (checkSlot .map) >>=
        fun _ => .ok entries := by
  induction entries with
  | nil => rfl
  | cons entry entries ih =>
    obtain ⟨k, v⟩ := entry
    simp only [List.flatMap_cons, List.cons_append, List.nil_append, List.mapM_cons, checkSlot,
      checkEntry, bind_assoc, ih]
    cases hk : checkElement .map key k with
    | error e => rfl
    | ok k' =>
      cases hv : checkElement .map value v with
      | error e => rfl
      | ok v' =>
        obtain ⟨_, rfl⟩ := checkElement_eq_ok_iff.mp hk
        obtain ⟨_, rfl⟩ := checkElement_eq_ok_iff.mp hv
        cases (entries.flatMap fun e => [(key, e.1), (value, e.2)]).mapM (checkSlot .map) <;> rfl

end Checks

/-- The check of all elements in their order decides whether the collection is built. -/
theorem build?_eq (c : Collection Value) :
    c.build? = c.slots.mapM (checkSlot c.kind) >>= fun _ => .ok c.settled := by
  have hslots : ∀ (kind : CollectionKind) (type : NativeType) (values : List Value),
      (values.map fun v => [(type, v)]).flatten.mapM (checkSlot kind) =
        values.mapM (checkElement kind type) := by
    intro kind type values
    rw [← List.flatMap_def, ← List.map_eq_flatMap, List.mapM_map]
    rfl
  cases c with
  | set element values =>
    simp only [build?, set?, slots, items, Collection.kind, hslots, settled]
    rw [mapM_checkElement]
    cases values.mapM (checkElement .set element) <;> rfl
  | list element values =>
    simp only [build?, list?, slots, items, Collection.kind, hslots, settled]
    rw [mapM_checkElement]
    cases values.mapM (checkElement .list element) <;> rfl
  | map key value entries =>
    simp only [build?, map?, slots, items, Collection.kind, ← List.flatMap_def, settled]
    rw [mapM_checkEntry]
    cases (entries.flatMap fun e => [(key, e.1), (value, e.2)]).mapM (checkSlot .map) <;> rfl

/-- Elements that fit may be left out of the checks. -/
theorem mapM_checkSlot_append {α : Type} {kind : CollectionKind}
    {before : List (NativeType × Value)} (h : ∀ slot ∈ before, Storable slot.1 slot.2)
    (after : List (NativeType × Value)) (outcome : Except Error α) :
    ((before ++ after).mapM (checkSlot kind) >>= fun _ => outcome) =
      after.mapM (checkSlot kind) >>= fun _ => outcome := by
  have hbefore : ∃ results, before.mapM (checkSlot kind) = .ok results := by
    simp only [Outcome.mapM_eq_ok_iff, Outcome.exists_forall₂_iff, checkSlot,
      checkElement_eq_ok_iff, exists_and_left, exists_eq', and_true]
    exact h
  obtain ⟨results, hresults⟩ := hbefore
  rw [List.mapM_append, hresults]
  cases after.mapM (checkSlot kind) <;> rfl

theorem build?_congr {c d : Collection Value} {before before' after : List (NativeType × Value)}
    (hsettled : c.settled = d.settled) (hkind : c.kind = d.kind) (hc : c.slots = before ++ after)
    (hd : d.slots = before' ++ after) (hbefore : ∀ slot ∈ before, Storable slot.1 slot.2)
    (hbefore' : ∀ slot ∈ before', Storable slot.1 slot.2) : c.build? = d.build? := by
  rw [build?_eq, build?_eq, hkind, hsettled, hc, hd, mapM_checkSlot_append hbefore,
    mapM_checkSlot_append hbefore']

variable {c : Collection Value}

theorem build?_eq_ok_iff {built : Collection Value} :
    c.build? = .ok built ↔ (∀ slot ∈ c.slots, Storable slot.1 slot.2) ∧ c.settled = built := by
  have hmapM : (∃ results, c.slots.mapM (checkSlot c.kind) = .ok results) ↔
      ∀ slot ∈ c.slots, Storable slot.1 slot.2 := by
    simp only [Outcome.mapM_eq_ok_iff, Outcome.exists_forall₂_iff, checkSlot,
      checkElement_eq_ok_iff, exists_and_left, exists_eq', and_true]
  rw [build?_eq, Outcome.bind_eq_ok_iff, ← hmapM, Except.ok.injEq, exists_and_right]

/-- The first element that does not fit decides the error. -/
theorem build?_eq_error_iff {e : Error} :
    c.build? = .error e ↔ ∃ before slot after, c.slots = before ++ slot :: after ∧
      (∀ other ∈ before, Storable other.1 other.2) ∧ Refused c.kind slot.1 slot.2 e := by
  rw [build?_eq, Outcome.bind_eq_error_iff, Outcome.mapM_eq_error_iff]
  simp only [checkSlot, checkElement_eq_error_iff, checkElement_eq_ok_iff, exists_and_left,
    exists_eq', and_true, reduceCtorEq, and_false, exists_false, or_false]

end Collection

end Cql
