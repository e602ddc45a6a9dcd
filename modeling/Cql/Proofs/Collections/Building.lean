import Mathlib.Data.List.Induction
import Cql.Proofs.Collections.Checking
import Cql.Proofs.Values.Equality

/-!
What becomes of the elements that a collection is built from. A list keeps every one of them, a set
those that are equal to no earlier one that it keeps, and a map one entry for each of its keys, with
the last value of that key. The main statement says which elements these are by their positions.
-/

namespace Cql

/-- The positions of the elements that are equal to no earlier one of these. -/
structure Kept (xs : List Value) (positions : List Nat) : Prop where
  ascending : positions.Pairwise (· < ·)
  mem_iff : ∀ i, i ∈ positions ↔ ∃ v, xs[i]? = some v ∧
    ∀ j ∈ positions, j < i → ∀ w, xs[j]? = some w → (w == v) = false

namespace Kept

variable {xs : List Value} {x : Value} {positions : List Nat} {i : Nat}

theorem nil : Kept [] [] :=
  ⟨.nil, by simp⟩

theorem lt_length (h : Kept xs positions) (hi : i ∈ positions) : i < xs.length := by
  obtain ⟨v, hv, _⟩ := (h.mem_iff i).mp hi
  exact (List.getElem?_eq_some_iff.mp hv).1

/-- Among the positions below the new element nothing changes. -/
theorem mem_iff_append (h : Kept xs positions) (hi : i ≠ xs.length) :
    i ∈ positions ↔ ∃ v, (xs ++ [x])[i]? = some v ∧
      ∀ j ∈ positions, j < i → ∀ w, (xs ++ [x])[j]? = some w → (w == v) = false := by
  by_cases hlt : i < xs.length
  · rw [h.mem_iff, List.getElem?_append_left hlt]
    refine exists_congr fun v => and_congr_right fun _ => forall₃_congr fun j _ hji => ?_
    rw [List.getElem?_append_left (by omega)]
  · have hnone : (xs ++ [x])[i]? = none := by
      rw [List.getElem?_eq_none_iff, List.length_append, List.length_singleton]
      omega
    simp only [hnone, reduceCtorEq, false_and, exists_false, iff_false]
    exact fun hi => hlt (h.lt_length hi)

/-- An element that is equal to an earlier one is dropped. -/
theorem drop (h : Kept xs positions)
    (hx : ∃ j ∈ positions, ∃ w, xs[j]? = some w ∧ (w == x) = true) :
    Kept (xs ++ [x]) positions := by
  refine ⟨h.ascending, fun i => ?_⟩
  by_cases hi : i = xs.length
  · subst hi
    obtain ⟨j, hj, w, hw, hwx⟩ := hx
    have hlt := h.lt_length hj
    constructor
    · intro hmem
      exact absurd (h.lt_length hmem) (Nat.lt_irrefl _)
    · rintro ⟨v, hv, hnone⟩
      have hvx : x = v := by simpa using hv
      subst hvx
      rw [hnone j hj hlt w (by rw [List.getElem?_append_left hlt]; exact hw)] at hwx
      cases hwx
  · exact h.mem_iff_append hi

/-- An element that differs from the earlier ones is kept. -/
theorem keep (h : Kept xs positions)
    (hx : ∀ j ∈ positions, ∀ w, xs[j]? = some w → (w == x) = false) :
    Kept (xs ++ [x]) (positions ++ [xs.length]) := by
  refine ⟨?_, fun i => ?_⟩
  · rw [List.pairwise_append]
    exact ⟨h.ascending, List.pairwise_singleton _ _, by simpa using fun j hj => h.lt_length hj⟩
  · simp only [List.mem_append, List.mem_singleton, or_imp, forall_and, forall_eq]
    by_cases hi : i = xs.length
    · subst hi
      simp only [or_true, true_iff]
      refine ⟨x, by simp, fun j hj hlt w hw => ?_, fun hlt => absurd hlt (Nat.lt_irrefl _)⟩
      rw [List.getElem?_append_left hlt] at hw
      exact hx j hj w hw
    · simp only [hi, or_false]
      rw [h.mem_iff_append (x := x) hi]
      refine exists_congr fun v => and_congr_right fun hv => ?_
      have hlt : i < (xs ++ [x]).length := (List.getElem?_eq_some_iff.mp hv).1
      rw [List.length_append, List.length_singleton] at hlt
      have hnot : ¬ xs.length < i := by omega
      simp only [hnot, false_imp_iff, and_true]

/-- Kept elements differ from each other. -/
theorem pairwise (h : Kept xs positions) :
    positions.Pairwise fun i j => ∀ v w, xs[i]? = some v → xs[j]? = some w → (v == w) = false := by
  refine h.ascending.imp_of_mem fun {i j} hi hj hij v w hv hw => ?_
  obtain ⟨v', hv', hnone⟩ := (h.mem_iff j).mp hj
  obtain rfl := Option.some.inj (hw.symm.trans hv')
  exact hnone i hi hij v hv

end Kept

/-- The entry at the kept position `i` has the key found there and the value of the last entry of
that key. An undefined number as a key is no other one, so its own value stays. -/
def LatestOf (entries : List (Value × Value)) (i : Nat) (entry : Value × Value) : Prop :=
  ∃ first, entries[i]? = some first ∧ entry.1 = first.1 ∧
    ∃ j last, i ≤ j ∧ entries[j]? = some last ∧ entry.2 = last.2 ∧
      (j = i ∨ (first.1 == last.1) = true) ∧
      ∀ m later, j < m → entries[m]? = some later → (first.1 == later.1) = false

theorem getElem?_append_of_some {α : Type} {xs : List α} {i : Nat} {v : α} (h : xs[i]? = some v)
    (ys : List α) : (xs ++ ys)[i]? = some v := by
  rw [List.getElem?_append_left (List.getElem?_eq_some_iff.mp h).1]
  exact h

namespace LatestOf

variable {entries : List (Value × Value)} {k v : Value}

theorem getElem?_snoc_eq_none {m : Nat} (h : entries.length < m) (e : Value × Value) :
    (entries ++ [e])[m]? = none := by
  rw [List.getElem?_eq_none_iff, List.length_append, List.length_singleton]
  omega

/-- A later entry of another key changes nothing. -/
theorem pass {i : Nat} {e : Value × Value} (h : LatestOf entries i e)
    (he : (e.1 == k) = false) : LatestOf (entries ++ [(k, v)]) i e := by
  obtain ⟨first, hfirst, hkey, j, last, hij, hlast, hvalue, hsame, hlater⟩ := h
  refine ⟨first, getElem?_append_of_some hfirst _, hkey, j, last, hij,
    getElem?_append_of_some hlast _, hvalue, hsame, fun m later hjm hm => ?_⟩
  by_cases hlt : m < entries.length
  · rw [List.getElem?_append_left hlt] at hm
    exact hlater m later hjm hm
  · rw [List.getElem?_append_right (by omega), List.getElem?_singleton] at hm
    split at hm
    · cases hm
      exact hkey ▸ he
    · cases hm

theorem overwrite {i : Nat} {e : Value × Value} (h : LatestOf entries i e)
    (he : (e.1 == k) = true) : LatestOf (entries ++ [(k, v)]) i (e.1, v) := by
  obtain ⟨first, hfirst, hkey, _⟩ := h
  have hlt : i < entries.length := (List.getElem?_eq_some_iff.mp hfirst).1
  refine ⟨first, getElem?_append_of_some hfirst _, hkey, entries.length, (k, v), by omega, by simp,
    rfl, .inr (hkey ▸ he), fun m later hjm hm => ?_⟩
  rw [getElem?_snoc_eq_none hjm] at hm
  cases hm

theorem snoc : LatestOf (entries ++ [(k, v)]) entries.length (k, v) := by
  refine ⟨(k, v), by simp, rfl, entries.length, (k, v), Nat.le_refl _, by simp, rfl, .inl rfl,
    fun m later hjm hm => ?_⟩
  rw [getElem?_snoc_eq_none hjm] at hm
  cases hm

end LatestOf

/-- The elements found at positions. -/
abbrev FoundAt (xs : List Value) (positions : List Nat) (found : List Value) : Prop :=
  List.Forall₂ (fun i v => xs[i]? = some v) positions found

namespace FoundAt

variable {xs found : List Value} {positions : List Nat}

theorem append (h : FoundAt xs positions found) (ys : List Value) :
    FoundAt (xs ++ ys) positions found :=
  h.imp fun _ _ hv => getElem?_append_of_some hv ys

theorem snoc (h : FoundAt xs positions found) (x : Value) :
    FoundAt (xs ++ [x]) (positions ++ [xs.length]) (found ++ [x]) :=
  List.rel_append (h.append [x]) (.cons (by simp) .nil)

theorem exists_mem_iff (h : FoundAt xs positions found) (p : Value → Prop) :
    (∃ v ∈ found, p v) ↔ ∃ i ∈ positions, ∃ v, xs[i]? = some v ∧ p v := by
  induction h with
  | nil => simp
  | cons hv _ ih => simp [ih, hv]

theorem mem (h : FoundAt xs positions found) {v : Value} (hv : v ∈ found) : v ∈ xs := by
  obtain ⟨i, _, w, hw, rfl⟩ := (h.exists_mem_iff (· = v)).mp ⟨v, hv, rfl⟩
  exact List.mem_of_getElem? hw

/-- Elements found at kept positions differ from each other. -/
theorem pairwise (h : FoundAt xs positions found) (hkept : Kept xs positions) :
    found.Pairwise fun v w => (v == w) = false := by
  have hpairwise := hkept.pairwise
  clear hkept
  induction h with
  | nil => exact .nil
  | cons hv hrest ih =>
    obtain ⟨hfirst, hpairwise⟩ := List.pairwise_cons.mp hpairwise
    refine List.pairwise_cons.mpr ⟨fun w hw => ?_, ih hpairwise⟩
    obtain ⟨j, hj, w', hw', rfl⟩ := (exists_mem_iff hrest (· = w)).mp ⟨w, hw, rfl⟩
    exact hfirst j hj _ _ hv hw'

end FoundAt

theorem Value.beq_comm_of_plain {v : Value} (hv : v.collection? = none) (w : Value) :
    (v == w) = (w == v) :=
  Value.same_comm hv w

namespace Collection

open Value

/-- A set keeps the elements that are equal to no earlier one. -/
theorem kept_foldl_addElement {values : List Value} (hplain : ∀ v ∈ values, v.collection? = none) :
    ∃ positions, Kept values positions ∧
      FoundAt values positions (values.foldl addElement []) := by
  induction values using List.reverseRecOn with
  | nil => exact ⟨[], .nil, .nil⟩
  | append_singleton values v ih =>
    obtain ⟨positions, hkept, hfound⟩ := ih fun w hw => hplain w (by simp [hw])
    have hcontains : (values.foldl addElement []).contains v = true ↔
        ∃ j ∈ positions, ∃ w, values[j]? = some w ∧ (w == v) = true := by
      rw [← hfound.exists_mem_iff, List.contains_iff_exists_mem_beq]
      refine exists_congr fun w => and_congr_right fun _ => ?_
      rw [beq_comm_of_plain (hplain v (by simp))]
    rw [List.foldl_append, List.foldl_cons, List.foldl_nil, addElement]
    split
    · rename_i hdrop
      exact ⟨positions, hkept.drop (hcontains.mp hdrop), hfound.append [v]⟩
    · rename_i hkeep
      refine ⟨_, hkept.keep fun j hj w hw => ?_, hfound.snoc v⟩
      rw [hcontains] at hkeep
      push Not at hkeep
      simpa using hkeep j hj w hw

section Entries

variable {entries kept : List (Value × Value)} {positions : List Nat} {k v : Value}

theorem forall₂_pass (h : List.Forall₂ (LatestOf entries) positions kept)
    (hnew : ∀ e ∈ kept, (e.1 == k) = false) :
    List.Forall₂ (LatestOf (entries ++ [(k, v)])) positions kept := by
  induction h with
  | nil => exact .nil
  | cons he _ ih =>
    rw [List.forall_mem_cons] at hnew
    exact .cons (he.pass hnew.1) (ih hnew.2)

theorem putEntry_of_new (hnew : ∀ e ∈ kept, (e.1 == k) = false) :
    putEntry k v kept = kept ++ [(k, v)] := by
  induction kept with
  | nil => rfl
  | cons e kept ih =>
    rw [List.forall_mem_cons] at hnew
    rw [putEntry, if_neg (by simp [hnew.1]), ih hnew.2, List.cons_append]

/-- The value of a key that is there already is overwritten in its place, and since keys that are
equal to one key are equal, nothing else changes. -/
theorem forall₂_putEntry (h : List.Forall₂ (LatestOf entries) positions kept)
    (hplain : ∀ e ∈ kept, e.1.collection? = none)
    (hdiffer : kept.Pairwise fun e e' => (e.1 == e'.1) = false)
    (hold : ∃ e ∈ kept, (e.1 == k) = true) :
    List.Forall₂ (LatestOf (entries ++ [(k, v)])) positions (putEntry k v kept) := by
  induction h with
  | nil => simp at hold
  | @cons i e positions kept he hrest ih =>
    obtain ⟨hfirst, hdiffer⟩ := List.pairwise_cons.mp hdiffer
    rw [List.forall_mem_cons] at hplain
    rw [putEntry]
    split
    · rename_i hek
      refine .cons (he.overwrite hek) (forall₂_pass hrest fun e' he' => ?_)
      have hne := hfirst e' he'
      rw [Bool.eq_false_iff] at hne ⊢
      exact fun hek' => hne (same_trans hplain.1 hek (same_symm (hplain.2 e' he') hek'))
    · rename_i hek
      refine .cons (he.pass (by simpa using hek)) (ih hplain.2 hdiffer ?_)
      obtain ⟨e', he', hek'⟩ := hold
      rcases List.mem_cons.mp he' with rfl | he'
      · exact absurd hek' hek
      · exact ⟨e', he', hek'⟩

theorem foundAt_keys (h : List.Forall₂ (LatestOf entries) positions kept) :
    FoundAt (entries.map Prod.fst) positions (kept.map Prod.fst) := by
  refine List.forall₂_map_right_iff.mpr (h.imp fun i e he => ?_)
  obtain ⟨first, hfirst, hkey, _⟩ := he
  rw [List.getElem?_map, hfirst, Option.map_some, hkey]

/-- A map keeps one entry for each key, at the position of the first entry of the key. -/
theorem kept_foldl_putEntry (hplain : ∀ e ∈ entries, e.1.collection? = none) :
    ∃ positions, Kept (entries.map Prod.fst) positions ∧
      List.Forall₂ (LatestOf entries) positions
        (entries.foldl (fun kept e => putEntry e.1 e.2 kept) []) := by
  induction entries using List.reverseRecOn with
  | nil => exact ⟨[], .nil, .nil⟩
  | append_singleton entries entry ih =>
    obtain ⟨k, v⟩ := entry
    obtain ⟨positions, hkept, hlatest⟩ := ih fun e he => hplain e (by simp [he])
    rw [List.foldl_append, List.foldl_cons, List.foldl_nil, List.map_append]
    generalize entries.foldl (fun kept e => putEntry e.1 e.2 kept) [] = kept at hlatest ⊢
    have hfound := foundAt_keys hlatest
    have hkeys : (∃ e ∈ kept, (e.1 == k) = true) ↔
        ∃ j ∈ positions, ∃ w, (entries.map Prod.fst)[j]? = some w ∧ (w == k) = true := by
      rw [← hfound.exists_mem_iff]
      simp only [List.mem_map, exists_exists_and_eq_and]
    by_cases hold : ∃ e ∈ kept, (e.1 == k) = true
    · refine ⟨positions, hkept.drop (hkeys.mp hold), forall₂_putEntry hlatest ?_ ?_ hold⟩
      · intro e he
        obtain ⟨entry, hentry, hkey⟩ := List.mem_map.mp (hfound.mem (List.mem_map_of_mem he))
        rw [← hkey]
        exact hplain entry (by simp [hentry])
      · exact List.pairwise_map.mp (hfound.pairwise hkept)
    · push Not at hold
      have hnew : ∀ e ∈ kept, (e.1 == k) = false := fun e he => by simpa using hold e he
      rw [putEntry_of_new hnew]
      refine ⟨_, hkept.keep ?_, List.rel_append (forall₂_pass hlatest hnew) (.cons ?_ .nil)⟩
      · intro j hj w hw
        rw [Bool.eq_false_iff]
        intro hwk
        obtain ⟨e, he, hek⟩ := hkeys.mpr ⟨j, hj, w, hw, hwk⟩
        exact hold e he hek
      · rw [List.length_map]
        exact .snoc

end Entries

/-- Elements that differ from each other are all kept, behind those that are there. -/
theorem foldl_addElement_of_pairwise {kept values : List Value}
    (hplain : ∀ v ∈ values, v.collection? = none)
    (hdiffer : (kept ++ values).Pairwise fun v w => (v == w) = false) :
    values.foldl addElement kept = kept ++ values := by
  induction values generalizing kept with
  | nil => simp
  | cons v values ih =>
    rw [List.forall_mem_cons] at hplain
    have hnew : kept.contains v = false := by
      rw [Bool.eq_false_iff, Ne, List.contains_iff_exists_mem_beq]
      rintro ⟨w, hw, hvw⟩
      rw [beq_comm_of_plain hplain.1,
        (List.pairwise_append.mp hdiffer).2.2 w hw v (by simp)] at hvw
      cases hvw
    rw [List.foldl_cons, addElement, hnew, if_neg (by simp), ih hplain.2 (by simpa using hdiffer),
      List.append_assoc, List.singleton_append]

theorem foldl_putEntry_of_pairwise {kept entries : List (Value × Value)}
    (hdiffer : (kept ++ entries).Pairwise fun e e' => (e.1 == e'.1) = false) :
    entries.foldl (fun kept e => putEntry e.1 e.2 kept) kept = kept ++ entries := by
  induction entries generalizing kept with
  | nil => simp
  | cons e entries ih =>
    have hnew : ∀ e' ∈ kept, (e'.1 == e.1) = false := fun e' he' =>
      (List.pairwise_append.mp hdiffer).2.2 e' he' e (by simp)
    rw [List.foldl_cons, putEntry_of_new hnew, ih (by simpa using hdiffer), List.append_assoc,
      List.singleton_append]

end Collection

/-- No two of the values are equal. -/
def Differing (values : List Value) : Prop :=
  ∀ (i j : Nat) (v w : Value), i ≠ j → values[i]? = some v → values[j]? = some w → (v == w) = false

theorem differing_of_pairwise {values : List Value} (hplain : ∀ v ∈ values, v.collection? = none)
    (h : values.Pairwise fun v w => (v == w) = false) : Differing values := by
  have hlt : ∀ (i j : Nat) (v w : Value), i < j → values[i]? = some v → values[j]? = some w →
      (v == w) = false := by
    intro i j v w hij hv hw
    obtain ⟨hi, rfl⟩ := List.getElem?_eq_some_iff.mp hv
    obtain ⟨hj, rfl⟩ := List.getElem?_eq_some_iff.mp hw
    exact List.pairwise_iff_getElem.mp h i j hi hj hij
  intro i j v w hij hv hw
  rcases Nat.lt_or_gt_of_ne hij with hij | hij
  · exact hlt i j v w hij hv hw
  · rw [Value.beq_comm_of_plain (hplain v (List.mem_of_getElem? hv))]
    exact hlt j i w v hij hw hv

theorem pairwise_of_differing {values : List Value} (h : Differing values) :
    values.Pairwise fun v w => (v == w) = false := by
  rw [List.pairwise_iff_getElem]
  intro i j hi hj hij
  exact h i j _ _ (Nat.ne_of_lt hij) (List.getElem?_eq_getElem hi) (List.getElem?_eq_getElem hj)

/-- What a built collection has of the elements that it is built from. -/
inductive Settles : Collection Value → Collection Value → Prop
  | list (element : NativeType) (values : List Value) :
    Settles (.list element values) (.list element values)
  | set (element : NativeType) {values kept : List Value} {positions : List Nat}
    (hkept : Kept values positions) (hfound : FoundAt values positions kept)
    (hdiffering : Differing kept) :
    Settles (.set element values) (.set element kept)
  | map (key value : NativeType) {entries kept : List (Value × Value)} {positions : List Nat}
    (hkept : Kept (entries.map Prod.fst) positions)
    (hlatest : List.Forall₂ (LatestOf entries) positions kept)
    (hdiffering : Differing (kept.map Prod.fst)) :
    Settles (.map key value entries) (.map key value kept)

namespace Collection

theorem mem_slots_values {element : NativeType} {values : List Value} {slot : NativeType × Value} :
    slot ∈ (set element values).slots ↔ ∃ v ∈ values, (element, v) = slot := by
  simp [slots, items, eq_comm]

theorem mem_slots_entries {key value : NativeType} {entries : List (Value × Value)}
    {slot : NativeType × Value} :
    slot ∈ (map key value entries).slots ↔
      ∃ e ∈ entries, (key, e.1) = slot ∨ (value, e.2) = slot := by
  simp [slots, items, eq_comm]

theorem storable_entries_iff {key value : NativeType} {entries : List (Value × Value)} :
    (∀ slot ∈ (map key value entries).slots, Storable slot.1 slot.2) ↔
      ∀ e ∈ entries, Storable key e.1 ∧ Storable value e.2 := by
  constructor
  · intro h e he
    exact ⟨h (key, e.1) (mem_slots_entries.mpr ⟨e, he, .inl rfl⟩),
      h (value, e.2) (mem_slots_entries.mpr ⟨e, he, .inr rfl⟩)⟩
  · intro h slot hslot
    obtain ⟨e, he, rfl | rfl⟩ := mem_slots_entries.mp hslot
    · exact (h e he).1
    · exact (h e he).2

theorem settles_settled {c : Collection Value}
    (hplain : ∀ slot ∈ c.slots, slot.2.collection? = none) : Settles c c.settled := by
  cases c with
  | list element values => exact .list element values
  | set element values =>
    have hvalues : ∀ v ∈ values, v.collection? = none := fun v hv =>
      hplain _ (mem_slots_values.mpr ⟨v, hv, rfl⟩)
    obtain ⟨positions, hkept, hfound⟩ := kept_foldl_addElement hvalues
    exact .set element hkept hfound
      (differing_of_pairwise (fun v hv => hvalues v (hfound.mem hv)) (hfound.pairwise hkept))
  | map key value entries =>
    have hkeys : ∀ e ∈ entries, e.1.collection? = none := fun e he =>
      hplain _ (mem_slots_entries.mpr ⟨e, he, .inl rfl⟩)
    obtain ⟨positions, hkept, hlatest⟩ := kept_foldl_putEntry hkeys
    have hfound := foundAt_keys hlatest
    refine .map key value hkept hlatest (differing_of_pairwise ?_ (hfound.pairwise hkept))
    intro k hk
    obtain ⟨e, he, rfl⟩ := List.mem_map.mp (hfound.mem hk)
    exact hkeys e he

/-- What a built collection has comes from the elements that it is built from. -/
theorem mem_slots_of_settles {c built : Collection Value} (h : Settles c built)
    {slot : NativeType × Value} (hslot : slot ∈ built.slots) : slot ∈ c.slots := by
  cases h with
  | list => exact hslot
  | set element hkept hfound =>
    obtain ⟨v, hv, rfl⟩ := mem_slots_values.mp hslot
    exact mem_slots_values.mpr ⟨v, hfound.mem hv, rfl⟩
  | map key value hkept hlatest =>
    obtain ⟨e, he, heq⟩ := mem_slots_entries.mp hslot
    obtain ⟨i, hi⟩ := Outcome.exists_forall₂_iff.mp
      ⟨_, List.Forall₂.flip (R := flip (LatestOf _)) hlatest⟩ e he
    obtain ⟨first, hfirst, hkey, j, last, _, hlast, hvalue, _⟩ := hi
    rw [mem_slots_entries]
    rcases heq with rfl | rfl
    · exact ⟨first, List.mem_of_getElem? hfirst, .inl (by rw [hkey])⟩
    · exact ⟨last, List.mem_of_getElem? hlast, .inr (by rw [hvalue])⟩

/-- A built collection has elements that fit their slots. -/
theorem storable_of_build? {c built : Collection Value} (h : c.build? = .ok built) :
    Settles c built ∧ ∀ slot ∈ built.slots, Storable slot.1 slot.2 := by
  obtain ⟨hstorable, rfl⟩ := build?_eq_ok_iff.mp h
  have hsettles := settles_settled fun slot hslot => (hstorable slot hslot).plain
  exact ⟨hsettles, fun slot hslot => hstorable slot (mem_slots_of_settles hsettles hslot)⟩

theorem isNull_of_storable {type : NativeType} {v : Value} (h : Storable type v) :
    v.isNull = false := by
  cases v with
  | null => exact absurd h.fits (by cases type <;> decide)
  | _ => rfl

theorem set?_append {element : NativeType} {xs kept : List Value}
    (h : set? element xs = .ok (set element kept)) (ys : List Value) :
    set? element (xs ++ ys) = set? element (kept ++ ys) := by
  have hbuild : (set element xs).build? = .ok (set element kept) := h
  obtain ⟨hstorable, hkept⟩ := build?_eq_ok_iff.mp hbuild
  obtain ⟨hsettles, hstorable'⟩ := storable_of_build? hbuild
  have hfold : xs.foldl addElement [] = kept := by
    simpa [settled] using hkept
  have hagain : kept.foldl addElement [] = kept := by
    cases hsettles with
    | set _ _ _ hdiffering =>
      refine foldl_addElement_of_pairwise (fun v hv => ?_) (pairwise_of_differing hdiffering)
      exact (hstorable' _ (mem_slots_values.mpr ⟨v, hv, rfl⟩)).plain
  have hslots : ∀ values : List Value, (set element (values ++ ys)).slots =
      (set element values).slots ++ (set element ys).slots := by
    intro values
    simp [slots, items]
  have hsettled : (set element (xs ++ ys)).settled = (set element (kept ++ ys)).settled := by
    rw [settled, settled, List.foldl_append, List.foldl_append, hfold, hagain]
  exact build?_congr hsettled rfl (hslots xs) (hslots kept) hstorable hstorable'

theorem map?_append {key value : NativeType} {xs kept : List (Value × Value)}
    (h : map? key value xs = .ok (map key value kept)) (ys : List (Value × Value)) :
    map? key value (xs ++ ys) = map? key value (kept ++ ys) := by
  have hbuild : (map key value xs).build? = .ok (map key value kept) := h
  obtain ⟨hstorable, hkept⟩ := build?_eq_ok_iff.mp hbuild
  obtain ⟨hsettles, hstorable'⟩ := storable_of_build? hbuild
  have hfold : xs.foldl (fun kept e => putEntry e.1 e.2 kept) [] = kept := by
    simpa [settled] using hkept
  have hagain : kept.foldl (fun kept e => putEntry e.1 e.2 kept) [] = kept := by
    cases hsettles with
    | map _ _ _ _ hdiffering =>
      exact foldl_putEntry_of_pairwise (List.pairwise_map.mp (pairwise_of_differing hdiffering))
  have hslots : ∀ entries : List (Value × Value), (map key value (entries ++ ys)).slots =
      (map key value entries).slots ++ (map key value ys).slots := by
    intro entries
    simp [slots, items]
  have hsettled : (map key value (xs ++ ys)).settled = (map key value (kept ++ ys)).settled := by
    rw [settled, settled, List.foldl_append, List.foldl_append, hfold, hagain]
  exact build?_congr hsettled rfl (hslots xs) (hslots kept) hstorable hstorable'

/-- A collection is built if each of its elements fits its slot, and the first one that does not
decides the error. A list is what it is built from, a set has the elements that are equal to no
earlier one that it has, and a map has an entry for each such key, with the value of the last entry
of that key. So to build a set or a map in two steps makes no difference. -/
theorem build?_settles (c : Collection Value) :
    ((∃ built, c.build? = .ok built) ↔ ∀ slot ∈ c.slots, Storable slot.1 slot.2) ∧
    (∀ e, (c.build? = .error e ↔ ∃ before slot after, c.slots = before ++ slot :: after ∧
        (∀ other ∈ before, Storable other.1 other.2) ∧ Refused c.kind slot.1 slot.2 e) ∧
      (c.build? = .error e → e.kind = .validation)) ∧
    (∀ built, c.build? = .ok built → Settles c built ∧
      ∀ slot ∈ built.slots, slot.2.isNull = false ∧ slot.2.collection? = none) ∧
    (∀ element xs ys kept, set? element xs = .ok (.set element kept) →
      set? element (xs ++ ys) = set? element (kept ++ ys)) ∧
    ∀ key value xs ys kept, map? key value xs = .ok (.map key value kept) →
      map? key value (xs ++ ys) = map? key value (kept ++ ys) := by
  refine ⟨?_, fun e => ⟨build?_eq_error_iff, fun he => ?_⟩, fun built hbuilt => ?_, ?_, ?_⟩
  · simp only [build?_eq_ok_iff, exists_and_left, exists_eq', and_true]
  · obtain ⟨_, slot, _, _, _, hslot⟩ := build?_eq_error_iff.mp he
    exact kind_of_refused hslot
  · obtain ⟨hsettles, hstorable⟩ := storable_of_build? hbuilt
    exact ⟨hsettles, fun slot hslot =>
      ⟨isNull_of_storable (hstorable slot hslot), (hstorable slot hslot).plain⟩⟩
  · exact fun element xs ys kept hkept => set?_append hkept ys
  · exact fun key value xs ys kept hkept => map?_append hkept ys

/-- The key that comes twice has its first position and its last value. -/
theorem build?_settles_repeated_key :
    ∃ built, (map .text .int
        [(.text "a", .int 1), (.text "b", .int 2), (.text "a", .int 3)]).build? = .ok built ∧
      built = map .text .int [(.text "a", .int 3), (.text "b", .int 2)] ∧
      Settles (map .text .int [(.text "a", .int 1), (.text "b", .int 2), (.text "a", .int 3)])
        built := by
  have hsame : ∀ s t : String, (Value.text s == Value.text t) = (s == t) := by
    intro s t
    rw [Value.beq_eq_same, Value.same]
  obtain ⟨hok, _, hsettles, _⟩ := build?_settles (map .text .int
    [(.text "a", .int 1), (.text "b", .int 2), (.text "a", .int 3)])
  obtain ⟨built, hbuilt⟩ := hok.mpr (storable_entries_iff.mpr (by
    rw [List.forall_mem_cons, List.forall_mem_cons, List.forall_mem_singleton]
    exact ⟨⟨⟨rfl, rfl⟩, rfl, rfl⟩, ⟨⟨rfl, rfl⟩, rfl, rfl⟩, ⟨rfl, rfl⟩, rfl, rfl⟩))
  refine ⟨built, hbuilt, ?_, (hsettles built hbuilt).1⟩
  obtain ⟨_, rfl⟩ := build?_eq_ok_iff.mp hbuilt
  simp [settled, putEntry, hsame]

end Collection

end Cql
