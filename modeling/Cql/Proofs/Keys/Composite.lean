import Cql.Proofs.Fields
import Cql.Proofs.Keys.Condition

/-!
Composite keys. A list of entries supplies a component with the value of the first entry of its name,
unless that is null. What is supplied decides everything: whether the key value is accepted, which
error it is refused with, and which predicates it stands for, in the order of the key and not of the
entries.
-/

namespace Cql

/-- The first entry of a name has the value. -/
def FirstEntry (entries : List (String × Value)) (name : String) (v : Value) : Prop :=
  ∃ before after, entries = before ++ (name, v) :: after ∧ ∀ e ∈ before, e.1 ≠ name

/-- The components that entries supply with a value, in the order of the components. -/
inductive Supplied (entries : List (String × Value)) :
    List KeyColumn → List (KeyColumn × Value) → Prop
  | nil : Supplied entries [] []
  | given {component : KeyColumn} {components : List KeyColumn} {v : Value}
      {items : List (KeyColumn × Value)} (hfirst : FirstEntry entries component.name v)
      (hv : v.isNull = false) (hrest : Supplied entries components items) :
    Supplied entries (component :: components) ((component, v) :: items)
  | missing {component : KeyColumn} {components : List KeyColumn}
      {items : List (KeyColumn × Value)}
      (hnull : ∀ v, FirstEntry entries component.name v → v.isNull = true)
      (hrest : Supplied entries components items) :
    Supplied entries (component :: components) items

section Entries

variable {entries entries' : List (String × Value)} {name : String} {v : Value}

theorem lookup_eq_some_iff_firstEntry : entries.lookup name = some v ↔ FirstEntry entries name v := by
  rw [List.lookup_eq_some_iff]
  simp only [FirstEntry, bne_iff_ne, ne_comm]

/-- Entries of other names do not count. -/
theorem lookup_filter {names : List String} (h : name ∈ names) (entries : List (String × Value)) :
    (entries.filter fun e => e.1 ∈ names).lookup name = entries.lookup name := by
  rw [lookup_filter_fst (fun name => name ∈ names), if_pos (decide_eq_true h)]

/-- What entries supply is determined by them. -/
theorem Supplied.eq {components : List KeyColumn} {items others : List (KeyColumn × Value)}
    (h : Supplied entries components items) (hothers : Supplied entries components others) :
    items = others := by
  induction h generalizing others with
  | nil =>
    cases hothers
    rfl
  | given hfirst hv _ ih =>
    cases hothers with
    | given hfirst' _ hrest' =>
      rw [← lookup_eq_some_iff_firstEntry] at hfirst hfirst'
      rw [hfirst] at hfirst'
      rw [ih hrest', Option.some.inj hfirst']
    | missing hnull _ =>
      rw [hnull _ hfirst] at hv
      cases hv
  | missing hnull _ ih =>
    cases hothers with
    | given hfirst hv _ =>
      rw [hnull _ hfirst] at hv
      cases hv
    | missing _ hrest' => exact ih hrest'

end Entries

namespace PrimaryKey

variable {components : List KeyColumn} {entries entries' : List (String × Value)}

theorem supplied_resolve (components : List KeyColumn) (entries : List (String × Value)) :
    Supplied entries components (resolve components (.composite entries)) := by
  induction components with
  | nil => exact .nil
  | cons component components ih =>
    have hfind : (KeyValue.composite entries).find? component.name =
        entries.lookup component.name := rfl
    cases hlookup : entries.lookup component.name with
    | none =>
      unfold resolve
      rw [List.filterMap_cons_none (by rw [hfind, hlookup])]
      refine .missing ?_ ih
      intro v hfirst
      rw [← lookup_eq_some_iff_firstEntry, hlookup] at hfirst
      cases hfirst
    | some v =>
      cases hv : v.isNull with
      | true =>
        unfold resolve
        rw [List.filterMap_cons_none (by simp [hfind, hlookup, hv])]
        refine .missing ?_ ih
        intro w hfirst
        rw [← lookup_eq_some_iff_firstEntry, hlookup] at hfirst
        rw [← Option.some.inj hfirst]
        exact hv
      | false =>
        unfold resolve
        rw [List.filterMap_cons_some (b := (component, v)) (by simp [hfind, hlookup, hv])]
        exact .given (lookup_eq_some_iff_firstEntry.mp hlookup) hv ih

theorem given_of_lookup
    (h : ∀ name ∈ components.map KeyColumn.name, entries'.lookup name = entries.lookup name) :
    (composite components).given (.composite entries') =
      (composite components).given (.composite entries) := by
  have hresolve : resolve components (.composite entries') =
      resolve components (.composite entries) := by
    apply List.filterMap_congr
    intro component hcomponent
    have hname := h component.name (List.mem_map.mpr ⟨component, hcomponent, rfl⟩)
    simp only [KeyValue.find?, hname]
  simp only [given, hresolve]

end PrimaryKey

namespace Model

/-- Only the first entries of the components count. -/
theorem restrict_of_lookup (q : Query) {components : List KeyColumn}
    {entries entries' : List (String × Value)}
    (h : ∀ name ∈ components.map KeyColumn.name, entries'.lookup name = entries.lookup name) :
    restrict ⟨q, .composite components⟩ (.composite entries') =
      restrict ⟨q, .composite components⟩ (.composite entries) := by
  rw [restrict_eq, restrict_eq]
  dsimp only
  rw [PrimaryKey.given_of_lookup h]

/-- A key value for a composite key is what its entries supply. It is accepted if that is anything at
all and each component accepts its value, and then adds one predicate for each in the order of the
key. Otherwise the first refusal is the error. The order of entries with distinct names does not
matter, nor do entries that name no component. -/
theorem restrict_composite (q : Query) (components : List KeyColumn)
    (entries : List (String × Value)) :
    ∃ items, Supplied entries components items ∧
      (∀ others, Supplied entries components others → others = items) ∧
      ((∃ later, restrict ⟨q, .composite components⟩ (.composite entries) = .ok later) ↔
        items ≠ [] ∧ ∀ item ∈ items, item.1.Accepts item.2) ∧
      (∀ later, restrict ⟨q, .composite components⟩ (.composite entries) = .ok later →
        ∃ ps, List.Forall₂ (fun (item : KeyColumn × Value) p => ∃ w, item.1.cast item.2 = .ok w ∧
            p = ⟨item.1.name, .eq, w⟩) items ps ∧
          later = ⟨q.addPredicates ps, .composite components⟩) ∧
      (∀ e, restrict ⟨q, .composite components⟩ (.composite entries) = .error e ↔
        (items = [] ∧ e = .keyNotGiven) ∨
          ∃ before item after, items = before ++ item :: after ∧
            (∀ other ∈ before, other.1.Accepts other.2) ∧ item.1.Refuses item.2 e) ∧
      (Error.keyNotGiven.kind = .configuration ∧
        Error.keyNotGiven.text = "No primary key was specified") ∧
      (∀ entries', entries'.Perm entries → (entries.map Prod.fst).Nodup →
        restrict ⟨q, .composite components⟩ (.composite entries') =
          restrict ⟨q, .composite components⟩ (.composite entries)) ∧
      ∀ entries', (entries'.filter fun e => e.1 ∈ components.map KeyColumn.name) =
          (entries.filter fun e => e.1 ∈ components.map KeyColumn.name) →
        restrict ⟨q, .composite components⟩ (.composite entries') =
          restrict ⟨q, .composite components⟩ (.composite entries) := by
  have hsupplied := PrimaryKey.supplied_resolve components entries
  refine ⟨_, hsupplied, fun others hothers => hothers.eq hsupplied, ?_, ?_, ?_, ⟨rfl, rfl⟩, ?_, ?_⟩
  · rw [restrict_accepted_iff]
    simp only [PrimaryKey.given_eq_ok_iff]
    constructor
    · rintro ⟨_, ⟨hne, rfl⟩, haccepts⟩
      exact ⟨hne, haccepts⟩
    · rintro ⟨hne, haccepts⟩
      exact ⟨_, ⟨hne, rfl⟩, haccepts⟩
  · intro later hlater
    obtain ⟨items, ps, hgiven, hps, rfl⟩ := restrict_eq_ok_iff.mp hlater
    obtain ⟨_, rfl⟩ := PrimaryKey.given_eq_ok_iff.mp hgiven
    refine ⟨ps, hps.imp ?_, rfl⟩
    intro item p hp
    obtain ⟨w, hcast, _, hvalue⟩ := KeyColumn.condition_eq_ok_iff.mp hp
    exact ⟨w, hcast, hvalue⟩
  · intro e
    rw [restrict_eq_error_iff]
    simp only [PrimaryKey.given_eq_error_iff, PrimaryKey.given_eq_ok_iff, ne_eq,
      List.append_eq_nil_iff, reduceCtorEq, and_false, not_false_eq_true, true_and]
  · intro entries' hperm hnodup
    have hnodup' : (entries'.map Prod.fst).Nodup := (hperm.map Prod.fst).symm.nodup hnodup
    apply restrict_of_lookup
    intro name _
    exact lookup_of_perm hperm hnodup' name
  · intro entries' hfilter
    apply restrict_of_lookup
    intro name hname
    rw [← lookup_filter hname entries', hfilter, lookup_filter hname entries]

/-- The predicates come in the order of the key, and of two entries for a column the first counts. -/
theorem restrict_composite_of_accounts :
    ∃ (q : Query) (key : PrimaryKey), q.table = some "accounts" ∧
      key = .composite [⟨"tenant", none⟩, ⟨"id", some .int⟩] ∧
      restrict ⟨q, key⟩ (.composite
        [("id", .smallInt 7), ("region", .text "eu"), ("tenant", .text "x"), ("id", .null)]) =
        .ok ⟨q.addPredicates [⟨"tenant", .eq, .text "x"⟩, ⟨"id", .eq, .int 7⟩], key⟩ := by
  let q : Query := { table := some "accounts" }
  have htenant : Name.checkIdentifier "tenant" = .ok () :=
    Name.checkIdentifier_eq_ok_iff.mpr (by decide)
  have hid : Name.checkIdentifier "id" = .ok () := Name.checkIdentifier_eq_ok_iff.mpr (by decide)
  have hsupplied : Supplied
      [("id", .smallInt 7), ("region", .text "eu"), ("tenant", .text "x"), ("id", .null)]
      [⟨"tenant", none⟩, ⟨"id", some .int⟩]
      [(⟨"tenant", none⟩, .text "x"), (⟨"id", some .int⟩, .smallInt 7)] := by
    refine .given ⟨[("id", .smallInt 7), ("region", .text "eu")], _, rfl, by simp⟩ rfl ?_
    exact .given ⟨[], _, rfl, by simp⟩ rfl .nil
  obtain ⟨items, _, hunique, haccepted, hresult, _⟩ := restrict_composite q
    [⟨"tenant", none⟩, ⟨"id", some .int⟩]
    [("id", .smallInt 7), ("region", .text "eu"), ("tenant", .text "x"), ("id", .null)]
  obtain rfl := hunique _ hsupplied
  have haccepts : KeyColumn.Accepts ⟨"tenant", none⟩ (.text "x") ∧
      KeyColumn.Accepts ⟨"id", some .int⟩ (.smallInt 7) :=
    ⟨⟨⟨_, rfl⟩, htenant⟩, ⟨⟨_, rfl⟩, hid⟩⟩
  obtain ⟨later, hlater⟩ := haccepted.mpr ⟨by simp, by simpa using haccepts⟩
  obtain ⟨ps, hps, rfl⟩ := hresult later hlater
  obtain ⟨_, _, ⟨w, hw, rfl⟩, hrest, rfl⟩ := List.forall₂_cons_left_iff.mp hps
  obtain ⟨_, _, ⟨n, hn, rfl⟩, hnil, rfl⟩ := List.forall₂_cons_left_iff.mp hrest
  obtain rfl := List.forall₂_nil_left_iff.mp hnil
  obtain rfl := Except.ok.inj hw
  obtain rfl := Except.ok.inj hn
  exact ⟨q, _, rfl, rfl, hlater⟩

end Model

end Cql
