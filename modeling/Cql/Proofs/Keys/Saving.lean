import Mathlib.Data.List.Dedup
import Cql.Proofs.Keys.Composite

/-!
Saves and look-ups by key. A save takes the value of each column of the key from two rows. Where they
have all of them, the save is tied to the rows that a look-up by these values finds; where one is
missing, the save is refused.
-/

namespace Cql

namespace PrimaryKey

variable {key : PrimaryKey} {loaded changed : Row} {entries : List (String × Value)}

/-- The entries are the values that two rows have for the columns of a key, in any order. -/
structure Merged (key : PrimaryKey) (loaded changed : Row) (entries : List (String × Value)) :
    Prop where
  nodup : (entries.map Prod.fst).Nodup
  mem_iff : ∀ name v, (name, v) ∈ entries ↔
    name ∈ key.names ∧ loaded.kept? changed name = some v

theorem Merged.lookup (h : key.Merged loaded changed entries) {name : String}
    (hname : name ∈ key.names) : entries.lookup name = loaded.kept? changed name := by
  apply Option.ext
  intro v
  rw [lookup_eq_some_iff_mem h.nodup, h.mem_iff]
  exact and_iff_right hname

theorem exists_merged (key : PrimaryKey) (loaded changed : Row) :
    ∃ entries, key.Merged loaded changed entries := by
  refine ⟨key.names.dedup.filterMap fun name =>
    (loaded.kept? changed name).map fun v => (name, v), ?_, ?_⟩
  · rw [List.map_filterMap]
    refine (List.nodup_dedup key.names).filterMap ?_
    intro name other column hname hother
    simp only [Option.map_map, Option.mem_def, Option.map_eq_some_iff] at hname hother
    obtain ⟨_, _, rfl⟩ := hname
    obtain ⟨_, _, hcolumn⟩ := hother
    exact hcolumn.symm
  · intro name v
    simp only [List.mem_filterMap, List.mem_dedup, Option.map_eq_some_iff, Prod.mk.injEq]
    constructor
    · rintro ⟨_, hname, _, hv, rfl, rfl⟩
      exact ⟨hname, hv⟩
    · rintro ⟨hname, hv⟩
      exact ⟨name, hname, v, hv, rfl, rfl⟩

/-- A column of a key with the value that two rows have for it. -/
def Keeps (loaded changed : Row) (component : KeyColumn) (item : KeyColumn × Value) : Prop :=
  item.1 = component ∧ loaded.kept? changed component.name = some item.2

/-- Entries that have all values of the rows supply every component with its value. -/
theorem keeps_of_supplied {components : List KeyColumn} {items : List (KeyColumn × Value)}
    (h : Supplied entries components items)
    (hall : ∀ component ∈ components, ∃ v, loaded.kept? changed component.name = some v ∧
      entries.lookup component.name = some v) :
    List.Forall₂ (Keeps loaded changed) components items := by
  induction h with
  | nil => exact .nil
  | given hfirst _ _ ih =>
    obtain ⟨⟨v, hv, hlookup⟩, hrest⟩ := List.forall_mem_cons.mp hall
    rw [lookup_eq_some_iff_firstEntry.mpr hfirst] at hlookup
    rw [← Option.some.inj hlookup] at hv
    exact .cons ⟨rfl, hv⟩ (ih hrest)
  | missing hnull _ _ =>
    obtain ⟨v, hv, hlookup⟩ := hall _ List.mem_cons_self
    have hnull := hnull v (lookup_eq_some_iff_firstEntry.mp hlookup)
    rw [Row.isNull_of_kept? hv] at hnull
    cases hnull

/-- Where the rows have all values of the key, a look-up by them is given every column. -/
theorem given_of_merged (hkey : key.validate = .ok ()) (hmerged : key.Merged loaded changed entries)
    (hall : ∀ name ∈ key.names, ∃ v, loaded.kept? changed name = some v) :
    ∃ items, key.given (.composite entries) = .ok items ∧
      List.Forall₂ (Keeps loaded changed) key.components items := by
  cases key with
  | single name =>
    have hname : name ∈ (single name).names := List.mem_singleton_self name
    obtain ⟨v, hv⟩ := hall name hname
    have hfind : (KeyValue.composite entries).find? name = some v :=
      (hmerged.lookup hname).trans hv
    refine ⟨[(⟨name, none⟩, v)], ?_, .cons ⟨rfl, hv⟩ .nil⟩
    unfold given
    dsimp only
    rw [hfind]
  | composite components =>
    have hsupplied := supplied_resolve components entries
    have hkeeps : List.Forall₂ (Keeps loaded changed) components
        (resolve components (.composite entries)) := by
      apply keeps_of_supplied hsupplied
      intro component hcomponent
      have hname : component.name ∈ (composite components).names :=
        List.mem_map.mpr ⟨component, hcomponent, rfl⟩
      obtain ⟨v, hv⟩ := hall component.name hname
      exact ⟨v, hv, (hmerged.lookup hname).trans hv⟩
    refine ⟨_, given_eq_ok_iff.mpr ⟨?_, rfl⟩, hkeeps⟩
    intro hnone
    rw [hnone] at hkeeps
    exact components_ne_nil hkey (List.forall₂_nil_right_iff.mp hkeeps)

theorem conditions_of_keeps {components : List KeyColumn} {items : List (KeyColumn × Value)}
    (h : List.Forall₂ (Keeps loaded changed) components items) :
    conditions items = components.mapM (keptCondition loaded changed) := by
  unfold conditions
  induction h with
  | nil => rfl
  | cons hitem _ ih =>
    obtain ⟨rfl, hv⟩ := hitem
    rw [List.mapM_cons, List.mapM_cons, ih, keptCondition, hv]

/-- A save from rows that have all values of the key is a look-up by these values. -/
theorem restrictSave_of_merged (hkey : key.validate = .ok ()) (q : Query)
    (hmerged : key.Merged loaded changed entries)
    (hall : ∀ name ∈ key.names, ∃ v, loaded.kept? changed name = some v) :
    key.restrictSave q loaded changed =
      (Model.ofQuery q key >>= fun m => m.restrict (.composite entries)).map Model.query := by
  obtain ⟨items, hgiven, hkeeps⟩ := given_of_merged hkey hmerged hall
  have hmodel : Model.ofQuery q key = .ok ⟨q, key⟩ := by
    rw [Model.ofQuery, hkey]
    rfl
  have hrestrict : Model.restrict ⟨q, key⟩ (.composite entries) =
      (conditions items).map fun ps => ⟨q.addPredicates ps, key⟩ := by
    rw [Model.restrict_eq]
    dsimp only
    rw [hgiven]
    rfl
  rw [restrictSave_eq hkey, ← conditions_of_keeps hkeeps, hmodel]
  change _ = (Model.restrict ⟨q, key⟩ (.composite entries)).map Model.query
  rw [hrestrict]
  cases conditions items <;> rfl

/-- The error of a save whose rows have values for the columns before a component and none for the
component: that the value is missing, unless a column before it refuses its value. -/
def MissingError (loaded changed : Row) (before : List KeyColumn) (component : KeyColumn)
    (e : Error) : Prop :=
  (e = .keyColumnMissing component.name ∧ ∀ other ∈ before, Settled loaded changed other) ∨
    ∃ earlier other later v, before = earlier ++ other :: later ∧
      (∀ first ∈ earlier, Settled loaded changed first) ∧
      loaded.kept? changed other.name = some v ∧ other.Refuses v e

/-- Where a value is missing there is a first column without one. -/
theorem exists_first_missing (hmissing : ∃ name ∈ key.names, loaded.kept? changed name = none) :
    ∃ before component after, key.components = before ++ component :: after ∧
      loaded.kept? changed component.name = none ∧
      ∀ other ∈ before, ∃ v, loaded.kept? changed other.name = some v := by
  have hfound : (key.components.find? fun component =>
      (loaded.kept? changed component.name).isNone).isSome = true := by
    rw [List.find?_isSome]
    obtain ⟨name, hname, hnone⟩ := hmissing
    obtain ⟨component, hcomponent, rfl⟩ := List.mem_map.mp hname
    exact ⟨component, hcomponent, by rw [hnone]; rfl⟩
  obtain ⟨component, hfind⟩ := Option.isSome_iff_exists.mp hfound
  obtain ⟨hnone, before, after, hsplit, hbefore⟩ := List.find?_eq_some_iff_append.mp hfind
  refine ⟨before, component, after, hsplit, Option.isNone_iff_eq_none.mp hnone, ?_⟩
  intro other hother
  have hsome := hbefore other hother
  rw [Bool.not_eq_true', Option.isNone_eq_false_iff] at hsome
  exact Option.isSome_iff_exists.mp hsome

theorem restrictSave_of_missing (hkey : key.validate = .ok ()) (q : Query)
    {before after : List KeyColumn} {component : KeyColumn}
    (hsplit : key.components = before ++ component :: after)
    (hnone : loaded.kept? changed component.name = none)
    (hkept : ∀ other ∈ before, ∃ v, loaded.kept? changed other.name = some v) :
    ∃ e, key.restrictSave q loaded changed = .error e ∧
      MissingError loaded changed before component e := by
  -- The columns before the missing one have values, but a value or a name may be refused.
  cases hconditions : before.mapM (keptCondition loaded changed) with
  | ok ps =>
    have hsettled : ∀ other ∈ before, Settled loaded changed other := by
      simp only [settled_iff, ← Outcome.exists_forall₂_iff]
      exact ⟨ps, Outcome.mapM_eq_ok_iff.mp hconditions⟩
    have hrefused : keptCondition loaded changed component =
        .error (.keyColumnMissing component.name) := by
      rw [keptCondition, hnone]
    exact ⟨_, (restrictSave_eq_error_iff hkey).mpr ⟨before, component, after, hsplit, hsettled,
      hrefused⟩, Or.inl ⟨rfl, hsettled⟩⟩
  | error e =>
    obtain ⟨earlier, other, later, rfl, haccepted, hrefused⟩ :=
      Outcome.mapM_eq_error_iff.mp hconditions
    have hsettled : ∀ first ∈ earlier, Settled loaded changed first :=
      fun first hfirst => settled_iff.mpr (haccepted first hfirst)
    obtain ⟨v, hv⟩ := hkept other (by simp)
    have hrefuses : other.Refuses v e := by
      rw [keptCondition, hv] at hrefused
      exact KeyColumn.refuses_iff.mpr hrefused
    rw [List.append_assoc, List.cons_append] at hsplit
    exact ⟨e, (restrictSave_eq_error_iff hkey).mpr ⟨earlier, other, _, hsplit, hsettled, hrefused⟩,
      Or.inr ⟨earlier, other, later, v, rfl, hsettled, hv, hrefuses⟩⟩

/-- A save is a look-up by the values that its rows have for the key. Where a value is missing it is
refused, so an accepted save is tied to its row by every column of the key. -/
theorem restrictSave_agrees (hkey : key.validate = .ok ()) (q : Query) (loaded changed : Row) :
    ((∀ name ∈ key.names, ∃ v, loaded.kept? changed name = some v) →
      (∃ entries, key.Merged loaded changed entries) ∧
      ∀ entries, key.Merged loaded changed entries →
        key.restrictSave q loaded changed =
          (Model.ofQuery q key >>= fun m => m.restrict (.composite entries)).map Model.query) ∧
    ((∃ name ∈ key.names, loaded.kept? changed name = none) →
      ∃ before component after e, key.components = before ++ component :: after ∧
        loaded.kept? changed component.name = none ∧
        (∀ other ∈ before, ∃ v, loaded.kept? changed other.name = some v) ∧
        key.restrictSave q loaded changed = .error e ∧
        MissingError loaded changed before component e) ∧
    (∀ name, (Error.keyColumnMissing name).kind = .configuration ∧
      (Error.keyColumnMissing name).text = "No value for primary key column '" ++ name ++ "'") ∧
    ∀ later, key.restrictSave q loaded changed = .ok later →
      ∃ ps, later = q.addPredicates ps ∧
        List.Forall₂ (fun (component : KeyColumn) p => ∃ v w,
          loaded.kept? changed component.name = some v ∧ component.cast v = .ok w ∧
            p = ⟨component.name, .eq, w⟩) key.components ps := by
  refine ⟨?_, ?_, fun _ => ⟨rfl, rfl⟩, ?_⟩
  · intro hall
    exact ⟨exists_merged key loaded changed,
      fun entries hmerged => restrictSave_of_merged hkey q hmerged hall⟩
  · intro hmissing
    obtain ⟨before, component, after, hsplit, hnone, hkept⟩ := exists_first_missing hmissing
    obtain ⟨e, he, herror⟩ := restrictSave_of_missing hkey q hsplit hnone hkept
    exact ⟨before, component, after, e, hsplit, hnone, hkept, he, herror⟩
  · intro later hlater
    obtain ⟨ps, hps, rfl⟩ := (restrictSave_eq_ok_iff hkey).mp hlater
    refine ⟨ps, rfl, hps.imp ?_⟩
    intro component p hp
    obtain ⟨v, hv, hcondition⟩ := keptCondition_eq_ok_iff.mp hp
    obtain ⟨w, hcast, _, hvalue⟩ := KeyColumn.condition_eq_ok_iff.mp hcondition
    exact ⟨v, w, hv, hcast, hvalue⟩

/-- The row as it was loaded goes before the row as it was changed since. -/
theorem restrictSave_agrees_on_accounts :
    ∃ (q : Query) (key : PrimaryKey) (loaded changed : Row),
      key = .composite [⟨"tenant", none⟩, ⟨"id", some .int⟩] ∧
      loaded = .ofCells [("tenant", .text "old")] ∧
      changed = .ofCells [("tenant", .text "new"), ("id", .smallInt 5)] ∧
      key.restrictSave q loaded changed =
        (Model.ofQuery q key >>= fun m =>
          m.restrict (.composite [("id", .smallInt 5), ("tenant", .text "old")])).map Model.query ∧
      key.restrictSave q loaded changed =
        .ok (q.addPredicates [⟨"tenant", .eq, .text "old"⟩, ⟨"id", .eq, .int 5⟩]) := by
  let key : PrimaryKey := .composite [⟨"tenant", none⟩, ⟨"id", some .int⟩]
  let loaded : Row := .ofCells [("tenant", .text "old")]
  let changed : Row := .ofCells [("tenant", .text "new"), ("id", .smallInt 5)]
  have hkey : key.validate = .ok () := rfl
  have htenant : loaded.kept? changed "tenant" = some (.text "old") := rfl
  have hid : loaded.kept? changed "id" = some (.smallInt 5) := rfl
  have hnames : key.names = ["tenant", "id"] := rfl
  have hall : ∀ name ∈ key.names, ∃ v, loaded.kept? changed name = some v := by
    rw [hnames]
    simp [htenant, hid]
  have hmerged : key.Merged loaded changed [("id", .smallInt 5), ("tenant", .text "old")] := by
    refine ⟨by simp, ?_⟩
    intro name v
    rw [hnames]
    constructor
    · simp only [List.mem_cons, List.not_mem_nil, or_false, Prod.mk.injEq]
      rintro (⟨rfl, rfl⟩ | ⟨rfl, rfl⟩)
      · exact ⟨by simp, hid⟩
      · exact ⟨by simp, htenant⟩
    · simp only [List.mem_cons, List.not_mem_nil, or_false, Prod.mk.injEq]
      rintro ⟨rfl | rfl, hv⟩
      · exact Or.inr ⟨rfl, (Option.some.inj (htenant.symm.trans hv)).symm⟩
      · exact Or.inl ⟨rfl, (Option.some.inj (hid.symm.trans hv)).symm⟩
  have htenantName : Name.checkIdentifier "tenant" = .ok () :=
    Name.checkIdentifier_eq_ok_iff.mpr (by decide)
  have hidName : Name.checkIdentifier "id" = .ok () :=
    Name.checkIdentifier_eq_ok_iff.mpr (by decide)
  have hconditions : List.Forall₂ (fun component p => keptCondition loaded changed component = .ok p)
      key.components [⟨"tenant", .eq, .text "old"⟩, ⟨"id", .eq, .int 5⟩] := by
    refine .cons (keptCondition_eq_ok_iff.mpr ⟨_, htenant, ?_⟩)
      (.cons (keptCondition_eq_ok_iff.mpr ⟨_, hid, ?_⟩) .nil)
    · exact KeyColumn.condition_eq_ok_iff.mpr ⟨.text "old", rfl, htenantName, rfl⟩
    · exact KeyColumn.condition_eq_ok_iff.mpr ⟨.int 5, rfl, hidName, rfl⟩
  let q : Query := { table := some "accounts" }
  obtain ⟨hagrees, _⟩ := restrictSave_agrees hkey q loaded changed
  obtain ⟨_, hlookup⟩ := hagrees hall
  exact ⟨q, key, loaded, changed, rfl, rfl, rfl, hlookup _ hmerged,
    (restrictSave_eq_ok_iff hkey).mpr ⟨_, hconditions, rfl⟩⟩

end PrimaryKey

end Cql
