import Mathlib.Data.List.Forall2
import Cql.Proofs.Outline.Select

/-!
Runs of calls that differ in the values they hand over and in nothing else. Such runs are refused at
the same call, with errors of one kind, and otherwise lead to queries that agree on everything but
their values.
-/

namespace Cql

namespace Outcome

variable {α β γ δ σ τ : Type}

/-- Both outcomes are accepted, with related results, or both are refused with errors of one
kind. -/
inductive Alike (R : α → β → Prop) : Except Error α → Except Error β → Prop
  | ok {a : α} {b : β} (h : R a b) : Alike R (.ok a) (.ok b)
  | error {e e' : Error} (h : e.kind = e'.kind) : Alike R (.error e) (.error e')

namespace Alike

variable {R : α → β → Prop} {S : γ → δ → Prop}

/-- Another relation may be put in the place of this one if it holds of the accepted results. -/
theorem of_ok {R' : α → β → Prop} {x : Except Error α} {y : Except Error β} (h : Alike R x y)
    (hok : ∀ a b, x = .ok a → y = .ok b → R a b → R' a b) : Alike R' x y := by
  cases h with
  | ok h => exact .ok (hok _ _ rfl rfl h)
  | error h => exact .error h

theorem bind {x : Except Error α} {y : Except Error β} {f : α → Except Error γ}
    {g : β → Except Error δ} (h : Alike R x y) (hstep : ∀ a b, R a b → Alike S (f a) (g b)) :
    Alike S (x >>= f) (y >>= g) := by
  cases h with
  | ok h => exact hstep _ _ h
  | error h => exact .error h

/-- Two steps behind one check. -/
theorem after {check : Except Error α} {f : α → Except Error γ} {g : α → Except Error δ}
    (h : ∀ a, check = .ok a → Alike S (f a) (g a)) : Alike S (check >>= f) (check >>= g) := by
  cases hcheck : check with
  | ok a => exact h a hcheck
  | error e => exact .error rfl

theorem foldlM {R : σ → τ → Prop} {step : σ → α → Except Error σ} {step' : τ → β → Except Error τ}
    {related : α → β → Prop}
    (hstep : ∀ s t a b, R s t → related a b → Alike R (step s a) (step' t b))
    {items : List α} {items' : List β} (hitems : List.Forall₂ related items items') {s : σ} {t : τ}
    (h : R s t) : Alike R (items.foldlM step s) (items'.foldlM step' t) := by
  induction hitems generalizing s t with
  | nil => exact .ok h
  | cons hitem _ ih =>
    rw [List.foldlM_cons, List.foldlM_cons]
    exact bind (hstep _ _ _ _ h hitem) fun _ _ hnext => ih hnext

theorem foldlM_same {R : σ → τ → Prop} {step : σ → α → Except Error σ}
    {step' : τ → α → Except Error τ}
    (hstep : ∀ s t item, R s t → Alike R (step s item) (step' t item)) (items : List α) {s : σ}
    {t : τ} (h : R s t) : Alike R (items.foldlM step s) (items.foldlM step' t) := by
  have hitems : List.Forall₂ Eq items items := List.forall₂_refl items
  refine foldlM ?_ hitems h
  rintro s t item _ hs rfl
  exact hstep s t item hs

end Alike

end Outcome

/-- Queries that agree on everything that a statement is written from, apart from the values. -/
structure Query.Alike (q q' : Query) : Prop where
  table : q.table = q'.table
  columns : q.columns = q'.columns
  conditions : q.conditions = q'.conditions
  limit : q.limit = q'.limit
  distinct : q.distinct = q'.distinct
  allowFiltering : q.allowFiltering = q'.allowFiltering
  changes : q.targets [] = q'.targets []

/-- The kind of a collection, if the value is one. -/
def Value.collectionKind? : Value → Option CollectionKind
  | collection c => some c.kind
  | _ => none

/-- Calls that differ at most in the value that they hand over. For a collection column both values
are collections of one kind, or neither is a collection. -/
inductive Call.Alike : Call → Call → Prop
  | same (call : Call) : Alike call call
  | restrict (column : String) (operator : Operator) (v v' : Value) :
    Alike (.restrict column operator v) (.restrict column operator v')
  | restrictBy (column operator : String) (v v' : Value) :
    Alike (.restrictBy column operator v) (.restrictBy column operator v')
  | bind (kind : Bucket) (v v' : Value) : Alike (.bind kind v) (.bind kind v')
  | bindNamed (kind : String) (v v' : Value) : Alike (.bindNamed kind v) (.bindNamed kind v')
  | updateCollection (column : String) (operation : Option CollectionChange) (v v' : Value)
      (h : v.collectionKind? = v'.collectionKind?) :
    Alike (.updateCollection column operation v) (.updateCollection column operation v')
  | replaceCollection (column : String) (v v' : Value)
      (h : v.collectionKind? = v'.collectionKind?) :
    Alike (.replaceCollection column v) (.replaceCollection column v')

namespace Query

variable {q q' : Query}

/-- Without another assignment the targets of an update are the queued mutations. -/
theorem targets_eq (q : Query) (assignments : Cells) :
    q.targets assignments = q.targets [] ++ assignments.map fun a => (a.1, none) := by
  simp [targets]

theorem restrict_alike (h : q.Alike q') (column : String) (operator : Operator) (v v' : Value) :
    Outcome.Alike Query.Alike (q.restrict column operator v) (q'.restrict column operator v') := by
  refine .after fun _ _ => .ok { h with conditions := ?_ }
  have hconditions := h.conditions
  simp only [conditions, List.map_append, List.map_cons, List.map_nil] at hconditions ⊢
  rw [hconditions]

theorem restrictBy_alike (h : q.Alike q') (column operator : String) (v v' : Value) :
    Outcome.Alike Query.Alike (q.restrictBy column operator v)
      (q'.restrictBy column operator v') := by
  unfold restrictBy
  split
  · exact restrict_alike h column _ v v'
  · exact .error rfl

theorem bind_alike (h : q.Alike q') (kind : Bucket) (v v' : Value) :
    (q.bind kind v).Alike (q'.bind kind v') :=
  { h with }

theorem bindNamed_alike (h : q.Alike q') (name : String) (v v' : Value) :
    Outcome.Alike Query.Alike (q.bindNamed name v) (q'.bindNamed name v') := by
  unfold bindNamed
  split
  · exact .ok (bind_alike h _ v v')
  · exact .error rfl

theorem updateCollection_alike (h : q.Alike q') (column : String)
    (operation : Option CollectionChange) {v v' : Value}
    (hkind : v.collectionKind? = v'.collectionKind?) :
    Outcome.Alike Query.Alike (q.updateCollection column operation v)
      (q'.updateCollection column operation v') := by
  cases hv : v.collectionKind? with
  | none =>
    -- Neither is a collection: the errors name different types, but are of one kind.
    have herror : ∀ (q : Query) (v : Value), v.collectionKind? = none →
        q.updateCollection column operation v = .error (.notACollection v.typeName) := by
      intro q v hv
      cases v with
      | collection c => cases hv
      | _ => rfl
    rw [herror q v hv, herror q' v' (hkind ▸ hv)]
    exact .error rfl
  | some kind =>
    have hcollection : ∀ v : Value, v.collectionKind? = some kind →
        ∃ c, v = .collection c ∧ c.kind = kind := by
      intro v hv
      cases v with
      | collection c => exact ⟨c, rfl, Option.some.inj hv⟩
      | _ => cases hv
    obtain ⟨c, rfl, hc⟩ := hcollection v hv
    obtain ⟨c', rfl, hc'⟩ := hcollection v' (hkind ▸ hv)
    unfold updateCollection
    dsimp only
    rw [hc, hc']
    refine .after fun _ _ => ?_
    split
    · exact .error rfl
    · refine .ok { h with changes := ?_ }
      have hchanges := h.changes
      simp only [targets, List.map_append, List.map_cons, List.map_nil, List.append_nil]
        at hchanges ⊢
      rw [hchanges]

end Query

namespace PrimaryKey

variable {q q' : Query}

theorem restrictComponent_alike (h : q.Alike q') (component : KeyColumn) (v : Value) :
    Outcome.Alike Query.Alike (restrictComponent q component v)
      (restrictComponent q' component v) :=
  .after fun _ _ => Query.restrict_alike h _ _ _ _

theorem restrict_alike (h : q.Alike q') (key : PrimaryKey) (id : KeyValue) :
    Outcome.Alike Query.Alike (key.restrict q id) (key.restrict q' id) := by
  unfold restrict
  split
  · exact Query.restrict_alike h _ _ _ _
  · split
    · exact Query.restrict_alike h _ _ _ _
    · exact .error rfl
  · exact .error rfl
  · split
    · exact .error rfl
    · refine Outcome.Alike.foldlM_same ?_ _ h
      intro q q' item hq
      exact restrictComponent_alike hq item.1 item.2

theorem restrictSave_alike (h : q.Alike q') (key : PrimaryKey) (loaded changed : Row) :
    Outcome.Alike Query.Alike (key.restrictSave q loaded changed)
      (key.restrictSave q' loaded changed) := by
  refine .after fun _ _ => ?_
  refine Outcome.Alike.foldlM_same ?_ _ h
  intro q q' component hq
  split
  · exact restrictComponent_alike hq _ _
  · exact .error rfl

end PrimaryKey

namespace Call

variable {q q' : Query} {call call' : Call}

/-- The same call on queries that agree up to values. -/
theorem apply_same (h : q.Alike q') (call : Call) :
    Outcome.Alike Query.Alike (apply q call) (apply q' call) := by
  cases call with
  | onTable table => exact .after fun _ _ => .ok { h with table := rfl }
  | select columns => exact .after fun _ _ => .ok { h with columns := rfl }
  | restrict column operator v => exact Query.restrict_alike h column operator v v
  | restrictBy column operator v => exact Query.restrictBy_alike h column operator v v
  | orRestrict column => exact .error rfl
  | withDistinct => exact .ok { h with distinct := rfl }
  | withFiltering => exact .ok { h with allowFiltering := rfl }
  | withLimit limit => exact .ok { h with limit := rfl }
  | withOptions options => exact .ok { h with }
  | withPageSize size => exact .ok { h with }
  | bind kind v => exact .ok (Query.bind_alike h kind v v)
  | bindNamed kind v => exact Query.bindNamed_alike h kind v v
  | updateCollection column operation v => exact Query.updateCollection_alike h column operation rfl
  | replaceCollection column v => exact Query.updateCollection_alike h column none rfl
  | restrictKey key id => exact PrimaryKey.restrict_alike h key id
  | restrictSave key loaded changed => exact PrimaryKey.restrictSave_alike h key loaded changed

/-- One step of two runs that differ in values only. -/
theorem apply_alike (hcall : Alike call call') (h : q.Alike q') :
    Outcome.Alike Query.Alike (apply q call) (apply q' call') := by
  cases hcall with
  | same => exact apply_same h call
  | restrict column operator v v' => exact Query.restrict_alike h column operator v v'
  | restrictBy column operator v v' => exact Query.restrictBy_alike h column operator v v'
  | bind kind v v' => exact .ok (Query.bind_alike h kind v v')
  | bindNamed kind v v' => exact Query.bindNamed_alike h kind v v'
  | updateCollection column operation v v' hkind =>
    exact Query.updateCollection_alike h column operation hkind
  | replaceCollection column v v' hkind => exact Query.updateCollection_alike h column none hkind

/-- Runs that differ in values only are both accepted or both refused. -/
theorem applyAll_alike {calls calls' : List Call} (hcalls : List.Forall₂ Alike calls calls')
    (h : q.Alike q') : Outcome.Alike Query.Alike (applyAll q calls) (applyAll q' calls') := by
  unfold applyAll
  refine Outcome.Alike.foldlM ?_ hcalls h
  intro q q' call call' hq hcall
  exact apply_alike hcall hq

end Call

end Cql
