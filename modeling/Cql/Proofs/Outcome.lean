import Mathlib.Data.List.Forall2

/-!
Steps that may be refused. A run of such steps is accepted when each of its steps is, and the first
step that is refused decides its error.
-/

namespace Cql.Outcome

variable {ε α β σ : Type}

theorem bind_eq_ok_iff {x : Except ε α} {f : α → Except ε β} {b : β} :
    (x >>= f) = .ok b ↔ ∃ a, x = .ok a ∧ f a = .ok b := by
  cases x with
  | error e => simp [bind, Except.bind]
  | ok a => simp [bind, Except.bind]

theorem bind_eq_error_iff {x : Except ε α} {g : α → Except ε β} {e : ε} :
    (x >>= g) = .error e ↔ x = .error e ∨ ∃ a, x = .ok a ∧ g a = .error e := by
  cases x with
  | error refused => simp [bind, Except.bind]
  | ok a => simp [bind, Except.bind]

theorem map_eq_ok_iff {x : Except ε α} {g : α → β} {b : β} :
    x.map g = .ok b ↔ ∃ a, x = .ok a ∧ g a = b := by
  cases x with
  | error refused => simp [Except.map]
  | ok a => simp [Except.map]

theorem map_eq_error_iff {x : Except ε α} {g : α → β} {e : ε} :
    x.map g = .error e ↔ x = .error e := by
  cases x with
  | error refused => simp [Except.map]
  | ok a => simp [Except.map]

theorem forM_eq_ok_iff {check : α → Except ε Unit} {items : List α} :
    items.forM check = .ok () ↔ ∀ item ∈ items, check item = .ok () := by
  induction items with
  | nil => simp [List.forM, pure, Except.pure]
  | cons item items ih =>
    change (check item >>= fun _ => items.forM check) = .ok () ↔ _
    rw [bind_eq_ok_iff]
    simp only [List.mem_cons, forall_eq_or_imp, ← ih]
    constructor
    · rintro ⟨⟨⟩, hitem, hitems⟩
      exact ⟨hitem, hitems⟩
    · rintro ⟨hitem, hitems⟩
      exact ⟨(), hitem, hitems⟩

theorem foldlM_cons_eq_ok_iff {step : σ → α → Except ε σ} {s final : σ} {item : α}
    {items : List α} :
    (item :: items).foldlM step s = .ok final ↔
      ∃ next, step s item = .ok next ∧ items.foldlM step next = .ok final := by
  rw [List.foldlM_cons, bind_eq_ok_iff]

theorem foldlM_nil_eq_ok_iff {step : σ → α → Except ε σ} {s final : σ} :
    ([] : List α).foldlM step s = .ok final ↔ s = final := by
  simp [pure, Except.pure]

/-- All items are accepted, and the results stand in their order. -/
theorem mapM_eq_ok_iff {f : α → Except ε β} {items : List α} {results : List β} :
    items.mapM f = .ok results ↔
      List.Forall₂ (fun item result => f item = .ok result) items results := by
  induction items generalizing results with
  | nil => cases results <;> simp [pure, Except.pure]
  | cons item items ih =>
    rw [List.mapM_cons, bind_eq_ok_iff]
    constructor
    · rintro ⟨result, hitem, hrest⟩
      obtain ⟨rest, hitems, hresults⟩ := bind_eq_ok_iff.mp hrest
      obtain rfl := Except.ok.inj hresults
      exact .cons hitem (ih.mp hitems)
    · intro h
      cases h with
      | cons hitem hitems => exact ⟨_, hitem, bind_eq_ok_iff.mpr ⟨_, ih.mpr hitems, rfl⟩⟩

/-- A relation has a partner for each item where it has partners for the list of them. -/
theorem exists_forall₂_iff {R : α → β → Prop} {items : List α} :
    (∃ results, List.Forall₂ R items results) ↔ ∀ item ∈ items, ∃ result, R item result := by
  induction items with
  | nil => simp
  | cons item items ih =>
    rw [List.forall_mem_cons, ← ih]
    constructor
    · rintro ⟨results, hresults⟩
      cases hresults with
      | cons hitem hrest => exact ⟨⟨_, hitem⟩, _, hrest⟩
    · rintro ⟨⟨result, hitem⟩, results, hrest⟩
      exact ⟨_, .cons hitem hrest⟩

/-- The first item that is refused decides the error. -/
theorem mapM_eq_error_iff {f : α → Except ε β} {items : List α} {e : ε} :
    items.mapM f = .error e ↔
      ∃ before item after, items = before ++ item :: after ∧
        (∀ other ∈ before, ∃ result, f other = .ok result) ∧ f item = .error e := by
  induction items with
  | nil => simp [pure, Except.pure]
  | cons first items ih =>
    have hrest : ∀ result, (items.mapM f >>= fun rest => pure (result :: rest)) = .error e ↔
        items.mapM f = .error e := by
      intro result
      rw [bind_eq_error_iff]
      simp [pure, Except.pure]
    rw [List.mapM_cons, bind_eq_error_iff]
    simp only [hrest, ih]
    constructor
    · rintro (hfirst | ⟨result, hfirst, before, item, after, rfl, hbefore, hitem⟩)
      · exact ⟨[], first, items, rfl, by simp, hfirst⟩
      · refine ⟨first :: before, item, after, rfl, ?_, hitem⟩
        intro other hother
        rcases List.mem_cons.mp hother with rfl | hother
        · exact ⟨result, hfirst⟩
        · exact hbefore other hother
    · rintro ⟨before, item, after, heq, hbefore, hitem⟩
      cases before with
      | nil =>
        obtain ⟨rfl, rfl⟩ := List.cons.inj heq
        exact Or.inl hitem
      | cons other before =>
        obtain ⟨rfl, rfl⟩ := List.cons.inj heq
        obtain ⟨result, hfirst⟩ := hbefore first (by simp)
        exact Or.inr ⟨result, hfirst, before, item, after, rfl,
          fun other hother => hbefore other (by simp [hother]), hitem⟩

end Cql.Outcome
