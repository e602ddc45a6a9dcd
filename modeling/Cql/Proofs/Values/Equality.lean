import Mathlib.Tactic.Ring
import Cql.Value

/-!
The equality of values. It is no equality of the data: zeros of either sign are one number, decimals
of different scales may be one, and an undefined number differs from itself. On values that are no
collections it is symmetric and transitive all the same.
-/

namespace Cql.Floating

open Float.Model

variable {a b c : UnpackedFloat}

theorem compare_numbers (e e' : Int) (m m' : Nat) :
    (compare e e').then (compare m m') = .eq ↔ m = m' ∧ e = e' := by
  rw [Ordering.then_eq_eq, Std.compare_eq_iff_eq, Std.compare_eq_iff_eq, and_comm]

theorem eq_of_beq (h : a.beq b = true) :
    (a = b ∧ a ≠ .notANumber) ∨ ((∃ s, a = .zero s) ∧ ∃ t, b = .zero t) := by
  have hcompare : a.compare b = some .eq := beq_iff_eq.mp h
  cases a with
  | notANumber => cases b <;> cases hcompare
  | infinity s =>
    left
    refine ⟨?_, fun hnan => by cases hnan⟩
    cases b with
    | infinity t => cases s <;> cases t <;> first | rfl | cases hcompare
    | _ => cases s <;> cases hcompare
  | zero s =>
    cases b with
    | zero t => exact .inr ⟨⟨s, rfl⟩, t, rfl⟩
    | infinity t | finite t => cases t <;> cases hcompare
    | notANumber => cases hcompare
  | finite s m e =>
    left
    refine ⟨?_, fun hnan => by cases hnan⟩
    cases b with
    | finite t m' e' =>
      cases s with
      | positive =>
        cases t with
        | positive =>
          obtain ⟨rfl, rfl⟩ := (compare_numbers e e' m m').mp (Option.some.inj hcompare)
          rfl
        | negative => cases hcompare
      | negative =>
        cases t with
        | positive => cases hcompare
        | negative =>
          have hswap : ((compare e e').then (compare m m')).swap = .eq := Option.some.inj hcompare
          obtain ⟨rfl, rfl⟩ := (compare_numbers e e' m m').mp (Ordering.swap_eq_eq.mp hswap)
          rfl
    | infinity t => cases t <;> cases s <;> cases hcompare
    | _ => cases s <;> cases hcompare

/-- Floating point numbers are equal if they are the same and not undefined, or both zero. -/
theorem beq_iff : a.beq b = true ↔
    (a = b ∧ a ≠ .notANumber) ∨ ((∃ s, a = .zero s) ∧ ∃ t, b = .zero t) := by
  refine ⟨eq_of_beq, ?_⟩
  rintro (⟨rfl, hne⟩ | ⟨⟨s, rfl⟩, t, rfl⟩)
  · refine beq_iff_eq.mpr ?_
    cases a with
    | notANumber => exact absurd rfl hne
    | infinity s => cases s <;> rfl
    | zero s => rfl
    | finite s m e =>
      have hsame := (compare_numbers e e m m).mpr ⟨rfl, rfl⟩
      cases s with
      | positive => exact congrArg some hsame
      | negative => exact congrArg some (Ordering.swap_eq_eq.mpr hsame)
  · rfl

theorem beq_symm (h : a.beq b = true) : b.beq a = true := by
  rw [beq_iff] at *
  rcases h with ⟨rfl, hne⟩ | ⟨ha, hb⟩
  · exact .inl ⟨rfl, hne⟩
  · exact .inr ⟨hb, ha⟩

theorem beq_trans (hab : a.beq b = true) (hbc : b.beq c = true) : a.beq c = true := by
  rw [beq_iff] at *
  rcases hab with ⟨rfl, _⟩ | ⟨ha, hb⟩
  · exact hbc
  · rcases hbc with ⟨rfl, _⟩ | ⟨_, hc⟩
    · exact .inr ⟨ha, hb⟩
    · exact .inr ⟨ha, hc⟩

end Cql.Floating

namespace Cql.Decimal

variable {a b c : Decimal}

theorem sameNumber_symm (h : a.sameNumber b = true) : b.sameNumber a = true := by
  simp only [sameNumber, beq_iff_eq] at *
  exact h.symm

theorem sameNumber_trans (hab : a.sameNumber b = true) (hbc : b.sameNumber c = true) :
    a.sameNumber c = true := by
  simp only [sameNumber, beq_iff_eq] at *
  have hpower : ((Nat.pow 10 b.scale : Nat) : Int) ≠ 0 := by
    exact_mod_cast (Nat.pow_pos (by decide)).ne'
  apply Int.eq_of_mul_eq_mul_right hpower
  calc a.coefficient * Nat.pow 10 c.scale * Nat.pow 10 b.scale
      = a.coefficient * Nat.pow 10 b.scale * Nat.pow 10 c.scale := by ring
    _ = b.coefficient * Nat.pow 10 c.scale * Nat.pow 10 a.scale := by rw [hab]; ring
    _ = c.coefficient * Nat.pow 10 a.scale * Nat.pow 10 b.scale := by rw [hbc]; ring

end Cql.Decimal

namespace Cql.Value

variable {a b c : Value}

theorem beq_eq_same (a b : Value) : (a == b) = same a b :=
  rfl

/-- Equal values are the same data unless they are numbers with a point or collections. -/
theorem same_cases (ha : a.collection? = none) (h : same a b = true) :
    a = b ∨ (∃ x y, a = float x ∧ b = float y ∧ (x == y) = true) ∨
      (∃ x y, a = double x ∧ b = double y ∧ (x == y) = true) ∨
      ∃ d e, a = decimal d ∧ b = decimal e ∧ d.sameNumber e = true := by
  fun_cases same a b
  case case7 x y => exact .inr (.inl ⟨x, y, rfl, rfl, by simpa only [same] using h⟩)
  case case8 x y => exact .inr (.inr (.inl ⟨x, y, rfl, rfl, by simpa only [same] using h⟩))
  case case9 x y => exact .inr (.inr (.inr ⟨x, y, rfl, rfl, by simpa only [same] using h⟩))
  case case18 => cases ha
  all_goals simp_all [same]

theorem same_symm (ha : a.collection? = none) (h : same a b = true) : same b a = true := by
  rcases same_cases ha h with rfl | ⟨x, y, rfl, rfl, hxy⟩ | ⟨x, y, rfl, rfl, hxy⟩ |
    ⟨d, e, rfl, rfl, hde⟩
  · exact h
  · rw [same]
    exact Floating.beq_symm hxy
  · rw [same]
    exact Floating.beq_symm hxy
  · rw [same]
    exact Decimal.sameNumber_symm hde

theorem same_comm (ha : a.collection? = none) (b : Value) : same a b = same b a := by
  rw [Bool.eq_iff_iff]
  refine ⟨same_symm ha, fun h => ?_⟩
  cases hb : b.collection? with
  | none => exact same_symm hb h
  | some inner =>
    cases b <;> cases hb
    cases a <;> simp only [same, Bool.false_eq_true] at h
    cases ha

/-- Values that are equal to one value are equal. -/
theorem same_trans (ha : a.collection? = none) (hab : same a b = true) (hbc : same b c = true) :
    same a c = true := by
  rcases same_cases ha hab with rfl | ⟨x, y, rfl, rfl, hxy⟩ | ⟨x, y, rfl, rfl, hxy⟩ |
    ⟨d, e, rfl, rfl, hde⟩
  · exact hbc
  · cases c <;> simp only [same, Bool.false_eq_true] at hbc ⊢
    exact Floating.beq_trans hxy hbc
  · cases c <;> simp only [same, Bool.false_eq_true] at hbc ⊢
    exact Floating.beq_trans hxy hbc
  · cases c <;> simp only [same, Bool.false_eq_true] at hbc ⊢
    exact Decimal.sameNumber_trans hde hbc

end Cql.Value
