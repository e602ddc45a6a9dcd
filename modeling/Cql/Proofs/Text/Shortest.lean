import Mathlib.Algebra.Order.Field.Power
import Mathlib.Algebra.Order.Field.Rat
import Mathlib.Tactic.FieldSimp
import Mathlib.Tactic.Linarith
import Mathlib.Tactic.Positivity
import Mathlib.Tactic.Ring
import Cql.Text.Shortest

/-!
The search for the shortest numeral ends, and the numeral that it finds lies in the interval.
-/

namespace Cql.Text.RoundingInterval

/-- The number lies in the interval. -/
def Holds (r : RoundingInterval) (q : ℚ) : Prop :=
  if r.closed then r.lower ≤ q * r.denominator ∧ q * r.denominator ≤ r.upper
  else r.lower < q * r.denominator ∧ q * r.denominator < r.upper

section Search

variable {r : RoundingInterval} {n : Nat} {q : ℚ} {power : Int}

theorem contains_iff_holds : r.contains (n * r.denominator) = true ↔ r.Holds n := by
  unfold contains Holds
  split
  · simp only [Bool.and_eq_true, decide_eq_true_eq]
    exact_mod_cast Iff.rfl
  · simp only [Bool.and_eq_true, decide_eq_true_eq]
    exact_mod_cast Iff.rfl

theorem cast_up (power : Int) :
    ((Nat.pow 10 (-power).toNat : Nat) : ℚ) * 10 ^ power = (Nat.pow 10 power.toNat : Nat) := by
  rcases Int.eq_nat_or_neg power with ⟨k, rfl | rfl⟩
  · simp
  · simp

theorem holds_scale : (r.scale (-power)).Holds q ↔ r.Holds (q * 10 ^ power) := by
  have hup : (0 : ℚ) < (Nat.pow 10 (-power).toNat : Nat) := by
    exact_mod_cast Nat.pow_pos (by decide)
  have hscale : q * ((r.denominator * Nat.pow 10 power.toNat : Nat) : ℚ) =
      q * 10 ^ power * r.denominator * (Nat.pow 10 (-power).toNat : Nat) := by
    rw [Nat.cast_mul, ← cast_up]
    ring
  unfold Holds scale
  simp only [neg_neg, hscale]
  push_cast [Nat.cast_mul]
  split
  · rw [mul_le_mul_iff_left₀ hup, mul_le_mul_iff_left₀ hup]
  · rw [mul_lt_mul_iff_left₀ hup, mul_lt_mul_iff_left₀ hup]

/-- A whole number that is found lies in the interval. -/
theorem holds_of_whole? (h : r.whole? = some n) : r.Holds n := by
  rw [← contains_iff_holds]
  have habove : r.value / r.denominator * r.denominator + r.denominator =
      (r.value / r.denominator + 1) * r.denominator := by ring
  unfold whole? at h
  dsimp only at h
  rw [habove] at h
  split at h
  · rename_i hbelow hnext
    cases h
    split
    · exact hbelow
    · exact hnext
  · rename_i hbelow _
    cases h
    exact hbelow
  · rename_i _ hnext
    cases h
    exact hnext
  · cases h

/-- An interval that reaches further than one above its value has a whole number. -/
theorem isSome_whole? (hdenominator : 0 < r.denominator) (hlower : r.lower ≤ r.value)
    (hupper : r.value + r.denominator < r.upper) : r.whole?.isSome = true := by
  have hdivide := Nat.div_add_mod' r.value r.denominator
  have hrest := Nat.mod_lt r.value hdenominator
  have hcontains :
      r.contains (r.value / r.denominator * r.denominator + r.denominator) = true := by
    unfold contains
    split <;> simp only [Bool.and_eq_true, decide_eq_true_eq] <;> omega
  unfold whole?
  dsimp only
  rw [hcontains]
  split <;> simp_all

/-- The search stops at the first power that has a multiple in the interval. -/
theorem search_spec {steps : Nat}
    (h : ∃ k < steps, (r.scale (-(power - k))).whole?.isSome = true) :
    ∃ n q, r.search power steps = (n, q) ∧ (r.scale (-q)).whole? = some n := by
  induction steps generalizing power with
  | zero =>
    obtain ⟨k, hk, _⟩ := h
    omega
  | succ steps ih =>
    rw [search]
    cases hwhole : (r.scale (-power)).whole? with
    | some n => exact ⟨n, power, rfl, hwhole⟩
    | none =>
      obtain ⟨k, hk, hsome⟩ := h
      cases k with
      | zero => simp [hwhole] at hsome
      | succ k =>
        refine ih ⟨k, by omega, ?_⟩
        have hpower : power - 1 - (k : Int) = power - ((k + 1 : Nat) : Int) := by
          push_cast
          ring
        rwa [hpower]

theorem lt_pow_length (n : Nat) : n < 10 ^ (decimal n).length :=
  (Nat.length_toDigits_le_iff (by decide) Nat.length_toDigits_pos).mp le_rfl

theorem pow_length_le (h : 0 < n) : 10 ^ ((decimal n).length - 1) ≤ n := by
  by_contra hlt
  have hpos : 0 < (decimal n).length := Nat.length_toDigits_pos
  by_cases hone : (decimal n).length = 1
  · rw [hone] at hlt
    omega
  · have hle := (Nat.length_toDigits_le_iff (b := 10) (n := n) (by decide)
      (k := (decimal n).length - 1) (by omega)).mpr (by omega)
    unfold decimal at *
    omega

/-- At a power seventeen places below the value the gap above it has a multiple. -/
theorem denominator_lt_gap {gap : Nat} (hvalue : 0 < r.value)
    (hprecision : r.value ≤ 10 ^ 17 * gap) :
    (r.denominator : ℚ) *
      10 ^ (((decimal r.value).length : Int) - (decimal r.denominator).length + 1 - 19) < gap := by
  have hdenominator : (r.denominator : ℚ) < 10 ^ ((decimal r.denominator).length : Int) := by
    rw [zpow_natCast]
    exact_mod_cast lt_pow_length r.denominator
  have hgap : (10 : ℚ) ^ (((decimal r.value).length : Int) - 18) ≤ gap := by
    have hpos : 0 < (decimal r.value).length := Nat.length_toDigits_pos
    have hle : (10 : ℚ) ^ ((decimal r.value).length - 1) ≤ 10 ^ 17 * gap := by
      exact_mod_cast (pow_length_le hvalue).trans hprecision
    have hsplit : (10 : ℚ) ^ ((decimal r.value).length - 1) =
        10 ^ 17 * 10 ^ (((decimal r.value).length : Int) - 18) := by
      rw [← zpow_natCast, ← zpow_natCast, ← zpow_add₀ (by norm_num)]
      congr 1
      omega
    rw [hsplit] at hle
    exact le_of_mul_le_mul_left hle (by positivity)
  have hpower : (0 : ℚ) <
      10 ^ (((decimal r.value).length : Int) - (decimal r.denominator).length + 1 - 19) := by
    positivity
  calc (r.denominator : ℚ) *
        10 ^ (((decimal r.value).length : Int) - (decimal r.denominator).length + 1 - 19)
      < 10 ^ ((decimal r.denominator).length : Int) *
        10 ^ (((decimal r.value).length : Int) - (decimal r.denominator).length + 1 - 19) :=
        mul_lt_mul_of_pos_right hdenominator hpower
    _ = 10 ^ (((decimal r.value).length : Int) - 18) := by
        rw [← zpow_add₀ (by norm_num)]
        congr 1
        ring
    _ ≤ gap := hgap

/-- The numeral of a number with a precision of up to seventeen digits is found. -/
theorem holds_shortest (hdenominator : 0 < r.denominator) (hvalue : 0 < r.value)
    (hlower : r.lower ≤ r.value) (hupper : r.value ≤ r.upper)
    (hprecision : r.value ≤ 10 ^ 17 * (r.upper - r.value)) :
    r.Holds (r.shortest.1 * 10 ^ r.shortest.2) := by
  obtain ⟨gap, hgap⟩ := Nat.exists_eq_add_of_le hupper
  rw [hgap, Nat.add_sub_cancel_left] at hprecision
  have hlt := denominator_lt_gap hvalue hprecision
  unfold shortest
  dsimp only
  generalize ((decimal r.value).length : Int) - (decimal r.denominator).length + 1 = start at *
  have hsome : (r.scale (-(start - (19 : Nat)))).whole?.isSome = true := by
    have hup : (0 : ℚ) < (Nat.pow 10 (-(start - (19 : Nat))).toNat : Nat) := by
      exact_mod_cast Nat.pow_pos (by decide)
    apply isSome_whole?
    · exact Nat.mul_pos hdenominator (Nat.pow_pos (by decide))
    · exact Nat.mul_le_mul_right _ hlower
    · have hscaled : r.denominator * Nat.pow 10 (start - (19 : Nat)).toNat <
          gap * Nat.pow 10 (-(start - (19 : Nat))).toNat := by
        rw [← Nat.cast_lt (α := ℚ), Nat.cast_mul, Nat.cast_mul, ← cast_up]
        push_cast at hlt hup ⊢
        nlinarith
      simp only [scale, neg_neg, hgap, Nat.add_mul]
      omega
  have hfound : ∃ k < 22, (r.scale (-(start - (k : Nat)))).whole?.isSome = true :=
    ⟨19, by decide, hsome⟩
  obtain ⟨n, q, hsearch, hwhole⟩ := search_spec hfound
  rw [hsearch]
  exact holds_scale.mp (holds_of_whole? hwhole)

end Search

end Cql.Text.RoundingInterval
