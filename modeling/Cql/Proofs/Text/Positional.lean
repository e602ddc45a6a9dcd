import Mathlib.Algebra.Order.Field.Basic
import Mathlib.Algebra.Order.Field.Rat
import Mathlib.Data.List.TakeWhile
import Mathlib.Tactic.Ring
import Mathlib.Tactic.FieldSimp
import Cql.Proofs.Text.Numeral

/-!
The number that a text of digits with an optional point denotes.
-/

namespace Cql.Text

/-- The number of all the digits, divided by a power of ten for those behind the point. -/
def reading (s : List Char) : ℚ :=
  Nat.ofDigitChars 10 (s.filter (· != '.')) 0 / 10 ^ (s.dropWhile (· != '.')).tail.length

section Reading

variable {s t : List Char}

theorem ne_point_of_isDigit (hs : ∀ c ∈ s, c.isDigit = true) : ∀ c ∈ s, (c != '.') = true := by
  intro c hc
  rw [bne_iff_ne]
  rintro rfl
  cases hs _ hc

theorem reading_of_digits (hs : ∀ c ∈ s, c.isDigit = true) :
    reading s = Nat.ofDigitChars 10 s 0 := by
  have hpoint := ne_point_of_isDigit hs
  rw [reading, List.filter_eq_self.mpr hpoint, List.dropWhile_eq_nil_iff.mpr hpoint]
  simp

theorem reading_of_point (hs : ∀ c ∈ s, c.isDigit = true) (ht : ∀ c ∈ t, c.isDigit = true) :
    reading (s ++ '.' :: t) = Nat.ofDigitChars 10 (s ++ t) 0 / 10 ^ t.length := by
  have hfilter : (s ++ '.' :: t).filter (· != '.') = s ++ t := by
    rw [List.filter_append, List.filter_cons_of_neg (by decide),
      List.filter_eq_self.mpr (ne_point_of_isDigit hs),
      List.filter_eq_self.mpr (ne_point_of_isDigit ht)]
  have hbehind : (s ++ '.' :: t).dropWhile (· != '.') = '.' :: t := by
    rw [List.dropWhile_append_of_pos (ne_point_of_isDigit hs)]
    rfl
  rw [reading, hfilter, hbehind, List.tail_cons]

theorem isDigit_of_mem_leftpad (hs : ∀ c ∈ s, c.isDigit = true) (width : Nat) :
    ∀ c ∈ s.leftpad width '0', c.isDigit = true := by
  intro c hc
  rcases mem_leftpad hc with hc | rfl
  · exact hs c hc
  · rfl

theorem ofDigitChars_leftpad (width : Nat) (s : List Char) :
    Nat.ofDigitChars 10 (s.leftpad width '0') 0 = Nat.ofDigitChars 10 s 0 := by
  rw [List.leftpad, Nat.ofDigitChars_append, Nat.ofDigitChars_replicate_zero, Nat.mul_zero]

theorem reading_positional (hs : ∀ c ∈ s, c.isDigit = true) (exponent : Int) :
    reading (positional s exponent) = Nat.ofDigitChars 10 s 0 * (10 : ℚ) ^ exponent := by
  unfold positional
  split
  · rename_i h
    obtain ⟨places, rfl⟩ := Int.eq_ofNat_of_zero_le h
    have hdigits : ∀ c ∈ s ++ List.replicate places '0', c.isDigit = true := by
      intro c hc
      rw [List.mem_append, List.mem_replicate] at hc
      rcases hc with hc | ⟨_, rfl⟩
      · exact hs c hc
      · rfl
    rw [Int.toNat_natCast, reading_of_digits hdigits, Nat.ofDigitChars_append,
      Nat.ofDigitChars_replicate_zero, zpow_natCast]
    push_cast
    ring
  · rename_i h
    obtain ⟨places, rfl⟩ : ∃ places : Nat, exponent = -(places : Int) :=
      ⟨(-exponent).toNat, by omega⟩
    have hdigits := isDigit_of_mem_leftpad hs (places + 1)
    have hlength : places ≤ (s.leftpad (places + 1) '0').length := by
      rw [List.length_leftpad]
      omega
    rw [Int.neg_neg, Int.toNat_natCast]
    dsimp only
    rw [reading_of_point (fun c hc => hdigits c (List.mem_of_mem_take hc))
      (fun c hc => hdigits c (List.mem_of_mem_drop hc)), List.take_append_drop,
      ofDigitChars_leftpad, List.length_drop, Nat.sub_sub_self hlength, zpow_neg, zpow_natCast]
    rfl

end Reading

end Cql.Text
