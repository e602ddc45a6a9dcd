import Mathlib.Tactic.LinearCombination
import Cql.Value.Floating
import Cql.Proofs.Text.Positional
import Cql.Proofs.Text.Shortest
import Cql.Proofs.Values.Equality

/-!
The texts of floating point numbers tell them apart. The numbers of one sign are counted by their
fields for exponent and fraction. The interval of each ends where that of the next begins, and the
end belongs to the one with the even fraction alone, so a numeral lies in one interval at most.
-/

namespace Cql.Text.RoundingInterval

section Binary

variable {mantissa : Nat} {exponent : Int} {narrow : Bool} {q : ℚ}

/-- The end below, where the gap is half as wide if `narrow` is set. -/
def lowerEnd (mantissa : Nat) (exponent : Int) (narrow : Bool) : ℚ :=
  (4 * mantissa - if narrow then 1 else 2) / 4 * 2 ^ exponent

def upperEnd (mantissa : Nat) (exponent : Int) : ℚ :=
  (4 * mantissa + 2) / 4 * 2 ^ exponent

theorem lowerEnd_lt_upperEnd : lowerEnd mantissa exponent narrow < upperEnd mantissa exponent := by
  have hpower : (0 : ℚ) < 2 ^ exponent := by positivity
  unfold lowerEnd upperEnd
  refine mul_lt_mul_of_pos_right ?_ hpower
  split <;> linarith

theorem cast_unit (exponent : Int) :
    ((1 <<< exponent.toNat : Nat) : ℚ) * (4 : ℚ) =
      (2 : ℚ) ^ exponent * ((4 <<< (-exponent).toNat : Nat) : ℚ) := by
  rw [Nat.shiftLeft_eq, Nat.shiftLeft_eq]
  rcases Int.eq_nat_or_neg exponent with ⟨k, rfl | rfl⟩
  · simp
  · simp
    field_simp

theorem holds_ofBinary (hmantissa : 0 < mantissa) :
    (ofBinary mantissa exponent narrow).Holds q ↔
      if mantissa % 2 = 0 then
        lowerEnd mantissa exponent narrow ≤ q ∧ q ≤ upperEnd mantissa exponent
      else lowerEnd mantissa exponent narrow < q ∧ q < upperEnd mantissa exponent := by
  have hdenominator : (0 : ℚ) < (4 <<< (-exponent).toNat : Nat) := by
    rw [Nat.shiftLeft_eq]
    positivity
  have hunit := cast_unit exponent
  have hlower : (((4 * mantissa - if narrow then 1 else 2) * 1 <<< exponent.toNat : Nat) : ℚ) =
      lowerEnd mantissa exponent narrow * (4 <<< (-exponent).toNat : Nat) := by
    have hgap : (if narrow then 1 else 2) ≤ 4 * mantissa := by
      split <;> omega
    rw [lowerEnd, Nat.cast_mul, Nat.cast_sub hgap]
    push_cast
    linear_combination (4 * mantissa - if narrow then 1 else 2 : ℚ) / 4 * hunit
  have hupper : (((4 * mantissa + 2) * 1 <<< exponent.toNat : Nat) : ℚ) =
      upperEnd mantissa exponent * (4 <<< (-exponent).toNat : Nat) := by
    rw [upperEnd, Nat.cast_mul]
    push_cast
    linear_combination (4 * mantissa + 2 : ℚ) / 4 * hunit
  unfold Holds ofBinary
  dsimp only
  rw [hlower, hupper, mul_le_mul_iff_left₀ hdenominator, mul_le_mul_iff_left₀ hdenominator,
    mul_lt_mul_iff_left₀ hdenominator, mul_lt_mul_iff_left₀ hdenominator]
  simp only [beq_iff_eq]

/-- A mantissa of 53 bits has a numeral in its interval, and not the numeral zero. -/
theorem holds_shortest_ofBinary (hmantissa : 0 < mantissa) (hprecision : mantissa < 2 ^ 53) :
    (ofBinary mantissa exponent narrow).Holds
      ((ofBinary mantissa exponent narrow).shortest.1 *
        10 ^ (ofBinary mantissa exponent narrow).shortest.2) := by
  have hunit : 0 < 1 <<< exponent.toNat := by
    rw [Nat.shiftLeft_eq]
    positivity
  have hdenominator : 0 < 4 <<< (-exponent).toNat := by
    rw [Nat.shiftLeft_eq]
    positivity
  apply holds_shortest
  · exact hdenominator
  · exact Nat.mul_pos (Nat.mul_pos (by decide) hmantissa) hunit
  · exact Nat.mul_le_mul_right _ (Nat.sub_le _ _)
  · exact Nat.mul_le_mul_right _ (by omega)
  · have hgap : (4 * mantissa + 2) * 1 <<< exponent.toNat -
        4 * mantissa * 1 <<< exponent.toNat = 2 * 1 <<< exponent.toNat := by
      rw [← Nat.sub_mul, Nat.add_sub_cancel_left]
    unfold ofBinary
    dsimp only
    rw [hgap, ← Nat.mul_assoc]
    exact Nat.mul_le_mul_right _ (by omega)

theorem pos_of_holds_ofBinary (hmantissa : 0 < mantissa)
    (h : (ofBinary mantissa exponent narrow).Holds q) : 0 < q := by
  have hlower : 0 < lowerEnd mantissa exponent narrow := by
    have hone : (1 : ℚ) ≤ mantissa := by exact_mod_cast hmantissa
    unfold lowerEnd
    refine mul_pos (div_pos ?_ (by norm_num)) (by positivity)
    split <;> linarith
  rw [holds_ofBinary hmantissa] at h
  split at h
  · exact hlower.trans_le h.1
  · exact hlower.trans h.1

end Binary

end Cql.Text.RoundingInterval

namespace Cql.Floating

open Text RoundingInterval

/-! The numbers of one sign and their intervals, by the fields for exponent and fraction as one
number. -/

section Counting

variable {fractionBits exponentBits n : Nat} {q : ℚ}

def mantissa (fractionBits n : Nat) : Nat :=
  if n / 2 ^ fractionBits = 0 then n % 2 ^ fractionBits else 2 ^ fractionBits + n % 2 ^ fractionBits

def power (fractionBits exponentBits n : Nat) : Int :=
  max (n / 2 ^ fractionBits : Nat) 1 - ((1 <<< (exponentBits - 1) : Nat) - 1 + fractionBits)

def isNarrow (fractionBits n : Nat) : Bool :=
  n % 2 ^ fractionBits == 0 && 1 < n / 2 ^ fractionBits

def interval (fractionBits exponentBits n : Nat) : RoundingInterval :=
  ofBinary (mantissa fractionBits n) (power fractionBits exponentBits n) (isNarrow fractionBits n)

theorem fields_succ (unit n : Nat) (hunit : 0 < unit) :
    ((n + 1) / unit = n / unit ∧ (n + 1) % unit = n % unit + 1) ∨
      (n % unit + 1 = unit ∧ (n + 1) / unit = n / unit + 1 ∧ (n + 1) % unit = 0) := by
  have hn := Nat.mod_add_div n unit
  have hlt := Nat.mod_lt n hunit
  by_cases hlast : n % unit + 1 = unit
  · refine .inr ⟨hlast, (Nat.div_mod_unique hunit).mpr ⟨?_, hunit⟩⟩
    rw [Nat.mul_succ]
    omega
  · refine .inl ((Nat.div_mod_unique hunit).mpr ⟨?_, by omega⟩)
    omega

theorem mantissa_pos (hn : 0 < n) : 0 < mantissa fractionBits n := by
  unfold mantissa
  split
  · rename_i h
    have := Nat.mod_add_div n (2 ^ fractionBits)
    rw [h] at this
    omega
  · positivity

theorem mantissa_lt (n : Nat) : mantissa fractionBits n < 2 ^ (fractionBits + 1) := by
  have hlt := Nat.mod_lt n (Nat.two_pow_pos fractionBits)
  unfold mantissa
  rw [Nat.pow_succ]
  split <;> omega

theorem mantissa_mod_two (hfraction : 0 < fractionBits) (n : Nat) :
    mantissa fractionBits n % 2 = n % 2 := by
  obtain ⟨k, rfl⟩ := Nat.exists_eq_add_of_lt hfraction
  have hn := Nat.mod_add_div n (2 ^ (0 + k + 1))
  have hhalf : 2 ^ (0 + k + 1) = 2 * 2 ^ k := by ring
  have heven : 2 ^ (0 + k + 1) * (n / 2 ^ (0 + k + 1)) = 2 * (2 ^ k * (n / 2 ^ (0 + k + 1))) := by
    rw [hhalf, Nat.mul_assoc]
  unfold mantissa
  split <;> omega

def lowest (fractionBits exponentBits n : Nat) : ℚ :=
  lowerEnd (mantissa fractionBits n) (power fractionBits exponentBits n) (isNarrow fractionBits n)

def highest (fractionBits exponentBits n : Nat) : ℚ :=
  upperEnd (mantissa fractionBits n) (power fractionBits exponentBits n)

theorem holds_interval (hfraction : 0 < fractionBits) (hn : 0 < n) :
    (interval fractionBits exponentBits n).Holds q ↔
      if n % 2 = 0 then
        lowest fractionBits exponentBits n ≤ q ∧ q ≤ highest fractionBits exponentBits n
      else lowest fractionBits exponentBits n < q ∧ q < highest fractionBits exponentBits n := by
  rw [interval, holds_ofBinary (mantissa_pos hn), mantissa_mod_two hfraction]
  rfl

/-- The next number has the next mantissa, or the gap to it is the first one of a greater power. -/
theorem next_cases (n : Nat) :
    (mantissa fractionBits (n + 1) = mantissa fractionBits n + 1 ∧
        power fractionBits exponentBits (n + 1) = power fractionBits exponentBits n ∧
        isNarrow fractionBits (n + 1) = false) ∨
      (mantissa fractionBits n + 1 = 2 * 2 ^ fractionBits ∧
        mantissa fractionBits (n + 1) = 2 ^ fractionBits ∧
        power fractionBits exponentBits (n + 1) = power fractionBits exponentBits n + 1 ∧
        isNarrow fractionBits (n + 1) = true) := by
  rcases fields_succ (2 ^ fractionBits) n (Nat.two_pow_pos _) with ⟨hexponent, hfraction⟩ |
    ⟨hlast, hexponent, hfraction⟩
  -- the next fraction, with the same exponent
  · left
    refine ⟨?_, by rw [power, power, hexponent], by simp [isNarrow, hfraction]⟩
    unfold mantissa
    rw [hexponent, hfraction]
    split <;> omega
  -- the fraction is at its end
  · have hmantissa : mantissa fractionBits (n + 1) = 2 ^ fractionBits := by
      simp [mantissa, hexponent, hfraction]
    by_cases hzero : n / 2 ^ fractionBits = 0
    · left
      have hbefore : mantissa fractionBits n + 1 = 2 ^ fractionBits := by
        simpa [mantissa, hzero] using hlast
      exact ⟨hmantissa.trans hbefore.symm, by simp [power, hexponent, hzero],
        by simp [isNarrow, hexponent, hzero]⟩
    · right
      have hbefore : mantissa fractionBits n + 1 = 2 * 2 ^ fractionBits := by
        simp only [mantissa, if_neg hzero]
        omega
      have hpower : power fractionBits exponentBits (n + 1) =
          power fractionBits exponentBits n + 1 := by
        unfold power
        rw [hexponent]
        generalize n / 2 ^ fractionBits = field at hzero
        omega
      exact ⟨hbefore, hmantissa, hpower,
        by simp [isNarrow, hexponent, hfraction, Nat.pos_of_ne_zero hzero]⟩

/-- The interval of a number ends where the next one begins. -/
theorem highest_eq_lowest_succ (n : Nat) :
    highest fractionBits exponentBits n = lowest fractionBits exponentBits (n + 1) := by
  unfold highest lowest
  rcases next_cases n with ⟨hmantissa, hpower, hnarrow⟩ | ⟨hbefore, hmantissa, hpower, hnarrow⟩
  · rw [hmantissa, hpower, hnarrow, upperEnd, lowerEnd]
    push_cast
    ring
  · have hcast : (mantissa fractionBits n : ℚ) = 2 * 2 ^ fractionBits - 1 := by
      rw [eq_sub_iff_add_eq]
      exact_mod_cast hbefore
    rw [hmantissa, hpower, hnarrow, upperEnd, lowerEnd, hcast, zpow_add_one₀ (by norm_num)]
    push_cast
    simp only [if_true]
    ring

theorem highest_le_lowest {m : Nat} (h : n < m) :
    highest fractionBits exponentBits n ≤ lowest fractionBits exponentBits m := by
  induction m with
  | zero => omega
  | succ m ih =>
    rw [← highest_eq_lowest_succ]
    rcases Nat.lt_succ_iff_lt_or_eq.mp h with hlt | rfl
    · exact (ih hlt).trans lowerEnd_lt_upperEnd.le
    · exact le_rfl

/-- A number lies in one interval at most. -/
theorem not_holds_of_lt {m : Nat} (hfraction : 0 < fractionBits) (hn : 0 < n) (hlt : n < m)
    (hq : (interval fractionBits exponentBits n).Holds q) :
    ¬ (interval fractionBits exponentBits m).Holds q := by
  intro hq'
  rw [holds_interval hfraction hn] at hq
  rw [holds_interval hfraction (hn.trans hlt)] at hq'
  have hle : highest fractionBits exponentBits n ≤ lowest fractionBits exponentBits m :=
    highest_le_lowest hlt
  rcases Nat.lt_or_eq_of_le (Nat.succ_le_of_lt hlt) with hbetween | rfl
  -- the whole interval of the next number lies between the two
  · have hnext : highest fractionBits exponentBits n < lowest fractionBits exponentBits m := by
      rw [highest_eq_lowest_succ]
      exact lowerEnd_lt_upperEnd.trans_le (highest_le_lowest hbetween)
    split at hq <;> split at hq' <;> linarith [hq.1, hq.2, hq'.1, hq'.2]
  -- the common end belongs to one of them
  · by_cases heven : n % 2 = 0
    · rw [if_pos heven] at hq
      rw [if_neg (by omega)] at hq'
      linarith [hq.2, hq'.1]
    · rw [if_neg heven] at hq
      rw [if_pos (by omega)] at hq'
      linarith [hq.2, hq'.1]

end Counting

section Texts

variable {x y : Floating}

def negative : Floating → Bool
  | notANumber => false
  | infinite negative | zero negative | finite negative _ _ => negative

/-- The literal without its sign. -/
def unsigned : Floating → List Char
  | notANumber => ['N', 'a', 'N']
  | infinite _ => ['I', 'n', 'f', 'i', 'n', 'i', 't', 'y']
  | zero _ => ['0']
  | finite _ digits exponent => positional (decimal digits) exponent

theorem literal_eq_signed (x : Floating) : x.literal = signed x.negative x.unsigned := by
  cases x with
  | notANumber => decide
  | infinite negative => cases negative <;> decide
  | zero negative | finite negative digits exponent => rfl

theorem numeric_literal (x : Floating) : Numeric x.literal := by
  have hunsigned : Numeric x.unsigned := by
    cases x with
    | notANumber | infinite | zero => simp [unsigned, Numeric]
    | finite negative digits exponent =>
      exact numeric_positional (numeric_decimal digits) exponent
  rw [literal_eq_signed]
  cases x.negative with
  | false => exact hunsigned
  | true => exact numeric_cons.mpr ⟨rfl, hunsigned⟩

theorem isDigit_of_isFinite (h : x.isFinite = true) {c : Char} (hc : c ∈ x.unsigned) :
    c.isDigit = true ∨ c = '.' := by
  cases x with
  | notANumber | infinite => cases h
  | zero negative =>
    obtain rfl := List.mem_singleton.mp hc
    exact .inl rfl
  | finite negative digits exponent =>
    rcases mem_positional hc with hc | rfl | rfl
    · exact .inl (isDigit_of_mem_decimal hc)
    · exact .inl rfl
    · exact .inr rfl

theorem minus_not_mem_unsigned (x : Floating) : '-' ∉ x.unsigned := by
  intro hc
  cases hfinite : x.isFinite with
  | true =>
    have hdigit := isDigit_of_isFinite hfinite hc
    revert hdigit
    decide
  | false =>
    cases x with
    | notANumber | infinite => simp [unsigned] at hc
    | zero | finite => cases hfinite

theorem isFinite_of_unsigned_eq (h : x.unsigned = y.unsigned) (hx : x.isFinite = true) :
    y.isFinite = true := by
  have hletter : ∀ c : Char, c = 'N' ∨ c = 'I' → c ∉ y.unsigned := by
    intro c hc hmem
    have hdigit := isDigit_of_isFinite hx (h ▸ hmem)
    revert hdigit
    rcases hc with rfl | rfl <;> decide
  cases y with
  | notANumber => exact absurd List.mem_cons_self (hletter _ (.inl rfl))
  | infinite => exact absurd List.mem_cons_self (hletter _ (.inr rfl))
  | zero | finite => rfl

theorem signed_inj {a b : Bool} {s t : List Char} (hs : '-' ∉ s) (ht : '-' ∉ t)
    (h : signed a s = signed b t) : a = b ∧ s = t := by
  cases a with
  | false =>
    cases b with
    | false => exact ⟨rfl, h⟩
    | true =>
      have hcons : s = '-' :: t := h
      simp [hcons] at hs
  | true =>
    cases b with
    | false =>
      have hcons : '-' :: s = t := h
      simp [← hcons] at ht
    | true => exact ⟨rfl, (List.cons.inj h).2⟩

/-- The literal tells the sign and the rest. -/
theorem literal_inj (h : x.literal = y.literal) :
    x.negative = y.negative ∧ x.unsigned = y.unsigned := by
  rw [literal_eq_signed, literal_eq_signed] at h
  exact signed_inj (minus_not_mem_unsigned x) (minus_not_mem_unsigned y) h

end Texts

section Fields

variable {fractionBits exponentBits a b : Nat}

/-- What the bits without the sign stand for. -/
def ofMagnitude (fractionBits exponentBits : Nat) (negative : Bool) (n : Nat) : Floating :=
  if n / 2 ^ fractionBits = 2 ^ exponentBits - 1 then
    if n % 2 ^ fractionBits = 0 then infinite negative else notANumber
  else if n = 0 then zero negative
  else
    finite negative (interval fractionBits exponentBits n).shortest.1
      (interval fractionBits exponentBits n).shortest.2

theorem mod_mod_fraction (fractionBits exponentBits bits : Nat) :
    bits % 2 ^ (fractionBits + exponentBits) % 2 ^ fractionBits = bits % 2 ^ fractionBits :=
  Nat.mod_mod_of_dvd bits (Nat.pow_dvd_pow 2 (Nat.le_add_right _ _))

theorem mod_div_fraction (fractionBits exponentBits bits : Nat) :
    bits % 2 ^ (fractionBits + exponentBits) / 2 ^ fractionBits =
      bits / 2 ^ fractionBits % 2 ^ exponentBits := by
  rw [Nat.pow_add, Nat.mod_mul_right_div_self]

theorem ofBits_eq (fractionBits exponentBits bits : Nat) :
    ofBits fractionBits exponentBits bits = ofMagnitude fractionBits exponentBits
      (bits / 2 ^ (fractionBits + exponentBits) % 2 == 1)
      (bits % 2 ^ (fractionBits + exponentBits)) := by
  have hfraction := mod_mod_fraction fractionBits exponentBits bits
  have hexponent := mod_div_fraction fractionBits exponentBits bits
  have hzero : bits % 2 ^ (fractionBits + exponentBits) = 0 ↔
      bits / 2 ^ fractionBits % 2 ^ exponentBits = 0 ∧ bits % 2 ^ fractionBits = 0 := by
    rw [← hexponent, ← hfraction]
    have hsplit := Nat.mod_add_div (bits % 2 ^ (fractionBits + exponentBits)) (2 ^ fractionBits)
    constructor
    · intro h
      simp [h]
    · rintro ⟨hdiv, hmod⟩
      rw [hdiv, hmod] at hsplit
      simpa using hsplit.symm
  unfold ofBits ofMagnitude
  simp only [Nat.shiftLeft_eq, Nat.shiftRight_eq_div_pow, Nat.one_mul, hzero, hfraction, hexponent]
  generalize bits / 2 ^ fractionBits % 2 ^ exponentBits = exponent at *
  generalize bits % 2 ^ fractionBits = fraction at *
  split
  · rfl
  · by_cases hexp : exponent = 0
    · simp only [hexp, if_true, true_and]
      split
      · rfl
      · simp [interval, mantissa, power, isNarrow, hexponent, hfraction, hexp, Nat.shiftLeft_eq]
    · simp only [hexp, if_false, false_and]
      have hmax : max (exponent : Int) 1 = exponent := by omega
      simp [interval, mantissa, power, isNarrow, hexponent, hfraction, hexp, hmax, Nat.shiftLeft_eq]

/-- The number that a finite text denotes, without its sign. -/
theorem reading_unsigned_finite (negative : Bool) (digits : Nat) (exponent : Int) :
    reading (finite negative digits exponent).unsigned = digits * (10 : ℚ) ^ exponent := by
  rw [unsigned, reading_positional fun c hc => isDigit_of_mem_decimal hc, decimal,
    Nat.ofDigitChars_ten_toDigits]

theorem reading_unsigned_zero (negative : Bool) : reading (zero negative).unsigned = 0 := by
  rw [unsigned, reading_of_digits (List.forall_mem_singleton.mpr rfl)]
  rfl

section Magnitude

variable {negative negative' : Bool} {n m : Nat}

/-- A finite number other than zero lies in its interval. -/
theorem holds_reading (hprecision : fractionBits ≤ 52) (hn : 0 < n)
    (hfinite : n / 2 ^ fractionBits ≠ 2 ^ exponentBits - 1) :
    (interval fractionBits exponentBits n).Holds
      (reading (ofMagnitude fractionBits exponentBits negative n).unsigned) := by
  rw [ofMagnitude, if_neg hfinite, if_neg hn.ne', reading_unsigned_finite]
  refine holds_shortest_ofBinary (mantissa_pos hn) ((mantissa_lt n).trans_le ?_)
  exact Nat.pow_le_pow_right (by decide) (by omega)

theorem reading_of_isFinite (hprecision : fractionBits ≤ 52)
    (hfinite : (ofMagnitude fractionBits exponentBits negative n).isFinite = true) :
    (n = 0 ∧ reading (ofMagnitude fractionBits exponentBits negative n).unsigned = 0) ∨
      (0 < n ∧ (interval fractionBits exponentBits n).Holds
        (reading (ofMagnitude fractionBits exponentBits negative n).unsigned)) := by
  have hexponent : n / 2 ^ fractionBits ≠ 2 ^ exponentBits - 1 := by
    intro hexponent
    rw [ofMagnitude, if_pos hexponent] at hfinite
    split at hfinite <;> cases hfinite
  rcases Nat.eq_zero_or_pos n with rfl | hn
  · left
    rw [ofMagnitude, if_neg hexponent, if_pos rfl, reading_unsigned_zero]
    exact ⟨rfl, rfl⟩
  · exact .inr ⟨hn, holds_reading hprecision hn hexponent⟩

/-- A numeral lies in one interval at most, and zero lies in none. -/
theorem eq_of_isFinite (hfraction : 0 < fractionBits) (hprecision : fractionBits ≤ 52)
    (h : (ofMagnitude fractionBits exponentBits negative n).unsigned =
      (ofMagnitude fractionBits exponentBits negative' m).unsigned)
    (hfinite : (ofMagnitude fractionBits exponentBits negative n).isFinite = true) : n = m := by
  have hfinite' := isFinite_of_unsigned_eq h hfinite
  have hpos : ∀ k, 0 < k → ∀ q, (interval fractionBits exponentBits k).Holds q → 0 < q :=
    fun k hk q hq => pos_of_holds_ofBinary (mantissa_pos hk) hq
  rcases reading_of_isFinite hprecision hfinite with ⟨hn, hzero⟩ | ⟨hn, hholds⟩
  · rcases reading_of_isFinite hprecision hfinite' with ⟨hm, _⟩ | ⟨hm, hholds'⟩
    · rw [hn, hm]
    · rw [← h, hzero] at hholds'
      exact absurd (hpos m hm 0 hholds') (lt_irrefl _)
  · rcases reading_of_isFinite hprecision hfinite' with ⟨hm, hzero'⟩ | ⟨hm, hholds'⟩
    · rw [h, hzero'] at hholds
      exact absurd (hpos n hn 0 hholds) (lt_irrefl _)
    · rw [← h] at hholds'
      rcases Nat.lt_trichotomy n m with hlt | heq | hlt
      · exact absurd hholds' (not_holds_of_lt hfraction hn hlt hholds)
      · exact heq
      · exact absurd hholds (not_holds_of_lt hfraction hm hlt hholds')

theorem eq_of_not_isFinite
    (hfinite : (ofMagnitude fractionBits exponentBits negative n).isFinite = false) :
    (n = 2 ^ fractionBits * (2 ^ exponentBits - 1) ∧
        ofMagnitude fractionBits exponentBits negative n = infinite negative) ∨
      ofMagnitude fractionBits exponentBits negative n = notANumber := by
  unfold ofMagnitude at *
  split at hfinite
  · rename_i hexponent
    rw [if_pos hexponent]
    split
    · rename_i hmod
      have hsplit := Nat.mod_add_div n (2 ^ fractionBits)
      rw [hmod, hexponent, Nat.zero_add] at hsplit
      exact .inl ⟨hsplit.symm, rfl⟩
    · exact .inr rfl
  · split at hfinite <;> cases hfinite

/-- Numbers are told apart by their texts, apart from undefined ones. -/
theorem ofMagnitude_inj (hfraction : 0 < fractionBits) (hprecision : fractionBits ≤ 52)
    (h : (ofMagnitude fractionBits exponentBits negative n).unsigned =
      (ofMagnitude fractionBits exponentBits negative' m).unsigned) :
    n = m ∨ (ofMagnitude fractionBits exponentBits negative n = notANumber ∧
      ofMagnitude fractionBits exponentBits negative' m = notANumber) := by
  cases hfinite : (ofMagnitude fractionBits exponentBits negative n).isFinite with
  | true => exact .inl (eq_of_isFinite hfraction hprecision h hfinite)
  | false =>
    have hfinite' : (ofMagnitude fractionBits exponentBits negative' m).isFinite = false := by
      rw [← Bool.not_eq_true]
      intro htrue
      rw [isFinite_of_unsigned_eq h.symm htrue] at hfinite
      cases hfinite
    rcases eq_of_not_isFinite hfinite with ⟨hn, hx⟩ | hx <;>
      rcases eq_of_not_isFinite hfinite' with ⟨hm, hy⟩ | hy
    · exact .inl (hn.trans hm.symm)
    · rw [hx, hy] at h
      cases h
    · rw [hx, hy] at h
      cases h
    · exact .inr ⟨hx, hy⟩

end Magnitude

theorem negative_ofMagnitude {negative : Bool} {n : Nat}
    (h : ofMagnitude fractionBits exponentBits negative n ≠ notANumber) :
    (ofMagnitude fractionBits exponentBits negative n).negative = negative := by
  unfold ofMagnitude at *
  split
  · split
    · rfl
    · simp_all
  · split <;> rfl

theorem ofMagnitude_eq_notANumber_iff {negative : Bool} {n : Nat} :
    ofMagnitude fractionBits exponentBits negative n = notANumber ↔
      n / 2 ^ fractionBits = 2 ^ exponentBits - 1 ∧ n % 2 ^ fractionBits ≠ 0 := by
  unfold ofMagnitude
  split
  · split <;> simp_all
  · split <;> simp_all

/-- Bits are told apart by the texts of the numbers, apart from those of undefined ones. -/
theorem ofBits_inj (hfraction : 0 < fractionBits) (hprecision : fractionBits ≤ 52)
    (ha : a < 2 ^ (fractionBits + exponentBits) * 2)
    (hb : b < 2 ^ (fractionBits + exponentBits) * 2)
    (h : (ofBits fractionBits exponentBits a).literal =
      (ofBits fractionBits exponentBits b).literal) :
    a = b ∨ (ofBits fractionBits exponentBits a = notANumber ∧
      ofBits fractionBits exponentBits b = notANumber) := by
  obtain ⟨hnegative, hunsigned⟩ := literal_inj h
  rw [ofBits_eq, ofBits_eq] at *
  rcases ofMagnitude_inj hfraction hprecision hunsigned with hmod | hnan
  · by_cases hnan :
        a % 2 ^ (fractionBits + exponentBits) / 2 ^ fractionBits = 2 ^ exponentBits - 1 ∧
          a % 2 ^ (fractionBits + exponentBits) % 2 ^ fractionBits ≠ 0
    · refine .inr ⟨ofMagnitude_eq_notANumber_iff.mpr hnan, ?_⟩
      rw [hmod] at hnan
      exact ofMagnitude_eq_notANumber_iff.mpr hnan
    · left
      rw [negative_ofMagnitude fun h => hnan (ofMagnitude_eq_notANumber_iff.mp h),
        negative_ofMagnitude fun h => hnan (hmod ▸ ofMagnitude_eq_notANumber_iff.mp h)] at hnegative
      have ha' := Nat.mod_add_div a (2 ^ (fractionBits + exponentBits))
      have hb' := Nat.mod_add_div b (2 ^ (fractionBits + exponentBits))
      have hsign := Nat.div_lt_of_lt_mul ha
      have hsign' := Nat.div_lt_of_lt_mul hb
      have hdiv :
          a / 2 ^ (fractionBits + exponentBits) = b / 2 ^ (fractionBits + exponentBits) := by
        rw [Bool.eq_iff_iff, beq_iff_eq, beq_iff_eq] at hnegative
        generalize a / 2 ^ (fractionBits + exponentBits) = i at *
        generalize b / 2 ^ (fractionBits + exponentBits) = j at *
        omega
      rw [← ha', ← hb', hmod, hdiv]
  · exact .inr hnan

end Fields

section Formats

open Float.Model

/-- The undefined numbers have ones as their exponent and some fraction. -/
theorem unpack_eq_notANumber_iff {spec : Format} {bits : BitVec spec.numBits} :
    UnpackedFloat.unpack spec bits = .notANumber ↔
      UnpackedFloat.unpackExponent bits = -BitVec.ofNat spec.exponentBits 1 ∧
        UnpackedFloat.unpackMantissa bits ≠
          BitVec.ofNat spec.mantissaBitsWithoutImplicit 0 := by
  unfold UnpackedFloat.unpack
  by_cases hones : UnpackedFloat.unpackExponent bits = -BitVec.ofNat spec.exponentBits 1
  · rw [if_pos hones]
    by_cases hzero : UnpackedFloat.unpackMantissa bits =
        BitVec.ofNat spec.mantissaBitsWithoutImplicit 0
    · rw [if_pos hzero]
      exact iff_of_false UnpackedFloat.noConfusion fun h => h.2 hzero
    · rw [if_neg hzero]
      exact ⟨fun _ => ⟨hones, hzero⟩, fun _ => rfl⟩
  · rw [if_neg hones]
    refine ⟨fun h => ?_, fun h => absurd h.1 hones⟩
    by_cases hzero : UnpackedFloat.unpackExponent bits = BitVec.ofNat spec.exponentBits 0
    · rw [if_pos hzero] at h
      by_cases hmantissa : UnpackedFloat.unpackMantissa bits =
          BitVec.ofNat spec.mantissaBitsWithoutImplicit 0
      · rw [dif_pos hmantissa] at h
        cases h
      · rw [dif_neg hmantissa] at h
        cases h
    · rw [if_neg hzero] at h
      cases h

theorem ofBits_eq_notANumber_iff {spec : Format} {bits : BitVec spec.numBits} :
    ofBits spec.mantissaBitsWithoutImplicit spec.exponentBits bits.toNat = notANumber ↔
      UnpackedFloat.unpack spec bits = .notANumber := by
  have hexponent : UnpackedFloat.unpackExponent bits = -BitVec.ofNat spec.exponentBits 1 ↔
      bits.toNat / 2 ^ spec.mantissaBitsWithoutImplicit % 2 ^ spec.exponentBits =
        2 ^ spec.exponentBits - 1 := by
    have hwidth : spec.mantissaBitsWithoutImplicit + spec.exponentBits - 1 -
        spec.mantissaBitsWithoutImplicit + 1 = spec.exponentBits := by
      have := spec.he
      omega
    rw [← BitVec.toNat_inj, BitVec.neg_one_eq_allOnes, BitVec.toNat_allOnes,
      UnpackedFloat.unpackExponent, BitVec.toNat_cast, BitVec.extractLsb_toNat, hwidth,
      Nat.shiftRight_eq_div_pow]
  have hmantissa : UnpackedFloat.unpackMantissa bits =
      BitVec.ofNat spec.mantissaBitsWithoutImplicit 0 ↔
      bits.toNat % 2 ^ spec.mantissaBitsWithoutImplicit = 0 := by
    have hwidth : spec.mantissaBitsWithoutImplicit - 1 - 0 + 1 =
        spec.mantissaBitsWithoutImplicit := by
      have := spec.hm
      omega
    rw [← BitVec.toNat_inj, UnpackedFloat.unpackMantissa, BitVec.toNat_cast,
      BitVec.extractLsb_toNat, hwidth, Nat.shiftRight_zero, BitVec.toNat_ofNat, Nat.zero_mod]
  rw [ofBits_eq, ofMagnitude_eq_notANumber_iff, mod_mod_fraction, mod_div_fraction, ← hexponent,
    ne_eq, ← hmantissa, unpack_eq_notANumber_iff]

theorem isNaN_iff {a : UnpackedFloat} : a.isNaN = true ↔ a = .notANumber := by
  constructor
  · intro h
    cases a with
    | notANumber => rfl
    | _ => cases h
  · rintro rfl
    rfl

section Double

variable {x y : Float}

theorem ofFloat_eq_notANumber_iff : ofFloat x = notANumber ↔ x.isNaN = true :=
  (@ofBits_eq_notANumber_iff Format.binary64 x.toModel.toBits.toBitVec).trans isNaN_iff.symm

/-- The literal tells the number, apart from an undefined one. -/
theorem ofFloat_inj (h : (ofFloat x).literal = (ofFloat y).literal) :
    x = y ∨ (x.isNaN = true ∧ y.isNaN = true) := by
  rcases ofBits_inj (by decide) (by decide) x.toBits.toNat_lt y.toBits.toNat_lt h with
    hbits | ⟨hx, hy⟩
  · left
    obtain ⟨⟨bits, _⟩⟩ := x
    obtain ⟨⟨bits', _⟩⟩ := y
    obtain rfl : bits = bits' := UInt64.toNat_inj.mp hbits
    rfl
  · exact .inr ⟨ofFloat_eq_notANumber_iff.mp hx, ofFloat_eq_notANumber_iff.mp hy⟩

theorem beq_self_of_isNaN (h : x.isNaN = false) : (x == x) = true := by
  refine beq_iff.mpr (.inl ⟨rfl, fun hnan => ?_⟩)
  rw [show x.isNaN = true from isNaN_iff.mpr hnan] at h
  cases h

end Double

section Single

variable {x y : Float32}

theorem ofFloat32_eq_notANumber_iff : ofFloat32 x = notANumber ↔ x.isNaN = true :=
  (@ofBits_eq_notANumber_iff Format.binary32 x.toModel.toBits.toBitVec).trans isNaN_iff.symm

theorem ofFloat32_inj (h : (ofFloat32 x).literal = (ofFloat32 y).literal) :
    x = y ∨ (x.isNaN = true ∧ y.isNaN = true) := by
  rcases ofBits_inj (by decide) (by decide) x.toBits.toNat_lt y.toBits.toNat_lt h with
    hbits | ⟨hx, hy⟩
  · left
    obtain ⟨⟨bits, _⟩⟩ := x
    obtain ⟨⟨bits', _⟩⟩ := y
    obtain rfl : bits = bits' := UInt32.toNat_inj.mp hbits
    rfl
  · exact .inr ⟨ofFloat32_eq_notANumber_iff.mp hx, ofFloat32_eq_notANumber_iff.mp hy⟩

theorem beq_self_of_isNaN32 (h : x.isNaN = false) : (x == x) = true := by
  refine beq_iff.mpr (.inl ⟨rfl, fun hnan => ?_⟩)
  rw [show x.isNaN = true from isNaN_iff.mpr hnan] at h
  cases h

end Single

end Formats

end Cql.Floating
