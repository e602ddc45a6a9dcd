import Cql.Value.Decimal
import Cql.Proofs.Text.Positional

/-!
The texts of decimals. A decimal is read back from its text with the same scale; only a zero loses
its sign, so decimals of one text denote one number.
-/

namespace Cql.Decimal

open Text

variable {a b : Decimal}

/-- The digits before and behind the point. -/
theorem exists_digits (d : Decimal) : ∃ whole fraction : List Char,
    whole ≠ [] ∧ fraction.length = d.scale ∧ (∀ c ∈ whole ++ fraction, c.isDigit = true) ∧
      Nat.ofDigitChars 10 (whole ++ fraction) 0 = d.magnitude ∧
      d.magnitudeText = if fraction.isEmpty then whole else whole ++ '.' :: fraction := by
  have hlength : d.scale + 1 ≤ (padded (d.scale + 1) d.magnitude).length := by
    rw [padded, List.length_leftpad]
    omega
  refine ⟨_, _, ?_, ?_, ?_, ?_, rfl⟩
  · rw [ne_eq, List.take_eq_nil_iff]
    rintro (hzero | hnil)
    · omega
    · rw [hnil] at hlength
      cases hlength
  · rw [List.length_drop]
    omega
  · rw [List.take_append_drop]
    exact fun c hc => isDigit_of_mem_padded hc
  · rw [List.take_append_drop, padded, ofDigitChars_leftpad, decimal, Nat.ofDigitChars_ten_toDigits]

theorem numeric_toText (d : Decimal) : Numeric d.toText := by
  have hmagnitude : Numeric d.magnitudeText := by
    obtain ⟨whole, fraction, _, _, hdigits, _, htext⟩ := exists_digits d
    obtain ⟨hwhole, hfraction⟩ := numeric_append.mp (numeric_of_digits hdigits)
    rw [htext]
    split
    · exact hwhole
    · exact numeric_append.mpr ⟨hwhole, numeric_cons.mpr ⟨rfl, hfraction⟩⟩
  unfold toText
  split
  · exact numeric_cons.mpr ⟨rfl, hmagnitude⟩
  · exact hmagnitude

section Reading

/-- The decimal that its numeral stands for: a zero has no sign in it. -/
def plain (d : Decimal) : Decimal :=
  { d with negative := d.negative && d.magnitude != 0 }

theorem coefficient_plain (d : Decimal) : d.plain.coefficient = d.coefficient := by
  unfold coefficient plain
  by_cases hzero : d.magnitude = 0
  · simp [hzero]
  · simp [hzero]

theorem sameNumber_plain (d : Decimal) : d.sameNumber d.plain = true := by
  rw [sameNumber, coefficient_plain]
  exact beq_self_eq_true _

/-- Only a zero has a sign that its numeral does not tell. -/
theorem plain_eq_or (d : Decimal) : d.plain = d ∨ d.negative = true ∧ d.magnitude = 0 := by
  obtain ⟨negative, magnitude, scale, hmagnitude, hscale⟩ := d
  cases negative with
  | false => exact .inl rfl
  | true =>
    by_cases hzero : magnitude = 0
    · exact .inr ⟨rfl, hzero⟩
    · refine .inl ?_
      simp [plain, hzero]

variable {s : List Char} {magnitude scale : Nat}

theorem le_ofDigitChars (s : List Char) (magnitude : Nat) :
    magnitude ≤ Nat.ofDigitChars 10 s magnitude := by
  induction s generalizing magnitude with
  | nil => exact Nat.le_refl _
  | cons c s ih =>
    rw [Nat.ofDigitChars_cons]
    exact Nat.le_trans (by omega) (ih _)

theorem readDigits_whole (any : Bool) (hs : ∀ c ∈ s, c.isDigit = true)
    (hlimit : Nat.ofDigitChars 10 s magnitude < limit) (rest : List Char) :
    readDigits magnitude 0 any false (s ++ rest) =
      readDigits (Nat.ofDigitChars 10 s magnitude) 0 (any || !s.isEmpty) false rest := by
  induction s generalizing magnitude any with
  | nil => simp
  | cons c s ih =>
    rw [Nat.ofDigitChars_cons, Nat.mul_comm] at hlimit
    have hnext := Nat.lt_of_le_of_lt (le_ofDigitChars s _) hlimit
    rw [List.cons_append, readDigits, if_pos (hs c (by simp)), if_pos ⟨hnext, by decide⟩,
      Nat.ofDigitChars_cons, Nat.mul_comm 10, List.isEmpty_cons, Bool.not_false, Bool.or_true]
    exact ih true (fun d hd => hs d (by simp [hd])) hlimit

theorem readDigits_fraction (hs : ∀ c ∈ s, c.isDigit = true)
    (hlimit : Nat.ofDigitChars 10 s magnitude < limit) (hscale : scale + s.length ≤ 28) :
    readDigits magnitude scale true true s =
      some (Nat.ofDigitChars 10 s magnitude, scale + s.length) := by
  induction s generalizing magnitude scale with
  | nil => rfl
  | cons c s ih =>
    rw [Nat.ofDigitChars_cons, Nat.mul_comm] at hlimit
    have hnext := Nat.lt_of_le_of_lt (le_ofDigitChars s _) hlimit
    rw [List.length_cons] at hscale ⊢
    rw [readDigits, if_pos (hs c (by simp)), if_pos ⟨hnext, by omega⟩, if_pos rfl,
      Nat.ofDigitChars_cons, Nat.mul_comm 10, ← Nat.add_assoc, Nat.add_right_comm]
    exact ih (fun d hd => hs d (by simp [hd])) hlimit (by omega)

theorem readDigits_magnitudeText (d : Decimal) :
    readDigits 0 0 false false d.magnitudeText = some (d.magnitude, d.scale) := by
  obtain ⟨whole, fraction, hne, hscale, hdigits, hmagnitude, htext⟩ := exists_digits d
  have hlimit := d.magnitude_lt
  rw [← hmagnitude, Nat.ofDigitChars_append] at hlimit ⊢
  have hwhole := Nat.lt_of_le_of_lt (le_ofDigitChars fraction _) hlimit
  have hread := readDigits_whole false (fun c hc => hdigits c (by simp [hc])) hwhole
  have hany : (false || !whole.isEmpty) = true := by simpa using hne
  rw [hany] at hread
  rw [htext, ← hscale]
  cases fraction with
  | nil => simpa [readDigits] using hread []
  | cons c fraction =>
    have hle := d.scale_le
    have hfraction := readDigits_fraction (fun d hd => hdigits d (by simp [hd])) hlimit
      (by omega : 0 + (c :: fraction).length ≤ 28)
    rw [List.isEmpty_cons, if_neg (by decide), hread, readDigits, if_neg (by decide),
      if_neg (by decide), if_pos ⟨rfl, rfl⟩, hfraction, Nat.zero_add]

theorem magnitudeText_eq_cons (d : Decimal) :
    ∃ c s, d.magnitudeText = c :: s ∧ c.isDigit = true := by
  obtain ⟨whole, fraction, hne, _, hdigits, _, htext⟩ := exists_digits d
  obtain ⟨c, s, rfl⟩ := List.exists_cons_of_ne_nil hne
  have hc := hdigits c (by simp)
  rw [htext]
  split
  · exact ⟨c, s, rfl, hc⟩
  · exact ⟨c, s ++ '.' :: fraction, rfl, hc⟩

/-- A decimal is read back from its text, except for the sign of a zero. -/
theorem ofText?_toText (d : Decimal) : ofText? d.toText = some d.plain := by
  have hmake : ∀ negative : Bool, d.negative = negative →
      make? (negative && d.magnitude != 0) d.magnitude d.scale = some d.plain := by
    rintro _ rfl
    exact dif_pos ⟨d.magnitude_lt, d.scale_le⟩
  have hread := readDigits_magnitudeText d
  have hplain : ofPlain? d.toText = some d.plain := by
    unfold toText
    split
    · rename_i hnegative
      rw [ofPlain?]
      simp only [hread, Option.bind_eq_bind, Option.bind_some]
      exact hmake true hnegative
    · rename_i hnegative
      obtain ⟨c, s, hcons, hc⟩ := magnitudeText_eq_cons d
      rw [hcons] at hread ⊢
      unfold ofPlain?
      split
      · rename_i heq
        obtain ⟨rfl, _⟩ := List.cons.inj heq
        cases hc
      · rename_i heq
        obtain ⟨rfl, _⟩ := List.cons.inj heq
        cases hc
      · simp only [hread, Option.bind_eq_bind, Option.bind_some]
        exact hmake false (by simpa using hnegative)
  rw [ofText?, hplain]
  rfl

/-- Decimals of one text denote one number. -/
theorem sameNumber_of_toText (h : a.toText = b.toText) : a.sameNumber b = true := by
  have hplain : a.plain = b.plain := by
    have hread := ofText?_toText a
    rw [h, ofText?_toText] at hread
    exact (Option.some.inj hread).symm
  have hscale : a.plain.scale = b.plain.scale := by rw [hplain]
  change a.scale = b.scale at hscale
  rw [sameNumber, ← coefficient_plain a, ← coefficient_plain b, hplain, hscale]
  exact beq_self_eq_true _

end Reading

end Cql.Decimal
