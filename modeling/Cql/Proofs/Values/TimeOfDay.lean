import Cql.Value.Timestamp
import Cql.Proofs.Values.Date

/-!
What the text of a time of day tells of it. The clock has two digits for each of its parts, and the
fraction of a second is read back from as many digits as it needs. So two times have one text only
if one of them is a leap second in the middle of a minute, which the clock shows as the next second.
-/

namespace Cql

open Text

section Fraction

variable {width n : Nat} {rest : List Char}

/-- The digits count from the left, so fewer of them stand for a multiple. -/
theorem Timestamp.takeFraction?_padded (hn : n < 10 ^ width) (hpos : 0 < width) (hwidth : width ≤ 9)
    (hrest : ∀ c ∈ rest.head?, c.isDigit = false) :
    takeFraction? ('.' :: (padded width n ++ rest)) = some (n * 10 ^ (9 - width), rest) := by
  have hlength := length_padded hn hpos
  have hkept : (padded width n).take 9 = padded width n :=
    List.take_of_length_le (by rw [hlength]; exact hwidth)
  rw [takeFraction?, takeWhile_isDigit_append (fun c hc => isDigit_of_mem_padded hc) hrest]
  simp only [hkept, digits?_padded, Option.bind_eq_bind, Option.bind_some, hlength,
    List.drop_left' hlength]
  rfl

theorem TimeOfDay.takeFraction?_fractionText {fraction : Nat} (h : fraction < 1000000000) :
    Timestamp.takeFraction? (fractionText fraction) = some (fraction, []) := by
  have hread : ∀ {places k : Nat}, k < 10 ^ places → 0 < places → places ≤ 9 →
      k * 10 ^ (9 - places) = fraction →
      Timestamp.takeFraction? ('.' :: padded places k) = some (fraction, []) := by
    intro places k hk hpos hplaces hfraction
    have hnil : ∀ c ∈ ([] : List Char).head?, c.isDigit = false := by simp
    simpa [hfraction] using Timestamp.takeFraction?_padded hk hpos hplaces hnil
  unfold fractionText
  split
  · rename_i hzero
    rw [hzero]
    rfl
  · split
    · exact hread (by omega) (by decide) (by decide) (by omega)
    · split
      · exact hread (by omega) (by decide) (by decide) (by omega)
      · exact hread (by omega) (by decide) (by decide) (by omega)

end Fraction

namespace TimeOfDay

variable {t u : TimeOfDay}

theorem parts_lt (t : TimeOfDay) : t.hour < 24 ∧ t.minute < 60 ∧ t.clockSecond ≤ 60 ∧
    t.fraction < 1000000000 := by
  have := t.seconds_lt
  have := t.nanos_lt
  unfold hour minute clockSecond fraction
  omega

/-- The first time is a leap second in the middle of a minute, and the second time lies as far into
the second after it. -/
def LeapsInto (t u : TimeOfDay) : Prop :=
  t.nanos = u.nanos + 1000000000 ∧ u.seconds = t.seconds + 1 ∧ t.seconds % 60 ≠ 59

/-- The clock and the fraction tell the time, also in a leap second at the end of a minute. -/
theorem eq_or_leapsInto_of_parts (hhour : t.hour = u.hour) (hminute : t.minute = u.minute)
    (hsecond : t.clockSecond = u.clockSecond) (hfraction : t.fraction = u.fraction) :
    t = u ∨ t.LeapsInto u ∨ u.LeapsInto t := by
  obtain ⟨seconds, nanos, hseconds, hnanos⟩ := t
  obtain ⟨seconds', nanos', hseconds', hnanos'⟩ := u
  simp only [hour, minute, clockSecond, fraction, LeapsInto, mk.injEq] at *
  omega

theorem toText_eq_of_leapsInto (h : t.LeapsInto u) : t.toText = u.toText := by
  obtain ⟨hnanos, hseconds, hmiddle⟩ := h
  have hhour : t.hour = u.hour := by
    unfold hour
    omega
  have hminute : t.minute = u.minute := by
    unfold minute
    omega
  have hsecond : t.clockSecond = u.clockSecond := by
    unfold clockSecond
    omega
  have hfraction : t.fraction = u.fraction := by
    unfold fraction
    omega
  rw [toText, toText, clockText, clockText, hhour, hminute, hsecond, hfraction]

theorem eq_or_leapsInto_of_toText (h : t.toText = u.toText) :
    t = u ∨ t.LeapsInto u ∨ u.LeapsInto t := by
  obtain ⟨hhour, hminute, hsecond, hfraction⟩ := parts_lt t
  obtain ⟨hhour', hminute', hsecond', hfraction'⟩ := parts_lt u
  have htwo : ∀ {n m : Nat} {s s' : List Char}, n < 100 → m < 100 →
      padded 2 n ++ s = padded 2 m ++ s' → n = m ∧ s = s' := by
    intro n m s s' hn hm heq
    have hlength : (padded 2 n).length = (padded 2 m).length := by
      rw [length_padded (by omega) (by decide), length_padded (by omega) (by decide)]
    obtain ⟨hpadded, hrest⟩ := List.append_inj heq hlength
    exact ⟨injective_of_read (digits?_padded 2) hpadded, hrest⟩
  simp only [toText, clockText, List.append_assoc, List.cons_append] at h
  obtain ⟨hh, h⟩ := htwo (by omega) (by omega) h
  obtain ⟨hm, h⟩ := htwo (by omega) (by omega) (List.cons.inj h).2
  obtain ⟨hs, h⟩ := htwo (by omega) (by omega) (List.cons.inj h).2
  have hread := takeFraction?_fractionText hfraction
  rw [h, takeFraction?_fractionText hfraction'] at hread
  exact eq_or_leapsInto_of_parts hh hm hs (Prod.mk.inj (Option.some.inj hread)).1.symm

end TimeOfDay

end Cql
