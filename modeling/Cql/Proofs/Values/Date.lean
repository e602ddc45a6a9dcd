import Cql.Value.Date
import Cql.Proofs.Text.Blank

/-!
Dates are read back from their texts.
-/

namespace Cql.Text

variable {c : Char} {s : List Char}

theorem not_isDigit_head? (h : c.isDigit = false) (s : List Char) :
    ∀ d ∈ (c :: s).head?, d.isDigit = false := by
  simpa using h

/-- Digits end where the text goes on with something else. -/
theorem takeWhile_isDigit_append {digits rest : List Char}
    (hdigits : ∀ c ∈ digits, c.isDigit = true) (hrest : ∀ c ∈ rest.head?, c.isDigit = false) :
    (digits ++ rest).takeWhile Char.isDigit = digits := by
  have hstop : rest.takeWhile Char.isDigit = [] := by
    cases rest with
    | nil => rfl
    | cons c rest => simp [hrest c (by simp)]
  rw [List.takeWhile_append_of_pos hdigits, hstop, List.append_nil]

end Cql.Text

namespace Cql.Date

open Text

variable {digits rest : List Char} {width places n : Nat}

theorem takeDigits_append (hdigits : ∀ c ∈ digits, c.isDigit = true)
    (hwidth : digits.length ≤ width) (hrest : ∀ c ∈ rest.head?, c.isDigit = false) :
    takeDigits width (digits ++ rest) = (digits, rest) := by
  have htake : ((digits ++ rest).take width).takeWhile Char.isDigit = digits := by
    rw [List.take_append, List.take_of_length_le hwidth]
    refine takeWhile_isDigit_append hdigits fun c hc => hrest c ?_
    rw [List.head?_take] at hc
    split at hc
    · cases hc
    · exact hc
  rw [takeDigits, htake, List.drop_left]

theorem padded_eq_cons (places n : Nat) : ∃ c s, padded places n = c :: s ∧ c.isDigit = true := by
  have hne : padded places n ≠ [] := by
    intro hnil
    have hread := digits?_padded places n
    rw [hnil] at hread
    cases hread
  obtain ⟨c, s, hcons⟩ := List.exists_cons_of_ne_nil hne
  exact ⟨c, s, hcons, isDigit_of_mem_padded (hcons ▸ List.mem_cons_self)⟩

theorem trimStart_padded (places n : Nat) (rest : List Char) :
    trimStart (padded places n ++ rest) = padded places n ++ rest := by
  obtain ⟨c, s, hcons, hc⟩ := padded_eq_cons places n
  rw [hcons, List.cons_append, trimStart_cons (isBlank_of_isDigit hc)]

theorem takeField?_padded (hwidth : (padded places n).length ≤ width)
    (hrest : ∀ c ∈ rest.head?, c.isDigit = false) :
    takeField? width (padded places n ++ rest) = some (n, rest) := by
  rw [takeField?, trimStart_padded,
    takeDigits_append (fun c hc => isDigit_of_mem_padded hc) hwidth hrest]
  simp only [digits?_padded, Option.map_some]

theorem takeYear?_yearText (year : Int) (s : List Char) :
    takeYear? (yearText year ++ '-' :: s) = some (year, '-' :: s) := by
  have hrest := not_isDigit_head? (c := '-') rfl s
  unfold yearText
  split
  · rename_i hyear
    obtain ⟨c, t, hcons, hc⟩ := padded_eq_cons 4 year.toNat
    have hlength : (padded 4 year.toNat).length ≤ 4 := by
      rw [length_padded (by omega) (by decide)]
    unfold takeYear?
    rw [trimStart_padded]
    split
    · rename_i heq
      rw [hcons] at heq
      obtain ⟨rfl, _⟩ := List.cons.inj heq
      cases hc
    · rename_i heq
      rw [hcons] at heq
      obtain ⟨rfl, _⟩ := List.cons.inj heq
      cases hc
    · rw [takeField?_padded hlength hrest]
      simp [hyear.1]
  · rename_i hyear
    have hdigits : takeDigits (padded 4 year.natAbs ++ '-' :: s).length
        (padded 4 year.natAbs ++ '-' :: s) = (padded 4 year.natAbs, '-' :: s) :=
      takeDigits_append (fun c hc => isDigit_of_mem_padded hc) (by simp) hrest
    split
    · have habs : -(year.natAbs : Int) = year := by omega
      rw [List.cons_append, takeYear?, trimStart_cons rfl]
      simp only [hdigits, digits?_padded, Option.bind_eq_bind, Option.bind_some, habs]
      rfl
    · have habs : (year.natAbs : Int) = year := by omega
      rw [List.cons_append, takeYear?, trimStart_cons rfl]
      simp only [hdigits, digits?_padded, Option.bind_eq_bind, Option.bind_some, habs]
      rfl

/-- Two digits are enough for the month and for the day. -/
theorem parts_lt (d : Date) : d.month < 100 ∧ d.day < 100 := by
  have hdays : daysInMonth d.year d.month ≤ 31 := by
    unfold daysInMonth
    split
    · split <;> decide
    all_goals decide
  have hmonth := d.month_range
  have hday := d.day_range
  omega

/-- A date is read back from its text. -/
theorem ofText?_toText (d : Date) : ofText? d.toText = some d := by
  obtain ⟨hmonth, hday⟩ := d.parts_lt
  have hmonth : (padded 2 d.month).length ≤ 2 := by
    rw [length_padded (by omega) (by decide)]
  have hday : (padded 2 d.day).length ≤ 2 := by
    rw [length_padded (by omega) (by decide)]
  have hhyphen := not_isDigit_head? (c := '-') rfl (padded 2 d.day)
  have hend : takeField? 2 (padded 2 d.day) = some (d.day, []) := by
    have hnil : ∀ c ∈ ([] : List Char).head?, c.isDigit = false := by simp
    simpa using takeField?_padded hday hnil
  have hmake : make? d.year d.month d.day = some d :=
    dif_pos ⟨d.year_range, d.month_range, d.day_range⟩
  simp only [ofText?, toText, takeYear?_yearText, Option.bind_eq_bind, Option.bind_some,
    takeField?_padded hmonth hhyphen, hend, hmake]

theorem toText_injective : Function.Injective toText :=
  injective_of_read ofText?_toText

theorem noBlank_toText (d : Date) : NoBlank d.toText := by
  have hyear : NoBlank (yearText d.year) := by
    unfold yearText
    split
    · exact noBlank_padded _ _
    · refine noBlank_cons.mpr ⟨?_, noBlank_padded _ _⟩
      split <;> rfl
  refine noBlank_append.mpr ⟨hyear, noBlank_cons.mpr ⟨rfl, noBlank_append.mpr ⟨?_, ?_⟩⟩⟩
  · exact noBlank_padded _ _
  · exact noBlank_cons.mpr ⟨rfl, noBlank_padded _ _⟩

end Cql.Date
