import Cql.Proofs.Values.Calendar
import Cql.Proofs.Values.TimeOfDay

/-!
Points in time. They are found from the seconds and from the milliseconds that they lie away from
the epoch, and those with whole milliseconds are read back from their texts.
-/

namespace Cql

open Text

theorem TimeOfDay.make?_eq_some_iff {seconds nanos : Nat} {t : TimeOfDay} :
    make? seconds nanos = some t ↔
      (1000000000 ≤ nanos → seconds % 60 = 59) ∧ t.seconds = seconds ∧ t.nanos = nanos := by
  unfold make?
  constructor
  · intro h
    split at h
    · rename_i hvalid
      obtain rfl := Option.some.inj h
      exact ⟨hvalid.2.2, rfl, rfl⟩
    · cases h
  · rintro ⟨hleap, rfl, rfl⟩
    exact dif_pos ⟨t.seconds_lt, t.nanos_lt, hleap⟩

namespace Timestamp

variable {t : Timestamp} {ms : Int}

section Unix

theorem ofUnix?_eq_some_iff {seconds : Int} {nanos : Nat} :
    ofUnix? seconds nanos = some t ↔
      (1000000000 ≤ nanos → seconds % 60 = 59) ∧ t.unixSeconds = seconds ∧
        t.time.nanos = nanos := by
  have hlt := t.time.seconds_lt
  have hparts : ofUnix? seconds nanos = some t ↔
      t.date.dayNumber = seconds / 86400 ∧
        (1000000000 ≤ nanos → (seconds % 86400).toNat % 60 = 59) ∧
        t.time.seconds = (seconds % 86400).toNat ∧ t.time.nanos = nanos := by
    rw [← Date.ofDayNumber?_eq_some_iff, ← TimeOfDay.make?_eq_some_iff]
    unfold ofUnix?
    cases Date.ofDayNumber? (seconds / 86400) with
    | none => simp
    | some date =>
      cases TimeOfDay.make? (seconds % 86400).toNat nanos with
      | none => simp
      | some time =>
        obtain ⟨_, _⟩ := t
        simp
  rw [hparts, unixSeconds]
  constructor
  · rintro ⟨hday, hleap, hsecond, hnanos⟩
    exact ⟨by omega, by omega, hnanos⟩
  · rintro ⟨hleap, hseconds, hnanos⟩
    exact ⟨by omega, by omega, by omega, hnanos⟩

/-- The timestamp of a number of milliseconds has no smaller parts, and no leap second. -/
theorem ofMillis?_eq_some_iff :
    ofMillis? ms = some t ↔
      t.millis = ms ∧ t.time.nanos < 1000000000 ∧ t.time.nanos % 1000000 = 0 := by
  unfold ofMillis?
  rw [ofUnix?_eq_some_iff, millis]
  constructor
  · rintro ⟨_, hseconds, hnanos⟩
    omega
  · rintro ⟨hmillis, hlt, hwhole⟩
    omega

theorem dayNumber_date (h : ofMillis? ms = some t) : t.date.dayNumber = ms / 86400000 := by
  obtain ⟨hmillis, hlt, _⟩ := ofMillis?_eq_some_iff.mp h
  have hseconds := t.time.seconds_lt
  rw [millis, unixSeconds] at hmillis
  omega

/-- The first and the last point in time with a date, leap seconds apart. -/
def first : Timestamp := ⟨Date.first, 0, 0, by decide, by decide⟩

def last : Timestamp := ⟨Date.last, 86399, 999999999, by decide, by decide⟩

theorem exists_ofMillis?_iff :
    (∃ t, ofMillis? ms = some t) ↔ first.millis ≤ ms ∧ ms ≤ last.millis := by
  have hfirst : first.millis = Date.first.dayNumber * 86400000 := by decide
  have hlast : last.millis = Date.last.dayNumber * 86400000 + 86399999 := by decide
  rw [hfirst, hlast]
  constructor
  · rintro ⟨t, h⟩
    have hdate := dayNumber_date h
    have hrange := t.date.dayNumber_range
    omega
  · rintro ⟨hlow, hhigh⟩
    obtain ⟨date, hdate⟩ := Date.exists_dayNumber_iff.mpr
      (⟨by omega, by omega⟩ : Date.first.dayNumber ≤ ms / 86400000 ∧
        ms / 86400000 ≤ Date.last.dayNumber)
    let time : TimeOfDay :=
      ⟨(ms / 1000 % 86400).toNat, (ms % 1000).toNat * 1000000, by omega, by omega⟩
    refine ⟨⟨date, time⟩, ofMillis?_eq_some_iff.mpr ⟨?_, ?_, ?_⟩⟩
    · simp only [millis, unixSeconds, time]
      omega
    · simp only [time]
      omega
    · simp only [time]
      omega

example : first.millis = -8334601228800000 ∧ last.millis = 8210266876799999 := by
  decide

end Unix

section Reading

theorem takeNumber?_padded {width n : Nat} (hn : n < 10 ^ width) (hpos : 0 < width)
    (rest : List Char) : takeNumber? width (padded width n ++ rest) = some (n, rest) := by
  have hlength := length_padded hn hpos
  rw [takeNumber?, List.take_left' hlength, if_pos hlength, digits?_padded, List.drop_left' hlength]
  rfl

theorem toText_eq (hyear : 0 ≤ t.date.year ∧ t.date.year ≤ 9999) :
    t.toText = padded 4 t.date.year.toNat ++ '-' :: (padded 2 t.date.month ++
      '-' :: (padded 2 t.date.day ++ 'T' :: (padded 2 t.time.hour ++
        ':' :: (padded 2 t.time.minute ++ ':' :: (padded 2 t.time.clockSecond ++
          '.' :: (padded 3 (t.time.fraction / 1000000) ++ ['Z'])))))) := by
  simp [toText, Date.toText, Date.yearText, hyear, TimeOfDay.clockText]

/-- A timestamp of whole milliseconds in a year of four digits is read back from its text. -/
theorem ofText?_toText (hyear : 0 ≤ t.date.year ∧ t.date.year ≤ 9999)
    (hnanos : t.time.nanos < 1000000000) (hmillis : t.time.nanos % 1000000 = 0) :
    ofText? t.toText = some t := by
  obtain ⟨hmonth, hday⟩ := t.date.parts_lt
  obtain ⟨hhour, hminute, _, hfraction⟩ := t.time.parts_lt
  have hsecond : t.time.clockSecond < 60 := by
    unfold TimeOfDay.clockSecond
    omega
  have hvalid : t.time.hour < 24 ∧ t.time.minute < 60 ∧ t.time.clockSecond ≤ 60 := by omega
  have htwo : ∀ {n : Nat}, n < 100 → ∀ rest : List Char,
      takeNumber? 2 (padded 2 n ++ rest) = some (n, rest) :=
    fun hn => takeNumber?_padded hn (by decide)
  have hfour : ∀ rest : List Char,
      takeNumber? 4 (padded 4 t.date.year.toNat ++ rest) = some (t.date.year.toNat, rest) :=
    takeNumber?_padded (by omega) (by decide)
  have hthree : takeFraction? ('.' :: (padded 3 (t.time.fraction / 1000000) ++ ['Z'])) =
      some (t.time.fraction / 1000000 * 10 ^ (9 - 3), ['Z']) :=
    takeFraction?_padded (by omega) (by decide) (by decide) (not_isDigit_head? rfl [])
  have hdate : Date.make? (t.date.year.toNat : Int) t.date.month t.date.day = some t.date :=
    Date.make?_eq_some_iff.mpr ⟨by omega, rfl, rfl⟩
  have hutc : offset? ['Z'] = some 0 := rfl
  rw [toText_eq hyear, ofText?]
  simp only [hfour, htwo hmonth, htwo hday, htwo (by omega : t.time.hour < 100),
    htwo (by omega : t.time.minute < 100), htwo (by omega : t.time.clockSecond < 100), hthree,
    hdate, hutc, guard, true_or, hvalid, and_self, if_true, Option.bind_eq_bind, Option.bind_some,
    Option.pure_def]
  refine ofUnix?_eq_some_iff.mpr ⟨?_, ?_, ?_⟩
  · rw [if_neg (by omega)]
    omega
  · unfold unixSeconds TimeOfDay.hour TimeOfDay.minute
    unfold TimeOfDay.clockSecond at hsecond ⊢
    omega
  · rw [if_neg (by omega)]
    unfold TimeOfDay.fraction
    omega

theorem noBlank_toText (t : Timestamp) : NoBlank t.toText := by
  have hclock : NoBlank t.time.clockText :=
    noBlank_append.mpr ⟨noBlank_padded _ _, noBlank_cons.mpr ⟨rfl,
      noBlank_append.mpr ⟨noBlank_padded _ _, noBlank_cons.mpr ⟨rfl, noBlank_padded _ _⟩⟩⟩⟩
  refine noBlank_append.mpr ⟨t.date.noBlank_toText, noBlank_cons.mpr ⟨rfl, ?_⟩⟩
  refine noBlank_append.mpr ⟨hclock, noBlank_cons.mpr ⟨rfl, ?_⟩⟩
  exact noBlank_append.mpr ⟨noBlank_padded _ _, by decide⟩

end Reading

end Timestamp

end Cql
