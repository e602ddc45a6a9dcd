import Mathlib.Order.Monotone.Basic
import Mathlib.Order.Interval.Set.Basic
import Mathlib.Data.Int.SuccPred
import Cql.Value.Date

/-!
The numbers of days. The calendar itself is the step from one day to the next, and a date has the
number that is counted from 1970-01-01 in such steps. Main statements: `dayNumber` is that number,
and `ofDayNumber?` finds the date of every number within the range of years.
-/

namespace Cql.Date

variable {d e : Date} {year : Int} {n : Int}

section Years

theorem daysBeforeMonth_succ (year : Int) {month : Nat} (h : 1 ≤ month) :
    daysBeforeMonth year (month + 1) = daysBeforeMonth year month + daysInMonth year month := by
  obtain ⟨month, rfl⟩ := Nat.exists_eq_add_of_le' h
  rfl

theorem daysBeforeMonth_mono (year : Int) : Monotone (daysBeforeMonth year) := by
  apply monotone_nat_of_le_succ
  intro month
  rcases Nat.eq_zero_or_pos month with rfl | hpos
  · exact Nat.le_refl _
  · rw [daysBeforeMonth_succ year hpos]
    exact Nat.le_add_right _ _

theorem daysBeforeMonth_end (year : Int) :
    daysBeforeMonth year 13 = if isLeapYear year then 366 else 365 := by
  simp only [daysBeforeMonth, daysInMonth]
  split <;> rfl

/-- The months make up the year. -/
theorem daysBeforeYear_succ (year : Int) :
    daysBeforeYear (year + 1) = daysBeforeYear year + daysBeforeMonth year 13 := by
  have hleap : isLeapYear year = true ↔ year % 4 = 0 ∧ (¬ year % 100 = 0 ∨ year % 400 = 0) := by
    simp [isLeapYear]
  simp only [daysBeforeMonth_end, daysBeforeYear, hleap]
  split <;> omega

theorem daysBeforeYear_lt_iff {year next : Int} :
    daysBeforeYear year < daysBeforeYear next ↔ year < next := by
  have hmono : StrictMono daysBeforeYear := by
    apply strictMono_int_of_lt_succ
    intro year
    have hpos : 0 < daysBeforeMonth year 13 := by
      rw [daysBeforeMonth_end]
      split <;> decide
    rw [daysBeforeYear_succ]
    omega
  exact hmono.lt_iff_lt

theorem daysBeforeYear_le_iff {year next : Int} :
    daysBeforeYear year ≤ daysBeforeYear next ↔ year ≤ next := by
  rw [← not_lt, daysBeforeYear_lt_iff, not_lt]

end Years

/-- Days of a date since the first day of its year. -/
def dayOfYear (d : Date) : Nat :=
  daysBeforeMonth d.year d.month + (d.day - 1)

theorem dayNumber_eq (d : Date) :
    d.dayNumber = daysBeforeYear d.year + d.dayOfYear - epochOffset := by
  have hday := d.day_range.1
  unfold dayNumber dayOfYear
  omega

theorem dayOfYear_lt_month (d : Date) : d.dayOfYear < daysBeforeMonth d.year (d.month + 1) := by
  have hday := d.day_range
  rw [daysBeforeMonth_succ d.year d.month_range.1, dayOfYear]
  omega

theorem dayOfYear_lt (d : Date) : d.dayOfYear < daysBeforeMonth d.year 13 := by
  have hmonth := d.month_range.2
  exact Nat.lt_of_lt_of_le d.dayOfYear_lt_month
    (daysBeforeMonth_mono d.year (by omega))

/-- A date lies in its year. -/
theorem year_bounds (d : Date) :
    daysBeforeYear d.year ≤ d.dayNumber + epochOffset ∧
      d.dayNumber + epochOffset < daysBeforeYear (d.year + 1) := by
  have hlt := d.dayOfYear_lt
  rw [dayNumber_eq, daysBeforeYear_succ]
  omega

theorem eq_of_parts (hyear : d.year = e.year) (hmonth : d.month = e.month)
    (hday : d.day = e.day) : d = e := by
  obtain ⟨_, _, _, _, _, _⟩ := d
  obtain ⟨_, _, _, _, _, _⟩ := e
  simp only at hyear hmonth hday
  subst hyear hmonth hday
  rfl

/-- Year, month and day are each found between the first days of two successive ones. -/
theorem dayNumber_injective : Function.Injective dayNumber := by
  intro d e h
  have hyear : d.year = e.year := by
    obtain ⟨hfirst, hlast⟩ := year_bounds d
    obtain ⟨hfirst', hlast'⟩ := year_bounds e
    rw [h] at hfirst hlast
    have hle := daysBeforeYear_lt_iff.mp (Int.lt_of_le_of_lt hfirst hlast')
    have hge := daysBeforeYear_lt_iff.mp (Int.lt_of_le_of_lt hfirst' hlast)
    omega
  have hdays : d.dayOfYear = e.dayOfYear := by
    rw [dayNumber_eq, dayNumber_eq, hyear] at h
    omega
  have hmonth : d.month = e.month := by
    have hlast := d.dayOfYear_lt_month
    have hlast' := e.dayOfYear_lt_month
    have hfirst : daysBeforeMonth d.year d.month ≤ d.dayOfYear := Nat.le_add_right _ _
    have hfirst' : daysBeforeMonth e.year e.month ≤ e.dayOfYear := Nat.le_add_right _ _
    rw [hyear] at hfirst hlast
    have hmono := daysBeforeMonth_mono e.year
    have hle := hmono.reflect_lt (a := d.month) (b := e.month + 1) (by omega)
    have hge := hmono.reflect_lt (a := e.month) (b := d.month + 1) (by omega)
    omega
  have hday : d.day = e.day := by
    have hpos := d.day_range.1
    have hpos' := e.day_range.1
    rw [dayOfYear, dayOfYear, hyear, hmonth] at hdays
    omega
  exact eq_of_parts hyear hmonth hday

theorem make?_eq_some_iff {month day : Nat} :
    make? year month day = some d ↔ d.year = year ∧ d.month = month ∧ d.day = day := by
  unfold make?
  constructor
  · intro h
    split at h
    · obtain rfl := Option.some.inj h
      exact ⟨rfl, rfl, rfl⟩
    · cases h
  · rintro ⟨rfl, rfl, rfl⟩
    exact dif_pos ⟨d.year_range, d.month_range, d.day_range⟩

section Search

/-- The months are left behind one by one, as long as the day lies behind them. -/
theorem monthOfDay_spec (month left k : Nat) (hmonth : 1 ≤ month)
    (hk : daysBeforeMonth year month + k < daysBeforeMonth year (month + left + 1)) :
    month ≤ (monthOfDay year month k left).1 ∧
      (monthOfDay year month k left).1 ≤ month + left ∧
      1 ≤ (monthOfDay year month k left).2 ∧
      (monthOfDay year month k left).2 ≤ daysInMonth year (monthOfDay year month k left).1 ∧
      daysBeforeMonth year (monthOfDay year month k left).1 +
        ((monthOfDay year month k left).2 - 1) = daysBeforeMonth year month + k := by
  have hnext := daysBeforeMonth_succ year hmonth
  induction left generalizing month k with
  | zero =>
    rw [Nat.add_zero, hnext] at hk
    exact ⟨Nat.le_refl _, Nat.le_refl _, Nat.succ_pos k, Nat.lt_of_add_lt_add_left hk, rfl⟩
  | succ left ih =>
    rw [monthOfDay]
    split
    · rename_i hshort
      exact ⟨Nat.le_refl _, Nat.le_add_right _ _, Nat.succ_pos k, hshort, rfl⟩
    · rename_i hlong
      have hmove : month + 1 + left + 1 = month + (left + 1) + 1 := by omega
      obtain ⟨hfrom, hto, hfirst, hlast, hsum⟩ :=
        ih (month + 1) (k - daysInMonth year month) (by omega) (by rw [hmove]; omega)
          (daysBeforeMonth_succ year (by omega))
      exact ⟨by omega, by omega, hfirst, hlast, by omega⟩

/-- What `ofDayNumber?` puts together is a day of the calendar, but for the range of years. -/
theorem ofDayNumber?_eq_make? (n : Int) : ∃ year month day,
    ofDayNumber? n = make? year month day ∧
      daysBeforeYear year ≤ n + epochOffset ∧ n + epochOffset < daysBeforeYear (year + 1) ∧
      (1 ≤ month ∧ month ≤ 12) ∧ (1 ≤ day ∧ day ≤ daysInMonth year month) ∧
      daysBeforeYear year + (daysBeforeMonth year month + (day - 1) : Nat) - epochOffset = n := by
  obtain ⟨hfirst, hlast⟩ := daysBeforeYear_yearOfDay (n + epochOffset)
  unfold ofDayNumber?
  dsimp only
  generalize yearOfDay (n + epochOffset) = year at hfirst hlast ⊢
  have hdays : daysBeforeMonth year 1 + (n + epochOffset - daysBeforeYear year).toNat <
      daysBeforeMonth year 13 := by
    rw [daysBeforeYear_succ] at hlast
    have hjanuary : daysBeforeMonth year 1 = 0 := rfl
    omega
  obtain ⟨hfrom, hto, hone, hlong, hsum⟩ :=
    monthOfDay_spec 1 11 _ (Nat.le_refl 1) hdays
  generalize monthOfDay year 1 (n + epochOffset - daysBeforeYear year).toNat 11 = parts at *
  refine ⟨year, parts.1, parts.2, rfl, hfirst, hlast, ⟨hfrom, hto⟩, ⟨hone, hlong⟩, ?_⟩
  rw [hsum, daysBeforeMonth]
  omega

theorem ofDayNumber?_eq_some_iff : ofDayNumber? n = some d ↔ d.dayNumber = n := by
  obtain ⟨year, month, day, hmake, hfirst, hlast, hmonth, hday, hsum⟩ := ofDayNumber?_eq_make? n
  rw [hmake]
  constructor
  · intro h
    obtain ⟨rfl, rfl, rfl⟩ := make?_eq_some_iff.mp h
    rw [dayNumber_eq, dayOfYear]
    exact hsum
  · rintro rfl
    have hyear : d.year = year := by
      obtain ⟨hfirst', hlast'⟩ := year_bounds d
      have hle := daysBeforeYear_lt_iff.mp (Int.lt_of_le_of_lt hfirst hlast')
      have hge := daysBeforeYear_lt_iff.mp (Int.lt_of_le_of_lt hfirst' hlast)
      omega
    have hrange := d.year_range
    rw [hyear] at hrange
    have hsome : make? year month day = some ⟨year, month, day, hrange, hmonth, hday⟩ :=
      make?_eq_some_iff.mpr ⟨rfl, rfl, rfl⟩
    rw [hsome]
    refine congrArg some (dayNumber_injective ?_)
    rw [dayNumber_eq, dayOfYear]
    exact hsum

end Search

/-- The first and the last date in the range of years. -/
def first : Date := ⟨-262143, 1, 1, by decide, by decide, by decide⟩

def last : Date := ⟨262142, 12, 31, by decide, by decide, by decide⟩

section Range

theorem dayNumber_first : first.dayNumber = daysBeforeYear (-262143) - epochOffset := by
  decide

theorem dayNumber_last : last.dayNumber = daysBeforeYear 262143 - 1 - epochOffset := by
  decide

theorem dayNumber_range (d : Date) :
    first.dayNumber ≤ d.dayNumber ∧ d.dayNumber ≤ last.dayNumber := by
  obtain ⟨hlow, hhigh⟩ := d.year_range
  obtain ⟨hfirst, hlast⟩ := year_bounds d
  have hstart := daysBeforeYear_le_iff.mpr hlow
  have hend : daysBeforeYear (d.year + 1) ≤ daysBeforeYear 262143 :=
    daysBeforeYear_le_iff.mpr (by omega)
  rw [dayNumber_first, dayNumber_last]
  omega

/-- Every number between those of the first and the last date is that of a date. -/
theorem exists_dayNumber_iff :
    (∃ d : Date, d.dayNumber = n) ↔ first.dayNumber ≤ n ∧ n ≤ last.dayNumber := by
  constructor
  · rintro ⟨d, rfl⟩
    exact dayNumber_range d
  · rw [dayNumber_first, dayNumber_last]
    rintro ⟨hlow, hhigh⟩
    obtain ⟨year, month, day, hmake, hfirst, hlast, hmonth, hday, hsum⟩ := ofDayNumber?_eq_make? n
    have hfrom : (-262143 : Int) < year + 1 := daysBeforeYear_lt_iff.mp (by omega)
    have hto : year < 262143 := daysBeforeYear_lt_iff.mp (by omega)
    refine ⟨⟨year, month, day, by omega, hmonth, hday⟩, ?_⟩
    rw [dayNumber_eq, dayOfYear]
    exact hsum

end Range

/-- `e` is the day after `d`. -/
inductive DayAfter (d e : Date) : Prop
  | sameMonth (year : e.year = d.year) (month : e.month = d.month) (day : e.day = d.day + 1)
  | nextMonth (last : d.day = daysInMonth d.year d.month) (year : e.year = d.year)
    (month : e.month = d.month + 1) (day : e.day = 1)
  | nextYear (last : d.month = 12 ∧ d.day = 31) (year : e.year = d.year + 1)
    (first : e.month = 1 ∧ e.day = 1)

/-- The day that lies `n` days after 1970-01-01, or before it where `n` is negative. -/
inductive DaysFromEpoch : Int → Date → Prop
  | epoch : DaysFromEpoch 0 ⟨1970, 1, 1, by decide, by decide, by decide⟩
  | forward {n : Int} {d e : Date} (h : DaysFromEpoch n d) (next : DayAfter d e) :
    DaysFromEpoch (n + 1) e
  | backward {n : Int} {d e : Date} (h : DaysFromEpoch n e) (next : DayAfter d e) :
    DaysFromEpoch (n - 1) d

section Steps

theorem dayNumber_of_dayAfter (h : DayAfter d e) : e.dayNumber = d.dayNumber + 1 := by
  have hpos := d.day_range.1
  rw [dayNumber_eq, dayNumber_eq, dayOfYear, dayOfYear]
  cases h with
  | sameMonth year month day =>
    rw [year, month, day]
    omega
  | nextMonth last year month day =>
    rw [year, month, day, daysBeforeMonth_succ d.year d.month_range.1, ← last]
    omega
  | nextYear last year first =>
    have hdecember : daysBeforeMonth d.year 13 = daysBeforeMonth d.year 12 + 31 := rfl
    have hjanuary : daysBeforeMonth (d.year + 1) 1 = 0 := rfl
    rw [year, first.1, first.2, last.1, last.2, daysBeforeYear_succ]
    omega

theorem one_le_daysInMonth (year : Int) (month : Nat) : 1 ≤ daysInMonth year month := by
  unfold daysInMonth
  split
  · split <;> decide
  all_goals decide

theorem exists_dayAfter (h : d.dayNumber < last.dayNumber) : ∃ e, DayAfter d e := by
  obtain ⟨hone, hlong⟩ := d.day_range
  obtain ⟨hmonth, hmonth'⟩ := d.month_range
  rcases Nat.lt_or_eq_of_le hlong with hinside | hend
  · exact ⟨⟨d.year, d.month, d.day + 1, d.year_range, d.month_range, by omega⟩,
      .sameMonth rfl rfl rfl⟩
  · rcases Nat.lt_or_eq_of_le hmonth' with hinside | hdecember
    · exact ⟨⟨d.year, d.month + 1, 1, d.year_range, by omega, Nat.le_refl 1,
        one_le_daysInMonth _ _⟩, .nextMonth hend rfl rfl rfl⟩
    · rw [hdecember] at hend
      have hyear : d.year ≠ 262142 := by
        intro hyear
        have hlast : d = last := eq_of_parts hyear hdecember hend
        rw [hlast] at h
        exact Int.lt_irrefl _ h
      have hrange := d.year_range
      exact ⟨⟨d.year + 1, 1, 1, by omega, by decide, Nat.le_refl 1, one_le_daysInMonth _ _⟩,
        .nextYear ⟨hdecember, hend⟩ rfl ⟨rfl, rfl⟩⟩

theorem daysFromEpoch_of_nonneg (k : Nat) (h : d.dayNumber = k) : DaysFromEpoch k d := by
  induction k generalizing d with
  | zero =>
    have hepoch : d = ⟨1970, 1, 1, by decide, by decide, by decide⟩ :=
      dayNumber_injective (h.trans (by decide))
    rw [hepoch]
    exact .epoch
  | succ k ih =>
    have hrange := dayNumber_range d
    have hepoch : first.dayNumber ≤ 0 := by decide
    obtain ⟨before, hbefore⟩ := exists_dayNumber_iff.mpr
      (⟨by omega, by omega⟩ : first.dayNumber ≤ (k : Int) ∧ (k : Int) ≤ last.dayNumber)
    obtain ⟨next, hnext⟩ := exists_dayAfter (d := before) (by omega)
    have hd : next = d := by
      apply dayNumber_injective
      rw [dayNumber_of_dayAfter hnext, hbefore, h]
      rfl
    exact .forward (ih hbefore) (hd ▸ hnext)

theorem daysFromEpoch_of_nonpos (k : Nat) (h : d.dayNumber = -k) : DaysFromEpoch (-k) d := by
  induction k generalizing d with
  | zero => exact daysFromEpoch_of_nonneg 0 h
  | succ k ih =>
    have hepoch : 0 ≤ last.dayNumber := by decide
    obtain ⟨next, hnext⟩ := exists_dayAfter (d := d) (by omega)
    have hstep := dayNumber_of_dayAfter hnext
    have hnumber : -((k + 1 : Nat) : Int) = -(k : Int) - 1 := by omega
    rw [hnumber]
    exact .backward (ih (by omega)) hnext

/-- The number of a date is what is counted day by day. -/
theorem daysFromEpoch_iff : DaysFromEpoch n d ↔ d.dayNumber = n := by
  constructor
  · intro h
    induction h with
    | epoch => decide
    | forward _ next ih => rw [dayNumber_of_dayAfter next, ih]
    | backward _ next ih =>
      rw [dayNumber_of_dayAfter next] at ih
      omega
  · rintro rfl
    rcases Int.le_total 0 d.dayNumber with hpos | hneg
    · obtain ⟨k, hk⟩ := Int.eq_ofNat_of_zero_le hpos
      rw [hk]
      exact daysFromEpoch_of_nonneg k hk
    · obtain ⟨k, hk⟩ := Int.exists_eq_neg_ofNat hneg
      rw [hk]
      exact daysFromEpoch_of_nonpos k hk

end Steps

end Cql.Date
