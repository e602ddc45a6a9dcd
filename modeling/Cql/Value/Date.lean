import Cql.Text.Blank
import Cql.Text.Numeral

/-!
Dates of the proleptic Gregorian calendar, with a year 0 and negative years. Days are numbered from
1970-01-01; `ofDayNumber?` finds the date of a number.
-/

namespace Cql

def isLeapYear (year : Int) : Bool :=
  year % 4 == 0 && (year % 100 != 0 || year % 400 == 0)

def daysInMonth (year : Int) (month : Nat) : Nat :=
  match month with
  | 2 => if isLeapYear year then 29 else 28
  | 4 | 6 | 9 | 11 => 30
  | _ => 31

structure Date where
  year : Int
  month : Nat
  day : Nat
  year_range : -262143 ≤ year ∧ year ≤ 262142 := by decide
  month_range : 1 ≤ month ∧ month ≤ 12 := by decide
  day_range : 1 ≤ day ∧ day ≤ daysInMonth year month := by decide
  deriving DecidableEq

namespace Date

def make? (year : Int) (month day : Nat) : Option Date :=
  if h : (-262143 ≤ year ∧ year ≤ 262142) ∧ (1 ≤ month ∧ month ≤ 12) ∧
      (1 ≤ day ∧ day ≤ daysInMonth year month) then
    some ⟨year, month, day, h.1, h.2.1, h.2.2⟩
  else none

/-- Days from 0000-01-01 to the first day of a year. -/
def daysBeforeYear (year : Int) : Int :=
  365 * year + (year + 3) / 4 - (year + 99) / 100 + (year + 399) / 400

/-- Days from the first day of a year to the first day of a month in it. -/
def daysBeforeMonth (year : Int) : (month : Nat) → Nat
  | 0 => 0
  | 1 => 0
  | month + 2 => daysBeforeMonth year (month + 1) + daysInMonth year (month + 1)

/-- The day number of 0000-01-01, with its sign changed. -/
def epochOffset : Int := 719528

/-- Days from 1970-01-01. -/
def dayNumber (d : Date) : Int :=
  daysBeforeYear d.year + daysBeforeMonth d.year d.month + (d.day - 1) - epochOffset

/-- The year of the day that lies `n` days after 0000-01-01. A year has 146097 / 400 days on
average, and the guess from that is off by one at most. -/
def yearOfDay (n : Int) : Int :=
  let guess := 400 * n / 146097
  if n < daysBeforeYear guess then guess - 1
  else if daysBeforeYear (guess + 1) ≤ n then guess + 1
  else guess

theorem daysBeforeYear_yearOfDay (n : Int) :
    daysBeforeYear (yearOfDay n) ≤ n ∧ n < daysBeforeYear (yearOfDay n + 1) := by
  have near : ∀ y, y = 400 * n / 146097 →
      daysBeforeYear (y - 1) ≤ n ∧ n < daysBeforeYear (y + 1 + 1) := by
    rintro y rfl
    simp only [daysBeforeYear]
    omega
  have hguess := near _ rfl
  unfold yearOfDay
  dsimp only
  generalize 400 * n / 146097 = y at hguess ⊢
  split
  · rename_i h
    exact ⟨hguess.1, by rw [Int.sub_add_cancel]; exact h⟩
  · split
    · rename_i h
      exact ⟨h, hguess.2⟩
    · omega

/-- Month and day of the day that lies `n` days after the first one of `month`. The months before
`last` are tried in turn. -/
def monthOfDay (year : Int) (month n : Nat) : (left : Nat) → Nat × Nat
  | 0 => (month, n + 1)
  | left + 1 =>
    if n < daysInMonth year month then (month, n + 1)
    else monthOfDay year (month + 1) (n - daysInMonth year month) left

def ofDayNumber? (n : Int) : Option Date :=
  let year := yearOfDay (n + epochOffset)
  let (month, day) := monthOfDay year 1 (n + epochOffset - daysBeforeYear year).toNat 11
  make? year month day

/-- Four digits for the years 0 to 9999; a sign and at least four digits for the others. -/
def yearText (year : Int) : List Char :=
  if 0 ≤ year ∧ year ≤ 9999 then Text.padded 4 year.toNat
  else (if year < 0 then '-' else '+') :: Text.padded 4 year.natAbs

def toText (d : Date) : List Char :=
  yearText d.year ++ '-' :: (Text.padded 2 d.month ++ '-' :: Text.padded 2 d.day)

/-- The longest run of digits at the start of a text, of at most `width`, and the rest. -/
def takeDigits (width : Nat) (s : List Char) : List Char × List Char :=
  let digits := (s.take width).takeWhile Char.isDigit
  (digits, s.drop digits.length)

/-- A number after any blanks. -/
def takeField? (width : Nat) (s : List Char) : Option (Nat × List Char) :=
  let (digits, rest) := takeDigits width (Text.trimStart s)
  (Text.digits? digits).map (·, rest)

/-- A year after any blanks. A sign lifts the limit of four digits. -/
def takeYear? (s : List Char) : Option (Int × List Char) :=
  match Text.trimStart s with
  | '-' :: s => do
    let (digits, rest) := takeDigits s.length s
    let n ← Text.digits? digits
    return (-(n : Int), rest)
  | '+' :: s => do
    let (digits, rest) := takeDigits s.length s
    let n ← Text.digits? digits
    return ((n : Int), rest)
  | s => do
    let (n, rest) ← takeField? 4 s
    return ((n : Int), rest)

/-- Year, month and day with a hyphen right behind the first two. -/
def ofText? (s : List Char) : Option Date := do
  let (year, s) ← takeYear? s
  let '-' :: s := s | none
  let (month, s) ← takeField? 2 s
  let '-' :: s := s | none
  let (day, []) ← takeField? 2 s | none
  make? year month day

end Date

end Cql
