import Cql.Value.Date

/-!
Times of day and points in time. A time counts whole seconds from midnight and nanoseconds; a count
of 10^9 nanoseconds or more stands for a leap second behind the second that is counted. Times are
read with leap seconds at the end of a minute only, but callers can have them anywhere. A timestamp
is a date and a time, both in UTC.
-/

namespace Cql

structure TimeOfDay where
  seconds : Nat
  nanos : Nat
  seconds_lt : seconds < 86400 := by decide
  nanos_lt : nanos < 2000000000 := by decide
  deriving DecidableEq

namespace TimeOfDay

/-- A leap second is accepted only behind the last second of a minute. -/
def make? (seconds nanos : Nat) : Option TimeOfDay :=
  if h : seconds < 86400 ∧ nanos < 2000000000 ∧ (1000000000 ≤ nanos → seconds % 60 = 59) then
    some ⟨seconds, nanos, h.1, h.2.1⟩
  else none

def hour (t : TimeOfDay) : Nat := t.seconds / 3600

def minute (t : TimeOfDay) : Nat := t.seconds / 60 % 60

/-- The second as shown on a clock, which in a leap second is one more than the second before it. -/
def clockSecond (t : TimeOfDay) : Nat := t.seconds % 60 + t.nanos / 1000000000

/-- Nanoseconds since the second shown on the clock began. -/
def fraction (t : TimeOfDay) : Nat := t.nanos % 1000000000

def clockText (t : TimeOfDay) : List Char :=
  Text.padded 2 t.hour ++ ':' :: (Text.padded 2 t.minute ++ ':' :: Text.padded 2 t.clockSecond)

/-- Nothing for a whole second, else as few of 3, 6 or 9 digits as hold the fraction. -/
def fractionText (fraction : Nat) : List Char :=
  if fraction = 0 then []
  else if fraction % 1000000 = 0 then '.' :: Text.padded 3 (fraction / 1000000)
  else if fraction % 1000 = 0 then '.' :: Text.padded 6 (fraction / 1000)
  else '.' :: Text.padded 9 fraction

def toText (t : TimeOfDay) : List Char :=
  t.clockText ++ fractionText t.fraction

end TimeOfDay

structure Timestamp where
  date : Date
  time : TimeOfDay
  deriving DecidableEq

namespace Timestamp

/-- The point in time that lies `seconds` and `nanos` after 1970-01-01T00:00:00Z. -/
def ofUnix? (seconds : Int) (nanos : Nat) : Option Timestamp := do
  let date ← Date.ofDayNumber? (seconds / 86400)
  let time ← TimeOfDay.make? (seconds % 86400).toNat nanos
  return ⟨date, time⟩

def ofMillis? (ms : Int) : Option Timestamp :=
  ofUnix? (ms / 1000) ((ms % 1000).toNat * 1000000)

def unixSeconds (t : Timestamp) : Int :=
  t.date.dayNumber * 86400 + t.time.seconds

/-- Whole milliseconds since 1970-01-01T00:00:00Z; what is left over is cut off. -/
def millis (t : Timestamp) : Int :=
  t.unixSeconds * 1000 + t.time.nanos / 1000000

/-- Date and time with three digits of the fraction, in UTC. -/
def toText (t : Timestamp) : List Char :=
  t.date.toText ++ 'T' :: (t.time.clockText ++
    '.' :: (Text.padded 3 (t.time.fraction / 1000000) ++ ['Z']))

/-- Date and time with as many digits as the fraction needs, in UTC. -/
def toFullText (t : Timestamp) : List Char :=
  t.date.toText ++ 'T' :: (t.time.toText ++ ['Z'])

/-- A number of exactly `width` digits. -/
def takeNumber? (width : Nat) (s : List Char) : Option (Nat × List Char) :=
  if (s.take width).length = width then (Text.digits? (s.take width)).map (·, s.drop width)
  else none

/-- The offset from UTC in seconds, up to the end of the text. -/
def offset? : List Char → Option Int
  | ['Z'] => some 0
  | ['z'] => some 0
  | sign :: s => do
    let sign : Int ←
      if sign = '+' then some 1 else if sign = '-' ∨ sign = '\u2212' then some (-1) else none
    let (hours, s) ← takeNumber? 2 s
    let ':' :: s := s | none
    let (minutes, []) ← takeNumber? 2 s | none
    if hours < 24 ∧ minutes < 60 then some (sign * (hours * 3600 + minutes * 60)) else none
  | [] => none

/-- The fraction of a second in nanoseconds, and the rest. Digits past the ninth do not count. -/
def takeFraction? : List Char → Option (Nat × List Char)
  | '.' :: s => do
    let digits := s.takeWhile Char.isDigit
    let kept := digits.take 9
    let n ← Text.digits? kept
    return (n * Nat.pow 10 (9 - kept.length), s.drop digits.length)
  | s => some (0, s)

/-- A date of four, two and two digits, the letter T in either case or a space, a time with an
optional fraction, and an offset. Second 60 is the leap second after second 59. -/
def ofText? (s : List Char) : Option Timestamp := do
  let (year, s) ← takeNumber? 4 s
  let '-' :: s := s | none
  let (month, s) ← takeNumber? 2 s
  let '-' :: s := s | none
  let (day, s) ← takeNumber? 2 s
  let mark :: s := s | none
  guard (mark = 'T' ∨ mark = 't' ∨ mark = ' ')
  let (hour, s) ← takeNumber? 2 s
  let ':' :: s := s | none
  let (minute, s) ← takeNumber? 2 s
  let ':' :: s := s | none
  let (second, s) ← takeNumber? 2 s
  guard (hour < 24 ∧ minute < 60 ∧ second ≤ 60)
  let (fraction, s) ← takeFraction? s
  let offset ← offset? s
  let date ← Date.make? year month day
  let seconds := date.dayNumber * 86400 + (hour * 3600 + minute * 60 + min second 59 : Nat) - offset
  ofUnix? seconds (fraction + if second = 60 then 1000000000 else 0)

end Timestamp

end Cql
