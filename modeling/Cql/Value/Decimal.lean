import Cql.Text.Numeral

/-!
Decimals: a sign, a magnitude below 2^96 and a scale, which stand for the magnitude over a power of
ten up to 10^28. Two decimals may denote one number with different scales; the scale is kept and
shown. So is the sign of a zero, which a numeral without an exponent never has, but which is left
when a division by a power of ten rounds a negative number to zero.

A text has more digits than fit in two ways. Too many before the point make it invalid. Too many
after it are cut off: the number is rounded at the last place that fits, a half away from zero.
-/

namespace Cql

/-- Magnitudes are smaller than 2^96. -/
def Decimal.limit : Nat := 1 <<< 96

structure Decimal where
  negative : Bool
  magnitude : Nat
  scale : Nat
  magnitude_lt : magnitude < Decimal.limit := by decide
  scale_le : scale ≤ 28 := by decide
  deriving DecidableEq

namespace Decimal

def make? (negative : Bool) (magnitude scale : Nat) : Option Decimal :=
  if h : magnitude < limit ∧ scale ≤ 28 then some ⟨negative, magnitude, scale, h.1, h.2⟩ else none

/-- The number times `10 ^ scale`. -/
def coefficient (d : Decimal) : Int :=
  if d.negative then -d.magnitude else d.magnitude

/-- An integer of up to 64 bits. -/
def ofInt64 (n : Int64) : Decimal :=
  ⟨n.toInt < 0, n.toInt.natAbs, 0,
    by have := n.toInt_lt; have := n.le_toInt; unfold limit; omega, by decide⟩

/-- Both denote the same number. -/
def sameNumber (a b : Decimal) : Bool :=
  a.coefficient * Nat.pow 10 b.scale == b.coefficient * Nat.pow 10 a.scale

/-- The digits of the magnitude, with at least one before the point and exactly `scale` after it. -/
def magnitudeText (d : Decimal) : List Char :=
  let digits := Text.padded (d.scale + 1) d.magnitude
  let whole := digits.take (digits.length - d.scale)
  let fraction := digits.drop (digits.length - d.scale)
  if fraction.isEmpty then whole else whole ++ '.' :: fraction

def toText (d : Decimal) : List Char :=
  if d.negative then '-' :: d.magnitudeText else d.magnitudeText

/-- A digit past the last place decides the rounding. If that carries the magnitude out of its
range, the last place is given up as well, and there has to be one. -/
def roundLast? (magnitude scale next : Nat) : Option (Nat × Nat) :=
  if next < 5 then some (magnitude, scale)
  else if magnitude + 1 < limit then some (magnitude + 1, scale)
  else if scale = 0 then none
  else some ((magnitude + 5) / 10, scale - 1)

/-- What may follow the digit that decides the rounding. -/
def isTail (s : List Char) : Bool :=
  s.all fun c => c.isDigit || c == '_'

/-- The magnitude without its last digit is well below a tenth of 2^64. Right behind such a
magnitude an underscore past the last place counts as a zero; behind a longer one it is skipped. -/
def isShort (magnitude : Nat) : Bool :=
  magnitude / 10 < UInt64.size / 10 - 255

/-- Magnitude and scale of the digits after a sign. `any` says that a digit was read, `point` that
the decimal point was. Digits past the one that decides the rounding do not count. -/
def readDigits (magnitude scale : Nat) (any point : Bool) : List Char → Option (Nat × Nat)
  | [] => if any then some (magnitude, scale) else none
  | c :: s =>
    if c.isDigit then
      let digit := c.toNat - '0'.toNat
      let next := magnitude * 10 + digit
      if next < limit ∧ scale < 28 then
        readDigits next (if point then scale + 1 else scale) true point s
      else if point && isTail s then roundLast? magnitude scale digit
      else none
    else if c = '_' ∧ any then
      if scale = 28 ∧ isShort magnitude then if isTail s then some (magnitude, scale) else none
      else readDigits magnitude scale any point s
    else if c = '.' ∧ point = false then readDigits magnitude scale any true s
    else none

/-- An optional sign, then digits with at most one point among them, which may come first or last.
After the first digit an underscore may stand anywhere. A zero has no sign. -/
def ofPlain? (s : List Char) : Option Decimal :=
  let signed (negative : Bool) (s : List Char) : Option Decimal := do
    let (magnitude, scale) ← readDigits 0 0 false false s
    make? (negative && magnitude != 0) magnitude scale
  match s with
  | '-' :: s => signed true s
  | '+' :: s => signed false s
  | s => signed false s

/-- Drops the last `count` places of a magnitude, rounding a half up. -/
def dropPlaces (magnitude count : Nat) : Nat :=
  match count with
  | 0 => magnitude
  | count + 1 => (magnitude / Nat.pow 10 count + 5) / 10

/-- The number divided by a power of ten. Places beyond the last one are rounded; the sign stays,
also on a zero. -/
def shrink? (d : Decimal) (exponent : Nat) : Option Decimal :=
  if exponent ≤ 28 then
    let excess := d.scale + exponent - 28
    make? d.negative (dropPlaces d.magnitude excess) (d.scale + exponent - excess)
  else none

/-- The number multiplied by a power of ten. -/
def grow? (d : Decimal) (exponent : Nat) : Option Decimal :=
  if exponent ≤ d.scale then make? d.negative d.magnitude (d.scale - exponent)
  else if exponent ≤ 28 then make? d.negative (d.magnitude * Nat.pow 10 (exponent - d.scale)) 0
  else none

/-- A plain numeral, the letter E in either case, and an exponent with an optional sign. -/
def ofScientific? (s : List Char) : Option Decimal := do
  let isMark (c : Char) : Bool := c == 'e' || c == 'E'
  let base ← ofPlain? (s.takeWhile fun c => !isMark c)
  match s.dropWhile fun c => !isMark c with
  | _ :: '-' :: exponent => Text.natural? exponent >>= base.shrink?
  | _ :: exponent => Text.natural? exponent >>= base.grow?
  | [] => none

def ofText? (s : List Char) : Option Decimal :=
  ofPlain? s <|> ofScientific? s

end Decimal

end Cql
