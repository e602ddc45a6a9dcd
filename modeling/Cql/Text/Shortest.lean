import Cql.Text.Numeral

/-!
The shortest decimal numeral of a binary floating point number: of all numerals that lie closer to
the number than to its neighbours, the ones with the fewest digits, and of these the nearest. Where
two are equally near the larger one is taken.
-/

namespace Cql.Text

/-- A positive number with the interval of the reals that are rounded to it, all as numerators over
one denominator. The ends belong to the interval if `closed` is set. -/
structure RoundingInterval where
  lower : Nat
  value : Nat
  upper : Nat
  denominator : Nat
  closed : Bool

namespace RoundingInterval

/-- The interval of `mantissa * 2 ^ exponent`. The gap below is half as wide as the one above where
`narrow` is set. -/
def ofBinary (mantissa : Nat) (exponent : Int) (narrow : Bool) : RoundingInterval :=
  let unit := 1 <<< exponent.toNat
  { lower := (4 * mantissa - if narrow then 1 else 2) * unit
    value := 4 * mantissa * unit
    upper := (4 * mantissa + 2) * unit
    denominator := 4 <<< (-exponent).toNat
    closed := mantissa % 2 == 0 }

def contains (r : RoundingInterval) (n : Nat) : Bool :=
  if r.closed then r.lower ≤ n && n ≤ r.upper else r.lower < n && n < r.upper

/-- The same interval, with every number multiplied by a power of ten. -/
def scale (r : RoundingInterval) (power : Int) : RoundingInterval :=
  let up := Nat.pow 10 power.toNat
  { r with
    lower := r.lower * up
    value := r.value * up
    upper := r.upper * up
    denominator := r.denominator * Nat.pow 10 (-power).toNat }

/-- The nearest whole number to the value among those of its two neighbours that lie in the
interval. -/
def whole? (r : RoundingInterval) : Option Nat :=
  let n := r.value / r.denominator
  let below := n * r.denominator
  let above := below + r.denominator
  match r.contains below, r.contains above with
  | true, true => some (if 2 * (r.value - below) < r.denominator then n else n + 1)
  | true, false => some n
  | false, true => some (n + 1)
  | false, false => none

/-- Looks for a multiple of `10 ^ power`, then of ever smaller powers. -/
def search (r : RoundingInterval) (power : Int) : (steps : Nat) → Nat × Int
  | 0 => (0, 0)
  | steps + 1 =>
    match (r.scale (-power)).whole? with
    | some n => (n, power)
    | none => r.search (power - 1) steps

/-- `(n, e)` with `n * 10 ^ e` in the interval. The search begins above the value, and any power
more than eighteen places below it has a multiple in the interval of a number of 53 bits. -/
def shortest (r : RoundingInterval) : Nat × Int :=
  let size (n : Nat) : Int := (decimal n).length
  r.search (size r.value - size r.denominator + 1) 22

end RoundingInterval

/-- `digits * 10 ^ exponent` without an exponent. -/
def positional (digits : List Char) (exponent : Int) : List Char :=
  if 0 ≤ exponent then digits ++ List.replicate exponent.toNat '0'
  else
    let places := (-exponent).toNat
    let digits := digits.leftpad (places + 1) '0'
    digits.take (digits.length - places) ++ '.' :: digits.drop (digits.length - places)

end Cql.Text
