import Cql.Text.Numeral
import Cql.Json

/-!
Numbers as written in JSON and the values they denote. A whole number of 64 bits, with or without a
sign, denotes itself. Any other number denotes a floating point number that is computed in two
steps, each of which rounds: as many leading digits as fit in 64 bits, and then a power of ten.
-/

namespace Cql.Json

structure Number where
  negative : Bool
  whole : List Char
  fraction : Option (List Char)
  /-- Whether the exponent is negative, and its digits. -/
  exponent : Option (Bool × List Char)
  deriving DecidableEq

namespace Number

/-- Takes digits into a significand as long as it stays below 2^64; returns the digits left. -/
def absorb (significand : Nat) : List Char → Nat × List Char
  | [] => (significand, [])
  | c :: s =>
    let next := significand * 10 + (c.toNat - '0'.toNat)
    if next < UInt64.size then absorb next s else (significand, c :: s)

def powerOfTen (n : Nat) : Float :=
  Float.ofScientific 1 false n

/-- `x * 10 ^ exponent`, or nothing if that is out of range. Powers beyond 10^308 are applied in
steps, until nothing is left of the number. -/
def scaled? (x : Float) (exponent : Int) : Option Float :=
  if exponent.natAbs ≤ 308 then
    if 0 ≤ exponent then
      let r := x * powerOfTen exponent.toNat
      if r.isInf then none else some r
    else some (x / powerOfTen exponent.natAbs)
  else if x == 0 then some x
  else if 0 < exponent then none
  else scaled? (x / powerOfTen 308) (exponent + 308)
termination_by exponent.natAbs
decreasing_by omega

/-- The largest exponent that is looked at in full. -/
def maxExponent : Nat := 1 <<< 31 - 1

def magnitude? (n : Number) : Option Float :=
  let (significand, left) := absorb 0 n.whole
  let fraction := n.fraction.getD []
  let (significand, unread) := absorb significand fraction
  let exponent : Int := left.length - (fraction.length - unread.length : Nat)
  let x := (UInt64.ofNat significand).toFloat
  match n.exponent with
  | none => scaled? x exponent
  | some (negative, digits) =>
    let e := Nat.ofDigitChars 10 digits 0
    if maxExponent < e then
      if significand ≠ 0 ∧ negative = false then none else some 0
    else scaled? x (if negative then exponent - e else exponent + e)

/-- The value as a floating point number. -/
def float? (n : Number) : Option Float :=
  n.magnitude?.map fun x => if n.negative then -x else x

/-- The value of a whole number of 64 bits. Minus zero is not one. -/
def int? (n : Number) : Option Int :=
  let magnitude := Nat.ofDigitChars 10 n.whole 0
  if n.fraction.isSome || n.exponent.isSome then none
  else if n.negative then
    if 0 < magnitude ∧ magnitude ≤ 1 <<< 63 then some (-(magnitude : Int)) else none
  else if magnitude < UInt64.size then some magnitude
  else none

def value? (n : Number) : Option Json :=
  match n.int? with
  | some i => some (int i)
  | none => n.float?.map float

/-- Reads a number at the start of a text. The part before the point has no leading zeros. -/
def take? (s : List Char) : Option (Number × List Char) := do
  let negative := s.head? == some '-'
  let s := if negative then s.drop 1 else s
  let whole := s.takeWhile Char.isDigit
  guard (!whole.isEmpty && (whole.head? != some '0' || whole.length == 1))
  let (fraction, s) ←
    match s.dropWhile Char.isDigit with
    | '.' :: s =>
      let digits := s.takeWhile Char.isDigit
      if digits.isEmpty then none else some (some digits, s.dropWhile Char.isDigit)
    | s => some (none, s)
  let (exponent, s) ←
    match s with
    | c :: r =>
      if c = 'e' ∨ c = 'E' then
        let negative := r.head? == some '-'
        let r := if negative || r.head? == some '+' then r.drop 1 else r
        let digits := r.takeWhile Char.isDigit
        if digits.isEmpty then none else some (some (negative, digits), r.dropWhile Char.isDigit)
      else some (none, s)
    | [] => some (none, s)
  return (⟨negative, whole, fraction, exponent⟩, s)

end Number

end Cql.Json
