import Cql.Text.Shortest

/-!
The texts of floating point numbers of 32 and 64 bits. Both formats are described by the widths of
their fields; a number is taken apart into the classes of `Floating` and then written.
-/

namespace Cql

/-- What a floating point number is, apart from its precision. -/
inductive Floating where
  | notANumber
  | infinite (negative : Bool)
  | zero (negative : Bool)
  /-- The shortest numeral of the magnitude is `digits * 10 ^ exponent`. -/
  | finite (negative : Bool) (digits : Nat) (exponent : Int)
  deriving DecidableEq

namespace Floating

/-- The number with the given bits, where the fraction takes the lowest `fractionBits` of them and
the exponent the next `exponentBits`. -/
def ofBits (fractionBits exponentBits bits : Nat) : Floating :=
  let fraction := bits % 1 <<< fractionBits
  let exponent := bits >>> fractionBits % 1 <<< exponentBits
  let negative := bits >>> (fractionBits + exponentBits) % 2 == 1
  let bias : Int := (1 <<< (exponentBits - 1) : Nat) - 1 + fractionBits
  if exponent = 1 <<< exponentBits - 1 then
    if fraction = 0 then infinite negative else notANumber
  else if exponent = 0 then
    if fraction = 0 then zero negative
    else
      let (digits, power) := (Text.RoundingInterval.ofBinary fraction (1 - bias) false).shortest
      finite negative digits power
  else
    let narrow := fraction == 0 && 1 < exponent
    let mantissa := 1 <<< fractionBits + fraction
    let interval := Text.RoundingInterval.ofBinary mantissa (exponent - bias) narrow
    let (digits, power) := interval.shortest
    finite negative digits power

def ofFloat (x : Float) : Floating := ofBits 52 11 x.toBits.toNat

def ofFloat32 (x : Float32) : Floating := ofBits 23 8 x.toBits.toNat

def signed (negative : Bool) (s : List Char) : List Char :=
  if negative then '-' :: s else s

/-- The literal: never an exponent, and no point in a whole number. -/
def literal : Floating → List Char
  | notANumber => "NaN".toList
  | infinite negative => signed negative "Infinity".toList
  | zero negative => signed negative ['0']
  | finite negative digits exponent =>
    signed negative (Text.positional (Text.decimal digits) exponent)

/-- One digit before the point, and the power of ten behind the letter e. -/
def scientific (digits : List Char) (exponent : Int) : List Char :=
  let power := exponent + (digits.length - 1 : Nat)
  let power := signed (power < 0) (Text.decimal power.natAbs)
  match digits with
  | [] => 'e' :: power
  | [d] => d :: 'e' :: power
  | d :: rest => d :: '.' :: (rest ++ 'e' :: power)

/-- The form in descriptions: a point in every number, and an exponent for numbers below 10^-4 or
from 10^16 on. -/
def description : Floating → List Char
  | notANumber => "NaN".toList
  | infinite negative => signed negative "inf".toList
  | zero negative => signed negative "0.0".toList
  | finite negative digits exponent =>
    let text := Text.decimal digits
    let power := exponent + (text.length - 1 : Nat)
    signed negative <|
      if power < -4 ∨ 16 ≤ power then scientific text exponent
      else if 0 ≤ exponent then Text.positional text exponent ++ ".0".toList
      else Text.positional text exponent

/-- Neither infinite nor undefined. -/
def isFinite : Floating → Bool
  | zero _ | finite _ _ _ => true
  | _ => false

end Floating

end Cql
