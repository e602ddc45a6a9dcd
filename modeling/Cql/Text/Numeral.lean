/-!
Numerals in base ten and base sixteen. A natural number is a nonempty run of decimal digits with an
optional plus sign; an integer may also have a minus sign. Nothing else is a numeral: no blanks, no
separators.
-/

namespace Cql.Text

/-- A nonempty run of decimal digits. -/
def digits? (s : List Char) : Option Nat :=
  if s ≠ [] ∧ s.all Char.isDigit then some (Nat.ofDigitChars 10 s 0) else none

def natural? : List Char → Option Nat
  | '+' :: s => digits? s
  | s => digits? s

def integer? : List Char → Option Int
  | '-' :: s => (digits? s).map fun n => -(n : Int)
  | '+' :: s => (digits? s).map Int.ofNat
  | s => (digits? s).map Int.ofNat

def decimal (n : Nat) : List Char :=
  Nat.toDigits 10 n

/-- Decimal digits, with leading zeros up to the given width. -/
def padded (width n : Nat) : List Char :=
  (decimal n).leftpad width '0'

def hexValue? (c : Char) : Option Nat :=
  if '0' ≤ c ∧ c ≤ '9' then some (c.toNat - '0'.toNat)
  else if 'a' ≤ c ∧ c ≤ 'f' then some (c.toNat - 'a'.toNat + 10)
  else if 'A' ≤ c ∧ c ≤ 'F' then some (c.toNat - 'A'.toNat + 10)
  else none

/-- The value of a run of hexadecimal digits in either case, read after `acc`. -/
def hexDigits? (acc : Nat) : List Char → Option Nat
  | [] => some acc
  | c :: s => (hexValue? c).bind fun d => hexDigits? (16 * acc + d) s

/-- Exactly `width` hexadecimal digits in lower case, of the lowest ones if there are more. -/
def hex : (width : Nat) → Nat → List Char
  | 0, _ => []
  | width + 1, n => hex width (n / 16) ++ [Nat.digitChar (n % 16)]

/-- Two digits for each byte. -/
def hexBytes (bytes : List UInt8) : List Char :=
  bytes.flatMap fun b => hex 2 b.toNat

def bytesOfHex? : List Char → Option (List UInt8)
  | [] => some []
  | [_] => none
  | a :: b :: s => do
    let n ← hexDigits? 0 [a, b]
    let rest ← bytesOfHex? s
    return UInt8.ofNat n :: rest

theorem hex_length (width n : Nat) : (hex width n).length = width := by
  induction width generalizing n with
  | zero => rfl
  | succ width ih => simp [hex, ih]

end Cql.Text
