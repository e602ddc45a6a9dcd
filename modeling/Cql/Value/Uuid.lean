import Cql.Text.Numeral

/-!
Universally unique identifiers: 128 bits, written as 32 hexadecimal digits with hyphens after the
8th, 12th, 16th and 20th.
-/

namespace Cql

structure Uuid where
  bits : BitVec 128
  deriving DecidableEq

namespace Uuid

/-- The sizes of the runs of digits between the hyphens. -/
def runs : List Nat := [8, 4, 4, 4, 12]

/-- A text cut into pieces of the given sizes, with a hyphen between two pieces. -/
def hyphenate : (sizes : List Nat) → List Char → List Char
  | [], s => s
  | [_], s => s
  | n :: sizes, s => s.take n ++ '-' :: hyphenate sizes (s.drop n)

/-- Takes out the hyphens that `hyphenate` puts in; there have to be such hyphens, and the pieces
have to have the given sizes. -/
def unhyphenate? : (sizes : List Nat) → List Char → Option (List Char)
  | [], s => if s.isEmpty then some [] else none
  | [n], s => if s.length = n then some s else none
  | n :: sizes, s =>
    match s.drop n with
    | '-' :: rest => (unhyphenate? sizes rest).map (s.take n ++ ·)
    | _ => none

def toText (u : Uuid) : List Char :=
  hyphenate runs (Text.hex 32 u.bits.toNat)

/-- The high half of the seventh byte. -/
def version (u : Uuid) : Nat :=
  u.bits.toNat >>> 76 % 16

def ofDigits? (s : List Char) : Option Uuid :=
  if s.length = 32 then (Text.hexDigits? 0 s).map fun n => ⟨BitVec.ofNat 128 n⟩ else none

def ofHyphenated? (s : List Char) : Option Uuid :=
  unhyphenate? runs s >>= ofDigits?

/-- The name space in front of an identifier that is written as a resource name. -/
def resourcePrefix : List Char := "urn:uuid:".toList

/-- 32 digits, or digits with hyphens, which may stand between braces or behind `urn:uuid:`. -/
def ofText? (s : List Char) : Option Uuid :=
  match s with
  | '\x7b' :: s => if s.getLast? = some '\x7d' then ofHyphenated? s.dropLast else none
  | s =>
    if (s.take 9).map Char.toLower = resourcePrefix then ofHyphenated? (s.drop 9)
    else ofDigits? s <|> ofHyphenated? s

end Uuid

end Cql
