import Cql.Text.Numeral

/-!
Internet addresses. An address of version 4 is four decimal bytes with points between them. An
address of version 6 is eight hexadecimal groups with colons between them; one run of zero groups
may be left out, which leaves two colons side by side, and the last two groups may be written as an
address of version 4.
-/

namespace Cql

inductive IpAddress where
  | v4 (a b c d : UInt8)
  | v6 (groups : List UInt16) (size : groups.length = 8)
  deriving DecidableEq

namespace IpAddress

def v4Text (a b c d : UInt8) : List Char :=
  ['.'].intercalate ([a, b, c, d].map fun n => Text.decimal n.toNat)

def groupText (g : UInt16) : List Char :=
  Nat.toDigits 16 g.toNat

def groupsText (groups : List UInt16) : List Char :=
  [':'].intercalate (groups.map groupText)

/-- The number of zero groups at the start. -/
def leadingZeros (groups : List UInt16) : Nat :=
  (groups.takeWhile (· == 0)).length

/-- Start and length of the longest run of zero groups, the first of several. -/
def longestRun : (start : Nat) → List UInt16 → Nat × Nat
  | start, [] => (start, 0)
  | start, g :: groups =>
    let here := leadingZeros (g :: groups)
    let later := longestRun (start + 1) groups
    if later.2 ≤ here then (start, here) else later

def v6Text (groups : List UInt16) : List Char :=
  match groups with
  | [0, 0, 0, 0, 0, 0xffff, g, h] =>
    "::ffff:".toList ++ v4Text (g >>> 8).toUInt8 g.toUInt8 (h >>> 8).toUInt8 h.toUInt8
  | groups =>
    let (start, size) := longestRun 0 groups
    if size < 2 then groupsText groups
    else groupsText (groups.take start) ++ ':' :: ':' :: groupsText (groups.drop (start + size))

def toText : IpAddress → List Char
  | v4 a b c d => v4Text a b c d
  | v6 groups _ => v6Text groups

/-- One to three digits of a number below 256, without a zero in front. -/
def byte? (s : List Char) : Option UInt8 := do
  let n ← Text.digits? s
  if s.length ≤ 3 ∧ n < 256 ∧ (1 < s.length → s.head? ≠ some '0') then some (UInt8.ofNat n)
  else none

def v4Bytes? (s : List Char) : Option (UInt8 × UInt8 × UInt8 × UInt8) :=
  match s.splitOn '.' with
  | [a, b, c, d] => return (← byte? a, ← byte? b, ← byte? c, ← byte? d)
  | _ => none

/-- One to four hexadecimal digits. -/
def group? (s : List Char) : Option UInt16 :=
  if 1 ≤ s.length ∧ s.length ≤ 4 then (Text.hexDigits? 0 s).map UInt16.ofNat else none

/-- Groups from the pieces between colons; where `tail` is set the last piece may be an address of
version 4. -/
def groups? (tail : Bool) : List (List Char) → Option (List UInt16)
  | [] => some []
  | [piece] =>
    match group? piece with
    | some g => some [g]
    | none =>
      if tail then
        (v4Bytes? piece).map fun (a, b, c, d) =>
          [a.toUInt16 <<< 8 ||| b.toUInt16, c.toUInt16 <<< 8 ||| d.toUInt16]
      else none
  | piece :: pieces => do
    let g ← group? piece
    let rest ← groups? tail pieces
    return g :: rest

/-- The groups of a text without two colons side by side; none for the empty text. -/
def side? (tail : Bool) (s : List Char) : Option (List UInt16) :=
  if s.isEmpty then some [] else groups? tail (s.splitOn ':')

/-- The text before and after the first two colons side by side. -/
def splitGap : List Char → Option (List Char × List Char)
  | ':' :: ':' :: s => some ([], s)
  | c :: s => (splitGap s).map fun (front, back) => (c :: front, back)
  | [] => none

def v6OfGroups? (groups : List UInt16) : Option IpAddress :=
  if h : groups.length = 8 then some (v6 groups h) else none

def v6OfText? (s : List Char) : Option IpAddress :=
  match splitGap s with
  | none => side? true s >>= v6OfGroups?
  | some (front, back) => do
    let front ← side? false front
    let back ← side? true back
    if front.length + back.length ≤ 7 then
      v6OfGroups? (front ++ List.replicate (8 - front.length - back.length) 0 ++ back)
    else none

def ofText? (s : List Char) : Option IpAddress :=
  match v4Bytes? s with
  | some (a, b, c, d) => some (v4 a b c d)
  | none => v6OfText? s

end IpAddress

end Cql
