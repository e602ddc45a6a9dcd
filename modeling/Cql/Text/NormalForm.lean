import Cql.Text.CombiningClass
import Cql.Text.Compatibility
import Cql.Text.Composition

/-!
Unicode normalization form KC. A text is in that form if it has no compatibility variants and if
taking its characters apart, ordering the marks and composing again gives back the same text.
-/

namespace Cql.Text

/-- The parts of a character that are not composed themselves. The depth bounds how often a first
part is taken apart again. -/
def decompose : (depth : Nat) → Nat → List Nat
  | 0, n => [n]
  | depth + 1, n =>
    match parts? n with
    | some (a, b) => decompose depth a ++ [b]
    | none => [n]

/-- No character has more than this many parts. -/
def maxParts : Nat := 6

/-- Puts a mark in front of the marks of its own class or a higher one. -/
def placeMark (n : Nat) : List Nat → List Nat
  | [] => [n]
  | m :: rest =>
    if combiningClass m = 0 ∨ combiningClass n ≤ combiningClass m then n :: m :: rest
    else m :: placeMark n rest

/-- Orders each run of marks by class and keeps the order within a class. -/
def orderMarks (s : List Nat) : List Nat :=
  s.foldr placeMark []

/-- Composes the last base character with the characters behind it. A mark that stays, in `marks`,
blocks those of its own class or a lower one. -/
def composeFrom (base : Option Nat) (marks : List Nat) : List Nat → List Nat
  | [] => base.toList ++ marks
  | n :: rest =>
    let blocked := marks.getLast?.any fun m => combiningClass n ≤ combiningClass m
    match base.bind fun b => if blocked then none else compose? b n with
    | some composed => composeFrom (some composed) marks rest
    | none =>
      if combiningClass n = 0 then base.toList ++ marks ++ composeFrom (some n) [] rest
      else composeFrom base (marks ++ [n]) rest

/-- Canonical composition of the fully decomposed text. -/
def canonical (s : List Nat) : List Nat :=
  composeFrom none [] (orderMarks (s.flatMap (decompose maxParts)))

/-- The text is in normalization form KC. -/
def isNormal (s : List Char) : Bool :=
  !s.any isVariant && canonical (s.map Char.toNat) == s.map Char.toNat

end Cql.Text
