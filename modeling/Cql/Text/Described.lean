import Cql.Text.Hidden

/-!
Texts in descriptions: between double quotes, with quotes and backslashes escaped, with the usual
letters for the common controls, and with the numbers of all other hidden characters.
-/

namespace Cql.Text

def describeChar (c : Char) : List Char :=
  match c with
  | '\x00' => ['\x5c', '0']
  | '\t' => ['\x5c', 't']
  | '\r' => ['\x5c', 'r']
  | '\n' => ['\x5c', 'n']
  | '\x22' => ['\x5c', '\x22']
  | '\x5c' => ['\x5c', '\x5c']
  | c =>
    if isHidden c then '\x5c' :: 'u' :: '\x7b' :: (Nat.toDigits 16 c.toNat ++ ['\x7d']) else [c]

def described (s : List Char) : List Char :=
  '\x22' :: (s.flatMap describeChar ++ ['\x22'])

end Cql.Text
