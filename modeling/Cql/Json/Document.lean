import Cql.Json.Number

/-!
JSON texts. A `Document` is a text that has been read but not yet interpreted: numbers are kept as
written, strings keep the halves of surrogate pairs apart, and objects keep all members in order.
So a part that nobody asks for has to be well formed and nothing more. `toJson?` interprets a
document in full and refuses numbers out of range, halves without their partner, and values that
are nested too deeply.
-/

namespace Cql.Json

/-- A piece of a string: a character or half of a surrogate pair. -/
inductive Piece where
  | char (c : Char)
  | half (unit : Nat)
  deriving DecidableEq

namespace Piece

def ofUnit (n : Nat) : Piece :=
  if n.isValidChar then char (Char.ofNat n) else half n

/-- The text of the pieces, if every half has its partner. -/
def text? : List Piece → Option (List Char)
  | [] => some []
  | char c :: rest => (text? rest).map (c :: ·)
  | half high :: half low :: rest =>
    if 0xD800 ≤ high ∧ high < 0xDC00 ∧ 0xDC00 ≤ low ∧ low < 0xE000 then
      (text? rest).map (Char.ofNat (0x10000 + (high - 0xD800) * 0x400 + (low - 0xDC00)) :: ·)
    else none
  | half _ :: _ => none

def string? (pieces : List Piece) : Option String :=
  (text? pieces).map String.ofList

end Piece

/-- The character that a letter after a backslash stands for. -/
def escape? : Char → Option Char
  | '\x22' => some '\x22'
  | '\x5c' => some '\x5c'
  | '/' => some '/'
  | 'b' => some '\x08'
  | 'f' => some '\x0c'
  | 'n' => some '\n'
  | 'r' => some '\r'
  | 't' => some '\t'
  | _ => none

/-- The rest of a string after its opening quote, and what follows the closing one. -/
def takeString? : List Char → Option (List Piece × List Char)
  | [] => none
  | '\x22' :: s => some ([], s)
  | '\x5c' :: 'u' :: a :: b :: c :: d :: s => do
    let unit ← Text.hexDigits? 0 [a, b, c, d]
    let (pieces, rest) ← takeString? s
    return (Piece.ofUnit unit :: pieces, rest)
  | '\x5c' :: c :: s => do
    let c ← escape? c
    let (pieces, rest) ← takeString? s
    return (.char c :: pieces, rest)
  | c :: s =>
    if c < ' ' then none
    else (takeString? s).map fun (pieces, rest) => (.char c :: pieces, rest)

inductive Token where
  | openObject | closeObject | openArray | closeArray | comma | colon
  | null
  | bool (b : Bool)
  | number (n : Number)
  | string (s : List Piece)
  deriving DecidableEq

namespace Token

/-- The first token of a text that does not start with a blank, and the rest. -/
def take? : List Char → Option (Token × List Char)
  | '\x7b' :: s => some (openObject, s)
  | '\x7d' :: s => some (closeObject, s)
  | '[' :: s => some (openArray, s)
  | ']' :: s => some (closeArray, s)
  | ',' :: s => some (comma, s)
  | ':' :: s => some (colon, s)
  | 'n' :: 'u' :: 'l' :: 'l' :: s => some (null, s)
  | 't' :: 'r' :: 'u' :: 'e' :: s => some (bool true, s)
  | 'f' :: 'a' :: 'l' :: 's' :: 'e' :: s => some (bool false, s)
  | '\x22' :: s => (takeString? s).map fun (pieces, rest) => (string pieces, rest)
  | s => (Number.take? s).map fun (n, rest) => (number n, rest)

def isBlank (c : Char) : Bool :=
  c == ' ' || c == '\n' || c == '\t' || c == '\r'

/-- The tokens of a text, with at most `fuel` of them. -/
def takeAll? : (fuel : Nat) → List Char → Option (List Token)
  | fuel, s =>
    match s.dropWhile isBlank with
    | [] => some []
    | c :: s =>
      match fuel with
      | 0 => none
      | fuel + 1 => do
        let (token, rest) ← take? (c :: s)
        let tokens ← takeAll? fuel rest
        return token :: tokens

/-- The tokens of a text. Every token has a character, so the length of the text is enough. -/
def ofText? (s : List Char) : Option (List Token) :=
  takeAll? s.length s

end Token

inductive Document where
  | null
  | bool (b : Bool)
  | number (n : Number)
  | string (s : List Piece)
  | array (items : List Document)
  | object (members : List (List Piece × Document))

namespace Document

mutual

/-- The value at the start of the tokens, and the rest. -/
def takeValue? : (fuel : Nat) → List Token → Option (Document × List Token)
  | 0, _ => none
  | fuel + 1, tokens =>
    match tokens with
    | .null :: rest => some (null, rest)
    | .bool b :: rest => some (bool b, rest)
    | .number n :: rest => some (number n, rest)
    | .string s :: rest => some (string s, rest)
    | .openArray :: .closeArray :: rest => some (array [], rest)
    | .openArray :: rest => (takeItems? fuel rest).map fun (items, rest) => (array items, rest)
    | .openObject :: .closeObject :: rest => some (object [], rest)
    | .openObject :: rest =>
      (takeMembers? fuel rest).map fun (members, rest) => (object members, rest)
    | _ => none

/-- The items of an array up to its end. -/
def takeItems? : (fuel : Nat) → List Token → Option (List Document × List Token)
  | 0, _ => none
  | fuel + 1, tokens => do
    let (item, rest) ← takeValue? fuel tokens
    match rest with
    | .closeArray :: rest => return ([item], rest)
    | .comma :: rest =>
      let (items, rest) ← takeItems? fuel rest
      return (item :: items, rest)
    | _ => none

/-- The members of an object up to its end. -/
def takeMembers? : (fuel : Nat) → List Token → Option (List (List Piece × Document) × List Token)
  | 0, _ => none
  | fuel + 1, tokens => do
    match tokens with
    | .string name :: .colon :: rest =>
      let (value, rest) ← takeValue? fuel rest
      match rest with
      | .closeObject :: rest => return ([(name, value)], rest)
      | .comma :: rest =>
        let (members, rest) ← takeMembers? fuel rest
        return ((name, value) :: members, rest)
      | _ => none
    | _ => none

end

/-- The document that a text holds. Each step down takes a token, which bounds their number. -/
def ofText? (s : String) : Option Document := do
  let tokens ← Token.ofText? s.toList
  match takeValue? (2 * tokens.length + 1) tokens with
  | some (document, []) => some document
  | _ => none

mutual

/-- The value of a document in which at most `room` arrays and objects stand inside each other. -/
def toJson? : Document → (room : Nat) → Option Json
  | null, _ => some .null
  | bool b, _ => some (.bool b)
  | number n, _ => n.value?
  | string s, _ => (Piece.string? s).map .str
  | array items, room =>
    if room = 0 then none else (itemsToJson? items (room - 1)).map .arr
  | object members, room =>
    if room = 0 then none
    else (membersToJson? members (room - 1)).map fun ms => .ofFields (Fields.ofList ms)

def itemsToJson? : List Document → (room : Nat) → Option (List Json)
  | [], _ => some []
  | item :: items, room => do
    let value ← toJson? item room
    let values ← itemsToJson? items room
    return value :: values

def membersToJson? : List (List Piece × Document) → (room : Nat) → Option (List (String × Json))
  | [], _ => some []
  | (name, item) :: members, room => do
    let name ← Piece.string? name
    let value ← toJson? item room
    let values ← membersToJson? members room
    return (name, value) :: values

end

/-- How many arrays and objects may stand inside each other. -/
def maxDepth : Nat := 127

/-- The string of a document that is one. -/
def string? : Document → Option String
  | string s => Piece.string? s
  | _ => none

/-- The whole number of a document that is one. -/
def int? : Document → Option Int
  | number n => n.int?
  | _ => none

/-- The positions of the known names among members: each at most once. Other names do not count, but
every name has to be a text. -/
def place? (known : List String) :
    List (List Piece × Document) → Option (List (Option Document))
  | [] => some (known.map fun _ => none)
  | (name, value) :: members => do
    let name ← Piece.string? name
    let placed ← place? known members
    match known.idxOf? name with
    | none => return placed
    | some i =>
      if (placed[i]?.bind id).isSome then none
      else return placed.set i (some value)

/-- The values of a record with the given fields, which is either an object, or an array with the
values of the first fields in order. -/
def record? (known : List String) : Document → Option (List (Option Document))
  | object members => place? known members
  | array items =>
    if items.length ≤ known.length then
      some (items.map some ++ List.replicate (known.length - items.length) none)
    else none
  | _ => none

end Document

/-- The value of a JSON text. -/
def ofText? (s : String) : Option Json :=
  (Document.ofText? s).bind fun d => d.toJson? Document.maxDepth

end Cql.Json
