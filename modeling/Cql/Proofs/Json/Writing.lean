import Cql.Json.Document
import Cql.Proofs.Text.Numeral

/-!
JSON texts without blanks. A value is written by way of its document and the tokens of that. How a
floating point number is spelled is a parameter. Reading gives the tokens of a text back as long as
none of them is a number, and the document of any tokens.
-/

namespace Cql.Json

open Text (hex)

/-- The letters that stand for a character after a backslash and are used in writing. -/
def escapeLetters : List Char :=
  ['\x22', '\x5c', 'b', 'f', 'n', 'r', 't']

/-- A character inside a string: by its letter if it has one, other control characters by number. -/
def escaped (c : Char) : List Char :=
  match escapeLetters.find? fun letter => escape? letter = some c with
  | some letter => ['\x5c', letter]
  | none => if c < ' ' then '\x5c' :: 'u' :: hex 4 c.toNat else [c]

def Piece.chars : Piece → List Char
  | char c => escaped c
  | half unit => '\x5c' :: 'u' :: hex 4 unit

namespace Number

def ofInt (n : Int) : Number :=
  ⟨decide (n < 0), Text.decimal n.natAbs, none, none⟩

def sign (negative : Bool) : List Char :=
  if negative then ['-'] else []

def chars (n : Number) : List Char :=
  sign n.negative ++ n.whole ++
    (match n.fraction with
      | some digits => '.' :: digits
      | none => []) ++
    match n.exponent with
      | some (negative, digits) => 'e' :: (sign negative ++ digits)
      | none => []

end Number

namespace Token

def chars : Token → List Char
  | openObject => ['\x7b']
  | closeObject => ['\x7d']
  | openArray => ['[']
  | closeArray => [']']
  | comma => [',']
  | colon => [':']
  | null => ['n', 'u', 'l', 'l']
  | bool true => ['t', 'r', 'u', 'e']
  | bool false => ['f', 'a', 'l', 's', 'e']
  | number n => n.chars
  | string s => '\x22' :: (s.flatMap Piece.chars ++ ['\x22'])

end Token

namespace Document

mutual

def tokens : Document → List Token
  | null => [.null]
  | bool b => [.bool b]
  | number n => [.number n]
  | string s => [.string s]
  | array items => .openArray :: (itemTokens items ++ [.closeArray])
  | object members => .openObject :: (memberTokens members ++ [.closeObject])

def itemTokens : List Document → List Token
  | [] => []
  | [item] => item.tokens
  | item :: next :: items => item.tokens ++ .comma :: itemTokens (next :: items)

def memberTokens : List (List Piece × Document) → List Token
  | [] => []
  | [(name, value)] => .string name :: .colon :: value.tokens
  | (name, value) :: next :: members =>
    .string name :: .colon :: (value.tokens ++ .comma :: memberTokens (next :: members))

end

def text (d : Document) : String :=
  String.ofList (d.tokens.flatMap Token.chars)

end Document

mutual

/-- The document of a value, where `spelled` says how floating point numbers are written. -/
def document (spelled : Float → Number) : Json → Document
  | null => .null
  | bool b => .bool b
  | int n => .number (.ofInt n)
  | float x => .number (spelled x)
  | str s => .string (s.toList.map .char)
  | arr items => .array (itemDocuments spelled items)
  | obj members => .object (memberDocuments spelled members)

def itemDocuments (spelled : Float → Number) : List Json → List Document
  | [] => []
  | item :: items => item.document spelled :: itemDocuments spelled items

def memberDocuments (spelled : Float → Number) :
    List (String × Json) → List (List Piece × Document)
  | [] => []
  | (name, value) :: members =>
    (name.toList.map .char, value.document spelled) :: memberDocuments spelled members

end

/-- The text of a value. -/
def text (spelled : Float → Number) (j : Json) : String :=
  (j.document spelled).text

/-! ### Tokens -/

/-- Any of the letters after a backslash is read as its character. -/
theorem takeString?_letter {letter c : Char} (h : escape? letter = some c) (s : List Char) :
    takeString? ('\x5c' :: letter :: s) =
      (takeString? s).map fun (pieces, rest) => (.char c :: pieces, rest) := by
  have hletter : letter ≠ 'u' := by
    rintro rfl
    cases h
  rw [takeString?, h]
  · cases takeString? s <;> rfl
  · exact fun _ _ _ _ _ hu _ => hletter hu

theorem takeString?_unit {n : Nat} (h : n < 16 ^ 4) (s : List Char) :
    takeString? ('\x5c' :: 'u' :: (hex 4 n ++ s)) =
      (takeString? s).map fun (pieces, rest) => (.ofUnit n :: pieces, rest) := by
  have hread := Text.hexDigits?_hex h 0
  obtain ⟨a, b, c, d, hhex⟩ : ∃ a b c d, hex 4 n = [a, b, c, d] := ⟨_, _, _, _, rfl⟩
  rw [hhex] at hread ⊢
  simp only [List.cons_append, List.nil_append, takeString?, hread]
  rw [Nat.zero_mul, Nat.zero_add]
  cases takeString? s <;> rfl

theorem takeString?_escaped (c : Char) (s : List Char) :
    takeString? (escaped c ++ s) =
      (takeString? s).map fun (pieces, rest) => (.char c :: pieces, rest) := by
  unfold escaped
  cases hfind : escapeLetters.find? fun letter => escape? letter = some c with
  | some letter =>
    have hletter := List.find?_some hfind
    exact takeString?_letter (of_decide_eq_true hletter) s
  | none =>
    simp only
    split
    · rename_i hcontrol
      have hsmall : c.toNat < 32 := hcontrol
      rw [List.cons_append, List.cons_append, takeString?_unit (by omega)]
      have hunit : Piece.ofUnit c.toNat = .char c := by
        have hvalid : c.toNat.isValidChar := c.valid
        rw [Piece.ofUnit, if_pos hvalid, Char.ofNat_toNat]
      rw [hunit]
    · rename_i hplain
      have hnone := List.find?_eq_none.mp hfind
      have hquote : c ≠ '\x22' := by
        rintro rfl
        exact hnone '\x22' (by decide) (by decide)
      have hslash : c ≠ '\x5c' := by
        rintro rfl
        exact hnone '\x5c' (by decide) (by decide)
      rw [List.singleton_append, takeString?, if_neg hplain]
      · exact hquote
      · exact fun _ _ _ _ _ h _ => hslash h
      · exact fun _ _ h _ => hslash h

theorem takeString?_chars (s t : List Char) :
    takeString? ((s.map Piece.char).flatMap Piece.chars ++ '\x22' :: t) =
      some (s.map Piece.char, t) := by
  induction s with
  | nil => rfl
  | cons c s ih =>
    rw [List.map_cons, List.flatMap_cons, List.append_assoc]
    exact (takeString?_escaped c _).trans (by rw [ih]; rfl)

namespace Token

/-- A token that ends by itself, which all but numbers do. Strings are texts. -/
inductive Plain : Token → Prop
  | openObject : Plain openObject
  | closeObject : Plain closeObject
  | openArray : Plain openArray
  | closeArray : Plain closeArray
  | comma : Plain comma
  | colon : Plain colon
  | null : Plain null
  | bool (b : Bool) : Plain (bool b)
  | string (s : List Char) : Plain (string (s.map .char))

theorem take?_chars {t : Token} (h : t.Plain) (s : List Char) :
    take? (t.chars ++ s) = some (t, s) := by
  cases h with
  | bool b => cases b <;> rfl
  | string text =>
    rw [chars, List.cons_append, List.append_assoc, List.singleton_append]
    exact congrArg (Option.map fun (pieces, rest) => (string pieces, rest))
      (takeString?_chars text s)
  | _ => rfl

/-- The text of a token starts with a character that is not a blank. -/
theorem exists_chars_eq_cons {t : Token} (h : t.Plain) :
    ∃ c s, t.chars = c :: s ∧ isBlank c = false := by
  cases h with
  | bool b => cases b <;> exact ⟨_, _, rfl, rfl⟩
  | _ => exact ⟨_, _, rfl, rfl⟩

theorem takeAll?_chars {tokens : List Token} (h : ∀ t ∈ tokens, t.Plain) {fuel : Nat}
    (hfuel : tokens.length ≤ fuel) : takeAll? fuel (tokens.flatMap chars) = some tokens := by
  induction tokens generalizing fuel with
  | nil => cases fuel <;> rfl
  | cons t tokens ih =>
    obtain ⟨c, s, hchars, hblank⟩ := exists_chars_eq_cons (h t List.mem_cons_self)
    cases fuel with
    | zero => cases hfuel
    | succ fuel =>
      have htake := take?_chars (h t List.mem_cons_self) (tokens.flatMap chars)
      have hrest := ih (fun t ht => h t (List.mem_cons_of_mem _ ht)) (Nat.le_of_succ_le_succ hfuel)
      rw [List.flatMap_cons]
      rw [hchars, List.cons_append] at htake ⊢
      rw [takeAll?, List.dropWhile_cons_of_neg (by simp [hblank])]
      simp only [htake, Option.bind_eq_bind, Option.bind_some, hrest]
      rfl

theorem length_le_length_chars {tokens : List Token} (h : ∀ t ∈ tokens, t.Plain) :
    tokens.length ≤ (tokens.flatMap chars).length := by
  induction tokens with
  | nil => rfl
  | cons t tokens ih =>
    obtain ⟨c, s, hchars, _⟩ := exists_chars_eq_cons (h t List.mem_cons_self)
    have hrest := ih fun t ht => h t (List.mem_cons_of_mem _ ht)
    rw [List.flatMap_cons, hchars, List.length_cons, List.length_append, List.length_cons]
    omega

theorem ofText?_chars {tokens : List Token} (h : ∀ t ∈ tokens, t.Plain) :
    ofText? (tokens.flatMap chars) = some tokens :=
  takeAll?_chars h (length_le_length_chars h)

end Token

/-! ### Documents -/

namespace Document

/-- A document does not start with the token that ends an array. -/
theorem exists_tokens_eq_cons (d : Document) :
    ∃ t rest, d.tokens = t :: rest ∧ t ≠ .closeArray := by
  cases d <;> exact ⟨_, _, rfl, by nofun⟩

theorem exists_itemTokens_eq_cons (item : Document) (items : List Document) :
    ∃ t rest, itemTokens (item :: items) = t :: rest ∧ t ≠ .closeArray := by
  obtain ⟨t, rest, htokens, hne⟩ := item.exists_tokens_eq_cons
  cases items with
  | nil => exact ⟨t, rest, htokens, hne⟩
  | cons next items => exact ⟨t, _, by rw [itemTokens, htokens, List.cons_append], hne⟩

mutual

-- The recursion is that of the reader, on its fuel: every step down passes a token.

/-- The tokens of a document are read as that document, and what follows them is left alone. -/
theorem takeValue?_tokens (d : Document) (fuel : Nat) (hfuel : 2 * d.tokens.length ≤ fuel)
    (rest : List Token) : takeValue? fuel (d.tokens ++ rest) = some (d, rest) := by
  cases fuel with
  | zero =>
    obtain ⟨t, ts, htokens, _⟩ := d.exists_tokens_eq_cons
    rw [htokens, List.length_cons] at hfuel
    omega
  | succ fuel =>
    match d with
    | null => rfl
    | bool b => rfl
    | number n => rfl
    | string s => rfl
    | array [] => rfl
    | array (item :: items) =>
      rw [tokens, List.length_cons, List.length_append, List.length_singleton] at hfuel
      have hitems := takeItems?_tokens item items fuel (by omega) rest
      obtain ⟨t, ts, htokens, hne⟩ := exists_itemTokens_eq_cons item items
      rw [tokens, List.cons_append, List.append_assoc, List.singleton_append]
      rw [htokens, List.cons_append] at hitems ⊢
      rw [takeValue?, hitems]
      · rfl
      · exact fun _ h => hne (List.cons.inj h).1
    | object [] => rfl
    | object ((name, value) :: members) =>
      rw [tokens, List.length_cons, List.length_append, List.length_singleton] at hfuel
      have hmembers := takeMembers?_tokens name value members fuel (by omega) rest
      rw [tokens, List.cons_append, List.append_assoc, List.singleton_append]
      rw [takeValue?, hmembers]
      · rfl
      · cases members <;> nofun
termination_by fuel

theorem takeItems?_tokens (item : Document) (items : List Document) (fuel : Nat)
    (hfuel : 2 * (itemTokens (item :: items)).length < fuel) (rest : List Token) :
    takeItems? fuel (itemTokens (item :: items) ++ .closeArray :: rest) =
      some (item :: items, rest) := by
  cases fuel with
  | zero => cases hfuel
  | succ fuel =>
    cases items with
    | nil =>
      rw [itemTokens] at hfuel ⊢
      have hitem := takeValue?_tokens item fuel (by omega) (.closeArray :: rest)
      rw [takeItems?, hitem]
      rfl
    | cons next items =>
      rw [itemTokens, List.length_append, List.length_cons] at hfuel
      have hitem := takeValue?_tokens item fuel (by omega)
        (.comma :: (itemTokens (next :: items) ++ .closeArray :: rest))
      have hitems := takeItems?_tokens next items fuel (by omega) rest
      rw [itemTokens, List.append_assoc, List.cons_append, takeItems?, hitem]
      simp only [Option.bind_eq_bind, Option.bind_some, hitems]
      rfl
termination_by fuel

theorem takeMembers?_tokens (name : List Piece) (value : Document)
    (members : List (List Piece × Document)) (fuel : Nat)
    (hfuel : 2 * (memberTokens ((name, value) :: members)).length < fuel) (rest : List Token) :
    takeMembers? fuel (memberTokens ((name, value) :: members) ++ .closeObject :: rest) =
      some ((name, value) :: members, rest) := by
  cases fuel with
  | zero => cases hfuel
  | succ fuel =>
    cases members with
    | nil =>
      rw [memberTokens] at hfuel ⊢
      simp only [List.length_cons] at hfuel
      have hvalue := takeValue?_tokens value fuel (by omega) (.closeObject :: rest)
      simp only [List.cons_append, takeMembers?, hvalue]
      rfl
    | cons next members =>
      obtain ⟨next, v⟩ := next
      rw [memberTokens] at hfuel ⊢
      simp only [List.length_cons, List.length_append] at hfuel
      have hvalue := takeValue?_tokens value fuel (by omega)
        (.comma :: (memberTokens ((next, v) :: members) ++ .closeObject :: rest))
      have hmembers := takeMembers?_tokens next v members fuel (by omega) rest
      simp only [List.cons_append, List.append_assoc, takeMembers?, hvalue, Option.bind_eq_bind,
        Option.bind_some, hmembers]
      rfl
termination_by fuel

end

theorem ofText?_text {d : Document} (h : ∀ t ∈ d.tokens, t.Plain) : ofText? d.text = some d := by
  have htokens : Token.ofText? d.text.toList = some d.tokens := by
    rw [text, String.toList_ofList]
    exact Token.ofText?_chars h
  have hvalue := takeValue?_tokens d _ (Nat.le_succ (2 * d.tokens.length)) []
  rw [List.append_nil] at hvalue
  rw [ofText?, htokens, Option.bind_eq_bind, Option.bind_some, hvalue]

end Document

end Cql.Json
