import Cql.Proofs.Text.Separated
import Cql.Proofs.Values.RawText

/-!
What the literal tells of a value. Main statement: in eleven of the scalar types two values have one
literal only if they are one value, and of a blob the literal shows the bytes.
-/

namespace Cql.Value

open Text

/-- Two values of one type, for the types whose literals tell their values in full. Of the times of
day these are the ones without a leap second. -/
inductive Peers : Value → Value → Prop
  | tinyInt (a b : Int8) : Peers (.tinyInt a) (.tinyInt b)
  | smallInt (a b : Int16) : Peers (.smallInt a) (.smallInt b)
  | int (a b : Int32) : Peers (.int a) (.int b)
  | bigInt (a b : Int64) : Peers (.bigInt a) (.bigInt b)
  | text (a b : String) : Peers (.text a) (.text b)
  | blob (a b : List UInt8) : Peers (.blob a) (.blob b)
  | inet (a b : IpAddress) : Peers (.inet a) (.inet b)
  | uuid (a b : Uuid) : Peers (.uuid a) (.uuid b)
  | timeUuid (a b : Uuid) : Peers (.timeUuid a) (.timeUuid b)
  | date (a b : Date) : Peers (.date a) (.date b)
  | time (a b : TimeOfDay) (ha : a.nanos < 1000000000) (hb : b.nanos < 1000000000) :
    Peers (.time a) (.time b)

variable {v w : Value}

theorem slotType?_of_peers (h : Peers v w) :
    v.slotType? = w.slotType? ∧ v.slotType?.isSome = true := by
  cases h <;> exact ⟨rfl, rfl⟩

theorem not_confused_of_peers (h : Peers v w) : ¬ Confused v w := by
  intro hconfused
  cases h with
  | time a b ha hb =>
    cases hconfused with
    | time hleap =>
      unfold TimeOfDay.LeapsInto at hleap
      omega
  | _ => cases hconfused

/-- The literal is the raw text or its quotation, by the type. -/
theorem rawText_of_literal (h : Peers v w) (heq : v.literal = w.literal) :
    v.rawText = w.rawText := by
  cases h with
  | text | inet | date | time => exact quote_injective heq
  | _ => exact heq

theorem eq_of_literal (h : Peers v w) (heq : v.literal = w.literal) : v = w := by
  obtain ⟨hslot, hplain⟩ := slotType?_of_peers h
  rcases eq_or_confused hslot hplain (rawText_of_literal h heq) with hvw | hdecimal | hconfused
  · exact hvw
  · obtain ⟨a, b, rfl, rfl, _⟩ := hdecimal
    cases h
  · exact absurd hconfused (not_confused_of_peers h)

/-- Values of one of these types differ if and only if their literals do. The literal of a blob is
the mark of hexadecimal digits and the digits of its bytes, from which they are read back. -/
theorem literal_eq_iff :
    (∀ v w : Value, Peers v w → (v.literal = w.literal ↔ v = w)) ∧
    ∀ bytes : List UInt8, ∃ digits : String, (blob bytes).literal = "0x" ++ digits ∧
      bytesOfHex? digits.toList = some bytes := by
  constructor
  · intro v w hpeers
    exact ⟨eq_of_literal hpeers, congrArg literal⟩
  · intro bytes
    refine ⟨String.ofList (hexBytes bytes), ?_, ?_⟩
    · rw [literal, ← String.toList_inj]
      simp
    · rw [String.toList_ofList]
      exact bytesOfHex?_hexBytes bytes

/-- An address of version 4 and the one of version 6 that stands for it. -/
theorem literal_eq_iff_of_mapped :
    Peers (.inet (.v4 10 0 0 1)) (.inet (.v6 [0, 0, 0, 0, 0, 0xffff, 0x0a00, 1] rfl)) ∧
    (inet (.v4 10 0 0 1)).literal ≠
      (inet (.v6 [0, 0, 0, 0, 0, 0xffff, 0x0a00, 1] rfl)).literal := by
  refine ⟨.inet _ _, fun h => ?_⟩
  have heq := (literal_eq_iff.1 _ _ (.inet _ _)).mp h
  cases heq

end Cql.Value
