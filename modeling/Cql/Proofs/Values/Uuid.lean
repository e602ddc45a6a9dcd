import Cql.Value.Uuid
import Cql.Proofs.Text.LetterCase
import Cql.Proofs.Text.Numeral

/-!
The texts of identifiers. They are digits with hyphens, and the identifiers are read back from them.
-/

namespace Cql.Uuid

open Text

theorem numeric_toText (u : Uuid) : Numeric u.toText := by
  have hhyphenate : ∀ (sizes : List Nat) (s : List Char), Numeric s →
      Numeric (hyphenate sizes s) := by
    intro sizes s hs
    fun_induction hyphenate sizes s with
    | case1 s => exact hs
    | case2 n s => exact hs
    | case3 n sizes s _ ih =>
      exact numeric_append.mpr
        ⟨numeric_take hs _, numeric_cons.mpr ⟨rfl, ih (numeric_drop hs _)⟩⟩
  exact hhyphenate _ _ (numeric_hex _ _)

theorem unhyphenate?_hyphenate {sizes : List Nat} {s : List Char} (hne : sizes ≠ [])
    (hlength : s.length = sizes.sum) : unhyphenate? sizes (hyphenate sizes s) = some s := by
  fun_induction hyphenate sizes s with
  | case1 s => exact absurd rfl hne
  | case2 n s =>
    rw [unhyphenate?, if_pos (by simpa using hlength)]
  | case3 n sizes s hsizes ih =>
    have hle : n ≤ s.length := by
      rw [hlength, List.sum_cons]
      exact Nat.le_add_right _ _
    have htake : (s.take n).length = n := by
      rw [List.length_take, Nat.min_eq_left hle]
    have hrest : (s.drop n).length = sizes.sum := by
      rw [List.length_drop, hlength, List.sum_cons, Nat.add_sub_cancel_left]
    rw [unhyphenate?]
    · rw [List.drop_left' htake, List.take_left' htake]
      simp only [ih hsizes hrest, Option.map_some, List.take_append_drop]
    · exact hsizes

theorem ofHyphenated?_toText (u : Uuid) : ofHyphenated? u.toText = some u := by
  have hlength : (hex 32 u.bits.toNat).length = 32 := hex_length _ _
  have hbits : u.bits.toNat < 16 ^ 32 := u.bits.isLt
  rw [ofHyphenated?, toText, unhyphenate?_hyphenate (by decide) hlength, Option.bind_eq_bind,
    Option.bind_some, ofDigits?, if_pos hlength, hexDigits?_hex hbits, Nat.zero_mul, Nat.zero_add,
    Option.map_some, BitVec.ofNat_toNat, BitVec.setWidth_eq]

/-- Of the ways in which an identifier may be written, its text is the one with hyphens alone. -/
theorem ofText?_toText (u : Uuid) : ofText? u.toText = some u := by
  have hnumeric := numeric_toText u
  have hresource : (u.toText.take 9).map Char.toLower ≠ resourcePrefix := by
    intro heq
    have hcolon : ':' ∈ (u.toText.take 9).map Char.toLower := by
      rw [heq]
      decide
    obtain ⟨c, hc, hlower⟩ := List.mem_map.mp hcolon
    obtain rfl := eq_of_toLower hlower (by decide)
    exact absurd (hnumeric _ (List.mem_of_mem_take hc)) (by decide)
  have hdigits : ofDigits? u.toText = none := by
    have hhyphen : '-' ∈ u.toText := by
      rw [toText, runs, hyphenate]
      · simp
      · simp
    unfold ofDigits?
    split
    · cases hread : hexDigits? 0 u.toText with
      | none => rfl
      | some n => exact absurd (isSome_of_hexDigits? hread hhyphen) (by decide)
    · rfl
  have hread := ofHyphenated?_toText u
  generalize u.toText = s at hnumeric hresource hdigits hread ⊢
  unfold ofText?
  split
  · exact absurd (hnumeric _ List.mem_cons_self) (by decide)
  · rw [if_neg hresource, hdigits]
    exact hread

theorem toText_injective : Function.Injective toText :=
  injective_of_read ofHyphenated?_toText

end Cql.Uuid
