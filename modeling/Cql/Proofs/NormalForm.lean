import Cql.Text.NormalForm

/-!
Texts of ASCII characters are in normalization form KC: none of these characters is a variant, is
made up of others, is a mark or composes with the character before it.
-/

namespace Cql.Text

theorem combiningRanges_above : ∀ r ∈ combiningRanges.toList, 128 ≤ r.1 := by
  decide +kernel

theorem variantRanges_above : ∀ r ∈ variantRanges.toList, 128 ≤ r.1 := by
  decide +kernel

/-- Only the first part of a composition can be an ASCII character. -/
theorem compositions_above : ∀ t ∈ compositions.toList, 128 ≤ t.2.1 ∧ 128 ≤ t.2.2 := by
  decide +kernel

variable {n : Nat}

theorem find?_combiningRanges_of_ascii (h : n < 128) :
    (combiningRanges.find? fun r => r.1 ≤ n && n ≤ r.2.1) = none := by
  rw [Array.find?_eq_none]
  intro r hr
  have hstart := combiningRanges_above r (Array.mem_toList_iff.mpr hr)
  have hout : ¬ r.1 ≤ n := by omega
  simp [hout]

theorem combiningClass_of_ascii (h : n < 128) : combiningClass n = 0 := by
  unfold combiningClass
  rw [find?_combiningRanges_of_ascii h]

theorem isVariant_of_ascii {c : Char} (h : c.toNat < 128) : isVariant c = false := by
  rw [isVariant, ← Array.any_toList, List.any_eq_false]
  intro r hr
  have hstart := variantRanges_above r hr
  have hout : ¬ r.1 ≤ c.toNat := by omega
  simp [hout]

theorem parts?_of_ascii (h : n < 128) : parts? n = none := by
  have hhangul : isHangul n = false := by
    have hbase : ¬ hangulBase ≤ n := by
      rw [hangulBase]
      omega
    simp [isHangul, hbase]
  have hnone : (compositions.find? fun t => t.2.2 == n) = none := by
    rw [Array.find?_eq_none]
    intro t ht
    have hcomposed := (compositions_above t (Array.mem_toList_iff.mpr ht)).2
    have hne : t.2.2 ≠ n := by omega
    simpa using hne
  rw [parts?, hhangul, hnone]
  rfl

theorem compose?_of_ascii (base : Nat) (h : n < 128) : compose? base n = none := by
  have hnone : (compositions.find? fun t => t.1 == base && t.2.1 == n) = none := by
    rw [Array.find?_eq_none]
    intro t ht
    have hsecond := (compositions_above t (Array.mem_toList_iff.mpr ht)).1
    have hne : t.2.1 ≠ n := by omega
    simp [hne]
  have hvowel : ¬ (0x1100 ≤ base ∧ base < 0x1113 ∧ 0x1161 ≤ n ∧ n < 0x1176) := by omega
  have htrailing : ¬ (isHangul base ∧ (base - hangulBase) % 28 = 0 ∧ 0x11A7 < n ∧ n < 0x11C3) := by
    omega
  rw [compose?, if_neg hvowel, if_neg htrailing, hnone]
  rfl

theorem decompose_of_ascii (depth : Nat) (h : n < 128) : decompose depth n = [n] := by
  cases depth with
  | zero => rfl
  | succ depth => rw [decompose, parts?_of_ascii h]

section Texts

variable {s : List Nat}

theorem orderMarks_of_ascii (h : ∀ n ∈ s, n < 128) : orderMarks s = s := by
  induction s with
  | nil => rfl
  | cons n rest ih =>
    have hrest := ih fun m hm => h m (by simp [hm])
    rw [orderMarks] at hrest ⊢
    rw [List.foldr_cons, hrest]
    cases rest with
    | nil => rfl
    | cons m rest =>
      have hm := combiningClass_of_ascii (h m (by simp))
      rw [placeMark, if_pos (Or.inl hm)]

theorem composeFrom_of_ascii (base : Option Nat) (h : ∀ n ∈ s, n < 128) :
    composeFrom base [] s = base.toList ++ s := by
  induction s generalizing base with
  | nil => rfl
  | cons n rest ih =>
    have hn := h n (by simp)
    have hrest := ih (some n) fun m hm => h m (by simp [hm])
    have hbind : (base.bind fun b => compose? b n) = none := by
      cases base with
      | none => rfl
      | some b => exact compose?_of_ascii b hn
    have hmark := combiningClass_of_ascii hn
    simp [composeFrom, hbind, hmark, hrest]

theorem canonical_of_ascii (h : ∀ n ∈ s, n < 128) : canonical s = s := by
  have hparts : s.flatMap (decompose maxParts) = s := by
    rw [List.flatMap_def, List.map_congr_left fun n hn => decompose_of_ascii maxParts (h n hn),
      ← List.flatMap_def, List.flatMap_singleton']
  rw [canonical, hparts, orderMarks_of_ascii h, composeFrom_of_ascii none h]
  rfl

end Texts

theorem isNormal_of_ascii {s : List Char} (h : ∀ c ∈ s, c.toNat < 128) : isNormal s = true := by
  have hvariant : s.any isVariant = false := by
    rw [List.any_eq_false]
    intro c hc
    rw [isVariant_of_ascii (h c hc)]
    exact Bool.false_ne_true
  have hcanonical : canonical (s.map Char.toNat) = s.map Char.toNat := by
    apply canonical_of_ascii
    intro n hn
    obtain ⟨c, hc, rfl⟩ := List.mem_map.mp hn
    exact h c hc
  rw [isNormal, hvariant, hcanonical]
  simp

end Cql.Text
