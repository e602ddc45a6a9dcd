import Cql.Text.Blank
import Cql.Proofs.Text.Numeral

/-!
Texts without blanks. They are what is left when the blanks around them are trimmed.
-/

namespace Cql.Text

variable {c : Char} {s t before after : List Char}

def NoBlank (s : List Char) : Prop :=
  ∀ c ∈ s, isBlank c = false

instance : Decidable (NoBlank s) :=
  List.decidableBAll (fun c => isBlank c = false) s

theorem noBlank_nil : NoBlank [] :=
  fun _ hc => absurd hc List.not_mem_nil

theorem noBlank_append : NoBlank (s ++ t) ↔ NoBlank s ∧ NoBlank t :=
  List.forall_mem_append

theorem noBlank_cons : NoBlank (c :: s) ↔ isBlank c = false ∧ NoBlank s :=
  List.forall_mem_cons

section Characters

theorem isBlank_of_between (hlow : 0x20 < c.toNat) (hhigh : c.toNat < 0x7F) :
    isBlank c = false := by
  unfold isBlank
  simp only [Bool.or_eq_false_iff, Bool.and_eq_false_iff, decide_eq_false_iff_not,
    beq_eq_false_iff_ne, not_le]
  omega

theorem isBlank_of_isAlphanum (h : c.isAlphanum = true) : isBlank c = false := by
  delta Char.isAlphanum Char.isAlpha Char.isUpper Char.isLower Char.isDigit at h
  simp only [Bool.or_eq_true, Bool.and_eq_true, decide_eq_true_eq, ge_iff_le,
    UInt32.le_iff_toNat_le] at h
  change ((65 ≤ c.toNat ∧ c.toNat ≤ 90) ∨ (97 ≤ c.toNat ∧ c.toNat ≤ 122)) ∨
    (48 ≤ c.toNat ∧ c.toNat ≤ 57) at h
  apply isBlank_of_between
  · omega
  · omega

theorem isBlank_of_isDigit (h : c.isDigit = true) : isBlank c = false :=
  isBlank_of_isAlphanum (by simp [Char.isAlphanum, h])

theorem noBlank_of_numeric (h : Numeric s) : NoBlank s := by
  intro c hc
  have hchar := h c hc
  simp only [Bool.or_eq_true, beq_iff_eq] at hchar
  rcases hchar with (halphanum | rfl) | rfl
  · exact isBlank_of_isAlphanum halphanum
  · rfl
  · rfl

theorem noBlank_decimal (n : Nat) : NoBlank (decimal n) :=
  noBlank_of_numeric (numeric_decimal n)

theorem noBlank_padded (width n : Nat) : NoBlank (padded width n) :=
  fun _ hc => isBlank_of_isDigit (isDigit_of_mem_padded hc)

theorem isBlank_of_hexValue? (h : (hexValue? c).isSome = true) : isBlank c = false := by
  have hrange : (48 ≤ c.toNat ∧ c.toNat ≤ 57) ∨ (97 ≤ c.toNat ∧ c.toNat ≤ 102) ∨
      (65 ≤ c.toNat ∧ c.toNat ≤ 70) := by
    unfold hexValue? at h
    split at h
    · rename_i hdigit
      exact Or.inl hdigit
    · split at h
      · rename_i hlower
        exact Or.inr (Or.inl hlower)
      · split at h
        · rename_i hupper
          exact Or.inr (Or.inr hupper)
        · cases h
  apply isBlank_of_between
  · omega
  · omega

theorem noBlank_intercalate {separator : Char} (hseparator : isBlank separator = false)
    {parts : List (List Char)} (h : ∀ part ∈ parts, NoBlank part) :
    NoBlank ([separator].intercalate parts) := by
  induction parts with
  | nil => exact noBlank_nil
  | cons part parts ih =>
    have hpart := h part (by simp)
    have hparts := ih fun other hother => h other (by simp [hother])
    cases parts with
    | nil => simpa using hpart
    | cons next parts =>
      rw [List.intercalate_cons_cons, noBlank_append, noBlank_append, noBlank_cons]
      exact ⟨⟨hpart, hseparator, noBlank_nil⟩, hparts⟩

end Characters

section Trim

theorem trimStart_cons (h : isBlank c = false) (s : List Char) : trimStart (c :: s) = c :: s := by
  rw [trimStart, List.dropWhile_cons_of_neg (by simp [h])]

theorem trimStart_append (hbefore : ∀ c ∈ before, isBlank c = true) (s : List Char) :
    trimStart (before ++ s) = trimStart s :=
  List.dropWhile_append_of_pos hbefore

theorem trim_between (hbefore : ∀ c ∈ before, isBlank c = true) (hs : NoBlank s)
    (hafter : ∀ c ∈ after, isBlank c = true) : trim (before ++ s ++ after) = s := by
  have hback : ∀ {t : List Char}, NoBlank t → trimStart (after.reverse ++ t) = t := by
    intro t ht
    rw [trimStart_append fun c hc => hafter c (List.mem_reverse.mp hc)]
    cases t with
    | nil => rfl
    | cons c t => exact trimStart_cons (ht c (by simp)) t
  rw [trim, List.append_assoc, trimStart_append hbefore]
  cases s with
  | nil =>
    have hnone := trimStart_append hafter []
    rw [List.append_nil] at hnone
    rw [List.nil_append, hnone]
    rfl
  | cons c s =>
    have hreverse : NoBlank (c :: s).reverse := fun d hd => hs d (List.mem_reverse.mp hd)
    rw [List.cons_append, trimStart_cons (hs c (by simp)), ← List.cons_append, List.reverse_append,
      hback hreverse, List.reverse_reverse]

end Trim

end Cql.Text
