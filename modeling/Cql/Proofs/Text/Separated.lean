import Mathlib.Data.List.Basic
import Cql.Proofs.Name

/-!
Texts cut at a mark with a blank behind it. What stands between quotes is no mark. A quote that is
written twice closes a quoted text and opens it again at once, so it may count as two.
-/

namespace Cql.Text

/-- The pieces between the marks. -/
def pieces (mark : Char) : (quoted : Bool) → List Char → List (List Char)
  | quoted, c :: d :: s =>
    if quoted = false ∧ c = mark ∧ d = ' ' then [] :: pieces mark false s
    else (pieces mark (quoted != (c == '\'')) (d :: s)).modifyHead (c :: ·)
  | _, s => [s]

/-- The texts before and behind the first mark. -/
def cut? (mark : Char) : (quoted : Bool) → List Char → Option (List Char × List Char)
  | quoted, c :: d :: s =>
    if quoted = false ∧ c = mark ∧ d = ' ' then some ([], s)
    else (cut? mark (quoted != (c == '\'')) (d :: s)).map fun sides => (c :: sides.1, sides.2)
  | _, _ => none

/-- Every quoted text is closed, and outside of them there is no `mark`. -/
def Solid (mark : Char) : (quoted : Bool) → List Char → Prop
  | quoted, [] => quoted = false
  | quoted, c :: s => (quoted = true ∨ c ≠ mark) ∧ Solid mark (quoted != (c == '\'')) s

section Solid

variable {mark : Char} {quoted : Bool} {s t : List Char}

theorem solid_append (hs : Solid mark quoted s) (ht : Solid mark false t) :
    Solid mark quoted (s ++ t) := by
  induction s generalizing quoted with
  | nil =>
    obtain rfl : quoted = false := hs
    exact ht
  | cons c s ih => exact ⟨hs.1, ih hs.2⟩

theorem solid_of_forall (h : ∀ c ∈ s, c ≠ mark ∧ c ≠ '\'') : Solid mark false s := by
  induction s with
  | nil => rfl
  | cons c s ih =>
    obtain ⟨hmark, hquote⟩ := h c (by simp)
    refine ⟨.inr hmark, ?_⟩
    have hsame : (false != (c == '\'')) = false := by simp [hquote]
    rw [hsame]
    exact ih fun d hd => h d (by simp [hd])

/-- The rest of a literal behind its opening quote. -/
theorem solid_double (hmark : mark ≠ '\'') (s : List Char) :
    Solid mark true (double '\'' s ++ ['\'']) := by
  induction s with
  | nil => exact ⟨.inl rfl, rfl⟩
  | cons c s ih =>
    by_cases hc : c = '\''
    · subst hc
      simp only [double, if_true, List.cons_append]
      exact ⟨.inl rfl, .inr (Ne.symm hmark), ih⟩
    · simp only [double, if_neg hc, List.cons_append]
      have hsame : (true != (c == '\'')) = true := by simp [hc]
      refine ⟨.inl rfl, ?_⟩
      rw [hsame]
      exact ih

theorem solid_quoted (hmark : mark ≠ '\'') (s : List Char) : Solid mark false (Text.quoted s) :=
  ⟨.inr (Ne.symm hmark), solid_double hmark s⟩

end Solid

section Marks

variable {mark c : Char} {quoted : Bool} {s : List Char}

theorem pieces_cons (h : quoted = true ∨ c ≠ mark) (s : List Char) :
    pieces mark quoted (c :: s) =
      (pieces mark (quoted != (c == '\'')) s).modifyHead (c :: ·) := by
  cases s with
  | nil => rfl
  | cons d s =>
    rw [pieces, if_neg]
    rintro ⟨hquoted, hc, _⟩
    rcases h with h | h
    · simp [hquoted] at h
    · exact h hc

theorem cut?_cons (h : quoted = true ∨ c ≠ mark) (s : List Char) :
    cut? mark quoted (c :: s) =
      (cut? mark (quoted != (c == '\'')) s).map fun sides => (c :: sides.1, sides.2) := by
  cases s with
  | nil => rfl
  | cons d s =>
    rw [cut?, if_neg]
    rintro ⟨hquoted, hc, _⟩
    rcases h with h | h
    · simp [hquoted] at h
    · exact h hc

theorem pieces_of_solid (h : Solid mark quoted s) : pieces mark quoted s = [s] := by
  induction s generalizing quoted with
  | nil => rfl
  | cons c s ih =>
    rw [pieces_cons h.1, ih h.2]
    rfl

theorem pieces_append (h : Solid mark quoted s) (rest : List Char) :
    pieces mark quoted (s ++ mark :: ' ' :: rest) = s :: pieces mark false rest := by
  induction s generalizing quoted with
  | nil =>
    obtain rfl : quoted = false := h
    exact if_pos ⟨rfl, rfl, rfl⟩
  | cons c s ih =>
    rw [List.cons_append, pieces_cons h.1, ih h.2]
    rfl

theorem cut?_append (h : Solid mark quoted s) (rest : List Char) :
    cut? mark quoted (s ++ mark :: ' ' :: rest) = some (s, rest) := by
  induction s generalizing quoted with
  | nil =>
    obtain rfl : quoted = false := h
    exact if_pos ⟨rfl, rfl, rfl⟩
  | cons c s ih =>
    rw [List.cons_append, cut?_cons h.1, ih h.2]
    rfl

/-- Joined texts are taken apart again. -/
theorem pieces_intercalate {parts : List (List Char)} (hne : parts ≠ [])
    (hparts : ∀ part ∈ parts, Solid mark false part) :
    pieces mark false ([mark, ' '].intercalate parts) = parts := by
  induction parts with
  | nil => exact absurd rfl hne
  | cons part parts ih =>
    have hpart := hparts part (by simp)
    cases parts with
    | nil =>
      rw [List.intercalate_singleton]
      exact pieces_of_solid hpart
    | cons next parts =>
      rw [List.intercalate_cons_cons, List.append_assoc, List.cons_append, List.singleton_append,
        pieces_append hpart,
        ih (by simp) fun other hother => hparts other (List.mem_cons_of_mem _ hother)]

end Marks

theorem double_injective (c : Char) : Function.Injective (double c) := by
  intro s t h
  induction s generalizing t with
  | nil =>
    cases t with
    | nil => rfl
    | cons d t =>
      rw [double, double] at h
      split at h <;> cases h
  | cons d s ih =>
    cases t with
    | nil =>
      rw [double, double] at h
      split at h <;> cases h
    | cons e t =>
      have hhead : d = e := by
        rw [double, double] at h
        split at h <;> split at h <;> exact (List.cons.inj h).1
      subst hhead
      rw [double, double] at h
      split at h
      · rw [ih (by simpa using h)]
      · rw [ih (by simpa using h)]

theorem length_le_length_double (c : Char) (s : List Char) : s.length ≤ (double c s).length := by
  induction s with
  | nil => exact Nat.le_refl _
  | cons d s ih =>
    rw [double]
    split
    all_goals
      simp only [List.length_cons]
      omega

end Cql.Text

namespace Cql

theorem quote_ne (s : String) : quote s ≠ s := by
  intro h
  have hlength : (quote s).toList.length = s.toList.length := by rw [h]
  rw [toList_quote, Text.quoted, List.length_cons, List.length_append] at hlength
  have hdouble := Text.length_le_length_double '\'' s.toList
  omega

theorem quote_injective : Function.Injective quote := by
  intro s t h
  have hquoted : Text.quoted s.toList = Text.quoted t.toList := by
    rw [← toList_quote, ← toList_quote, h]
  rw [Text.quoted, Text.quoted, List.cons.injEq, List.append_cancel_right_eq] at hquoted
  exact String.toList_inj.mp (Text.double_injective _ hquoted.2)

end Cql
