import Mathlib.Data.Nat.Digits.Defs
import Cql.Text.Shortest

/-!
The characters of numerals, and the numbers that are read back from them.
-/

namespace Cql.Text

theorem mem_leftpad {s : List Char} {width : Nat} {c : Char} (h : c ∈ s.leftpad width '0') :
    c ∈ s ∨ c = '0' := by
  rw [List.leftpad, List.mem_append, List.mem_replicate] at h
  rcases h with ⟨_, rfl⟩ | h
  · exact .inr rfl
  · exact .inl h

theorem mem_positional {s : List Char} {exponent : Int} {c : Char} (h : c ∈ positional s exponent) :
    c ∈ s ∨ c = '0' ∨ c = '.' := by
  unfold positional at h
  split at h
  · rw [List.mem_append, List.mem_replicate] at h
    rcases h with h | ⟨_, rfl⟩
    · exact .inl h
    · exact .inr (.inl rfl)
  · rw [List.mem_append, List.mem_cons] at h
    rcases h with h | rfl | h
    · exact (mem_leftpad (List.mem_of_mem_take h)).imp_right .inl
    · exact .inr (.inr rfl)
    · exact (mem_leftpad (List.mem_of_mem_drop h)).imp_right .inl

/-- Written with letters, digits, hyphens and points. -/
def Numeric (s : List Char) : Prop :=
  ∀ c ∈ s, (c.isAlphanum || c == '-' || c == '.') = true

section Numeric

variable {s t : List Char} {c : Char} {n : Nat}

instance : Decidable (Numeric s) :=
  List.decidableBAll (fun c => (c.isAlphanum || c == '-' || c == '.') = true) s

theorem numeric_append : Numeric (s ++ t) ↔ Numeric s ∧ Numeric t :=
  List.forall_mem_append

theorem numeric_cons :
    Numeric (c :: s) ↔ (c.isAlphanum || c == '-' || c == '.') = true ∧ Numeric s :=
  List.forall_mem_cons

theorem numeric_take (h : Numeric s) (n : Nat) : Numeric (s.take n) :=
  fun c hc => h c (List.mem_of_mem_take hc)

theorem numeric_drop (h : Numeric s) (n : Nat) : Numeric (s.drop n) :=
  fun c hc => h c (List.mem_of_mem_drop hc)

theorem isDigit_of_mem_decimal (h : c ∈ decimal n) : c.isDigit = true :=
  Nat.isDigit_of_mem_toDigits (by decide) (by decide) h

theorem numeric_of_digits (h : ∀ c ∈ s, c.isDigit = true) : Numeric s := by
  intro c hc
  simp [Char.isAlphanum, h c hc]

theorem numeric_decimal (n : Nat) : Numeric (decimal n) :=
  numeric_of_digits fun _ hc => isDigit_of_mem_decimal hc

theorem mem_hex {width : Nat} (h : c ∈ hex width n) : ∃ k < 16, c = Nat.digitChar k := by
  induction width generalizing n with
  | zero => cases h
  | succ width ih =>
    rw [hex, List.mem_append, List.mem_singleton] at h
    rcases h with h | rfl
    · exact ih h
    · exact ⟨n % 16, Nat.mod_lt _ (by decide), rfl⟩

theorem numeric_hex (width n : Nat) : Numeric (hex width n) := by
  have hdigit : ∀ k < 16, Numeric [Nat.digitChar k] := by decide
  intro c hc
  obtain ⟨k, hk, rfl⟩ := mem_hex hc
  exact hdigit k hk _ List.mem_cons_self

theorem numeric_positional (h : Numeric s) (exponent : Int) : Numeric (positional s exponent) := by
  intro c hc
  rcases mem_positional hc with hc | rfl | rfl
  · exact h c hc
  · rfl
  · rfl

theorem numeric_repr (n : Int) : Numeric n.repr.toList := by
  have hnat : ∀ m : Nat, Numeric m.repr.toList := by
    intro m
    rw [Nat.repr_eq_ofList_toDigits, String.toList_ofList]
    exact numeric_decimal m
  rw [Int.repr_eq_if]
  split
  · exact hnat _
  · rw [String.toList_append]
    exact numeric_append.mpr ⟨by decide, hnat _⟩

end Numeric

/-- What can be read back is told apart. -/
theorem injective_of_read {α β : Type} {print : α → β} {read? : β → Option α}
    (h : ∀ a, read? (print a) = some a) : Function.Injective print := by
  intro a b heq
  have hread := h a
  rw [heq, h] at hread
  exact (Option.some.inj hread).symm

section Reading

variable {s : List Char} {acc n width : Nat}

theorem isDigit_of_mem_padded {c : Char} (hc : c ∈ padded width n) : c.isDigit = true := by
  rcases mem_leftpad hc with hc | rfl
  · exact isDigit_of_mem_decimal hc
  · rfl

theorem digits?_padded (width n : Nat) : digits? (padded width n) = some n := by
  have hdigits : ∀ c ∈ padded width n, c.isDigit = true := fun c hc => isDigit_of_mem_padded hc
  have hne : padded width n ≠ [] := by
    rw [padded, List.leftpad]
    exact List.append_ne_nil_of_right_ne_nil _ Nat.toDigits_ne_nil
  rw [digits?, if_pos ⟨hne, List.all_eq_true.mpr hdigits⟩, padded, List.leftpad,
    Nat.ofDigitChars_append, Nat.ofDigitChars_replicate_zero, Nat.mul_zero, decimal,
    Nat.ofDigitChars_ten_toDigits]

theorem digits?_decimal (n : Nat) : digits? (decimal n) = some n := by
  have hpadded : padded 0 n = decimal n := by
    rw [padded, List.leftpad, Nat.zero_sub, List.replicate_zero, List.nil_append]
  rw [← hpadded, digits?_padded]

/-- An integer is read back from its numeral. -/
theorem integer?_repr (n : Int) : integer? n.repr.toList = some n := by
  rw [Int.repr_eq_if]
  split
  · rename_i hn
    rw [Nat.repr_eq_ofList_toDigits, String.toList_ofList, ← decimal]
    have hdigit : ∀ c ∈ (decimal n.toNat).head?, c.isDigit = true :=
      fun c hc => isDigit_of_mem_decimal (List.mem_of_mem_head? hc)
    unfold integer?
    split
    · rename_i heq
      rw [heq] at hdigit
      exact absurd (hdigit '-' rfl) (by decide)
    · rename_i heq
      rw [heq] at hdigit
      exact absurd (hdigit '+' rfl) (by decide)
    · rw [digits?_decimal, Option.map_some, Int.ofNat_eq_natCast, Int.toNat_of_nonneg hn]
  · rename_i hn
    have habs : -((-n).toNat : Int) = n := by omega
    have htext : ("-" ++ (-n).toNat.repr).toList = '-' :: decimal (-n).toNat := by
      simp [Nat.repr_eq_ofList_toDigits, decimal]
    rw [htext, integer?, digits?_decimal]
    exact congrArg some habs

theorem repr_injective : Function.Injective Int.repr :=
  @injective_of_read _ _ _ (fun s => integer? s.toList) integer?_repr

theorem length_padded (h : n < 10 ^ width) (hwidth : 0 < width) :
    (padded width n).length = width := by
  have hle := (Nat.length_toDigits_le_iff (by decide) hwidth).mpr h
  rw [padded, List.length_leftpad]
  exact max_eq_left hle

theorem hexValue?_digitChar (h : n < 16) : hexValue? (Nat.digitChar n) = some n := by
  have hall : ∀ k < 16, hexValue? (Nat.digitChar k) = some k := by decide
  exact hall n h

theorem hexDigits?_append (acc : Nat) (s t : List Char) :
    hexDigits? acc (s ++ t) = (hexDigits? acc s).bind fun n => hexDigits? n t := by
  induction s generalizing acc with
  | nil => rfl
  | cons c s ih =>
    rw [List.cons_append, hexDigits?, hexDigits?, Option.bind_assoc]
    exact Option.bind_congr fun d _ => ih _

theorem isSome_of_hexDigits? (h : hexDigits? acc s = some n) {c : Char} (hc : c ∈ s) :
    (hexValue? c).isSome = true := by
  induction s generalizing acc with
  | nil => cases hc
  | cons d s ih =>
    obtain ⟨value, hvalue, hrest⟩ := Option.bind_eq_some_iff.mp h
    rcases List.mem_cons.mp hc with rfl | hc
    · rw [hvalue]
      rfl
    · exact ih hrest hc

theorem hexDigits?_concat (h : hexDigits? acc s = some n) {d : Nat} (hd : d < 16) :
    hexDigits? acc (s ++ [Nat.digitChar d]) = some (16 * n + d) := by
  rw [hexDigits?_append, h, Option.bind_some, hexDigits?, hexValue?_digitChar hd]
  rfl

theorem hexDigits?_hex (h : n < 16 ^ width) (acc : Nat) :
    hexDigits? acc (hex width n) = some (acc * 16 ^ width + n) := by
  induction width generalizing n with
  | zero =>
    obtain rfl : n = 0 := by simpa using h
    simp [hex, hexDigits?]
  | succ width ih =>
    rw [Nat.pow_succ] at h
    rw [hex, hexDigits?_concat (ih (by omega)) (Nat.mod_lt _ (by decide)), Nat.pow_succ]
    congr 1
    have hdivide := Nat.div_add_mod n 16
    rw [Nat.mul_add, Nat.add_assoc, hdivide, ← Nat.mul_assoc]
    ring

theorem hexDigits?_toDigits (n : Nat) : hexDigits? 0 (Nat.toDigits 16 n) = some n := by
  induction n using Nat.strongRecOn with
  | ind n ih =>
    by_cases hlt : n < 16
    · have hnil : hexDigits? 0 [] = some 0 := rfl
      rw [Nat.toDigits_of_lt_base hlt]
      simpa using hexDigits?_concat hnil hlt
    · rw [Nat.toDigits_of_base_le (by decide) (by omega),
        hexDigits?_concat (ih (n / 16) (by omega)) (Nat.mod_lt _ (by decide)), Nat.div_add_mod]

theorem bytesOfHex?_hexBytes (bytes : List UInt8) : bytesOfHex? (hexBytes bytes) = some bytes := by
  induction bytes with
  | nil => rfl
  | cons b bytes ih =>
    have hlt : b.toNat < 16 ^ 2 := b.toNat_lt
    have hdigits : hexDigits? 0 (hex 2 b.toNat) = some b.toNat := by
      simpa using hexDigits?_hex hlt 0
    change bytesOfHex? (Nat.digitChar (b.toNat / 16 % 16) :: Nat.digitChar (b.toNat % 16) ::
      hexBytes bytes) = _
    rw [bytesOfHex?, ih]
    change ((hexDigits? 0 (hex 2 b.toNat)) >>= fun n => _) = _
    rw [hdigits]
    simp

theorem hexBytes_injective : Function.Injective hexBytes :=
  injective_of_read bytesOfHex?_hexBytes

end Reading

end Cql.Text
