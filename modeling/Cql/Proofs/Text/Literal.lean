import Cql.Proofs.Text.Numeral
import Cql.Text.Quoted

/-!
Reading string literals. The reader knows the quote and nothing else: two quotes side by side stand
for one, and the first quote that stands alone is the end of the literal. Main statement: it accepts
the literals that `quote` writes and no others, and it leaves what follows them.
-/

namespace Cql

namespace Text

/-- What stands before the first quote that is not doubled, with the doubled ones read as one, and
what follows that quote. -/
def quotedBody? : List Char → Option (List Char × List Char)
  | [] => none
  | '\'' :: '\'' :: s => (quotedBody? s).map fun (body, rest) => ('\'' :: body, rest)
  | '\'' :: s => some ([], s)
  | c :: s => (quotedBody? s).map fun (body, rest) => (c :: body, rest)

/-- The content of the literal at the start of a text, and the rest of the text. -/
def readQuoted? : List Char → Option (List Char × List Char)
  | '\'' :: s => quotedBody? s
  | _ => none

variable {s t : List Char}

theorem quotedBody?_end (ht : t.head? ≠ some '\'') : quotedBody? ('\'' :: t) = some ([], t) := by
  rw [quotedBody?]
  rintro s rfl
  exact ht rfl

theorem quotedBody?_cons {c : Char} (hc : c ≠ '\'') (s : List Char) :
    quotedBody? (c :: s) = (quotedBody? s).map fun (body, rest) => (c :: body, rest) := by
  rw [quotedBody?]
  · rintro s rfl
    exact absurd rfl hc
  · rintro rfl
    exact absurd rfl hc

/-- The induction is on the content alone: all that matters of the text behind the literal is its
first character. -/
theorem quotedBody?_double (s : List Char) (ht : t.head? ≠ some '\'') :
    quotedBody? (double '\'' s ++ '\'' :: t) = some (s, t) := by
  induction s with
  | nil => exact quotedBody?_end ht
  | cons c s ih =>
    rw [double]
    split
    · rename_i hc
      subst hc
      rw [List.cons_append, List.cons_append, quotedBody?, ih, Option.map_some]
    · rename_i hc
      rw [List.cons_append, quotedBody?_cons hc, ih, Option.map_some]

theorem eq_of_quotedBody? {u : List Char} (h : quotedBody? u = some (s, t)) :
    u = double '\'' s ++ '\'' :: t ∧ t.head? ≠ some '\'' := by
  fun_induction quotedBody? u generalizing s with
  | case1 => cases h
  | case2 u ih =>
    obtain ⟨⟨body, rest⟩, hread, heq⟩ := Option.map_eq_some_iff.mp h
    obtain ⟨rfl, rfl⟩ := Prod.mk.inj heq
    obtain ⟨rfl, hrest⟩ := ih hread
    exact ⟨rfl, hrest⟩
  | case3 u halone =>
    obtain ⟨rfl, rfl⟩ := Prod.mk.inj (Option.some.inj h)
    refine ⟨rfl, fun hhead => ?_⟩
    obtain ⟨rest, rfl⟩ := List.head?_eq_some_iff.mp hhead
    exact halone rest rfl
  | case4 c u _ hc ih =>
    obtain ⟨⟨body, rest⟩, hread, heq⟩ := Option.map_eq_some_iff.mp h
    obtain ⟨rfl, rfl⟩ := Prod.mk.inj heq
    obtain ⟨rfl, hrest⟩ := ih hread
    rw [double, if_neg hc]
    exact ⟨rfl, hrest⟩

theorem readQuoted?_eq_some_iff {u : List Char} :
    readQuoted? u = some (s, t) ↔ u = quoted s ++ t ∧ t.head? ≠ some '\'' := by
  constructor
  · intro h
    unfold readQuoted? at h
    split at h
    · obtain ⟨rfl, ht⟩ := eq_of_quotedBody? h
      exact ⟨by simp [quoted], ht⟩
    · cases h
  · rintro ⟨rfl, ht⟩
    simp only [quoted, readQuoted?, List.cons_append, List.append_assoc, List.nil_append]
    exact quotedBody?_double s ht

end Text

/-- The text that a literal at the start of `u` holds, and what is left of `u`. -/
def readLiteral? (u : String) : Option (String × String) :=
  (Text.readQuoted? u.toList).map fun (s, t) => (String.ofList s, String.ofList t)

theorem readLiteral?_eq_some_iff {u s t : String} :
    readLiteral? u = some (s, t) ↔ u = quote s ++ t ∧ t.toList.head? ≠ some '\'' := by
  have hread : readLiteral? u = some (s, t) ↔
      Text.readQuoted? u.toList = some (s.toList, t.toList) := by
    unfold readLiteral?
    cases Text.readQuoted? u.toList with
    | none => simp
    | some sides => simp [Prod.ext_iff, ← String.toList_inj]
  rw [hread, Text.readQuoted?_eq_some_iff, ← toList_quote, ← String.toList_append,
    String.toList_inj]

/-- A literal is read back, whatever it holds and whatever stands behind it, as long as that is no
quote; and what is read as a literal is one. So neither can a text end its literal early or take in
what follows, nor do two texts have one literal. -/
theorem readLiteral?_quote :
    (∀ s t : String, t.toList.head? ≠ some '\'' → readLiteral? (quote s ++ t) = some (s, t)) ∧
    (∀ u s t : String, readLiteral? u = some (s, t) →
      u = quote s ++ t ∧ t.toList.head? ≠ some '\'') ∧
    (∀ s s' t t' : String, t.toList.head? ≠ some '\'' → t'.toList.head? ≠ some '\'' →
      quote s ++ t = quote s' ++ t' → s = s' ∧ t = t') ∧
    Function.Injective quote := by
  have hread : ∀ s t : String, t.toList.head? ≠ some '\'' →
      readLiteral? (quote s ++ t) = some (s, t) :=
    fun s t ht => readLiteral?_eq_some_iff.mpr ⟨rfl, ht⟩
  have hcut : ∀ s s' t t' : String, t.toList.head? ≠ some '\'' → t'.toList.head? ≠ some '\'' →
      quote s ++ t = quote s' ++ t' → s = s' ∧ t = t' := by
    intro s s' t t' ht ht' heq
    have hboth := hread s t ht
    rw [heq, hread s' t' ht'] at hboth
    obtain ⟨rfl, rfl⟩ := Prod.mk.inj (Option.some.inj hboth)
    exact ⟨rfl, rfl⟩
  refine ⟨hread, fun u s t h => readLiteral?_eq_some_iff.mp h, hcut, ?_⟩
  apply @Text.injective_of_read _ _ quote fun u => (readLiteral? u).map Prod.fst
  intro s
  have hend := hread s "" (by decide)
  rw [String.append_empty] at hend
  rw [hend]
  rfl

/-- Quotes at both ends of the text and side by side in it, and a literal in what follows. -/
theorem readLiteral?_quote_of_quotes :
    (", 'x'" : String).toList.head? ≠ some '\'' ∧
    readLiteral? (quote "'it''s'" ++ ", 'x'") = some ("'it''s'", ", 'x'") ∧
    quote "'it''s'" = "'''it''''s'''" :=
  ⟨by decide, readLiteral?_quote.1 "'it''s'" ", 'x'" (by decide), by decide⟩

end Cql
