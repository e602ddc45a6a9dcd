import Mathlib.Data.List.Infix

/-!
Texts that can be read back. A way to write items is legible before some openers if a written item,
followed by nothing or by one of these openers, tells which item it is and where it ends. Words end
at a character that they cannot hold; a list of legible items is legible if its separator cannot be
mistaken for what follows the list.
-/

namespace Cql

/-- Neither text begins with the other. -/
def Apart (s t : String) : Prop :=
  ¬ s.toList <+: t.toList ∧ ¬ t.toList <+: s.toList

instance (s t : String) : Decidable (Apart s t) :=
  inferInstanceAs (Decidable (_ ∧ _))

/-- Whatever follows them, texts that are apart stay different. -/
theorem Apart.append_ne {s t : String} (h : Apart s t) (rest more : String) :
    s ++ rest ≠ t ++ more := by
  intro heq
  have hlist : s.toList ++ rest.toList = t.toList ++ more.toList := by
    rw [← String.toList_append, ← String.toList_append, heq]
  have hs : s.toList <+: t.toList ++ more.toList := hlist ▸ List.prefix_append _ _
  rcases List.prefix_or_prefix_of_prefix hs (List.prefix_append _ _) with hst | hts
  · exact h.1 hst
  · exact h.2 hts

/-- The text is empty or begins with one of the openers. -/
def OpensWith (openers : List String) (text : String) : Prop :=
  text = "" ∨ ∃ opener ∈ openers, ∃ more, text = opener ++ more

theorem opensWith_empty (openers : List String) : OpensWith openers "" :=
  Or.inl rfl

theorem opensWith_append {openers : List String} {opener : String} (h : opener ∈ openers)
    (more : String) : OpensWith openers (opener ++ more) :=
  Or.inr ⟨opener, h, more, rfl⟩

theorem OpensWith.mono {openers others : List String} {text : String}
    (h : OpensWith openers text) (hsubset : openers ⊆ others) : OpensWith others text := by
  rcases h with rfl | ⟨opener, hopener, more, rfl⟩
  · exact opensWith_empty others
  · exact opensWith_append (hsubset hopener) more

/-- Valid items, written one before any of the openers, are the same if the texts are. -/
def Legible {α : Type} (valid : α → Prop) (write : α → String) (openers : List String) : Prop :=
  ∀ ⦃a b : α⦄ ⦃rest more : String⦄, valid a → valid b → OpensWith openers rest →
    OpensWith openers more → write a ++ rest = write b ++ more → a = b ∧ rest = more

namespace Legible

variable {α : Type} {valid : α → Prop} {write : α → String} {openers : List String}

/-- A fixed text in front. -/
theorem behind (h : Legible valid write openers) (lead : String) :
    Legible valid (fun a => lead ++ write a) openers := by
  intro a b rest more ha hb hrest hmore heq
  dsimp only at heq
  rw [String.append_assoc, String.append_assoc, String.append_right_inj] at heq
  exact h ha hb hrest hmore heq

section Words

variable {p : Char → Bool}

theorem eq_of_append_eq_append {s t rest more : List Char} (hs : ∀ c ∈ s, p c = true)
    (ht : ∀ c ∈ t, p c = true) (hrest : ∀ c ∈ rest.head?, p c = false)
    (hmore : ∀ c ∈ more.head?, p c = false) (h : s ++ rest = t ++ more) : s = t ∧ rest = more := by
  have htake : ∀ {u : List Char}, (∀ c ∈ u.head?, p c = false) → u.takeWhile p = [] := by
    intro u hu
    cases u with
    | nil => rfl
    | cons c u => simp [hu c (by simp)]
  have hword : s = t := by
    have hlists := congrArg (List.takeWhile p) h
    rwa [List.takeWhile_append_of_pos hs, List.takeWhile_append_of_pos ht, htake hrest,
      htake hmore, List.append_nil, List.append_nil] at hlists
  subst hword
  exact ⟨rfl, List.append_cancel_left h⟩

/-- An opener that is no part of a word ends it. -/
theorem head_of_opensWith {rest : String}
    (hopeners : ∀ opener ∈ openers, (opener.toList.head?.any fun c => !p c) = true)
    (h : OpensWith openers rest) : ∀ c ∈ rest.toList.head?, p c = false := by
  rcases h with rfl | ⟨opener, hopener, more, rfl⟩
  · simp
  · have hhead := hopeners opener hopener
    intro c hc
    cases hlist : opener.toList with
    | nil => simp [hlist] at hhead
    | cons d tail =>
      rw [String.toList_append, hlist, List.cons_append, List.head?_cons, Option.mem_some] at hc
      simpa [hlist, hc] using hhead

/-- A word of certain characters ends where another character begins. -/
theorem word (hopeners : ∀ opener ∈ openers, (opener.toList.head?.any fun c => !p c) = true) :
    Legible (fun s : String => ∀ c ∈ s.toList, p c = true) id openers := by
  intro s t rest more hs ht hrest hmore heq
  have hlists : s.toList ++ rest.toList = t.toList ++ more.toList := by
    rw [← String.toList_append, ← String.toList_append]
    exact congrArg String.toList heq
  obtain ⟨hword, hright⟩ := eq_of_append_eq_append hs ht (head_of_opensWith hopeners hrest)
    (head_of_opensWith hopeners hmore) hlists
  exact ⟨String.toList_inj.mp hword, String.toList_inj.mp hright⟩

end Words

section Lists

variable {separator : String}

/-- What stands behind the first item of a list, each item with its separator. -/
def laterText (separator : String) (write : α → String) : List α → String
  | [] => ""
  | a :: items => separator ++ separator.intercalate ((a :: items).map write)

theorem intercalate_cons (a : α) (items : List α) :
    separator.intercalate ((a :: items).map write) = write a ++ laterText separator write items := by
  cases items with
  | nil => simp [laterText]
  | cons b items =>
    simp only [List.map_cons, String.intercalate_cons_cons, laterText, String.append_assoc]

theorem opensWith_laterText {rest : String} (hrest : OpensWith openers rest) (items : List α) :
    OpensWith (separator :: openers) (laterText separator write items ++ rest) := by
  cases items with
  | nil => simpa [laterText] using hrest.mono (List.subset_cons_self _ _)
  | cons a items =>
    rw [laterText, String.append_assoc]
    exact opensWith_append (by simp) _

/-- What follows a list cannot be mistaken for its next item. -/
theorem ne_separator_append {rest : String} (hseparator : separator ≠ "")
    (hapart : ∀ opener ∈ openers, Apart separator opener) (hrest : OpensWith openers rest)
    (more : String) : rest ≠ separator ++ more := by
  rcases hrest with rfl | ⟨opener, hopener, tail, rfl⟩
  · intro h
    exact hseparator (String.append_eq_empty_iff.mp h.symm).1
  · exact ((hapart opener hopener).append_ne more tail).symm

/-- A list of items that is not empty, with a separator that nothing behind the list begins with. -/
theorem list (h : Legible valid write (separator :: openers)) (hseparator : separator ≠ "")
    (hapart : ∀ opener ∈ openers, Apart separator opener) :
    Legible (fun items : List α => items ≠ [] ∧ ∀ a ∈ items, valid a)
      (fun items => separator.intercalate (items.map write)) openers := by
  rintro items others rest more ⟨hne, hitems⟩ ⟨hne', hothers⟩ hrest hmore heq
  dsimp only at heq
  induction items generalizing others with
  | nil => exact absurd rfl hne
  | cons a items ih =>
    cases others with
    | nil => exact absurd rfl hne'
    | cons b others =>
      rw [intercalate_cons, intercalate_cons, String.append_assoc, String.append_assoc] at heq
      obtain ⟨rfl, hlater⟩ := h (hitems a (by simp)) (hothers b (by simp))
        (opensWith_laterText hrest items) (opensWith_laterText hmore others) heq
      cases items with
      | nil =>
        cases others with
        | nil =>
          rw [laterText, String.empty_append, String.empty_append] at hlater
          exact ⟨rfl, hlater⟩
        | cons d others =>
          rw [laterText, laterText, String.empty_append, String.append_assoc] at hlater
          exact absurd hlater (ne_separator_append hseparator hapart hrest _)
      | cons c items =>
        cases others with
        | nil =>
          rw [laterText, laterText, String.empty_append, String.append_assoc] at hlater
          exact absurd hlater.symm (ne_separator_append hseparator hapart hmore _)
        | cons d others =>
          rw [laterText, laterText, String.append_assoc, String.append_assoc,
            String.append_right_inj] at hlater
          obtain ⟨hlist, hright⟩ := ih (by simp) (fun x hx => hitems x (by simp [hx])) (by simp)
            (fun x hx => hothers x (by simp [hx])) hlater
          exact ⟨by rw [hlist], hright⟩

end Lists

end Legible

end Cql
