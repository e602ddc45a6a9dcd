import Cql.Name
import Cql.Proofs.NormalForm
import Cql.Proofs.Outcome

/-!
What the checks of names promise to the texts they are written into: an accepted name is made of
letters, digits and underscores, apart from the point of a table and the star of a projection, and
it is written as it is.
-/

namespace Cql.Text

theorem double_append (c : Char) (s t : List Char) :
    double c (s ++ t) = double c s ++ double c t := by
  induction s with
  | nil => rfl
  | cons d s ih =>
    simp only [List.cons_append, double, ih]
    split <;> rfl

theorem double_eq_self {c : Char} {s : List Char} (h : c ∉ s) : double c s = s := by
  induction s with
  | nil => rfl
  | cons d s ih =>
    simp only [List.mem_cons, not_or] at h
    rw [double, if_neg (Ne.symm h.1), ih h.2]

theorem double_eq_flatMap (c : Char) (s : List Char) :
    double c s = s.flatMap fun d => if d = c then [c, c] else [d] := by
  induction s with
  | nil => rfl
  | cons d s ih =>
    rw [double, List.flatMap_cons, ih]
    split
    · rename_i hd
      rw [hd]
      rfl
    · rfl

/-- To double a character commutes with joining texts by another one. -/
theorem double_intercalate {c separator : Char} (h : separator ≠ c) (parts : List (List Char)) :
    double c ([separator].intercalate parts) = [separator].intercalate (parts.map (double c)) := by
  induction parts with
  | nil => rfl
  | cons part parts ih =>
    cases parts with
    | nil => simp
    | cons next rest =>
      have hseparator : double c [separator] = [separator] :=
        double_eq_self (by simpa using Ne.symm h)
      rw [List.map_cons, List.map_cons, List.intercalate_cons_cons, List.intercalate_cons_cons,
        double_append, double_append, hseparator, ih, List.map_cons]

end Cql.Text

namespace Cql.Name

theorem wrapSegment_eq_double : wrapSegment = Text.double '\x22' := by
  funext s
  unfold wrapSegment
  split
  · rename_i h
    subst h
    rfl
  · rfl

/-- To wrap a name segment by segment doubles the double quotes of the whole name. -/
theorem toList_wrap (name : String) : (wrap name).toList = Text.double '\x22' name.toList := by
  unfold wrap
  rw [String.toList_ofList, wrapSegment_eq_double, ← Text.double_intercalate (by decide),
    List.intercalate_splitOn]

/-- Points and stars do not matter: only double quotes are written differently. -/
theorem wrap_eq_flatMap (name : String) : wrap name =
    String.ofList (name.toList.flatMap fun c => if c = '\x22' then ['\x22', '\x22'] else [c]) := by
  rw [← String.toList_inj, toList_wrap, Text.double_eq_flatMap, String.toList_ofList]

theorem wrap_append (name other : String) : wrap (name ++ other) = wrap name ++ wrap other := by
  rw [← String.toList_inj, toList_wrap, String.toList_append, Text.double_append,
    String.toList_append, toList_wrap, toList_wrap]

theorem wrap_eq_self {name : String} (h : '\x22' ∉ name.toList) : wrap name = name := by
  rw [← String.toList_inj, toList_wrap, Text.double_eq_self h]

variable {name : String} {c : Char}

theorem isPart_of_isStart (h : isStart c = true) : isPart c = true := by
  simp only [isStart, isPart, Char.isAlphanum, Bool.or_eq_true] at *
  rcases h with h | h
  · exact Or.inl (Or.inl h)
  · exact Or.inr h

theorem toNat_of_isPart (h : isPart c = true) : c.toNat < 128 := by
  have htoNat : c.toNat = c.val.toNat := rfl
  have hpart : isPart c = (((decide (c.val ≥ 65 ∧ c.val ≤ 90) ||
      (decide (c.val ≥ 97) && decide (c.val ≤ 122))) ||
        (decide (c.val ≥ 48) && decide (c.val ≤ 57))) || c == '_') := rfl
  rw [hpart] at h
  simp only [Bool.or_eq_true, Bool.and_eq_true, decide_eq_true_eq, beq_iff_eq, ge_iff_le,
    UInt32.le_iff_toNat_le] at h
  rcases h with ((⟨_, h⟩ | ⟨_, h⟩) | ⟨_, h⟩) | rfl
  · exact htoNat ▸ Nat.lt_of_le_of_lt h (by decide)
  · exact htoNat ▸ Nat.lt_of_le_of_lt h (by decide)
  · exact htoNat ▸ Nat.lt_of_le_of_lt h (by decide)
  · decide

/-- The characters of an identifier, which is not a reserved word. -/
def isIdentifier : List Char → Bool
  | [] => false
  | first :: rest =>
    isStart first && rest.all isPart && !reservedWords.contains (lower (first :: rest))

/-- Accepted characters leave the check of the normalization form nothing to refuse. -/
theorem checkIdentifier_eq_ok_iff : checkIdentifier name = .ok () ↔ isIdentifier name.toList := by
  unfold checkIdentifier
  cases name.toList with
  | nil => simp [isIdentifier]
  | cons first rest =>
    simp only [isIdentifier, Bool.and_eq_true, Bool.not_eq_true']
    constructor
    · intro h
      split at h
      · cases h
      split at h
      · cases h
      rename_i hstart
      split at h
      · cases h
      rename_i hrest
      split at h
      · cases h
      rename_i hreserved
      refine ⟨⟨by simpa using hstart, ?_⟩, by simpa using hreserved⟩
      rw [List.find?_eq_none] at hrest
      exact List.all_eq_true.mpr fun c hc => by simpa using hrest c hc
    · rintro ⟨⟨hstart, hrest⟩, hreserved⟩
      rw [List.all_eq_true] at hrest
      have hascii : ∀ c ∈ first :: rest, c.toNat < 128 := by
        intro c hc
        rcases List.mem_cons.mp hc with rfl | hc
        · exact toNat_of_isPart (isPart_of_isStart hstart)
        · exact toNat_of_isPart (hrest c hc)
      have hnormal : Text.isNormal (first :: rest) = true := Text.isNormal_of_ascii hascii
      have hfind : (rest.find? fun c => !isPart c) = none := by
        rw [List.find?_eq_none]
        intro c hc
        simp [hrest c hc]
      simpa [hnormal, hstart, hfind] using hreserved

/-- A name that is refused is a matter of the query. -/
theorem kind_of_checkIdentifier {e : Error} (h : checkIdentifier name = .error e) :
    e.kind = .query := by
  unfold checkIdentifier at h
  repeat' split at h
  all_goals cases h
  all_goals rfl

theorem isPart_of_checkIdentifier (h : checkIdentifier name = .ok ()) (hc : c ∈ name.toList) :
    isPart c = true := by
  rw [checkIdentifier_eq_ok_iff] at h
  cases hname : name.toList with
  | nil => simp [hname] at hc
  | cons first rest =>
    simp only [hname, isIdentifier, Bool.and_eq_true, List.all_eq_true] at h
    obtain ⟨⟨hstart, hrest⟩, _⟩ := h
    rw [hname] at hc
    rcases List.mem_cons.mp hc with rfl | hc
    · exact isPart_of_isStart hstart
    · exact hrest c hc

theorem isPart_or_star_of_checkColumn (h : checkColumn name = .ok ()) (hc : c ∈ name.toList) :
    isPart c = true ∨ c = '*' := by
  unfold checkColumn at h
  split at h
  · rename_i hstar
    subst hstar
    right
    simpa using hc
  · exact Or.inl (isPart_of_checkIdentifier h hc)

theorem checkIdentifier_of_checkSegment (h : checkSegment name = .ok ()) :
    checkIdentifier name = .ok () := by
  obtain ⟨_, hname, _⟩ := Outcome.bind_eq_ok_iff.mp h
  exact hname

theorem isPart_or_point_of_checkTable (h : checkTable name = .ok ()) (hc : c ∈ name.toList) :
    isPart c = true ∨ c = '.' := by
  unfold checkTable at h
  split at h
  · cases h
  have hjoin : ['.'].intercalate (name.toList.splitOn '.') = name.toList :=
    List.intercalate_splitOn '.'
  split at h
  · exact Or.inl (isPart_of_checkIdentifier (checkIdentifier_of_checkSegment h) hc)
  · rename_i keyspace table hsplit
    split at h
    · cases h
    · obtain ⟨_, hkeyspace, htable⟩ := Outcome.bind_eq_ok_iff.mp h
      rw [hsplit, List.intercalate_cons_cons, List.intercalate_singleton] at hjoin
      rw [← hjoin] at hc
      simp only [List.append_assoc, List.mem_append, List.mem_singleton] at hc
      rcases hc with hc | hc | hc
      · exact Or.inl (isPart_of_checkIdentifier (checkIdentifier_of_checkSegment hkeyspace)
          (by simpa using hc))
      · exact Or.inr hc
      · exact Or.inl (isPart_of_checkIdentifier (checkIdentifier_of_checkSegment htable)
          (by simpa using hc))
  · cases h

theorem not_mem_of_checkIdentifier (h : checkIdentifier name = .ok ()) (hc : isPart c = false) :
    c ∉ name.toList := by
  intro hmem
  rw [isPart_of_checkIdentifier h hmem] at hc
  cases hc

/-- An identifier is a table without a keyspace, if it is not too long for one. -/
theorem checkTable_of_checkIdentifier (h : checkIdentifier name = .ok ())
    (hlength : name.utf8ByteSize ≤ maxNameLength) : checkTable name = .ok () := by
  have hne : name.isEmpty = false := by
    cases hempty : name.isEmpty with
    | false => rfl
    | true =>
      rw [checkIdentifier_eq_ok_iff, String.isEmpty_iff.mp hempty] at h
      cases h
  have hsplit : name.toList.splitOn '.' = [name.toList] :=
    List.splitOn_eq_singleton (not_mem_of_checkIdentifier h (by decide))
  have hshort : ¬ maxNameLength < name.utf8ByteSize := by omega
  unfold checkTable
  rw [hne, hsplit]
  simp only [Bool.false_eq_true, if_false, checkSegment, h, hshort]
  rfl

theorem wrap_of_checkIdentifier (h : checkIdentifier name = .ok ()) : wrap name = name :=
  wrap_eq_self (not_mem_of_checkIdentifier h (by decide))

theorem wrap_of_checkColumn (h : checkColumn name = .ok ()) : wrap name = name := by
  apply wrap_eq_self
  intro hmem
  have := isPart_or_star_of_checkColumn h hmem
  revert this
  decide

theorem wrap_of_checkTable (h : checkTable name = .ok ()) : wrap name = name := by
  apply wrap_eq_self
  intro hmem
  have := isPart_or_point_of_checkTable h hmem
  revert this
  decide

end Cql.Name
