import Mathlib.Computability.Language
import Mathlib.Data.Char
import Mathlib.Order.Interval.Set.Defs
import Cql.Proofs.Name
import Cql.Proofs.Text.LetterCase

/-!
The checks of names against the languages of names: an expression for each of them, a length in
bytes and two lists of words. Of the normalization form nothing is used but that texts of ASCII
characters have it.
-/

namespace Cql.Name

open Computability Text

/-- One character out of a set. -/
def oneOf (chars : Set Char) : Language Char :=
  {w | ∃ c ∈ chars, w = [c]}

/-- `[A-Za-z_]` -/
def startChars : Set Char :=
  Set.Icc 'A' 'Z' ∪ Set.Icc 'a' 'z' ∪ {'_'}

/-- `[A-Za-z0-9_]` -/
def partChars : Set Char :=
  Set.Icc 'A' 'Z' ∪ Set.Icc 'a' 'z' ∪ Set.Icc '0' '9' ∪ {'_'}

/-- Names that are no reserved word in any case. -/
def identifiers : Language Char :=
  {w | w ∈ oneOf startChars * (oneOf partChars)∗ ∧ lower w ∉ reservedWords}

/-- Identifiers of at most 48 bytes. -/
def segments : Language Char :=
  {w | w ∈ identifiers ∧ (String.ofList w).utf8ByteSize ≤ 48}

/-- Segments that are no keyspace of the store in any case. -/
def keyspaces : Language Char :=
  {w | w ∈ segments ∧ lower w ∉ systemKeyspaces}

/-- A segment, or two of them with a point between. -/
def tables : Language Char :=
  segments + keyspaces * {['.']} * segments

section Characters

variable {c : Char}

theorem isStart_iff : isStart c = true ↔ c ∈ startChars := by
  unfold isStart startChars
  delta Char.isAlpha Char.isUpper Char.isLower
  simp only [Set.mem_union, Set.mem_Icc, Set.mem_singleton_iff, Char.le_def, Bool.or_eq_true,
    Bool.and_eq_true, decide_eq_true_eq, beq_iff_eq, ge_iff_le]

theorem isPart_iff : isPart c = true ↔ c ∈ partChars := by
  unfold isPart partChars
  delta Char.isAlphanum Char.isAlpha Char.isUpper Char.isLower Char.isDigit
  simp only [Set.mem_union, Set.mem_Icc, Set.mem_singleton_iff, Char.le_def, Bool.or_eq_true,
    Bool.and_eq_true, decide_eq_true_eq, beq_iff_eq, ge_iff_le]

theorem isStart_toLower (c : Char) : isStart c.toLower = isStart c := by
  apply forall_of_ascii (p := fun c => isStart c.toLower = isStart c) (by decide)
  intro c hc
  rw [hc]

theorem isPart_toLower (c : Char) : isPart c.toLower = isPart c := by
  apply forall_of_ascii (p := fun c => isPart c.toLower = isPart c) (by decide)
  intro c hc
  rw [hc]

end Characters

section Words

variable {v w : List Char} {name : String}

theorem mem_oneOf_kstar {chars : Set Char} : w ∈ (oneOf chars)∗ ↔ ∀ c ∈ w, c ∈ chars := by
  constructor
  · intro h c hc
    obtain ⟨parts, rfl, hparts⟩ := Language.mem_kstar.mp h
    obtain ⟨part, hpart, hc⟩ := List.mem_flatten.mp hc
    obtain ⟨d, hd, rfl⟩ := hparts part hpart
    rwa [List.mem_singleton.mp hc]
  · intro h
    refine Language.mem_kstar.mpr ⟨w.map fun c => [c], ?_, ?_⟩
    · rw [← List.flatMap_def, List.flatMap_singleton']
    · intro part hpart
      obtain ⟨c, hc, rfl⟩ := List.mem_map.mp hpart
      exact ⟨c, h c hc, rfl⟩

theorem mem_identifiers_iff : w ∈ identifiers ↔ isIdentifier w = true := by
  have hwords : w ∈ oneOf startChars * (oneOf partChars)∗ ↔
      ∃ first rest, w = first :: rest ∧ first ∈ startChars ∧ ∀ c ∈ rest, c ∈ partChars := by
    rw [Language.mem_mul]
    constructor
    · rintro ⟨_, ⟨first, hfirst, rfl⟩, rest, hrest, rfl⟩
      exact ⟨first, rest, rfl, hfirst, mem_oneOf_kstar.mp hrest⟩
    · rintro ⟨first, rest, rfl, hfirst, hrest⟩
      exact ⟨[first], ⟨first, hfirst, rfl⟩, rest, mem_oneOf_kstar.mpr hrest, rfl⟩
  change (w ∈ oneOf startChars * (oneOf partChars)∗ ∧ lower w ∉ reservedWords) ↔ _
  rw [hwords]
  cases w with
  | nil => simp [isIdentifier]
  | cons first rest =>
    simp only [isIdentifier, Bool.and_eq_true, List.all_eq_true, Bool.not_eq_true',
      List.contains_eq_mem, decide_eq_false_iff_not, isStart_iff, isPart_iff, and_congr_left_iff]
    intro _
    constructor
    · rintro ⟨_, _, heq, hfirst, hrest⟩
      obtain ⟨rfl, rfl⟩ := List.cons.inj heq
      exact ⟨hfirst, hrest⟩
    · rintro ⟨hfirst, hrest⟩
      exact ⟨first, rest, rfl, hfirst, hrest⟩

theorem checkIdentifier_iff : checkIdentifier name = .ok () ↔ name.toList ∈ identifiers := by
  rw [checkIdentifier_eq_ok_iff, mem_identifiers_iff]

theorem checkSegment_iff : checkSegment name = .ok () ↔ name.toList ∈ segments := by
  change _ ↔ name.toList ∈ identifiers ∧ (String.ofList name.toList).utf8ByteSize ≤ 48
  rw [String.ofList_toList, ← checkIdentifier_iff]
  unfold checkSegment
  rw [Outcome.bind_eq_ok_iff]
  constructor
  · rintro ⟨_, hname, hlength⟩
    split at hlength
    · cases hlength
    · rename_i hshort
      exact ⟨hname, Nat.not_lt.mp hshort⟩
  · rintro ⟨hname, hlength⟩
    exact ⟨(), hname, if_neg (Nat.not_lt.mpr hlength)⟩

theorem mem_tables_iff : w ∈ tables ↔
    w ∈ segments ∨ ∃ keyspace ∈ keyspaces, ∃ table ∈ segments, w = keyspace ++ '.' :: table := by
  refine or_congr_right ?_
  change w ∈ keyspaces * {['.']} * segments ↔ _
  constructor
  · intro h
    obtain ⟨_, hfront, table, htable, rfl⟩ := Language.mem_mul.mp h
    obtain ⟨keyspace, hkeyspace, _, rfl, rfl⟩ := Language.mem_mul.mp hfront
    exact ⟨keyspace, hkeyspace, table, htable, by simp⟩
  · rintro ⟨keyspace, hkeyspace, table, htable, rfl⟩
    rw [List.append_cons]
    exact Language.append_mem_mul (Language.append_mem_mul hkeyspace rfl) htable

theorem point_not_mem (h : w ∈ segments) : '.' ∉ w := by
  have hname : checkIdentifier (String.ofList w) = .ok () := by
    rw [checkIdentifier_iff, String.toList_ofList]
    exact h.1
  have hpoint := not_mem_of_checkIdentifier hname (c := '.') (by decide)
  rwa [String.toList_ofList] at hpoint

theorem checkTable_iff : checkTable name = .ok () ↔ name.toList ∈ tables := by
  rw [mem_tables_iff]
  constructor
  · intro h
    unfold checkTable at h
    split at h
    · cases h
    have hjoin : ['.'].intercalate (name.toList.splitOn '.') = name.toList :=
      List.intercalate_splitOn '.'
    split at h
    · exact Or.inl (checkSegment_iff.mp h)
    · rename_i keyspace table hsplit
      split at h
      · cases h
      rename_i hsystem
      obtain ⟨_, hkeyspace, htable⟩ := Outcome.bind_eq_ok_iff.mp h
      rw [checkSegment_iff, String.toList_ofList] at hkeyspace htable
      refine Or.inr ⟨keyspace, ⟨hkeyspace, by simpa using hsystem⟩, table, htable, ?_⟩
      rw [← hjoin, hsplit]
      simp
    · cases h
  · rintro (hsegment | ⟨keyspace, ⟨hkeyspace, hsystem⟩, table, htable, hname⟩)
    · have hlength := hsegment.2
      rw [String.ofList_toList] at hlength
      exact checkTable_of_checkIdentifier (checkIdentifier_iff.mpr hsegment.1) hlength
    · have hne : name.isEmpty = false := by
        rw [← Bool.not_eq_true, String.isEmpty_iff]
        rintro rfl
        simp at hname
      have hjoin : name.toList = ['.'].intercalate [keyspace, table] := by
        simp [hname]
      have hsplit : name.toList.splitOn '.' = [keyspace, table] := by
        rw [hjoin]
        refine List.splitOn_intercalate '.' (fun part hpart => ?_) (by simp)
        simp only [List.mem_cons, List.not_mem_nil, or_false] at hpart
        rcases hpart with rfl | rfl
        · exact point_not_mem hkeyspace
        · exact point_not_mem htable
      have hfirst : checkSegment (String.ofList keyspace) = .ok () := by
        rwa [checkSegment_iff, String.toList_ofList]
      have hsecond : checkSegment (String.ofList table) = .ok () := by
        rwa [checkSegment_iff, String.toList_ofList]
      unfold checkTable
      rw [hne, hsplit]
      simp [hsystem, hfirst, hsecond, bind, Except.bind]

end Words

section Case

variable {v w : List Char} {name other : String}

theorem lower_map_toLower (w : List Char) : lower (w.map Char.toLower) = lower w := by
  rw [lower, List.map_map]
  exact congrArg String.ofList (List.map_congr_left fun c _ => toLower_toLower c)

theorem utf8ByteSize_map_toLower (w : List Char) :
    (String.ofList (w.map Char.toLower)).utf8ByteSize = (String.ofList w).utf8ByteSize := by
  induction w with
  | nil => rfl
  | cons c w ih =>
    rw [List.map_cons, String.ofList_cons, String.ofList_cons, String.utf8ByteSize_append,
      String.utf8ByteSize_append, String.utf8ByteSize_singleton, String.utf8ByteSize_singleton,
      utf8Size_toLower, ih]

theorem map_mem_identifiers : w.map Char.toLower ∈ identifiers ↔ w ∈ identifiers := by
  rw [mem_identifiers_iff, mem_identifiers_iff]
  cases w with
  | nil => rfl
  | cons first rest =>
    have hlower := lower_map_toLower (first :: rest)
    rw [List.map_cons] at hlower ⊢
    have hrest : (rest.map Char.toLower).all isPart = rest.all isPart := by
      rw [List.all_map]
      exact congrArg (rest.all ·) (funext isPart_toLower)
    rw [isIdentifier, isIdentifier, hlower, hrest, isStart_toLower]

theorem map_mem_segments : w.map Char.toLower ∈ segments ↔ w ∈ segments := by
  change _ ∧ (String.ofList (w.map Char.toLower)).utf8ByteSize ≤ 48 ↔ _
  rw [map_mem_identifiers, utf8ByteSize_map_toLower]
  rfl

theorem map_mem_keyspaces : w.map Char.toLower ∈ keyspaces ↔ w ∈ keyspaces := by
  change _ ∧ lower (w.map Char.toLower) ∉ systemKeyspaces ↔ _
  rw [map_mem_segments, lower_map_toLower]
  rfl

theorem map_mem_tables : w.map Char.toLower ∈ tables ↔ w ∈ tables := by
  rw [mem_tables_iff, mem_tables_iff, map_mem_segments]
  refine or_congr_right ?_
  constructor
  · rintro ⟨_, hkeyspace, _, htable, hw⟩
    obtain ⟨keyspace, behind, rfl, rfl, hbehind⟩ := List.map_eq_append_iff.mp hw
    obtain ⟨point, table, rfl, hpoint, rfl⟩ := List.map_eq_cons_iff.mp hbehind
    obtain rfl := eq_of_toLower hpoint (by decide)
    exact ⟨keyspace, map_mem_keyspaces.mp hkeyspace, table, map_mem_segments.mp htable, rfl⟩
  · rintro ⟨keyspace, hkeyspace, table, htable, rfl⟩
    refine ⟨_, map_mem_keyspaces.mpr hkeyspace, _, map_mem_segments.mpr htable, ?_⟩
    rw [List.map_append, List.map_cons]
    rfl

theorem checkIdentifier_of_lower
    (h : other.toList.map Char.toLower = name.toList.map Char.toLower) :
    checkIdentifier other = .ok () ↔ checkIdentifier name = .ok () := by
  rw [checkIdentifier_iff, checkIdentifier_iff, ← map_mem_identifiers, h, map_mem_identifiers]

theorem eq_star_of_lower (h : other.toList.map Char.toLower = name.toList.map Char.toLower)
    (hname : name = "*") : other = "*" := by
  subst hname
  obtain ⟨c, rest, hcons, hc, hrest⟩ := List.map_eq_cons_iff.mp h
  obtain rfl := List.map_eq_nil_iff.mp hrest
  obtain rfl := eq_of_toLower hc (by decide)
  exact String.toList_inj.mp hcons

theorem checkTable_of_lower (h : other.toList.map Char.toLower = name.toList.map Char.toLower) :
    checkTable other = .ok () ↔ checkTable name = .ok () := by
  rw [checkTable_iff, checkTable_iff, ← map_mem_tables, h, map_mem_tables]

end Case

section Checks

variable {name : String} {e : Error}

theorem checkColumn_iff :
    checkColumn name = .ok () ↔ name = "*" ∨ checkIdentifier name = .ok () := by
  unfold checkColumn
  split
  · rename_i hstar
    exact iff_of_true rfl (Or.inl hstar)
  · rename_i hstar
    rw [or_iff_right hstar]

theorem kind_of_checkColumn (h : checkColumn name = .error e) : e.kind = .query := by
  unfold checkColumn at h
  split at h
  · cases h
  · exact kind_of_checkIdentifier h

theorem kind_of_checkSegment (h : checkSegment name = .error e) : e.kind = .query := by
  rcases Outcome.bind_eq_error_iff.mp h with hname | ⟨_, _, hlength⟩
  · exact kind_of_checkIdentifier hname
  · split at hlength
    · cases hlength
      rfl
    · cases hlength

theorem kind_of_checkTable (h : checkTable name = .error e) : e.kind = .query := by
  unfold checkTable at h
  split at h
  · cases h
    rfl
  split at h
  · exact kind_of_checkSegment h
  · split at h
    · cases h
      rfl
    · rcases Outcome.bind_eq_error_iff.mp h with hkeyspace | ⟨_, _, htable⟩
      · exact kind_of_checkSegment hkeyspace
      · exact kind_of_checkSegment htable
  · cases h
    rfl

/-- A character that neither ends a name nor stands for a value. -/
theorem harmless_of_isPart {c : Char} (h : isPart c = true) :
    c.toNat < 128 ∧ c ∉ ['\'', '\x22', ' ', '?', ';'] := by
  refine ⟨toNat_of_isPart h, fun hc => ?_⟩
  have hnone : ['\'', '\x22', ' ', '?', ';'].all (fun d => !isPart d) = true := by decide
  have hnot := List.all_eq_true.mp hnone c hc
  rw [h] at hnot
  cases hnot

theorem keyspace_mem_keyspaces {keyspace table : List Char}
    (h : keyspace ++ '.' :: table ∈ tables) : keyspace ∈ keyspaces := by
  rcases mem_tables_iff.mp h with hsegment | ⟨first, hfirst, second, hsecond, heq⟩
  · exact absurd (by simp) (point_not_mem hsegment)
  · have hsame := (List.append_cons_inj_of_notMem (point_not_mem hfirst.1)
      (point_not_mem hsecond)).mp heq.symm
    rwa [← hsame.1]

end Checks

/-- The checks accept exactly the names of their languages, and refuse all others as a matter of the
query. So an accepted name has nothing in it that could end a name in a statement, it is accepted
with its letters in any case, and behind a keyspace of the store no table is accepted. -/
theorem check_iff_mem (name : String) :
    (checkIdentifier name = .ok () ↔ name.toList ∈ identifiers) ∧
    (checkColumn name = .ok () ↔ name = "*" ∨ checkIdentifier name = .ok ()) ∧
    (checkTable name = .ok () ↔ name.toList ∈ tables) ∧
    (∀ check ∈ [checkIdentifier, checkColumn, checkTable],
      (∀ e, check name = .error e → e.kind = .query) ∧
      (check name = .ok () →
        ∀ c ∈ name.toList, c.toNat < 128 ∧ c ∉ ['\'', '\x22', ' ', '?', ';']) ∧
      ∀ other : String, lower other.toList = lower name.toList →
        (check other = .ok () ↔ check name = .ok ())) ∧
    ∀ keyspace table : String, name = keyspace ++ "." ++ table → checkTable name = .ok () →
      lower keyspace.toList ∉ systemKeyspaces := by
  refine ⟨checkIdentifier_iff, checkColumn_iff, checkTable_iff, ?_, ?_⟩
  · intro check hcheck
    simp only [List.mem_cons, List.not_mem_nil, or_false] at hcheck
    rcases hcheck with rfl | rfl | rfl
    · refine ⟨fun e => kind_of_checkIdentifier, fun h c hc => ?_, fun other hlower => ?_⟩
      · exact harmless_of_isPart (isPart_of_checkIdentifier h hc)
      · exact checkIdentifier_of_lower (String.ofList_injective hlower)
    · refine ⟨fun e => kind_of_checkColumn, fun h c hc => ?_, fun other hlower => ?_⟩
      · rcases isPart_or_star_of_checkColumn h hc with hpart | rfl
        · exact harmless_of_isPart hpart
        · decide
      · have hsame := String.ofList_injective hlower
        rw [checkColumn_iff, checkColumn_iff, checkIdentifier_of_lower hsame]
        exact or_congr_left ⟨eq_star_of_lower hsame.symm, eq_star_of_lower hsame⟩
    · refine ⟨fun e => kind_of_checkTable, fun h c hc => ?_, fun other hlower => ?_⟩
      · rcases isPart_or_point_of_checkTable h hc with hpart | rfl
        · exact harmless_of_isPart hpart
        · decide
      · exact checkTable_of_lower (String.ofList_injective hlower)
  · rintro keyspace table rfl h
    rw [checkTable_iff, String.toList_append, String.toList_append, List.append_assoc] at h
    exact (keyspace_mem_keyspaces h).2

/-- A keyspace with letters in both cases, and a table with a digit and a word that is reserved in
part only. -/
theorem check_iff_mem_of_qualified :
    "App.Select_1".toList ∈ tables ∧ checkTable "App.Select_1" = .ok () ∧
    checkTable "aPP.sELECT_1" = .ok () ∧ '?' ∉ "App.Select_1".toList ∧
    lower "App".toList ∉ systemKeyspaces := by
  have hkeyspace : "App".toList ∈ keyspaces :=
    ⟨⟨mem_identifiers_iff.mpr (by decide), by decide⟩, by decide⟩
  have htable : "Select_1".toList ∈ segments := ⟨mem_identifiers_iff.mpr (by decide), by decide⟩
  have hmem : "App.Select_1".toList ∈ tables :=
    mem_tables_iff.mpr (Or.inr ⟨_, hkeyspace, _, htable, by decide⟩)
  obtain ⟨_, _, htables, hchecks, hsystem⟩ := check_iff_mem "App.Select_1"
  obtain ⟨_, hplain, hcase⟩ := hchecks checkTable (by simp)
  have hok := htables.mpr hmem
  refine ⟨hmem, hok, (hcase "aPP.sELECT_1" (by decide)).mpr hok, fun hmark => ?_, ?_⟩
  · exact (hplain hok _ hmark).2 (by decide)
  · exact hsystem "App" "Select_1" (by decide) hok

end Cql.Name
