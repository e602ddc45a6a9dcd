import Mathlib.Data.List.TakeWhile
import Cql.Value.IpAddress
import Cql.Proofs.Text.Blank

/-!
Internet addresses are read back from their texts. The run of zero groups that is left out is found
again from the number of the groups that are left.
-/

namespace Cql.IpAddress

open Text

section Version4

variable {a b c d : UInt8} {s : List Char}

theorem byte?_decimal (n : UInt8) : byte? (decimal n.toNat) = some n := by
  have hall : ∀ k < 256, byte? (decimal k) = some (UInt8.ofNat k) := by decide +kernel
  rw [hall n.toNat n.toNat_lt, UInt8.ofNat_toNat]

theorem not_mem_decimal {n : Nat} {c : Char} (hc : c.isDigit = false) : c ∉ decimal n := by
  intro hmem
  rw [isDigit_of_mem_decimal hmem] at hc
  cases hc

theorem v4Bytes?_v4Text : v4Bytes? (v4Text a b c d) = some (a, b, c, d) := by
  have hpoint : ∀ part ∈ [a, b, c, d].map fun n : UInt8 => decimal n.toNat, '.' ∉ part := by
    intro part hpart
    obtain ⟨n, _, rfl⟩ := List.mem_map.mp hpart
    exact not_mem_decimal rfl
  rw [v4Bytes?, v4Text, List.splitOn_intercalate '.' hpoint (by simp)]
  simp [byte?_decimal]

theorem isDigit_of_byte? {n : UInt8} (h : byte? s = some n) {c : Char} (hc : c ∈ s) :
    c.isDigit = true := by
  unfold byte? digits? at h
  split at h
  · rename_i hdigits
    exact List.all_eq_true.mp hdigits.2 c hc
  · cases h

/-- A text with a colon is no address of version 4. -/
theorem v4Bytes?_eq_none (h : ':' ∈ s) : v4Bytes? s = none := by
  have hcolon : ∀ {piece : List Char} {n : UInt8}, byte? piece = some n → ':' ∉ piece :=
    fun hbyte hc => absurd (isDigit_of_byte? hbyte hc) (by decide)
  cases hbytes : v4Bytes? s with
  | none => rfl
  | some bytes =>
    unfold v4Bytes? at hbytes
    split at hbytes
    · rename_i a b c d hsplit
      simp only [Option.bind_eq_bind, Option.bind_eq_some_iff] at hbytes
      obtain ⟨_, ha, _, hb, _, hc, _, hd, _⟩ := hbytes
      have hjoin : ['.'].intercalate (s.splitOn '.') = s := List.intercalate_splitOn '.'
      rw [hsplit] at hjoin
      simp only [← hjoin, List.intercalate_cons_cons, List.intercalate_singleton, List.mem_append,
        List.mem_singleton, hcolon ha, hcolon hb, hcolon hc, hcolon hd] at h
      exact absurd h (by decide)
    · cases hbytes

end Version4

section Groups

variable {s : List Char}

theorem group?_groupText (g : UInt16) : group? (groupText g) = some g := by
  have hlength : (groupText g).length ≤ 4 := Nat.toDigits_length 16 g.toNat 4 (by decide) g.toNat_lt
  rw [group?, if_pos ⟨Nat.length_toDigits_pos, hlength⟩, groupText, hexDigits?_toDigits,
    Option.map_some, UInt16.ofNat_toNat]

theorem groups?_map_groupText (tail : Bool) (groups : List UInt16) :
    groups? tail (groups.map groupText) = some groups := by
  induction groups with
  | nil => rfl
  | cons g groups ih =>
    cases groups with
    | nil => simp [groups?, group?_groupText]
    | cons next groups =>
      rw [List.map_cons, List.map_cons, groups?, group?_groupText, ← List.map_cons, ih]
      · rfl
      · simp

theorem colon_not_mem_groupText (g : UInt16) : ':' ∉ groupText g := by
  intro h
  exact absurd (isSome_of_hexDigits? (hexDigits?_toDigits g.toNat) h) (by decide)

theorem groupText_ne_nil (g : UInt16) : groupText g ≠ [] :=
  Nat.toDigits_ne_nil

theorem side?_groupsText (tail : Bool) (groups : List UInt16) :
    side? tail (groupsText groups) = some groups := by
  cases groups with
  | nil => rfl
  | cons g groups =>
    have hsplit : (groupsText (g :: groups)).splitOn ':' = (g :: groups).map groupText := by
      refine List.splitOn_intercalate ':' (fun part hpart => ?_) (by simp)
      obtain ⟨other, _, rfl⟩ := List.mem_map.mp hpart
      exact colon_not_mem_groupText other
    have hne : (groupsText (g :: groups)).isEmpty = false := by
      rw [List.isEmpty_eq_false_iff]
      intro hnil
      rw [hnil] at hsplit
      have hpart : groupText g = [] := by
        simp only [List.splitOn_nil, List.map_cons, List.cons.injEq] at hsplit
        exact hsplit.1.symm
      exact groupText_ne_nil g hpart
    rw [side?, hne, if_neg (by decide), hsplit, groups?_map_groupText]

theorem splitGap_cons {c : Char} (hc : c ≠ ':') (s : List Char) :
    splitGap (c :: s) = (splitGap s).map fun sides => (c :: sides.1, sides.2) := by
  rw [splitGap]
  exact fun _ h => absurd h hc

theorem splitGap_colon {d : Char} (hd : d ≠ ':') (s : List Char) :
    splitGap (':' :: d :: s) =
      (splitGap (d :: s)).map fun sides => (':' :: sides.1, sides.2) := by
  rw [splitGap]
  exact fun _ _ h => hd (List.cons.inj h).1

theorem splitGap_append {part : List Char} (hpart : ':' ∉ part) (s : List Char) :
    splitGap (part ++ s) = (splitGap s).map fun sides => (part ++ sides.1, sides.2) := by
  induction part with
  | nil => simp
  | cons c part ih =>
    rw [List.mem_cons, not_or] at hpart
    rw [List.cons_append, splitGap_cons (Ne.symm hpart.1), ih hpart.2, Option.map_map]
    rfl

theorem groupsText_eq_cons (g : UInt16) (groups : List UInt16) :
    ∃ d rest, d ≠ ':' ∧ groupsText (g :: groups) = d :: rest := by
  obtain ⟨d, rest, hgroup⟩ := List.exists_cons_of_ne_nil (groupText_ne_nil g)
  have hcolon := colon_not_mem_groupText g
  rw [hgroup, List.mem_cons, not_or] at hcolon
  cases groups with
  | nil => exact ⟨d, rest, Ne.symm hcolon.1, by simp [groupsText, hgroup]⟩
  | cons next groups =>
    exact ⟨d, rest ++ ':' :: groupsText (next :: groups), Ne.symm hcolon.1, by
      simp [groupsText, List.intercalate_cons_cons, hgroup]⟩

/-- Among the groups there are no two colons side by side. -/
theorem splitGap_groupsText (groups : List UInt16) (s : List Char) :
    splitGap (groupsText groups ++ s) =
      (splitGap s).map fun sides => (groupsText groups ++ sides.1, sides.2) := by
  induction groups with
  | nil => simp [groupsText]
  | cons g groups ih =>
    cases groups with
    | nil =>
      rw [groupsText, List.map_singleton, List.intercalate_singleton]
      exact splitGap_append (colon_not_mem_groupText g) s
    | cons next groups =>
      have hcons : groupsText (g :: next :: groups) =
          groupText g ++ ':' :: groupsText (next :: groups) := by
        simp [groupsText, List.intercalate_cons_cons]
      obtain ⟨d, rest, hd, hrest⟩ := groupsText_eq_cons next groups
      rw [hcons, List.append_assoc, splitGap_append (colon_not_mem_groupText g), List.cons_append,
        hrest, List.cons_append, splitGap_colon hd, ← List.cons_append, ← hrest, ih,
        Option.map_map, Option.map_map]
      congr 1
      funext sides
      simp

end Groups

section Version6

variable {groups : List UInt16}

theorem eq_replicate_leadingZeros (groups : List UInt16) :
    groups = List.replicate (leadingZeros groups) 0 ++ groups.drop (leadingZeros groups) := by
  have hsplit : groups.takeWhile (· == 0) ++ groups.dropWhile (· == 0) = groups :=
    List.takeWhile_append_dropWhile
  have hzeros : groups.takeWhile (· == 0) = List.replicate (leadingZeros groups) 0 :=
    List.eq_replicate_of_mem fun g hg => by simpa using List.mem_takeWhile_imp hg
  have hdrop : (groups.takeWhile (· == 0) ++ groups.dropWhile (· == 0)).drop
      (leadingZeros groups) = groups.dropWhile (· == 0) := List.drop_left' rfl
  rw [hsplit] at hdrop
  rw [hdrop, ← hzeros, hsplit]

/-- Around the longest run there are the other groups. -/
theorem longestRun_spec (start : Nat) (groups : List UInt16) :
    ∃ skipped, (longestRun start groups).1 = start + skipped ∧
      groups = groups.take skipped ++ List.replicate (longestRun start groups).2 0 ++
        groups.drop (skipped + (longestRun start groups).2) := by
  induction groups generalizing start with
  | nil => exact ⟨0, rfl, rfl⟩
  | cons g groups ih =>
    rw [longestRun]
    split
    · refine ⟨0, rfl, ?_⟩
      rw [List.take_zero, List.nil_append, Nat.zero_add]
      exact eq_replicate_leadingZeros (g :: groups)
    · obtain ⟨skipped, hstart, hgroups⟩ := ih (start + 1)
      refine ⟨skipped + 1, by omega, ?_⟩
      have hcount : skipped + 1 + (longestRun (start + 1) groups).2 =
          skipped + (longestRun (start + 1) groups).2 + 1 := by omega
      rw [hcount, List.take_succ_cons, List.drop_succ_cons, List.cons_append, List.cons_append,
        ← hgroups]

theorem v6OfText?_groupsText (size : groups.length = 8) :
    v6OfText? (groupsText groups) = some (v6 groups size) := by
  have hgap : splitGap (groupsText groups) = none := by
    simpa [splitGap] using splitGap_groupsText groups []
  rw [v6OfText?, hgap]
  dsimp only
  rw [side?_groupsText, Option.bind_eq_bind, Option.bind_some, v6OfGroups?, dif_pos size]

/-- Two colons stand for the zero groups that are missing. -/
theorem v6OfText?_gap {front back : List UInt16} {missing : Nat} {tail : List Char}
    (size : groups.length = 8) (hgroups : groups = front ++ List.replicate missing 0 ++ back)
    (hmissing : 0 < missing) (htail : side? true tail = some back) :
    v6OfText? (groupsText front ++ ':' :: ':' :: tail) = some (v6 groups size) := by
  have hgap : splitGap (groupsText front ++ ':' :: ':' :: tail) =
      some (groupsText front, tail) := by
    rw [splitGap_groupsText]
    simp [splitGap]
  have hlength : front.length + missing + back.length = 8 := by
    simpa [hgroups, Nat.add_assoc] using size
  have hcount : 8 - front.length - back.length = missing := by omega
  rw [v6OfText?, hgap]
  simp only [side?_groupsText, htail, Option.bind_eq_bind, Option.bind_some, hcount, ← hgroups]
  rw [if_pos (by omega), v6OfGroups?, dif_pos size]

/-- The two bytes of a group. -/
theorem or_bytes (g : UInt16) :
    (g >>> 8).toUInt8.toUInt16 <<< 8 ||| g.toUInt8.toUInt16 = g := by
  apply UInt16.toNat_inj.mp
  have hlt := g.toNat_lt
  have hhigh : ((g >>> 8).toUInt8.toUInt16 <<< 8).toNat = (g.toNat / 256) <<< 8 := by
    simp [Nat.shiftLeft_eq, Nat.shiftRight_eq_div_pow]
    omega
  have hlow : g.toUInt8.toUInt16.toNat = g.toNat % 256 := by simp
  rw [UInt16.toNat_or, hhigh, hlow, ← Nat.shiftLeft_add_eq_or_of_lt (Nat.mod_lt _ (by decide)),
    Nat.shiftLeft_eq]
  omega

theorem colon_not_mem_v4Text (a b c d : UInt8) : ':' ∉ v4Text a b c d := by
  intro h
  have hbytes := v4Bytes?_eq_none h
  rw [v4Bytes?_v4Text] at hbytes
  cases hbytes

theorem group?_v4Text (a b c d : UInt8) : group? (v4Text a b c d) = none := by
  have hpos : ∀ n : UInt8, 0 < (decimal n.toNat).length := fun n => Nat.length_toDigits_pos
  have hlength : 4 < (v4Text a b c d).length := by
    have := hpos a
    have := hpos b
    have := hpos c
    have := hpos d
    simp only [v4Text, List.map_cons, List.map_nil, List.intercalate_cons_cons,
      List.intercalate_singleton, List.length_append, List.length_singleton]
    omega
  rw [group?, if_neg (by omega)]

theorem side?_mapped (g h : UInt16) :
    side? true ("ffff:".toList ++ v4Text (g >>> 8).toUInt8 g.toUInt8 (h >>> 8).toUInt8 h.toUInt8) =
      some [0xffff, g, h] := by
  generalize htext : v4Text (g >>> 8).toUInt8 g.toUInt8 (h >>> 8).toUInt8 h.toUInt8 = tail
  have hcolon : ':' ∉ tail := htext ▸ colon_not_mem_v4Text _ _ _ _
  have hgroup : group? tail = none := htext ▸ group?_v4Text _ _ _ _
  have hbytes : v4Bytes? tail =
      some ((g >>> 8).toUInt8, g.toUInt8, (h >>> 8).toUInt8, h.toUInt8) := htext ▸ v4Bytes?_v4Text
  have hjoin : "ffff:".toList ++ tail = [':'].intercalate [['f', 'f', 'f', 'f'], tail] := by
    simp [List.intercalate_cons_cons]
  have hsplit : ("ffff:".toList ++ tail).splitOn ':' = [['f', 'f', 'f', 'f'], tail] := by
    rw [hjoin]
    refine List.splitOn_intercalate ':' (fun part hpart => ?_) (by simp)
    simp only [List.mem_cons, List.not_mem_nil, or_false] at hpart
    rcases hpart with rfl | rfl
    · decide
    · exact hcolon
  have hmark : group? ['f', 'f', 'f', 'f'] = some 0xffff := by decide
  have hne : ("ffff:".toList ++ tail).isEmpty = false := by simp
  rw [side?, hne, if_neg (by decide), hsplit, groups?, hmark]
  · simp only [Option.bind_eq_bind, Option.bind_some, groups?, hgroup, if_true, hbytes,
      Option.map_some, or_bytes]
    rfl
  · simp

/-- An address is read back from its text. -/
theorem ofText?_toText (ip : IpAddress) : ofText? ip.toText = some ip := by
  cases ip with
  | v4 a b c d => rw [toText, ofText?, v4Bytes?_v4Text]
  | v6 groups size =>
    have hread : v6OfText? (v6Text groups) = some (v6 groups size) ∧ ':' ∈ v6Text groups := by
      unfold v6Text
      split
      · rename_i g h
        have hgroups : [0, 0, 0, 0, 0, 0xffff, g, h] =
            [] ++ List.replicate 5 0 ++ [0xffff, g, h] := rfl
        exact ⟨v6OfText?_gap size hgroups (by decide) (side?_mapped g h), by simp⟩
      · dsimp only
        obtain ⟨skipped, hstart, hgroups⟩ := longestRun_spec 0 groups
        rw [Nat.zero_add] at hstart
        split
        · refine ⟨v6OfText?_groupsText size, ?_⟩
          match groups, size with
          | _ :: _ :: _, _ => simp [groupsText, List.intercalate_cons_cons]
        · refine ⟨?_, by simp⟩
          rw [hstart]
          exact v6OfText?_gap size hgroups (by omega) (side?_groupsText true _)
    rw [toText, ofText?, v4Bytes?_eq_none hread.2]
    exact hread.1

theorem toText_injective : Function.Injective toText :=
  injective_of_read ofText?_toText

end Version6

section Blanks

theorem noBlank_v4Text (a b c d : UInt8) : NoBlank (v4Text a b c d) := by
  apply noBlank_intercalate rfl
  intro part hpart
  obtain ⟨n, _, rfl⟩ := List.mem_map.mp hpart
  exact noBlank_decimal _

theorem noBlank_groupsText (groups : List UInt16) : NoBlank (groupsText groups) := by
  apply noBlank_intercalate rfl
  intro part hpart
  obtain ⟨g, _, rfl⟩ := List.mem_map.mp hpart
  exact fun c hc => isBlank_of_hexValue? (isSome_of_hexDigits? (hexDigits?_toDigits g.toNat) hc)

theorem noBlank_toText (ip : IpAddress) : NoBlank ip.toText := by
  cases ip with
  | v4 a b c d => exact noBlank_v4Text a b c d
  | v6 groups size =>
    rw [toText]
    unfold v6Text
    split
    · exact noBlank_append.mpr ⟨by decide, noBlank_v4Text _ _ _ _⟩
    · dsimp only
      split
      · exact noBlank_groupsText _
      · exact noBlank_append.mpr ⟨noBlank_groupsText _,
          noBlank_cons.mpr ⟨rfl, noBlank_cons.mpr ⟨rfl, noBlank_groupsText _⟩⟩⟩

end Blanks

end Cql.IpAddress
