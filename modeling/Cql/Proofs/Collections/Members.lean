import Cql.Proofs.Collections.Building
import Cql.Proofs.Fields
import Cql.Proofs.Values.RawText

/-!
Maps as JSON. The members of the object are named by the raw texts of the keys, so keys that differ
and have one raw text share a member. Main statement: only confused keys do, and of a map without
such keys each entry is a member of the object.
-/

namespace Cql

namespace Value

theorem entriesJson_eq (entries : List (Value × Value)) :
    entriesJson entries = entries.map fun e => (e.1.rawText, e.2.toJson) := by
  induction entries with
  | nil => rw [entriesJson, List.map_nil]
  | cons e entries ih => rw [entriesJson, ih, entryJson, List.map_cons]

end Value

namespace Collection

variable {key value : NativeType} {entries : List (Value × Value)}

theorem toJson_map (key value : NativeType) (entries : List (Value × Value)) :
    (map key value entries).toJson =
      .ofFields (.ofList (entries.map fun e => (e.1.rawText, e.2.toJson))) := by
  rw [toJson, Value.collectionJson, Value.entriesJson_eq]

/-- Of the entries whose keys have one raw text the last one counts. -/
theorem member?_toJson (name : String) : (map key value entries).toJson.member? name =
    ((entries.map fun e => (e.1.rawText, e.2.toJson)).reverse).lookup name := by
  rw [toJson_map, ← Fields.find?_ofList]
  rfl

theorem member?_of_last {before after : List (Value × Value)} {e : Value × Value}
    (hafter : ∀ f ∈ after, f.1.rawText ≠ e.1.rawText) :
    (map key value (before ++ e :: after)).toJson.member? e.1.rawText = some e.2.toJson := by
  rw [member?_toJson, List.lookup_eq_some_iff]
  refine ⟨(after.map fun e => (e.1.rawText, e.2.toJson)).reverse,
    (before.map fun e => (e.1.rawText, e.2.toJson)).reverse, by simp, fun p hp => ?_⟩
  obtain ⟨f, hf, rfl⟩ := List.mem_map.mp (List.mem_reverse.mp hp)
  simpa using Ne.symm (hafter f hf)

/-- Keys of a built map have one raw text only if they are confused. -/
theorem pairwise_rawText_iff {input : List (Value × Value)}
    (hbuild : map? key value input = .ok (map key value entries)) :
    entries.Pairwise fun e f => e.1.rawText = f.1.rawText ↔ e.1.Confused f.1 := by
  have hbuild' : (map key value input).build? = .ok (map key value entries) := hbuild
  obtain ⟨hsettles, hstorable⟩ := storable_of_build? hbuild'
  have hkey : ∀ e ∈ entries, Storable key e.1 := fun e he =>
    (storable_entries_iff.mp hstorable e he).1
  cases hsettles with
  | map _ _ _ _ hdiffering =>
    refine (List.pairwise_map.mp (pairwise_of_differing hdiffering)).imp_of_mem ?_
    intro e f he hf hne
    exact Value.rawText_eq_iff (hkey e he) (hkey f hf) hne

/-- Two confused keys share a member. -/
theorem toJson_of_confused (key : NativeType) {k k' : Value} (hk : Storable key k)
    (hk' : Storable key k') (hne : (k == k') = false) (hconfused : k.Confused k') :
    map? key .int [(k, .int 1), (k', .int 2)] = .ok (map key .int [(k, .int 1), (k', .int 2)]) ∧
      (map key .int [(k, .int 1), (k', .int 2)]).toJson = .obj [(k.rawText, .int 2)] := by
  constructor
  · change (map key .int [(k, .int 1), (k', .int 2)]).build? = _
    refine build?_eq_ok_iff.mpr ⟨storable_entries_iff.mpr ?_, by simp [settled, putEntry, hne]⟩
    rw [List.forall_mem_cons, List.forall_mem_singleton]
    exact ⟨⟨hk, rfl, rfl⟩, hk', rfl, rfl⟩
  · have hentries : ∀ name : String, ∀ x y : Json,
        insertEntry name y (insertEntry name x []) = [(name, y)] := by
      intro name x y
      rw [insertEntry, insertEntry, if_neg (String.lt_irrefl name), if_pos rfl]
    rw [toJson_map, List.map_cons, List.map_singleton, ← Value.rawText_of_confused hconfused]
    exact congrArg Json.obj (hentries _ _ _)

/-- Two keys of a built map have one raw text exactly if they are undefined numbers, an identifier
with and without a time, points in time within one millisecond, or times of one clock text. The
object has a member for each raw text, with the last value. So of a map without such keys it has all
entries. -/
theorem toJson_members {input : List (Value × Value)}
    (hbuild : map? key value input = .ok (map key value entries)) :
    (entries.Pairwise fun e f => e.1.rawText = f.1.rawText ↔ e.1.Confused f.1) ∧
    ∃ members, (map key value entries).toJson = .obj members ∧
      (members.map Prod.fst).Perm (entries.map fun e => e.1.rawText).dedup ∧
      (∀ before e after, entries = before ++ e :: after →
        (∀ f ∈ after, f.1.rawText ≠ e.1.rawText) →
          (map key value entries).toJson.member? e.1.rawText = some e.2.toJson) ∧
      ((entries.Pairwise fun e f => ¬ e.1.Confused f.1) →
        members.length = (map key value entries).size ∧
          ∀ e ∈ entries, (map key value entries).toJson.member? e.1.rawText = some e.2.toJson) := by
  have hraw := pairwise_rawText_iff hbuild
  have hnames := Fields.names_ofList_perm (entries.map fun e => (e.1.rawText, e.2.toJson))
  rw [List.map_map] at hnames
  refine ⟨hraw, _, toJson_map key value entries, hnames, ?_, fun hclear => ?_⟩
  · rintro before e after rfl hafter
    exact member?_of_last hafter
  · have hdistinct : entries.Pairwise fun e f => e.1.rawText ≠ f.1.rawText :=
      hraw.imp₂ (fun _ _ hiff hclear heq => hclear (hiff.mp heq)) hclear
    constructor
    · have hnodup : (entries.map fun e => e.1.rawText).Nodup := List.pairwise_map.mpr hdistinct
      have hlength := hnames.length_eq
      change (Fields.names _).length = ((entries.map fun e => e.1.rawText).dedup).length at hlength
      rw [hnodup.dedup, List.length_map] at hlength
      rw [Fields.names, List.length_map] at hlength
      exact hlength
    · intro e he
      obtain ⟨before, after, rfl⟩ := List.append_of_mem he
      refine member?_of_last fun f hf => ?_
      have hrest := (List.pairwise_append.mp hdistinct).2.1
      exact (List.rel_of_pairwise_cons hrest hf).symm

/-- Keys of two scales are one number; the member has the first text and the last value. -/
theorem toJson_members_of_scales :
    map? .decimal .int [(.decimal ⟨false, 15, 1, by decide, by decide⟩, .int 1),
        (.decimal ⟨true, 2, 0, by decide, by decide⟩, .int 2),
        (.decimal ⟨false, 150, 2, by decide, by decide⟩, .int 3)] =
      .ok (map .decimal .int [(.decimal ⟨false, 15, 1, by decide, by decide⟩, .int 3),
        (.decimal ⟨true, 2, 0, by decide, by decide⟩, .int 2)]) ∧
    (map .decimal .int [(.decimal ⟨false, 15, 1, by decide, by decide⟩, .int 3),
        (.decimal ⟨true, 2, 0, by decide, by decide⟩, .int 2)]).toJson.member? "1.5" =
      some (.int 3) := by
  have hsame : ∀ a b : Decimal, (Value.decimal a == Value.decimal b) = a.sameNumber b := by
    intro a b
    rw [Value.beq_eq_same, Value.same]
  have hbuild : map? .decimal .int [(.decimal ⟨false, 15, 1, by decide, by decide⟩, .int 1),
        (.decimal ⟨true, 2, 0, by decide, by decide⟩, .int 2),
        (.decimal ⟨false, 150, 2, by decide, by decide⟩, .int 3)] =
      .ok (map .decimal .int [(.decimal ⟨false, 15, 1, by decide, by decide⟩, .int 3),
        (.decimal ⟨true, 2, 0, by decide, by decide⟩, .int 2)]) := by
    change (map .decimal .int _).build? = _
    refine build?_eq_ok_iff.mpr ⟨storable_entries_iff.mpr ?_, ?_⟩
    · rw [List.forall_mem_cons, List.forall_mem_cons, List.forall_mem_singleton]
      exact ⟨⟨⟨rfl, rfl⟩, rfl, rfl⟩, ⟨⟨rfl, rfl⟩, rfl, rfl⟩, ⟨rfl, rfl⟩, rfl, rfl⟩
    · simp [settled, putEntry, hsame, Decimal.sameNumber, Decimal.coefficient]
  refine ⟨hbuild, ?_⟩
  obtain ⟨_, members, _, _, _, hall⟩ := toJson_members hbuild
  refine (hall (List.pairwise_pair.mpr ?_)).2 _ List.mem_cons_self
  intro h
  cases h

/-- A map of two entries is an object of one member: with an undefined number as both keys, with an
identifier as one and as one with a time, with points in time a nanosecond apart, and with a leap
second in the middle of a minute and the same part of the second after it. -/
theorem toJson_loses_entry :
    (∃ c, map? .double .int [(.double (.ofBits 0x7ff8000000000000), .int 1),
        (.double (.ofBits 0x7ff8000000000000), .int 2)] = .ok c ∧
      c.size = 2 ∧ c.toJson = .obj [("NaN", .int 2)]) ∧
    (∃ c, map? .uuid .int [(.uuid ⟨0xd2177dd0eaa211dea572001b779c76e3⟩, .int 1),
        (.timeUuid ⟨0xd2177dd0eaa211dea572001b779c76e3⟩, .int 2)] = .ok c ∧
      c.size = 2 ∧ c.toJson = .obj [("d2177dd0-eaa2-11de-a572-001b779c76e3", .int 2)]) ∧
    (∃ c, map? .timestamp .int [(.timestamp ⟨{ year := 1970, month := 1, day := 1 },
          { seconds := 0, nanos := 0 }⟩, .int 1),
        (.timestamp ⟨{ year := 1970, month := 1, day := 1 },
          { seconds := 0, nanos := 1 }⟩, .int 2)] = .ok c ∧
      c.size = 2 ∧ c.toJson = .obj [("0", .int 2)]) ∧
    ∃ c, map? .time .int [(.time { seconds := 86164, nanos := 1333333333 }, .int 1),
        (.time { seconds := 86165, nanos := 333333333 }, .int 2)] = .ok c ∧
      c.size = 2 ∧ c.toJson = .obj [("23:56:05.333333333", .int 2)] := by
  refine ⟨?_, ?_, ?_, ?_⟩
  · have hne : (Value.double (.ofBits 0x7ff8000000000000) ==
        .double (.ofBits 0x7ff8000000000000)) = false := by
      rw [Value.beq_eq_same, Value.same]
      decide
    obtain ⟨hbuild, hjson⟩ := toJson_of_confused .double ⟨rfl, rfl⟩ ⟨rfl, rfl⟩ hne
      (.double (by decide) (by decide))
    exact ⟨_, hbuild, rfl, hjson⟩
  · have hne : (Value.uuid ⟨0xd2177dd0eaa211dea572001b779c76e3⟩ ==
        .timeUuid ⟨0xd2177dd0eaa211dea572001b779c76e3⟩) = false := by
      rw [Value.beq_eq_same, Value.same] <;> simp
    obtain ⟨hbuild, hjson⟩ := toJson_of_confused .uuid ⟨rfl, rfl⟩ ⟨rfl, rfl⟩ hne (.uuid _)
    exact ⟨_, hbuild, rfl, hjson⟩
  · have hne : (Value.timestamp ⟨{ year := 1970, month := 1, day := 1 },
        { seconds := 0, nanos := 0 }⟩ == .timestamp ⟨{ year := 1970, month := 1, day := 1 },
          { seconds := 0, nanos := 1 }⟩) = false := by
      rw [Value.beq_eq_same, Value.same]
      decide
    obtain ⟨hbuild, hjson⟩ := toJson_of_confused .timestamp ⟨rfl, rfl⟩ ⟨rfl, rfl⟩ hne
      (.timestamp (by decide))
    exact ⟨_, hbuild, rfl, hjson⟩
  · have hne : (Value.time { seconds := 86164, nanos := 1333333333 } ==
        .time { seconds := 86165, nanos := 333333333 }) = false := by
      rw [Value.beq_eq_same, Value.same]
      decide
    obtain ⟨hbuild, hjson⟩ := toJson_of_confused .time ⟨rfl, rfl⟩ ⟨rfl, rfl⟩ hne
      (.time (.inl (by unfold TimeOfDay.LeapsInto; decide)))
    exact ⟨_, hbuild, rfl, hjson⟩

end Collection

end Cql
