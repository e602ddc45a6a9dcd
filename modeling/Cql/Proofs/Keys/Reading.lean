import Cql.Proofs.Keys.Integer
import Cql.Proofs.Text.Blank
import Cql.Proofs.Values.Decimal
import Cql.Proofs.Values.Equality
import Cql.Proofs.Values.IpAddress
import Cql.Proofs.Values.Uuid

/-!
Keys that leave as text and come back as text. Main statement: the text under which a value is
handed out is cast back to the value, with any blanks around it.
-/

namespace Cql

open Text

/-- The caster of the type of a value, for values that their text tells in full. A timestamp is
handed out with milliseconds, and its text is read with a year of four digits. -/
inductive Caster.Owns : Caster → Value → Prop
  | uuid (u : Uuid) : Owns .uuid (.uuid u)
  | timeUuid {u : Uuid} (version : u.version = 1) : Owns .timeUuid (.timeUuid u)
  | bigInt (n : Int64) : Owns .bigInt (.bigInt n)
  | int (n : Int32) : Owns .int (.int n)
  | text (s : String) : Owns .text (.text s)
  | timestamp {t : Timestamp} (year : 0 ≤ t.date.year ∧ t.date.year ≤ 9999)
    (nanos : t.time.nanos < 1000000000) (millis : t.time.nanos % 1000000 = 0) :
    Owns .timestamp (.timestamp t)
  | date (d : Date) : Owns .date (.date d)
  | decimal (d : Decimal) : Owns .decimal (.decimal d)
  | inet (ip : IpAddress) : Owns .inet (.inet ip)

namespace Value

/-- The text of a value outside: the string that it is as JSON or, of an integer, its literal. -/
inductive HandedOutAs : Value → String → Prop
  | json {v : Value} {s : String} (h : v.toJson = .str s) : HandedOutAs v s
  | bigInt (n : Int64) : HandedOutAs (.bigInt n) (literal (.bigInt n))
  | int (n : Int32) : HandedOutAs (.int n) (literal (.int n))

theorem HandedOutAs.eq_of_toJson {v : Value} {s t : String} (hs : v.HandedOutAs s)
    (h : v.toJson = .str t) : s = t := by
  cases hs with
  | json hs =>
    rw [h] at hs
    exact (Json.str.inj hs).symm
  | bigInt n =>
    rw [toJson] at h
    cases h
  | int n =>
    rw [toJson] at h
    cases h

theorem HandedOutAs.eq_literal {v : Value} {s : String} {n : Int} (hs : v.HandedOutAs s)
    (h : v.toJson = .int n) : s = v.literal := by
  cases hs with
  | json hs =>
    rw [h] at hs
    cases hs
  | bigInt n => rfl
  | int n => rfl

/-- `w` equals `v`, with the same scale if they are decimals. Only where `v` is a zero with a sign
are they not one and the same. -/
structure Restored (v w : Value) : Prop where
  same : (v == w) = true
  scale : ∀ d, v = .decimal d → ∃ e, w = .decimal e ∧ e.scale = d.scale
  exact : w = v ∨ ∃ d, v = .decimal d ∧ d.negative = true ∧ d.magnitude = 0

theorem restored_self {v : Value} (h : (v == v) = true) : v.Restored v where
  same := h
  scale d hd := ⟨d, hd, rfl⟩
  exact := .inl rfl

theorem restored_plain (d : Decimal) : (decimal d).Restored (.decimal d.plain) where
  same := by
    rw [beq_eq_same, Value.same]
    exact d.sameNumber_plain
  scale e he := by
    cases he
    exact ⟨d.plain, rfl, rfl⟩
  exact := by
    rcases d.plain_eq_or with hplain | hzero
    · exact .inl (congrArg decimal hplain)
    · exact .inr ⟨d, rfl, hzero⟩

end Value

namespace Caster

variable {caster : Caster} {v w : Value} {s : String}

theorem timeUuid?_eq_some_iff {u : Uuid} :
    timeUuid? u = some w ↔ u.version = 1 ∧ w = .timeUuid u := by
  unfold timeUuid?
  split
  · rename_i hversion
    simp [hversion, eq_comm]
  · rename_i hversion
    simp [hversion]

section Reading

/-- How a caster other than that of texts reads a text without blanks around it. -/
def read? (s : List Char) : Caster → Option Value
  | uuid => (Uuid.ofText? s).map .uuid
  | timeUuid => (Uuid.ofText? s).bind timeUuid?
  | bigInt => ((integer? s).bind int64?).map .bigInt
  | int => ((integer? s).bind int32?).map .int
  | text => none
  | timestamp => (Timestamp.ofText? s).map .timestamp
  | date => (Date.ofText? s).map .date
  | decimal => (Decimal.ofText? s).map .decimal
  | inet => (IpAddress.ofText? s).map .inet

theorem cast_text_eq_ok_iff (hne : caster ≠ text) :
    caster.cast (.text s) = .ok w ↔ caster.read? (trim s.toList) = some w := by
  have hread : caster.convert? (.text s) = some (caster.read? (trim s.toList)) := by
    cases caster with
    | text => exact absurd rfl hne
    | _ => rfl
  rw [cast_eq_ok_iff, hread, Option.some_inj]

end Reading

theorem same_self_of_owns (h : caster.Owns v) : (v == v) = true := by
  rw [Value.beq_eq_same]
  cases h <;> rw [Value.same] <;> exact beq_self_eq_true _

theorem exists_handedOutAs_of_owns (h : caster.Owns v) : ∃ s, v.HandedOutAs s := by
  cases h with
  | bigInt n => exact ⟨_, .bigInt n⟩
  | int n => exact ⟨_, .int n⟩
  | _ => exact ⟨_, .json (by rw [Value.toJson])⟩

theorem read?_of_toJson {t : List Char} (hs : v.HandedOutAs s)
    (hjson : v.toJson = .str (String.ofList t)) (hblank : NoBlank t)
    (hread : caster.read? t = some w) (hw : v.Restored w) :
    NoBlank s.toList ∧ ∃ w, caster.read? s.toList = some w ∧ v.Restored w := by
  obtain rfl := hs.eq_of_toJson hjson
  rw [String.toList_ofList]
  exact ⟨hblank, w, hread, hw⟩

/-- The text under which a value is handed out has no blanks, and its caster reads it. -/
theorem read?_handedOutAs (h : caster.Owns v) (hs : v.HandedOutAs s) (hne : caster ≠ .text) :
    NoBlank s.toList ∧ ∃ w, caster.read? s.toList = some w ∧ v.Restored w := by
  have hself := Value.restored_self (same_self_of_owns h)
  cases h with
  | text s => exact absurd rfl hne
  | bigInt n =>
    have htext := hs.eq_literal (by rw [Value.toJson])
    rw [Value.literal] at htext
    rw [htext]
    refine ⟨noBlank_of_numeric (numeric_repr _), .bigInt n, ?_, hself⟩
    rw [read?, integer?_repr, Option.bind_some, int64?_eq_some_iff.mpr rfl, Option.map_some]
  | int n =>
    have htext := hs.eq_literal (by rw [Value.toJson])
    rw [Value.literal] at htext
    rw [htext]
    refine ⟨noBlank_of_numeric (numeric_repr _), .int n, ?_, hself⟩
    rw [read?, integer?_repr, Option.bind_some, int32?_eq_some_iff.mpr rfl, Option.map_some]
  | uuid u =>
    have hread : uuid.read? u.toText = some (.uuid u) := by
      rw [read?, u.ofText?_toText, Option.map_some]
    apply read?_of_toJson hs (by rw [Value.toJson]) _ hread hself
    exact noBlank_of_numeric u.numeric_toText
  | @timeUuid u version =>
    have hread : timeUuid.read? u.toText = some (.timeUuid u) := by
      rw [read?, u.ofText?_toText, Option.bind_some]
      exact timeUuid?_eq_some_iff.mpr ⟨version, rfl⟩
    apply read?_of_toJson hs (by rw [Value.toJson]) _ hread hself
    exact noBlank_of_numeric u.numeric_toText
  | @timestamp t year nanos millis =>
    have hread : timestamp.read? t.toText = some (.timestamp t) := by
      rw [read?, Timestamp.ofText?_toText year nanos millis, Option.map_some]
    exact read?_of_toJson hs (by rw [Value.toJson]) t.noBlank_toText hread hself
  | date d =>
    have hread : date.read? d.toText = some (.date d) := by
      rw [read?, d.ofText?_toText, Option.map_some]
    exact read?_of_toJson hs (by rw [Value.toJson]) d.noBlank_toText hread hself
  | decimal d =>
    -- The sign of a zero is lost here, so the value read is not always the same data.
    have hread : decimal.read? d.toText = some (.decimal d.plain) := by
      rw [read?, d.ofText?_toText, Option.map_some]
    apply read?_of_toJson hs (by rw [Value.toJson]) _ hread (Value.restored_plain d)
    exact noBlank_of_numeric d.numeric_toText
  | inet ip =>
    have hread : inet.read? ip.toText = some (.inet ip) := by
      rw [read?, ip.ofText?_toText, Option.map_some]
    exact read?_of_toJson hs (by rw [Value.toJson]) ip.noBlank_toText hread hself

/-- A value with a caster of its own leaves as a text, and the caster gives it back from this text.
Blanks around the text do no harm, except to a text as a value, where they belong to it. -/
theorem cast_handedOutAs (h : caster.Owns v) : (∃ s, v.HandedOutAs s) ∧
    ∀ s, v.HandedOutAs s → ∀ before after : String,
      (∀ c ∈ before.toList ++ after.toList, isBlank c = true) →
      (caster = .text → before = "" ∧ after = "") →
      ∃ w, caster.cast (.text (before ++ s ++ after)) = .ok w ∧ v.Restored w := by
  refine ⟨exists_handedOutAs_of_owns h, fun s hs before after hblank htext => ?_⟩
  by_cases hcaster : caster = .text
  · obtain ⟨rfl, rfl⟩ := htext hcaster
    have hself := Value.restored_self (same_self_of_owns h)
    subst hcaster
    cases h with
    | text t =>
      obtain rfl := hs.eq_of_toJson (by rw [Value.toJson])
      refine ⟨.text s, ?_, hself⟩
      rw [String.empty_append, String.append_empty]
      rfl
  · obtain ⟨hnone, w, hread, hw⟩ := read?_handedOutAs h hs hcaster
    obtain ⟨hbefore, hafter⟩ := List.forall_mem_append.mp hblank
    have htrim : trim (before ++ s ++ after).toList = s.toList := by
      rw [String.toList_append, String.toList_append]
      exact trim_between hbefore hnone hafter
    refine ⟨w, (cast_text_eq_ok_iff hcaster).mpr ?_, hw⟩
    rw [htrim]
    exact hread

/-- A zero with a sign and three places, between blanks of two kinds. -/
theorem cast_handedOutAs_of_zero : ∃ w,
    decimal.cast (.text ("\t" ++ "-0.000" ++ " \u3000")) = .ok w ∧
      Value.Restored (.decimal ⟨true, 0, 3, by decide, by decide⟩) w := by
  apply (cast_handedOutAs (.decimal ⟨true, 0, 3, by decide, by decide⟩)).2
  · exact .json (by rw [Value.toJson]; rfl)
  · apply List.all_eq_true.mp
    decide
  · intro h
    cases h

end Caster

end Cql
