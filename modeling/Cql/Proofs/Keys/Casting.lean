import Cql.Proofs.Keys.Reading

/-!
Casts as projections. A caster casts to one type: what comes out of a cast is of that type, null
apart, and a second cast leaves it alone. Main statement: this, together with what a cast keeps of a
number, what it asks of an identifier with a time, and how it refuses.
-/

namespace Cql

open Text

theorem Decimal.coefficient_ofInt64 (n : Int64) : (ofInt64 n).coefficient = n.toInt := by
  simp only [coefficient, ofInt64, decide_eq_true_eq]
  split <;> omega

theorem Value.eq_null_of_isNull {v : Value} (h : v.isNull = true) : v = .null := by
  cases v with
  | null => rfl
  | _ => cases h

namespace Caster

/-- The values of the type that a caster casts to. -/
inductive Target : Caster → Value → Prop
  | uuid (u : Uuid) : Target .uuid (.uuid u)
  | timeUuid (u : Uuid) : Target .timeUuid (.timeUuid u)
  | bigInt (n : Int64) : Target .bigInt (.bigInt n)
  | int (n : Int32) : Target .int (.int n)
  | text (s : String) : Target .text (.text s)
  | timestamp (t : Timestamp) : Target .timestamp (.timestamp t)
  | date (d : Date) : Target .date (.date d)
  | decimal (d : Decimal) : Target .decimal (.decimal d)
  | inet (ip : IpAddress) : Target .inet (.inet ip)

variable {caster : Caster} {v w : Value} {n : Int}

section Kept

theorem cast_null (caster : Caster) : caster.cast .null = .ok .null := by
  cases caster <;> rfl

theorem cast_target (h : caster.Target v) : caster.cast v = .ok v := by
  cases h <;> rfl

theorem isNull_of_target (h : caster.Target v) : v.isNull = false := by
  cases h <;> rfl

end Kept

section Targets

theorem target_of_map {α : Type} {read : Option α} {make : α → Value}
    (hmake : ∀ a, caster.Target (make a)) (h : read.map make = some w) : caster.Target w := by
  obtain ⟨a, _, rfl⟩ := Option.map_eq_some_iff.mp h
  exact hmake a

theorem target_of_timeUuid? {u : Uuid} (h : timeUuid? u = some w) : timeUuid.Target w := by
  obtain ⟨_, rfl⟩ := timeUuid?_eq_some_iff.mp h
  exact .timeUuid u

theorem target_of_read? {s : List Char} (h : caster.read? s = some w) : caster.Target w := by
  cases caster with
  | uuid => exact target_of_map .uuid h
  | timeUuid =>
    obtain ⟨u, _, hu⟩ := Option.bind_eq_some_iff.mp h
    exact target_of_timeUuid? hu
  | bigInt => exact target_of_map .bigInt h
  | int => exact target_of_map .int h
  | text => cases h
  | timestamp => exact target_of_map .timestamp h
  | date => exact target_of_map .date h
  | decimal => exact target_of_map .decimal h
  | inet => exact target_of_map .inet h

theorem target_of_ofInteger? (h : caster.ofInteger? n = some w) : caster.Target w := by
  cases caster with
  | bigInt => exact target_of_map .bigInt h
  | int => exact target_of_map .int h
  | text =>
    obtain rfl := Option.some.inj h
    exact .text _
  | timestamp => exact target_of_map .timestamp h
  | decimal => exact target_of_map (fun _ => .decimal _) h
  | _ => cases h

/-- What is not null becomes a value of the caster's type. -/
theorem target_of_cast (hnull : v.isNull = false) (h : caster.cast v = .ok w) :
    caster.Target w := by
  -- By the type of the value first: integers and texts are settled for all casters at once, and of
  -- most other types a caster takes none.
  cases v with
  | null => cases hnull
  | tinyInt m | smallInt m | int m | bigInt m =>
    exact target_of_ofInteger? (ofInteger?_of_cast rfl h)
  | text s =>
    by_cases htext : caster = .text
    · subst htext
      cases h
      exact .text s
    · exact target_of_read? ((cast_text_eq_ok_iff htext).mp h)
  | uuid u =>
    cases caster with
    | timeUuid =>
      rw [cast_eq_ok_iff] at h
      exact target_of_timeUuid? (Option.some.inj h)
    | _ => cases h <;> constructor
  | _ => cases caster <;> cases h <;> constructor

theorem isNull_of_cast (h : caster.cast v = .ok w) : w.isNull = v.isNull := by
  cases hnull : v.isNull with
  | true =>
    obtain rfl := Value.eq_null_of_isNull hnull
    rw [cast_null] at h
    rw [← Except.ok.inj h]
    rfl
  | false => exact isNull_of_target (target_of_cast hnull h)

end Targets

/-- An identifier with a time was one before, or has been checked. -/
theorem version_of_cast {u : Uuid} (h : caster.cast v = .ok (.timeUuid u)) :
    v = .timeUuid u ∨ u.version = 1 := by
  have htarget : caster.Target (.timeUuid u) :=
    target_of_cast ((isNull_of_cast h).symm.trans rfl) h
  cases htarget
  cases v with
  | timeUuid u' =>
    cases h
    exact .inl rfl
  | uuid u' =>
    rw [cast_eq_ok_iff] at h
    obtain ⟨hversion, heq⟩ := timeUuid?_eq_some_iff.mp (Option.some.inj h)
    cases heq
    exact .inr hversion
  | text s =>
    obtain ⟨u', _, hu⟩ := Option.bind_eq_some_iff.mp ((cast_text_eq_ok_iff (by decide)).mp h)
    obtain ⟨hversion, heq⟩ := timeUuid?_eq_some_iff.mp hu
    cases heq
    exact .inr hversion
  | _ => cases h

/-- An integer stays the same number. -/
theorem number_of_ofInteger? (h : caster.ofInteger? n = some w) :
    (∀ m, w = .int m → m.toInt = n) ∧ (∀ m, w = .bigInt m → m.toInt = n) ∧
      ∀ d, w = .decimal d → d.coefficient = n ∧ d.scale = 0 := by
  cases caster with
  | bigInt =>
    obtain ⟨m, hm, rfl⟩ := Option.map_eq_some_iff.mp h
    refine ⟨nofun, fun k hk => ?_, nofun⟩
    rw [← Value.bigInt.inj hk]
    exact int64?_eq_some_iff.mp hm
  | int =>
    obtain ⟨m, hm, rfl⟩ := Option.map_eq_some_iff.mp h
    refine ⟨fun k hk => ?_, nofun, nofun⟩
    rw [← Value.int.inj hk]
    exact int32?_eq_some_iff.mp hm
  | text =>
    obtain rfl := Option.some.inj h
    exact ⟨nofun, nofun, nofun⟩
  | timestamp =>
    obtain ⟨t, _, rfl⟩ := Option.map_eq_some_iff.mp h
    exact ⟨nofun, nofun, nofun⟩
  | decimal =>
    obtain ⟨m, hm, rfl⟩ := Option.map_eq_some_iff.mp h
    refine ⟨nofun, nofun, fun d hd => ?_⟩
    rw [← Value.decimal.inj hd]
    exact ⟨(Decimal.coefficient_ofInt64 m).trans (int64?_eq_some_iff.mp hm), rfl⟩
  | _ => cases h

/-- A cast is a projection onto the caster's type and null: these are the values that it keeps, and
what it makes of any other value is among them. An integer stays the same number where it becomes a
number, an identifier becomes one with a time only if it has one, and no collection is taken. -/
theorem cast_projects (caster : Caster) (v : Value) :
    (∀ w, caster.cast v = .ok w →
      w.isNull = v.isNull ∧ (v.isNull = false → caster.Target w) ∧ caster.cast w = .ok w ∧
      (∀ u, w = .timeUuid u → v = .timeUuid u ∨ u.version = 1) ∧
      ∀ n, v.integer? = some n →
        (∀ m, w = .int m → m.toInt = n) ∧ (∀ m, w = .bigInt m → m.toInt = n) ∧
          ∀ d, w = .decimal d → d.coefficient = n ∧ d.scale = 0) ∧
    (caster.cast v = .ok v ↔ v.isNull = true ∨ caster.Target v) ∧
    (∀ e, caster.cast v = .error e → e.kind = .validation) ∧
    ∀ c, v = .collection c → ∃ e, caster.cast v = .error e := by
  have hkept : ∀ {v}, v.isNull = true ∨ caster.Target v → caster.cast v = .ok v := by
    rintro v (hnull | htarget)
    · rw [Value.eq_null_of_isNull hnull, cast_null]
    · exact cast_target htarget
  have hmade : ∀ {w}, caster.cast v = .ok w → w.isNull = true ∨ caster.Target w := by
    intro w h
    cases hnull : v.isNull with
    | true => exact .inl ((isNull_of_cast h).trans hnull)
    | false => exact .inr (target_of_cast hnull h)
  refine ⟨?_, ⟨hmade, hkept⟩, fun e => kind_of_cast, ?_⟩
  · intro w h
    refine ⟨isNull_of_cast h, fun hnull => target_of_cast hnull h, hkept (hmade h), ?_, ?_⟩
    · rintro u rfl
      exact version_of_cast h
    · intro n hn
      exact number_of_ofInteger? (ofInteger?_of_cast hn h)
  · rintro c rfl
    cases hcast : caster.cast (.collection c) with
    | error e => exact ⟨e, rfl⟩
    | ok w => cases caster <;> cases hcast

/-- A text in braces, in capitals and between blanks, of an identifier of version 1. -/
theorem cast_projects_of_braces : ∃ w,
    timeUuid.cast (.text "\t{D2177DD0-EAA2-11DE-A572-001B779C76E3} ") = .ok w ∧
    timeUuid.Target w ∧ timeUuid.cast w = .ok w ∧ ∀ u, w = .timeUuid u → u.version = 1 := by
  have hread : timeUuid.cast (.text "\t{D2177DD0-EAA2-11DE-A572-001B779C76E3} ") =
      .ok (.timeUuid ⟨0xd2177dd0eaa211dea572001b779c76e3⟩) := by
    have hparse : Uuid.ofText? (trim "\t{D2177DD0-EAA2-11DE-A572-001B779C76E3} ".toList) =
        some ⟨0xd2177dd0eaa211dea572001b779c76e3⟩ := by decide
    refine (cast_text_eq_ok_iff (by decide)).mpr ?_
    rw [read?, hparse, Option.bind_some]
    exact timeUuid?_eq_some_iff.mpr ⟨by decide, rfl⟩
  obtain ⟨_, htarget, hagain, hversion, _⟩ := (cast_projects timeUuid _).1 _ hread
  refine ⟨_, hread, htarget rfl, hagain, ?_⟩
  intro u hu
  rcases hversion u hu with htext | hone
  · cases htext
  · exact hone

end Caster

end Cql
