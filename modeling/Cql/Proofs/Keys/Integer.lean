import Cql.Key.Cast
import Cql.Proofs.Values.Timestamp

/-!
Integers as keys. An integer comes in one of four widths. Main statement: what a caster makes of an
integer depends on the number alone, but for the casters of timestamps and decimals, which refuse
the two narrow widths whatever the number is.
-/

namespace Cql

namespace Value

/-- The number that a value of an integer type is. -/
def integer? : Value → Option Int
  | tinyInt n => some n.toInt
  | smallInt n => some n.toInt
  | int n => some n.toInt
  | bigInt n => some n.toInt
  | _ => none

/-- Integers of 8 and of 16 bits. -/
def isNarrow : Value → Bool
  | tinyInt _ | smallInt _ => true
  | _ => false

variable {v : Value} {n : Int}

theorem bounds_of_isNarrow (hv : v.integer? = some n) (hnarrow : v.isNarrow = true) :
    -32768 ≤ n ∧ n ≤ 32767 := by
  cases v with
  | tinyInt m | smallInt m =>
    obtain rfl := Option.some.inj hv
    have hlow := m.le_toInt
    have hhigh := m.toInt_lt
    omega
  | _ => cases hnarrow

/-- The widest type holds the integers of all types. -/
theorem exists_int64_of_integer? (hv : v.integer? = some n) : ∃ m : Int64, m.toInt = n := by
  cases v with
  | tinyInt m | smallInt m | int m =>
    exact ⟨m.toInt64, m.toInt_toInt64.trans (Option.some.inj hv)⟩
  | bigInt m => exact ⟨m, Option.some.inj hv⟩
  | _ => cases hv

theorem rawText_of_integer? (hv : v.integer? = some n) : v.rawText = n.repr := by
  cases v with
  | tinyInt m | smallInt m | int m | bigInt m =>
    obtain rfl := Option.some.inj hv
    rw [rawText, literal]
    rfl
  | _ => cases hv

end Value

namespace Caster

variable {caster : Caster} {v w x : Value} {n : Int}

theorem int32?_eq_some_iff {m : Int32} : int32? n = some m ↔ m.toInt = n := by
  have hmin := Int32.toInt_minValue
  have hmax := Int32.toInt_maxValue
  unfold int32?
  constructor
  · intro h
    split at h
    · rw [← Option.some.inj h]
      exact Int32.toInt_ofInt_of_le (by omega) (by omega)
    · cases h
  · rintro rfl
    rw [if_pos ⟨m.minValue_le_toInt, m.toInt_le⟩, Int32.ofInt_toInt]

theorem int64?_eq_some_iff {m : Int64} : int64? n = some m ↔ m.toInt = n := by
  have hmin := Int64.toInt_minValue
  have hmax := Int64.toInt_maxValue
  unfold int64?
  constructor
  · intro h
    split at h
    · rw [← Option.some.inj h]
      exact Int64.toInt_ofInt_of_le (by omega) (by omega)
    · cases h
  · rintro rfl
    rw [if_pos ⟨m.minValue_le_toInt, m.toInt_le⟩, Int64.ofInt_toInt]

/-- What a number becomes under the casters that take numbers. -/
def ofInteger? (n : Int) : Caster → Option Value
  | bigInt => (int64? n).map .bigInt
  | int => (int32? n).map .int
  | text => some (.text n.repr)
  | timestamp => millis? n
  | decimal => (int64? n).map fun m => .decimal (Decimal.ofInt64 m)
  | uuid | timeUuid | date | inet => none

/-- The casters that take a number from the two wide types only. -/
def takesWideOnly : Caster → Bool
  | timestamp | decimal => true
  | _ => false

theorem cast_narrow (hcaster : caster.takesWideOnly = true) (hnarrow : v.isNarrow = true) :
    caster.cast v = .error (.uncastable v.typeName caster) := by
  refine cast_eq_error_iff.mpr (.inr ⟨?_, rfl⟩)
  cases v with
  | tinyInt | smallInt =>
    cases caster with
    | timestamp | decimal => rfl
    | _ => cases hcaster
  | _ => cases hnarrow

/-- The widths that a caster takes are all converted alike. -/
theorem cast_integer (hv : v.integer? = some n)
    (htaken : (caster.takesWideOnly && v.isNarrow) = false) :
    caster.cast v = .ok w ↔ caster.ofInteger? n = some w := by
  have htext := Value.rawText_of_integer? hv
  rw [cast_eq_ok_iff]
  cases v with
  | tinyInt m | smallInt m =>
    obtain rfl := Option.some.inj hv
    have hint : int32? m.toInt = some m.toInt32 := int32?_eq_some_iff.mpr m.toInt_toInt32
    have hbig : int64? m.toInt = some m.toInt64 := int64?_eq_some_iff.mpr m.toInt_toInt64
    cases caster with
    | timestamp | decimal => cases htaken
    | _ => simp [convert?, ofInteger?, hint, hbig, htext]
  | int m =>
    obtain rfl := Option.some.inj hv
    have hint : int32? m.toInt = some m := int32?_eq_some_iff.mpr rfl
    have hbig : int64? m.toInt = some m.toInt64 := int64?_eq_some_iff.mpr m.toInt_toInt64
    cases caster <;> simp [convert?, ofInteger?, hint, hbig, htext]
  | bigInt m =>
    obtain rfl := Option.some.inj hv
    have hbig : int64? m.toInt = some m := int64?_eq_some_iff.mpr rfl
    cases caster <;> simp [convert?, ofInteger?, hbig, htext]
  | _ => cases hv

theorem ofInteger?_of_cast (hv : v.integer? = some n) (h : caster.cast v = .ok w) :
    caster.ofInteger? n = some w := by
  cases hskip : caster.takesWideOnly && v.isNarrow with
  | true =>
    obtain ⟨hcaster, hnarrow⟩ := Bool.and_eq_true_iff.mp hskip
    rw [cast_narrow hcaster hnarrow] at h
    cases h
  | false => exact (cast_integer hv hskip).mp h

/-- The casters that refuse a number in a narrow type take it in a wide one: it is in the range of
both. -/
theorem cast_apart (hcaster : caster.takesWideOnly = true) (hv : v.integer? = some n)
    (hw : w.integer? = some n) (hnarrow : v.isNarrow = true) (hwide : w.isNarrow = false) :
    caster.cast v = .error (.uncastable v.typeName caster) ∧ ∃ x, caster.cast w = .ok x := by
  refine ⟨cast_narrow hcaster hnarrow, ?_⟩
  have hbounds := Value.bounds_of_isNarrow hv hnarrow
  have htaken : (caster.takesWideOnly && w.isNarrow) = false := by
    rw [hwide, Bool.and_false]
  simp only [cast_integer hw htaken]
  cases caster with
  | timestamp =>
    have hfirst : Timestamp.first.millis ≤ -32768 := by decide
    have hlast : 32767 ≤ Timestamp.last.millis := by decide
    obtain ⟨t, ht⟩ := Timestamp.exists_ofMillis?_iff.mpr
      (⟨by omega, by omega⟩ : Timestamp.first.millis ≤ n ∧ n ≤ Timestamp.last.millis)
    refine ⟨.timestamp t, ?_⟩
    rw [ofInteger?, millis?, ht, Option.map_some]
  | decimal =>
    obtain ⟨m, hm⟩ := Value.exists_int64_of_integer? hw
    refine ⟨.decimal (Decimal.ofInt64 m), ?_⟩
    rw [ofInteger?, int64?_eq_some_iff.mpr hm, Option.map_some]
  | _ => cases hcaster

theorem takesWideOnly_iff : caster.takesWideOnly = true ↔ caster = timestamp ∨ caster = decimal := by
  cases caster <;> simp [takesWideOnly]

/-- A number is cast alike from any two integer types that hold it, except by the casters of
timestamps and decimals, which take it from a wide type and refuse it in a narrow one. -/
theorem cast_width (caster : Caster) (hv : v.integer? = some n) (hw : w.integer? = some n) :
    ((∀ x, caster.cast v = .ok x ↔ caster.cast w = .ok x) ↔
      (caster = timestamp ∨ caster = decimal → v.isNarrow = w.isNarrow)) ∧
    (caster = timestamp ∨ caster = decimal → v.isNarrow = true → w.isNarrow = false →
      caster.cast v = .error (.uncastable v.typeName caster) ∧ ∃ x, caster.cast w = .ok x) := by
  rw [← takesWideOnly_iff]
  refine ⟨⟨?_, ?_⟩, fun hcaster => cast_apart hcaster hv hw⟩
  · intro hagree hcaster
    cases hnarrow : v.isNarrow with
    | true =>
      cases hwide : w.isNarrow with
      | true => rfl
      | false =>
        obtain ⟨herror, x, hok⟩ := cast_apart hcaster hv hw hnarrow hwide
        rw [(hagree x).mpr hok] at herror
        cases herror
    | false =>
      cases hwide : w.isNarrow with
      | false => rfl
      | true =>
        obtain ⟨herror, x, hok⟩ := cast_apart hcaster hw hv hwide hnarrow
        rw [(hagree x).mp hok] at herror
        cases herror
  · intro halike x
    cases hskip : caster.takesWideOnly && v.isNarrow with
    | true =>
      obtain ⟨hcaster, hnarrow⟩ := Bool.and_eq_true_iff.mp hskip
      rw [cast_narrow hcaster hnarrow, cast_narrow hcaster (halike hcaster ▸ hnarrow)]
      simp
    | false =>
      have hskip' : (caster.takesWideOnly && w.isNarrow) = false := by
        cases hcaster : caster.takesWideOnly with
        | true => rw [← halike hcaster, ← hcaster, hskip]
        | false => rfl
      rw [cast_integer hv hskip, cast_integer hw hskip']

/-- The least number of 16 bits is the same key of type int in either type, and not the same
timestamp. -/
theorem cast_width_of_least_short :
    (Value.smallInt (-32768)).integer? = some (-32768) ∧
    (Value.bigInt (-32768)).integer? = some (-32768) ∧
    (∀ x, int.cast (.smallInt (-32768)) = .ok x ↔ int.cast (.bigInt (-32768)) = .ok x) ∧
    ∃ x, timestamp.cast (.smallInt (-32768)) = .error (.uncastable "smallint" timestamp) ∧
      timestamp.cast (.bigInt (-32768)) = .ok x := by
  have hshort : (Value.smallInt (-32768)).integer? = some (-32768) := by decide
  have hbig : (Value.bigInt (-32768)).integer? = some (-32768) := by decide
  have hint : int = timestamp ∨ int = decimal →
      (Value.smallInt (-32768)).isNarrow = (Value.bigInt (-32768)).isNarrow := by
    rintro (h | h)
    · cases h
    · cases h
  obtain ⟨herror, x, hok⟩ := (cast_width timestamp hshort hbig).2 (.inl rfl) rfl rfl
  exact ⟨hshort, hbig, (cast_width int hshort hbig).1.mpr hint, x, herror, hok⟩

/-- One number in two types: the caster of decimals refuses it in the narrow one and takes it in the
other, and so does the caster of timestamps. -/
theorem cast_refuses_narrow :
    (Value.tinyInt 5).integer? = (Value.int 5).integer? ∧
    decimal.cast (.tinyInt 5) = .error (.uncastable "tinyint" decimal) ∧
    decimal.cast (.int 5) = .ok (.decimal ⟨false, 5, 0, by decide, by decide⟩) ∧
    timestamp.cast (.tinyInt 5) = .error (.uncastable "tinyint" timestamp) ∧
    timestamp.cast (.int 5) = .ok (.timestamp ⟨{ year := 1970, month := 1, day := 1 },
      { seconds := 0, nanos := 5000000 }⟩) := by
  have hmillis : Timestamp.ofMillis? (5 : Int32).toInt =
      some ⟨{ year := 1970, month := 1, day := 1 }, { seconds := 0, nanos := 5000000 }⟩ := by
    decide
  refine ⟨by decide, cast_narrow rfl rfl, ?_, cast_narrow rfl rfl, ?_⟩
  · rw [cast_eq_ok_iff]
    rfl
  · rw [cast_eq_ok_iff, convert?, millis?, hmillis, Option.map_some]

end Caster

end Cql
