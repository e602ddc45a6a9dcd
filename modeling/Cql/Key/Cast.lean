import Cql.Error
import Cql.Text.Blank
import Cql.Value

/-!
Casts of key values. A caster takes values of its own type as they are, converts those of some other
types, and reads texts, where blanks at the ends do not count. A null stays a null.
-/

namespace Cql.Caster

def int32? (n : Int) : Option Int32 :=
  if Int32.minValue.toInt ≤ n ∧ n ≤ Int32.maxValue.toInt then some (Int32.ofInt n) else none

def int64? (n : Int) : Option Int64 :=
  if Int64.minValue.toInt ≤ n ∧ n ≤ Int64.maxValue.toInt then some (Int64.ofInt n) else none

/-- An identifier of version 1, which holds a time. -/
def timeUuid? (u : Uuid) : Option Value :=
  if u.version = 1 then some (.timeUuid u) else none

def millis? (ms : Int) : Option Value :=
  (Timestamp.ofMillis? ms).map .timestamp

/-- What comes of a value. The outer option is empty where the caster does not take values of that
type, the inner one where it takes them but not this one. -/
def convert? (caster : Caster) (v : Value) : Option (Option Value) :=
  let trimmed (s : String) : List Char := Text.trim s.toList
  match caster, v with
  | _, .null => some (some .null)
  | uuid, .uuid u => some (some (.uuid u))
  | uuid, .timeUuid u => some (some (.uuid u))
  | uuid, .text s => some ((Uuid.ofText? (trimmed s)).map .uuid)
  | timeUuid, .timeUuid u => some (some (.timeUuid u))
  | timeUuid, .uuid u => some (timeUuid? u)
  | timeUuid, .text s => some ((Uuid.ofText? (trimmed s)).bind timeUuid?)
  | bigInt, .bigInt n => some (some (.bigInt n))
  | bigInt, .int n => some (some (.bigInt n.toInt64))
  | bigInt, .smallInt n => some (some (.bigInt n.toInt64))
  | bigInt, .tinyInt n => some (some (.bigInt n.toInt64))
  | bigInt, .text s => some (((Text.integer? (trimmed s)).bind int64?).map .bigInt)
  | int, .int n => some (some (.int n))
  | int, .smallInt n => some (some (.int n.toInt32))
  | int, .tinyInt n => some (some (.int n.toInt32))
  | int, .bigInt n => some ((int32? n.toInt).map .int)
  | int, .text s => some (((Text.integer? (trimmed s)).bind int32?).map .int)
  | text, .collection _ => some none
  | text, v => some (some (.text v.rawText))
  | timestamp, .timestamp t => some (some (.timestamp t))
  | timestamp, .bigInt n => some (millis? n.toInt)
  | timestamp, .int n => some (millis? n.toInt)
  | timestamp, .text s => some ((Timestamp.ofText? (trimmed s)).map .timestamp)
  | date, .date d => some (some (.date d))
  | date, .timestamp t => some (some (.date t.date))
  | date, .text s => some ((Date.ofText? (trimmed s)).map .date)
  | decimal, .decimal d => some (some (.decimal d))
  | decimal, .int n => some (some (.decimal (Decimal.ofInt64 n.toInt64)))
  | decimal, .bigInt n => some (some (.decimal (Decimal.ofInt64 n)))
  | decimal, .text s => some ((Decimal.ofText? (trimmed s)).map .decimal)
  | inet, .inet ip => some (some (.inet ip))
  | inet, .text s => some ((IpAddress.ofText? (trimmed s)).map .inet)
  | _, _ => none

def cast (caster : Caster) (v : Value) : Except Error Value :=
  match caster.convert? v with
  | some (some w) => .ok w
  | some none => .error (.invalidKey caster)
  | none => .error (.uncastable v.typeName caster)

section Cast

variable {caster : Caster} {v w : Value} {e : Error}

theorem cast_eq_ok_iff : caster.cast v = .ok w ↔ caster.convert? v = some (some w) := by
  unfold cast
  match caster.convert? v with
  | some (some x) => simp
  | some none => simp
  | none => simp

theorem cast_eq_error_iff : caster.cast v = .error e ↔
    caster.convert? v = some none ∧ e = .invalidKey caster ∨
      caster.convert? v = none ∧ e = .uncastable v.typeName caster := by
  unfold cast
  match caster.convert? v with
  | some (some x) => simp
  | some none => simp [eq_comm]
  | none => simp [eq_comm]

theorem kind_of_cast (h : caster.cast v = .error e) : e.kind = .validation := by
  rcases cast_eq_error_iff.mp h with ⟨_, rfl⟩ | ⟨_, rfl⟩
  · rfl
  · rfl

end Cast

end Cql.Caster
