import Cql.Proofs.Collections.Checking
import Cql.Proofs.Values.Decimal
import Cql.Proofs.Values.Floating
import Cql.Proofs.Values.IpAddress
import Cql.Proofs.Values.TimeOfDay
import Cql.Proofs.Values.Uuid

/-!
What the raw text tells of a value. In slots of one type, values with one raw text are equal, with
four exceptions: an undefined number, which equals nothing, an identifier with and without a time,
points in time that differ by less than a millisecond, and a leap second in the middle of a minute,
which the clock shows as the next second.
-/

namespace Cql.Value

open Text

/-- Values that a slot of one type can hold, with one raw text, though they may differ. -/
inductive Confused : Value → Value → Prop
  | float {x y : Float32} (hx : x.isNaN = true) (hy : y.isNaN = true) :
    Confused (.float x) (.float y)
  | double {x y : Float} (hx : x.isNaN = true) (hy : y.isNaN = true) :
    Confused (.double x) (.double y)
  | uuid (u : Uuid) : Confused (.uuid u) (.timeUuid u)
  | timeUuid (u : Uuid) : Confused (.timeUuid u) (.uuid u)
  | timestamp {s t : Timestamp} (h : s.millis = t.millis) : Confused (.timestamp s) (.timestamp t)
  | time {t u : TimeOfDay} (h : t.LeapsInto u ∨ u.LeapsInto t) : Confused (.time t) (.time u)

/-- The type of the slots that hold the value, up to names for the same values. -/
def slotType? : Value → Option NativeType
  | null | collection _ => none
  | boolean _ => some .boolean
  | tinyInt _ => some .tinyInt
  | smallInt _ => some .smallInt
  | int _ => some .int
  | bigInt _ => some .bigInt
  | float _ => some .float
  | double _ => some .double
  | decimal _ => some .decimal
  | text _ => some .text
  | blob _ => some .blob
  | inet _ => some .inet
  | uuid _ | timeUuid _ => some .uuid
  | date _ => some .date
  | time _ => some .time
  | timestamp _ => some .timestamp

/-- The type whose slots hold all values that slots of the given type hold. -/
def broadType : NativeType → NativeType
  | .ascii | .varchar => .text
  | .timeUuid => .uuid
  | type => type

variable {v w : Value} {type : NativeType}

theorem slotType?_of_fits (h : v.fits type = true) : v.slotType? = some (broadType type) := by
  cases v <;> cases type <;> first | rfl | cases h

theorem rawText_of_confused (h : Confused v w) : v.rawText = w.rawText := by
  cases h with
  | float hx hy =>
    change String.ofList (Floating.ofFloat32 _).literal =
      String.ofList (Floating.ofFloat32 _).literal
    rw [Floating.ofFloat32_eq_notANumber_iff.mpr hx, Floating.ofFloat32_eq_notANumber_iff.mpr hy]
  | double hx hy =>
    change String.ofList (Floating.ofFloat _).literal = String.ofList (Floating.ofFloat _).literal
    rw [Floating.ofFloat_eq_notANumber_iff.mpr hx, Floating.ofFloat_eq_notANumber_iff.mpr hy]
  | uuid u => rfl
  | timeUuid u => rfl
  | timestamp h => exact congrArg Int.repr h
  | @time t u h =>
    have htext : t.toText = u.toText := by
      rcases h with h | h
      · exact TimeOfDay.toText_eq_of_leapsInto h
      · exact (TimeOfDay.toText_eq_of_leapsInto h).symm
    exact congrArg String.ofList htext

/-- The data behind one raw text. -/
theorem eq_or_confused (hslot : v.slotType? = w.slotType?) (hplain : v.slotType?.isSome = true)
    (h : v.rawText = w.rawText) :
    v = w ∨ (∃ a b, v = decimal a ∧ w = decimal b ∧ a.sameNumber b = true) ∨ Confused v w := by
  have hlist : ∀ {s t : List Char}, String.ofList s = String.ofList t → s = t :=
    fun h => String.ofList_injective h
  cases v with
  | null | collection => cases hplain
  | boolean b =>
    cases w with
    | boolean c =>
      have hbool : b = c := by
        cases b <;> cases c <;> first | rfl | exact absurd h (by decide)
      exact .inl (congrArg boolean hbool)
    | _ => cases hslot
  | tinyInt n =>
    cases w with
    | tinyInt m => exact .inl (congrArg tinyInt (Int8.toInt_inj.mp (repr_injective h)))
    | _ => cases hslot
  | smallInt n =>
    cases w with
    | smallInt m => exact .inl (congrArg smallInt (Int16.toInt_inj.mp (repr_injective h)))
    | _ => cases hslot
  | int n =>
    cases w with
    | int m => exact .inl (congrArg int (Int32.toInt_inj.mp (repr_injective h)))
    | _ => cases hslot
  | bigInt n =>
    cases w with
    | bigInt m => exact .inl (congrArg bigInt (Int64.toInt_inj.mp (repr_injective h)))
    | _ => cases hslot
  | float x =>
    cases w with
    | float y =>
      rcases Floating.ofFloat32_inj (hlist h) with hxy | ⟨hx, hy⟩
      · exact .inl (congrArg float hxy)
      · exact .inr (.inr (.float hx hy))
    | _ => cases hslot
  | double x =>
    cases w with
    | double y =>
      rcases Floating.ofFloat_inj (hlist h) with hxy | ⟨hx, hy⟩
      · exact .inl (congrArg double hxy)
      · exact .inr (.inr (.double hx hy))
    | _ => cases hslot
  | decimal a =>
    cases w with
    | decimal b => exact .inr (.inl ⟨a, b, rfl, rfl, Decimal.sameNumber_of_toText (hlist h)⟩)
    | _ => cases hslot
  | text s =>
    cases w with
    | text t => exact .inl (congrArg text h)
    | _ => cases hslot
  | blob bytes =>
    cases w with
    | blob bytes' =>
      have hhex : hexBytes bytes = hexBytes bytes' := by simpa using hlist h
      exact .inl (congrArg blob (hexBytes_injective hhex))
    | _ => cases hslot
  | inet ip =>
    cases w with
    | inet ip' => exact .inl (congrArg inet (IpAddress.toText_injective (hlist h)))
    | _ => cases hslot
  | date d =>
    cases w with
    | date e => exact .inl (congrArg date (Date.toText_injective (hlist h)))
    | _ => cases hslot
  | time t =>
    cases w with
    | time u =>
      rcases TimeOfDay.eq_or_leapsInto_of_toText (hlist h) with htu | hleap
      · exact .inl (congrArg time htu)
      · exact .inr (.inr (.time hleap))
    | _ => cases hslot
  | timestamp t =>
    cases w with
    | timestamp u => exact .inr (.inr (.timestamp (repr_injective h)))
    | _ => cases hslot
  | uuid u =>
    cases w with
    | uuid u' => exact .inl (congrArg uuid (Uuid.toText_injective (hlist h)))
    | timeUuid u' =>
      obtain rfl := Uuid.toText_injective (hlist h)
      exact .inr (.inr (.uuid u))
    | _ => cases hslot
  | timeUuid u =>
    cases w with
    | uuid u' =>
      obtain rfl := Uuid.toText_injective (hlist h)
      exact .inr (.inr (.timeUuid u))
    | timeUuid u' => exact .inl (congrArg timeUuid (Uuid.toText_injective (hlist h)))
    | _ => cases hslot

/-- Equal data are equal values, undefined numbers apart. -/
theorem same_self_or_confused (hplain : v.slotType?.isSome = true) :
    (v == v) = true ∨ Confused v v := by
  rw [beq_eq_same]
  cases v with
  | null | collection => cases hplain
  | float x =>
    cases hnan : x.isNaN with
    | true => exact .inr (.float hnan hnan)
    | false =>
      rw [same]
      exact .inl (Floating.beq_self_of_isNaN32 hnan)
  | double x =>
    cases hnan : x.isNaN with
    | true => exact .inr (.double hnan hnan)
    | false =>
      rw [same]
      exact .inl (Floating.beq_self_of_isNaN hnan)
  | decimal d =>
    rw [same]
    exact .inl (Decimal.sameNumber_of_toText rfl)
  | _ =>
    rw [same]
    exact .inl (beq_self_eq_true _)

/-- Of values that differ only the confused ones have one raw text. -/
theorem rawText_eq_iff (hv : Storable type v) (hw : Storable type w) (hne : (v == w) = false) :
    v.rawText = w.rawText ↔ Confused v w := by
  refine ⟨fun h => ?_, rawText_of_confused⟩
  have hslot := slotType?_of_fits hv.fits
  have hplain : v.slotType?.isSome = true := by
    rw [hslot]
    rfl
  rcases eq_or_confused (hslot.trans (slotType?_of_fits hw.fits).symm) hplain h with
    rfl | ⟨a, b, rfl, rfl, hab⟩ | hconfused
  · rcases same_self_or_confused hplain with hsame | hconfused
    · rw [hne] at hsame
      cases hsame
    · exact hconfused
  · have hsame : (decimal a == decimal b) = true := by
      rw [beq_eq_same, same]
      exact hab
    rw [hne] at hsame
    cases hsame
  · exact hconfused

end Cql.Value
