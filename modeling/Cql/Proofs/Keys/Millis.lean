import Cql.Key.Cast
import Cql.Proofs.Values.Timestamp

/-!
Numbers as keys of type timestamp. A number counts milliseconds, also before the epoch. Main
statement: the cast gives the point in time of exactly that number, or refuses the number where the
calendar has no date for it.
-/

namespace Cql.Caster

variable {n : Int64} {w : Value}

theorem cast_bigInt (n : Int64) : timestamp.cast (.bigInt n) =
    match Timestamp.ofMillis? n.toInt with
    | some t => .ok (.timestamp t)
    | none => .error (.invalidKey .timestamp) := by
  rw [cast, convert?, millis?]
  cases Timestamp.ofMillis? n.toInt <;> rfl

theorem cast_bigInt_eq_ok_iff : timestamp.cast (.bigInt n) = .ok w ↔
    ∃ t, Timestamp.ofMillis? n.toInt = some t ∧ w = .timestamp t := by
  rw [cast_bigInt]
  cases Timestamp.ofMillis? n.toInt with
  | none => simp
  | some t => simp [eq_comm]

/-- A number is taken as milliseconds exactly where these lie between the first and the last date.
The timestamp is that many milliseconds away from the epoch, to the nanosecond, so its literal is
the number; its date is that many whole days away, rounded down. -/
theorem cast_millis (n : Int64) :
    ((∃ w, timestamp.cast (.bigInt n) = .ok w) ↔
      Timestamp.first.millis ≤ n.toInt ∧ n.toInt ≤ Timestamp.last.millis) ∧
    (∀ e, timestamp.cast (.bigInt n) = .error e → e.kind = .validation) ∧
    (∀ w, timestamp.cast (.bigInt n) = .ok w →
      w.literal = n.toInt.repr ∧
      (∃ t, w = .timestamp t ∧
        t.unixSeconds * 1000000000 + t.time.nanos = n.toInt * 1000000) ∧
      ∃ d, date.cast w = .ok (.date d) ∧ d.DaysFromEpoch (n.toInt.fdiv 86400000)) ∧
    ∀ m : Int32, timestamp.cast (.int m) = timestamp.cast (.bigInt m.toInt64) := by
  refine ⟨?_, ?_, ?_, ?_⟩
  · rw [← Timestamp.exists_ofMillis?_iff]
    simp only [cast_bigInt_eq_ok_iff]
    constructor
    · rintro ⟨_, t, ht, _⟩
      exact ⟨t, ht⟩
    · rintro ⟨t, ht⟩
      exact ⟨.timestamp t, t, ht, rfl⟩
  · intro e h
    rw [cast_bigInt] at h
    split at h
    · cases h
    · cases h
      rfl
  · intro w h
    obtain ⟨t, ht, rfl⟩ := cast_bigInt_eq_ok_iff.mp h
    obtain ⟨hmillis, hnanos, hwhole⟩ := Timestamp.ofMillis?_eq_some_iff.mp ht
    refine ⟨?_, ⟨t, rfl, ?_⟩, t.date, rfl, ?_⟩
    · rw [Value.literal, hmillis]
    · rw [← hmillis, Timestamp.millis]
      omega
    · rw [Date.daysFromEpoch_iff, Timestamp.dayNumber_date ht,
        Int.fdiv_eq_ediv_of_nonneg _ (by decide)]
  · intro m
    rw [cast_bigInt, Int32.toInt_toInt64, cast, convert?, millis?]
    cases Timestamp.ofMillis? m.toInt <;> rfl

/-- The last millisecond before the epoch lies on the day before it. -/
theorem cast_millis_before_epoch : ∃ w d,
    timestamp.cast (.bigInt (-1)) = .ok w ∧ w.literal = "-1" ∧
    date.cast w = .ok (.date d) ∧ d.DaysFromEpoch (-1) ∧ d.toText = "1969-12-31".toList := by
  let t : Timestamp :=
    ⟨⟨1969, 12, 31, by decide, by decide, by decide⟩, 86399, 999000000, by decide, by decide⟩
  have ht : Timestamp.ofMillis? (-1) = some t := by decide
  have hok : timestamp.cast (.bigInt (-1)) = .ok (.timestamp t) :=
    cast_bigInt_eq_ok_iff.mpr ⟨t, ht, rfl⟩
  obtain ⟨hliteral, _, d, hdate, hdays⟩ := (cast_millis (-1)).2.2.1 _ hok
  have hd : d = t.date := by
    cases hdate
    rfl
  refine ⟨_, d, hok, hliteral.trans (by decide), hdate, hdays, ?_⟩
  rw [hd]
  decide

end Cql.Caster
