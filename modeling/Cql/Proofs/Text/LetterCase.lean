/-!
The case of letters. Only ASCII letters have two of them here, so what is to be known of a character
and its small form is settled by the ASCII characters.
-/

namespace Cql.Text

variable {c d : Char}

theorem toLower_of_not_ascii (h : 128 ≤ c.toNat) : c.toLower = c := by
  have hupper : ¬ (c.val ≥ 'A'.val ∧ c.val ≤ 'Z'.val) := by
    rintro ⟨_, hle⟩
    have hle : c.toNat ≤ 90 := UInt32.le_iff_toNat_le.mp hle
    omega
  exact dif_neg hupper

/-- What is true of the ASCII characters, and of those without another case, is true of all. -/
theorem forall_of_ascii {p : Char → Prop} (hascii : ∀ n < 128, p (Char.ofNat n))
    (hother : ∀ c : Char, c.toLower = c → p c) (c : Char) : p c := by
  rcases Nat.lt_or_ge c.toNat 128 with hlt | hge
  · have h := hascii c.toNat hlt
    rwa [Char.ofNat_toNat] at h
  · exact hother c (toLower_of_not_ascii hge)

theorem toLower_toLower (c : Char) : c.toLower.toLower = c.toLower := by
  apply forall_of_ascii (p := fun c => c.toLower.toLower = c.toLower) (by decide)
  intro c hc
  rw [hc, hc]

theorem utf8Size_toLower (c : Char) : c.toLower.utf8Size = c.utf8Size := by
  apply forall_of_ascii (p := fun c => c.toLower.utf8Size = c.utf8Size) (by decide)
  intro c hc
  rw [hc]

theorem eq_of_toLower (h : c.toLower = d) (hd : d.isAlpha = false) : c = d := by
  subst h
  have hself : c.toLower.isAlpha = false → c = c.toLower :=
    forall_of_ascii (p := fun c => c.toLower.isAlpha = false → c = c.toLower) (by decide)
      (fun c hc _ => hc.symm) c
  exact hself hd

end Cql.Text
