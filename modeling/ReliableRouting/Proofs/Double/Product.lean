import ReliableRouting.Proofs.Double.Rounding

/-!
# Products of doubles

The product of two doubles that are not negative, of which the second is at most one, is no
greater than the first: the exact product is not, and rounding leaves the first one alone.
-/

namespace ReliableRouting.Double

open Float.Model Float.Model.UnpackedFloat

/-- What is a multiple of a power of two is divided by it without rounding. -/
theorem roundedQuotient_mul_self (n t : ℕ) :
  roundedQuotient (n * 2 ^ t) t = n
  := by
  have hcancel := roundedQuotient_mul_two_pow n 0 t
  rw [Nat.zero_add] at hcancel
  rw [hcancel]
  simp [roundedQuotient, Nat.mod_one]

section Finite

variable {m m' : ℕ} {e e' : ℤ}

/-- The exponent of a double that is at most one leaves room for all its digits below one. -/
theorem le_two_pow_of_le_one (h' : IsNormal m' e')
    (hone : m' * 2 ^ (e' + 1074).toNat ≤ 2 ^ 1074) :
  e' ≤ -52 ∧ m' ≤ 2 ^ (-e').toNat
  := by
  have hle := h'.le
  have hexponent : e' ≤ -52 := by
    by_contra hgreater
    have hfull := h'.full.resolve_right (by omega)
    have htoo : 2 ^ 1074 < m' * 2 ^ (e' + 1074).toNat := by
      calc
        2 ^ 1074 < 2 ^ 52 * 2 ^ 1023 := by
          rw [← Nat.pow_add]
          apply Nat.pow_lt_pow_right (by norm_num) (by norm_num)
        _ ≤ m' * 2 ^ (e' + 1074).toNat := by
          apply Nat.mul_le_mul hfull
          apply Nat.pow_le_pow_right Nat.zero_lt_two
          omega
    omega
  use hexponent
  apply Nat.le_of_mul_le_mul_right _ (Nat.two_pow_pos (e' + 1074).toNat)
  have hsum : (-e').toNat + (e' + 1074).toNat = 1074 := by omega
  rw [← Nat.pow_add, hsum]
  apply hone

/-- No more digits are shifted out of a product than the second factor has below one. -/
theorem excess_mul_le (hm : 0 < m) (h : IsNormal m e) (hexponent : e' ≤ -52)
    (hle : m' ≤ 2 ^ (-e').toNat) :
  excess (m * m') (e + e') ≤ (-e').toNat
  := by
  have hleast := h.le
  have hlog := (Nat.log2_lt hm.ne').mpr h.lt
  have hsurplus : surplus (m * m') ≤ (-e').toNat := by
    calc
      surplus (m * m') ≤ surplus (m * 2 ^ (-e').toNat) := by
        apply surplus_mono
        apply Nat.mul_le_mul_left m hle
      _ = m.log2 + (-e').toNat - 52 := by rw [surplus, log2_mul_two_pow hm.ne']
      _ ≤ (-e').toNat := by omega
  rw [excess]
  omega

/-- The product of finite magnitudes, of which the second is at most one. -/
theorem exists_hasSteps_mul (hm : 0 < m) (hm' : 0 < m') (h : IsNormal m e) (h' : IsNormal m' e')
    (hone : m' * 2 ^ (e' + 1074).toNat ≤ 2 ^ 1074) :
  ∃ n ≤ m * 2 ^ (e + 1074).toNat,
    HasSteps (UnpackedFloat.mul Format.binary64 (.finite .positive m e hm)
      (.finite .positive m' e' hm')) n
  := by
  obtain ⟨hexponent, hle⟩ := le_two_pow_of_le_one h' hone
  have hleast := h.le
  have hfull : 2 ^ 52 ≤ m * m' ∨ e + e' ≤ -1074 := by
    obtain hdigits | rfl := h.full
    · left
      apply hdigits.trans (Nat.le_mul_of_pos_right m hm')
    · right
      omega
  have hexcess := excess_mul_le hm h hexponent hle
  have hbelow : (-1074 - (e + e')).toNat ≤ excess (m * m') (e + e') := le_max_right _ _
  refine ⟨_, ?_, hasSteps_roundWithAccuracy hfull⟩
  set s := excess (m * m') (e + e')
  have hproduct : m * m' ≤ m * 2 ^ ((-e').toNat - s) * 2 ^ s := by
    rw [Nat.mul_assoc, ← Nat.pow_add, Nat.sub_add_cancel hexcess]
    apply Nat.mul_le_mul_left m hle
  calc
    roundedQuotient (m * m') s * 2 ^ (e + e' + s + 1074).toNat
      ≤ m * 2 ^ ((-e').toNat - s) * 2 ^ (e + e' + s + 1074).toNat := by
        apply Nat.mul_le_mul_right
        rw [← roundedQuotient_mul_self (m * 2 ^ ((-e').toNat - s)) s]
        apply roundedQuotient_mono s hproduct
    _ = m * 2 ^ (e + 1074).toNat := by
        rw [Nat.mul_assoc, ← Nat.pow_add]
        congr 2
        omega

end Finite

/-- The product of a finite magnitude and one that is at most one is a magnitude that is no
greater. -/
theorem IsMagnitude.mul {u v : UnpackedFloat} (hu : IsMagnitude u) (hv : IsMagnitude v)
    (hfinite : steps u ≠ ⊤) (hone : steps v ≤ (2 ^ 1074 : ℕ)) :
  IsMagnitude (Float.Model.pack (UnpackedFloat.mul Format.binary64 u v)).unpack
    ∧ steps (Float.Model.pack (UnpackedFloat.mul Format.binary64 u v)).unpack ≤ steps u
  := by
  cases hv with
  | zero s' =>
      cases hu with
      | zero s =>
          rw [UnpackedFloat.mul, unpack_pack_zero]
          exact ⟨.zero _, le_rfl⟩
      | finite h he =>
          rw [UnpackedFloat.mul, unpack_pack_zero]
          exact ⟨.zero _, zero_le⟩
      | infinity => apply absurd rfl hfinite
  | @finite m' e' hm' h' he' =>
      cases hu with
      | zero s =>
          rw [UnpackedFloat.mul, unpack_pack_zero]
          exact ⟨.zero _, le_rfl⟩
      | @finite m e hm h he =>
          obtain ⟨n, hle, hmul⟩ := exists_hasSteps_mul hm hm' h h' (Nat.cast_le.mp hone)
          have hsmall : n < overflow := hle.trans_lt ((steps_lt_overflow h).mpr he)
          obtain ⟨hmagnitude, hsteps⟩ := hmul.pack
          rw [if_pos hsmall] at hsteps
          rw [hsteps]
          exact ⟨hmagnitude, Nat.cast_le.mpr hle⟩
      | infinity => apply absurd rfl hfinite
  | infinity => apply absurd hone (not_le.mpr (ENat.natCast_lt_top _))

end ReliableRouting.Double
