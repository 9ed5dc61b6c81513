import ReliableRouting.Proofs.Double.Format

/-!
# Rounding to doubles

A mantissa with an exponent is rounded by shifting out the digits that the format has no room
for: those beyond the 53 leading ones, and those below the least exponent. The digits that fall
out decide on the rounding, and a second shift restores the normal form in case rounding up
gained a digit. Packing the outcome keeps its number of steps, or overflows.
-/

namespace ReliableRouting.Double

open Float.Model Float.Model.UnpackedFloat

/-! ### Shifting out digits -/

/-- Shifting out digits leaves the quotient. The round bit tells whether the remainder
reaches one half, the sticky bit whether it differs from zero and from one half. -/
theorem shiftRight_eq (m d : ℕ) :
  (⟨m, false, false⟩ : ExtendedMantissa) >>> d
    = ⟨m / 2 ^ d, decide (2 ^ d ≤ 2 * (m % 2 ^ d)),
        decide (m % 2 ^ d ≠ 0 ∧ 2 * (m % 2 ^ d) ≠ 2 ^ d)⟩
  := by
  induction d with
  | zero => simp [HShiftRight.hShiftRight, Nat.repeat, Nat.mod_one]
  | succ d ih =>
      change ((⟨m, false, false⟩ : ExtendedMantissa) >>> d).shiftRightOne = _
      have hmod : m % 2 ^ (d + 1) = m % 2 ^ d + 2 ^ d * (m / 2 ^ d % 2) := by
        rw [Nat.pow_succ, Nat.mod_mul]
      have hlt := Nat.mod_lt m (Nat.two_pow_pos d)
      have hpow : 2 ^ (d + 1) = 2 * 2 ^ d := by rw [Nat.pow_succ, Nat.mul_comm]
      rw [ih, ExtendedMantissa.shiftRightOne, Nat.div_div_eq_div_mul, ← Nat.pow_succ, hmod,
        hpow]
      congr 1
      · obtain h | h := Nat.mod_two_eq_zero_or_one (m / 2 ^ d)
        · simp [h, hlt]
        · simp [h]
      · rw [← Bool.decide_or]
        congr 1
        obtain h | h := Nat.mod_two_eq_zero_or_one (m / 2 ^ d)
        · simp only [h, eq_iff_iff]
          omega
        · simp only [h, eq_iff_iff]
          omega

/-- The rounding of a shifted mantissa is the rounded quotient. -/
theorem roundedMantissa_shiftRight (m d : ℕ) :
  ((⟨m, false, false⟩ : ExtendedMantissa) >>> d).roundedMantissa = roundedQuotient m d
  := by
  have hlt := Nat.mod_lt m (Nat.two_pow_pos d)
  rw [shiftRight_eq, ExtendedMantissa.roundedMantissa, roundedQuotient]
  by_cases hhalf : 2 ^ d ≤ 2 * (m % 2 ^ d)
  · rw [if_neg (by omega)]
    by_cases htie : 2 * (m % 2 ^ d) = 2 ^ d
    · simp [htie, ExtendedMantissa.accuracy, Accuracy.roundToNearestEven]
    · have hne : m % 2 ^ d ≠ 0 := by omega
      simp [hhalf, htie, hne, ExtendedMantissa.accuracy, Accuracy.roundToNearestEven]
  · rw [if_pos (by omega)]
    have htie : 2 * (m % 2 ^ d) ≠ 2 ^ d := by omega
    by_cases hzero : m % 2 ^ d = 0
    · simp [hzero, ExtendedMantissa.accuracy, Accuracy.roundToNearestEven]
    · simp [hhalf, htie, hzero, ExtendedMantissa.accuracy, Accuracy.roundToNearestEven]

/-! ### Shifting to the exponent aimed at -/

/-- How many digits of a mantissa with an exponent are shifted out. -/
def excess (m : ℕ) (e : ℤ) : ℕ :=
  max (surplus m) (-1074 - e).toNat

theorem shiftToTargetExponent_eq (m : ℕ) (e : ℤ) :
  shiftToTargetExponent Format.binary64 m e .exact
    = ((⟨m, false, false⟩ : ExtendedMantissa) >>> excess m e, e + excess m e)
  := by
  have hshift : (Format.binary64.targetExponent (totalExponent m e) - e).toNat = excess m e := by
    change (max ((m.log2 : ℤ) + 1 + e - 53) (-1074) - e).toNat = _
    rw [excess, surplus]
    omega
  rw [shiftToTargetExponent, shiftToExponent, hshift]
  rfl

theorem surplus_of_lt {m : ℕ} (hm : m < 2 ^ 53) :
  surplus m = 0
  := by
  obtain rfl | hne := eq_or_ne m 0
  · rfl
  · have hlog := (Nat.log2_lt hne).mpr hm
    rw [surplus]
    omega

/-- Nothing is shifted out of a mantissa of 53 digits at most. -/
theorem excess_of_lt {m : ℕ} {e : ℤ} (hm : m < 2 ^ 53) (he : -1074 ≤ e) :
  excess m e = 0
  := by
  rw [excess, surplus_of_lt hm]
  omega

/-- A digit is shifted out of a mantissa that was rounded up to the next power of two. -/
theorem excess_two_pow {e : ℤ} (he : -1074 ≤ e) :
  excess (2 ^ 53) e = 1
  := by
  rw [excess, surplus, Nat.log2_two_pow]
  omega

theorem add_excess_ge (m : ℕ) (e : ℤ) :
  -1074 ≤ e + excess m e
  := by
  rw [excess]
  omega

/-- A rounded mantissa has 53 digits, or is the next power of two. -/
theorem roundedQuotient_excess_le (m : ℕ) (e : ℤ) :
  roundedQuotient m (excess m e) ≤ 2 ^ 53
  := by
  have hsurplus : surplus m ≤ excess m e := le_max_left _ _
  calc
    roundedQuotient m (excess m e) ≤ m / 2 ^ excess m e + 1 := roundedQuotient_le_succ m _
    _ ≤ m / 2 ^ surplus m + 1 := by
      apply Nat.succ_le_succ
      apply Nat.div_le_div_left _ (Nat.two_pow_pos _)
      apply Nat.pow_le_pow_right Nat.zero_lt_two hsurplus
    _ ≤ 2 ^ 53 := div_surplus_lt m

/-- A rounded mantissa fills the digits, unless its exponent is the least one. -/
theorem le_roundedQuotient_excess {m : ℕ} {e : ℤ} (h : 2 ^ 52 ≤ m ∨ e ≤ -1074) :
  2 ^ 52 ≤ roundedQuotient m (excess m e) ∨ e + excess m e = -1074
  := by
  obtain hleast | hgreater := eq_or_lt_of_le (add_excess_ge m e)
  · right
    exact hleast.symm
  · left
    have hexcess : excess m e = surplus m := by
      rw [excess] at hgreater ⊢
      omega
    rw [hexcess] at hgreater ⊢
    apply Nat.le_trans _ (div_le_roundedQuotient m _)
    by_cases hzero : surplus m = 0
    · rw [hzero, Nat.pow_zero, Nat.div_one]
      apply h.resolve_right
      omega
    · apply le_div_surplus hzero

/-- The second shift brings a rounded mantissa into normal form and keeps its steps. -/
theorem exists_shiftToTargetExponent_eq {r : ℕ} {x : ℤ} (hpos : 0 < r) (hmax : r ≤ 2 ^ 53)
    (hx : -1074 ≤ x) (hfull : 2 ^ 52 ≤ r ∨ x = -1074) :
  ∃ m e, 0 < m ∧ shiftToTargetExponent Format.binary64 r x .exact = (⟨m, false, false⟩, e)
    ∧ IsNormal m e ∧ m * 2 ^ (e + 1074).toNat = r * 2 ^ (x + 1074).toNat
  := by
  rw [shiftToTargetExponent_eq]
  obtain hlt | rfl := Nat.lt_or_eq_of_le hmax
  · use r, x, hpos
    rw [excess_of_lt hlt hx, Nat.cast_zero, add_zero]
    exact ⟨rfl, ⟨hlt, hx, hfull⟩, rfl⟩
  · use 2 ^ 52, x + 1, by positivity
    rw [excess_two_pow hx]
    refine ⟨rfl, ⟨by norm_num, by omega, .inl le_rfl⟩, ?_⟩
    have hexponent : (x + 1 + 1074).toNat = (x + 1074).toNat + 1 := by omega
    rw [hexponent]
    ring

/-! ### Rounding -/

/-- The outcome of rounding has a number of steps: it is in normal form, the greatest exponent
left aside, or zero. -/
inductive HasSteps : UnpackedFloat → ℕ → Prop
  | zero : HasSteps (.zero .positive) 0
  | finite {m : ℕ} {e : ℤ} {hm : 0 < m} (h : IsNormal m e) :
      HasSteps (.finite .positive m e hm) (m * 2 ^ (e + 1074).toNat)

/-- A mantissa that fills the digits, or whose exponent is none too great, is rounded to the
quotient by the power of two that is shifted out. -/
theorem hasSteps_roundWithAccuracy {m : ℕ} {e : ℤ} (h : 2 ^ 52 ≤ m ∨ e ≤ -1074) :
  HasSteps (roundWithAccuracy Format.binary64 .positive m e .exact)
    (roundedQuotient m (excess m e) * 2 ^ (e + excess m e + 1074).toNat)
  := by
  have hx := add_excess_ge m e
  rw [roundWithAccuracy, shiftToTargetExponent_eq]
  dsimp only
  rw [roundedMantissa_shiftRight]
  obtain hzero | hpos := Nat.eq_zero_or_pos (roundedQuotient m (excess m e))
  · rw [hzero, shiftToTargetExponent_eq, excess_of_lt (by norm_num) hx, Nat.zero_mul]
    exact .zero
  · obtain ⟨m', e', hm', hshift, hnormal, hsteps⟩ :=
      exists_shiftToTargetExponent_eq hpos (roundedQuotient_excess_le m e) hx
        (le_roundedQuotient_excess h)
    rw [hshift, ← hsteps]
    dsimp only
    rw [dif_neg hm'.ne']
    exact .finite hnormal

/-- A mantissa whose exponent is at least the least one is rounded to the nearest number of
steps. -/
theorem hasSteps_round {m : ℕ} {e : ℤ} (hm : 0 < m) (he : -1074 ≤ e) :
  HasSteps (UnpackedFloat.round Format.binary64 .positive m e)
    (nearest (m * 2 ^ (e + 1074).toNat))
  := by
  -- The exponent is lowered to the one aimed at, which keeps the number of steps.
  set s := (e - max ((m.log2 : ℤ) + 1 + e - 53) (-1074)).toNat with hs
  have hround : UnpackedFloat.round Format.binary64 .positive m e
      = roundWithAccuracy Format.binary64 .positive (m * 2 ^ s) (e - s) .exact := by
    rw [← Nat.shiftLeft_eq]
    rfl
  have hlog : (m * 2 ^ s).log2 = m.log2 + s := log2_mul_two_pow hm.ne' s
  have hfull : 2 ^ 52 ≤ m * 2 ^ s ∨ e - s ≤ -1074 := by
    rw [← Nat.le_log2 (by positivity), hlog]
    omega
  have hexcess : excess (m * 2 ^ s) (e - s) = surplus (m * 2 ^ s) := by
    rw [excess]
    omega
  have hexponent : (e - s + excess (m * 2 ^ s) (e - s) + 1074).toNat
      = surplus (m * 2 ^ s) + (e - s + 1074).toNat := by
    rw [hexcess]
    omega
  have hsteps : m * 2 ^ (e + 1074).toNat = m * 2 ^ s * 2 ^ (e - s + 1074).toNat := by
    rw [Nat.mul_assoc, ← Nat.pow_add]
    congr 2
    omega
  have hrounded := hasSteps_roundWithAccuracy hfull
  rw [hexponent, hexcess, ← nearest_mul_two_pow_of_le (hfull.imp_right (by omega))] at hrounded
  rw [hround, hsteps]
  apply hrounded

/-- A whole number with an exponent that is at least the least one, zero or not. -/
theorem hasSteps_normalize (n : ℕ) {e : ℤ} (he : -1074 ≤ e) :
  HasSteps (UnpackedFloat.normalize Format.binary64 n e .positive)
    (nearest (n * 2 ^ (e + 1074).toNat))
  := by
  rw [UnpackedFloat.normalize]
  obtain rfl | hn := Nat.eq_zero_or_pos n
  · rw [Nat.zero_mul]
    exact .zero
  · rw [Int.compare_eq_gt.mpr (by exact_mod_cast hn)]
    apply hasSteps_round hn he

/-! ### Packing -/

/-- The packed form of what was rounded has the same number of steps, or infinitely many beyond
the threshold. -/
theorem HasSteps.pack {u : UnpackedFloat} {n : ℕ} (h : HasSteps u n) :
  IsMagnitude (Float.Model.pack u).unpack
    ∧ steps (Float.Model.pack u).unpack = if n < overflow then (n : ℕ∞) else ⊤
  := by
  cases h with
  | zero =>
      rw [unpack_pack_zero, if_pos (by norm_num [overflow])]
      exact ⟨.zero .positive, rfl⟩
  | @finite m e hm h =>
      rw [unpack_pack_finite h]
      by_cases he : e ≤ 971
      · rw [if_pos he, if_pos ((steps_lt_overflow h).mpr he)]
        exact ⟨.finite h he, rfl⟩
      · rw [if_neg he, if_neg (fun hlt => he ((steps_lt_overflow h).mp hlt))]
        exact ⟨.infinity, rfl⟩

/-- A magnitude is left alone by rounding. -/
theorem IsMagnitude.rounded_steps {u : UnpackedFloat} (hu : IsMagnitude u) :
  rounded (steps u) = steps u
  := by
  cases hu with
  | zero s => apply rounded_mul_two_pow (m := 0) (a := 0) (by norm_num) (by norm_num [overflow])
  | finite h he => apply rounded_mul_two_pow h.lt ((steps_lt_overflow h).mpr he)
  | infinity => rfl

/-- A magnitude is left alone by packing. -/
theorem IsMagnitude.unpack_pack {u : UnpackedFloat} (hu : IsMagnitude u) :
  (Float.Model.pack u).unpack = u
  := by
  cases hu with
  | zero s => apply unpack_pack_zero s
  | finite h he => rw [unpack_pack_finite h, if_pos he]
  | infinity => apply unpack_pack_infinity .positive

end ReliableRouting.Double
