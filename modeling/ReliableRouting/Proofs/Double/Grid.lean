import Mathlib

/-!
# The grid of doubles

The doubles that are not negative are counted in steps of `2 ^ -1074`, the distance
between the smallest of them. A number of steps belongs to a double exactly if it has no
more than 53 binary digits followed by zeros and stays below the overflow threshold. Any
other number is rounded to the nearest of these, a half to the even one.

Rounding is monotone and leaves alone what is on the grid.
-/

namespace ReliableRouting.Double

/-- A number over `2 ^ t`, rounded to the nearest whole number, a half to the even one. -/
def roundedQuotient (n t : ℕ) : ℕ :=
  if 2 * (n % 2 ^ t) < 2 ^ t then n / 2 ^ t
  else if 2 * (n % 2 ^ t) = 2 ^ t then n / 2 ^ t + n / 2 ^ t % 2
  else n / 2 ^ t + 1

/-- How many binary digits a number has beyond the 53 leading ones. -/
def surplus (n : ℕ) : ℕ :=
  n.log2 - 52

/-- The number with 53 significant binary digits that is nearest to a number. -/
def nearest (n : ℕ) : ℕ :=
  roundedQuotient n (surplus n) * 2 ^ surplus n

/-! ### Rounded quotients -/

theorem div_le_roundedQuotient (n t : ℕ) :
  n / 2 ^ t ≤ roundedQuotient n t
  := by
  unfold roundedQuotient
  split_ifs
  · apply le_refl
  · apply Nat.le_add_right
  · apply Nat.le_add_right

theorem roundedQuotient_le_succ (n t : ℕ) :
  roundedQuotient n t ≤ n / 2 ^ t + 1
  := by
  unfold roundedQuotient
  split_ifs
  · apply Nat.le_add_right
  · have h := Nat.mod_lt (n / 2 ^ t) (Nat.zero_lt_two)
    omega
  · apply le_refl

/-- For a fixed power of two, the rounded quotient is monotone. -/
theorem roundedQuotient_mono {n m : ℕ} (t : ℕ) (h : n ≤ m) :
  roundedQuotient n t ≤ roundedQuotient m t
  := by
  have hq : n / 2 ^ t ≤ m / 2 ^ t := Nat.div_le_div_right h
  obtain hlt | heq := Nat.lt_or_eq_of_le hq
  · calc
      roundedQuotient n t ≤ n / 2 ^ t + 1 := roundedQuotient_le_succ n t
      _ ≤ m / 2 ^ t := hlt
      _ ≤ roundedQuotient m t := div_le_roundedQuotient m t
  · have hr : n % 2 ^ t ≤ m % 2 ^ t := by
      have hn := Nat.div_add_mod n (2 ^ t)
      have hm := Nat.div_add_mod m (2 ^ t)
      rw [heq] at hn
      omega
    have hparity := Nat.mod_lt (m / 2 ^ t) Nat.zero_lt_two
    unfold roundedQuotient
    rw [heq]
    split_ifs <;> omega

/-- A common power of two cancels from a rounded quotient. -/
theorem roundedQuotient_mul_two_pow (n t a : ℕ) :
  roundedQuotient (n * 2 ^ a) (t + a) = roundedQuotient n t
  := by
  have ha : 0 < 2 ^ a := by positivity
  unfold roundedQuotient
  rw [Nat.pow_add, Nat.mul_div_mul_right _ _ ha, Nat.mul_mod_mul_right, ← Nat.mul_assoc]
  simp only [Nat.mul_lt_mul_right ha, Nat.mul_left_inj ha.ne']

/-! ### Numbers with 53 significant digits -/

theorem surplus_mono {n m : ℕ} (h : n ≤ m) :
  surplus n ≤ surplus m
  := by
  obtain rfl | hn := eq_or_ne n 0
  · simp [surplus]
  · apply Nat.sub_le_sub_right
    rw [Nat.le_log2 (by omega)]
    apply le_trans (Nat.log2_self_le hn) h

theorem log2_mul_two_pow {m : ℕ} (hm : m ≠ 0) (a : ℕ) :
  (m * 2 ^ a).log2 = m.log2 + a
  := by
  rw [Nat.log2_eq_iff (by positivity), Nat.pow_add, Nat.add_right_comm, Nat.pow_add]
  constructor
  · apply Nat.mul_le_mul_right
    apply Nat.log2_self_le hm
  · apply Nat.mul_lt_mul_of_pos_right Nat.lt_log2_self (by positivity)

theorem div_surplus_lt (n : ℕ) :
  n / 2 ^ surplus n < 2 ^ 53
  := by
  apply Nat.div_lt_of_lt_mul
  rw [← Nat.pow_add]
  calc
    n < 2 ^ (n.log2 + 1) := Nat.lt_log2_self
    _ ≤ 2 ^ (surplus n + 53) := by
      apply Nat.pow_le_pow_right Nat.zero_lt_two
      unfold surplus
      omega

theorem le_div_surplus {n : ℕ} (h : surplus n ≠ 0) :
  2 ^ 52 ≤ n / 2 ^ surplus n
  := by
  rw [Nat.le_div_iff_mul_le (Nat.two_pow_pos _), ← Nat.pow_add]
  unfold surplus at h ⊢
  have hlog : 52 + (n.log2 - 52) = n.log2 := by omega
  rw [hlog]
  apply Nat.log2_self_le
  rintro rfl
  simp at h

/-- Rounding to 53 digits is monotone. -/
theorem nearest_mono {n m : ℕ} (h : n ≤ m) :
  nearest n ≤ nearest m
  := by
  obtain heq | hlt := Nat.eq_or_lt_of_le (surplus_mono h)
  · unfold nearest
    rw [heq]
    apply Nat.mul_le_mul_right
    apply roundedQuotient_mono _ h
  · -- Between two binades lies a power of two that both sides stay on their side of.
    calc
      nearest n ≤ 2 ^ 53 * 2 ^ surplus n := by
        apply Nat.mul_le_mul_right
        have := roundedQuotient_le_succ n (surplus n)
        have := div_surplus_lt n
        omega
      _ ≤ 2 ^ 52 * 2 ^ surplus m := by
        rw [← Nat.pow_add, ← Nat.pow_add]
        apply Nat.pow_le_pow_right Nat.zero_lt_two
        omega
      _ ≤ nearest m := by
        apply Nat.mul_le_mul_right
        have := @le_div_surplus m (by omega)
        have := div_le_roundedQuotient m (surplus m)
        omega

/-- A number with 53 digits at most, followed by zeros, is its own nearest one. -/
theorem nearest_of_dvd {n : ℕ} (h : 2 ^ surplus n ∣ n) :
  nearest n = n
  := by
  unfold nearest roundedQuotient
  rw [Nat.mod_eq_zero_of_dvd h, if_pos (by positivity), Nat.div_mul_cancel h]

/-- Digits followed by zeros, with no more than 53 digits, are on the grid. -/
theorem nearest_mul_two_pow {m : ℕ} (hm : m < 2 ^ 53) (a : ℕ) :
  nearest (m * 2 ^ a) = m * 2 ^ a
  := by
  apply nearest_of_dvd
  obtain rfl | hpos := Nat.eq_zero_or_pos m
  · simp
  have hlog := (Nat.log2_lt hpos.ne').mpr hm
  apply Nat.dvd_mul_left_of_dvd
  apply Nat.pow_dvd_pow
  rw [surplus, log2_mul_two_pow hpos.ne']
  omega

/-- Zeros at the end are no part of what is rounded, where the digits are in use. -/
theorem nearest_mul_two_pow_of_le {m a : ℕ} (h : 2 ^ 52 ≤ m ∨ a = 0) :
  nearest (m * 2 ^ a) = roundedQuotient m (surplus m) * 2 ^ (surplus m + a)
  := by
  obtain hm | rfl := h
  · have hlog := (Nat.le_log2 (by omega)).mpr hm
    have hsurplus : surplus (m * 2 ^ a) = surplus m + a := by
      rw [surplus, surplus, log2_mul_two_pow (by omega)]
      omega
    rw [nearest, hsurplus, roundedQuotient_mul_two_pow]
  · rw [Nat.pow_zero, Nat.mul_one, nearest, Nat.add_zero]

/-! ### Overflow -/

/-- The number of steps at which the doubles end. -/
def overflow : ℕ :=
  2 ^ 2098

/-- The number of steps of the double nearest to a number of steps. From the overflow
threshold on that is infinity. -/
def rounded : ℕ∞ → ℕ∞
  | ⊤ => ⊤
  | (n : ℕ) => if nearest n < overflow then (nearest n : ℕ∞) else ⊤

theorem rounded_coe (n : ℕ) :
  rounded n = if nearest n < overflow then (nearest n : ℕ∞) else ⊤
  := rfl

theorem rounded_mono {a b : ℕ∞} (h : a ≤ b) :
  rounded a ≤ rounded b
  := by
  cases b with
  | top => apply le_top
  | coe m =>
    lift a to ℕ using ne_top_of_le_ne_top (ENat.natCast_ne_top m) h
    have hnm := nearest_mono (Nat.cast_le.mp h)
    rw [rounded_coe, rounded_coe]
    split_ifs with hn hm hm
    · apply Nat.cast_le.mpr hnm
    · apply le_top
    · omega
    · apply le_refl

/-- Digits followed by zeros are left alone if they stay below the threshold. -/
theorem rounded_mul_two_pow {m a : ℕ} (hm : m < 2 ^ 53) (h : m * 2 ^ a < overflow) :
  rounded (m * 2 ^ a : ℕ) = (m * 2 ^ a : ℕ)
  := by
  rw [rounded_coe, nearest_mul_two_pow hm, if_pos h]

end ReliableRouting.Double
