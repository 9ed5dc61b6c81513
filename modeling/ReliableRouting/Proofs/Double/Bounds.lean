import ReliableRouting.Proofs.Double.Order
import ReliableRouting.Proofs.Double.Product
import ReliableRouting.Proofs.Double.Sum

/-!
# Bounds on doubles

What adding, subtracting and multiplying do to the order of doubles that are not negative, in
spite of rounding: a sum is at least its first part, a difference is the less the more is taken
away, and a product with a double that is at most one is no greater than the other factor.
-/

namespace ReliableRouting.Double

open Float.Model

variable {x y z : Float}

/-- Doubles that are not negative compare like their numbers of steps. -/
theorem le_iff_steps (hx : 0 ≤ x) (hy : 0 ≤ y) :
  x ≤ y ↔ steps x.toModel.unpack ≤ steps y.toModel.unpack
  := decide_eq_true_iff.trans (((isMagnitude_iff x).mpr hx).le_iff ((isMagnitude_iff y).mpr hy))

/-! ### Sums -/

section Sum

variable (hx : 0 ≤ x) (hy : 0 ≤ y)

include hx hy

theorem add_nonneg :
  0 ≤ x + y
  := (isMagnitude_iff _).mp (((isMagnitude_iff x).mpr hx).add ((isMagnitude_iff y).mpr hy)).1

/-- A sum is at least its first part. -/
theorem le_add_right :
  x ≤ x + y
  := by
  have hmagnitude := (isMagnitude_iff x).mpr hx
  rw [le_iff_steps hx (add_nonneg hx hy)]
  calc
    steps x.toModel.unpack = rounded (steps x.toModel.unpack) := hmagnitude.rounded_steps.symm
    _ ≤ rounded (steps x.toModel.unpack + steps y.toModel.unpack) := rounded_mono le_self_add
    _ = steps (x + y).toModel.unpack := (hmagnitude.add ((isMagnitude_iff y).mpr hy)).2.symm

end Sum

/-! ### What is at most one -/

theorem steps_one :
  steps (1 : Float).toModel.unpack = (2 ^ 1074 : ℕ)
  := by
  have hunpack : (1 : Float).toModel.unpack = .finite .positive (2 ^ 52) (-52) (by decide) := rfl
  have hexponent : (-52 + 1074 : ℤ).toNat = 1022 := rfl
  rw [hunpack, steps, hexponent, ← pow_add]

theorem zero_le_zero :
  (0 : Float) ≤ 0
  := by
  decide

theorem zero_le_one :
  (0 : Float) ≤ 1
  := by
  decide

theorem one_le_one :
  (1 : Float) ≤ 1
  := by
  decide

theorem steps_le_of_le_one (hx : 0 ≤ x) (hone : x ≤ 1) :
  steps x.toModel.unpack ≤ (2 ^ 1074 : ℕ)
  := by
  rw [← steps_one, ← le_iff_steps hx zero_le_one]
  apply hone

theorem steps_ne_top_of_le_one (hx : 0 ≤ x) (hone : x ≤ 1) :
  steps x.toModel.unpack ≠ ⊤
  := ne_top_of_le_ne_top (ENat.natCast_ne_top _) (steps_le_of_le_one hx hone)

/-! ### Products -/

section Product

variable (hx : 0 ≤ x) (hx' : x ≤ 1) (hy : 0 ≤ y) (hy' : y ≤ 1)

include hx hx' hy hy'

theorem mul_nonneg :
  0 ≤ x * y
  := (isMagnitude_iff _).mp (((isMagnitude_iff x).mpr hx).mul ((isMagnitude_iff y).mpr hy)
      (steps_ne_top_of_le_one hx hx') (steps_le_of_le_one hy hy')).1

/-- A product of probabilities is at most its first factor. -/
theorem mul_le_left :
  x * y ≤ x
  := by
  rw [le_iff_steps (mul_nonneg hx hx' hy hy') hx]
  apply (((isMagnitude_iff x).mpr hx).mul ((isMagnitude_iff y).mpr hy)
    (steps_ne_top_of_le_one hx hx') (steps_le_of_le_one hy hy')).2

end Product

/-! ### Differences from one -/

section Complement

variable (hx : 0 ≤ x) (hx' : x ≤ 1)

include hx hx'

theorem isMagnitude_one_sub :
  IsMagnitude (1 - x).toModel.unpack
    ∧ steps (1 - x).toModel.unpack = rounded ((2 ^ 1074 : ℕ) - steps x.toModel.unpack)
  := by
  rw [← steps_one]
  apply ((isMagnitude_iff 1).mpr zero_le_one).sub ((isMagnitude_iff x).mpr hx)
    (steps_ne_top_of_le_one hx hx')
  rw [steps_one]
  apply steps_le_of_le_one hx hx'

theorem one_sub_nonneg :
  0 ≤ 1 - x
  := (isMagnitude_iff _).mp (isMagnitude_one_sub hx hx').1

/-- The less is taken from one, the more is left. -/
theorem one_sub_le_one_sub (hy : 0 ≤ y) (hyx : y ≤ x) :
  1 - x ≤ 1 - y
  := by
  have hy' : y ≤ 1 := le_trans hyx hx'
  rw [le_iff_steps (one_sub_nonneg hx hx') (one_sub_nonneg hy hy'),
    (isMagnitude_one_sub hx hx').2, (isMagnitude_one_sub hy hy').2]
  apply rounded_mono
  apply tsub_le_tsub_left
  apply (le_iff_steps hy hx).mp hyx

theorem one_sub_le_one :
  1 - x ≤ 1
  := by
  rw [le_iff_steps (one_sub_nonneg hx hx') zero_le_one, (isMagnitude_one_sub hx hx').2]
  calc
    rounded ((2 ^ 1074 : ℕ) - steps x.toModel.unpack) ≤ rounded (2 ^ 1074 : ℕ) :=
      rounded_mono tsub_le_self
    _ = steps (1 : Float).toModel.unpack := by
      rw [← steps_one, ((isMagnitude_iff 1).mpr zero_le_one).rounded_steps]

end Complement

end ReliableRouting.Double
