import ReliableRouting.Proofs.Double.Rounding

/-!
# Sums and differences of doubles

The sum of two doubles that are not negative has the rounded sum of their steps, and so has the
difference, if the second is no greater than the first.
-/

namespace ReliableRouting.Double

open Float.Model Float.Model.UnpackedFloat

/-- An outcome that is a magnitude already needs no rounding. -/
theorem IsMagnitude.pack_of_eq {u x : UnpackedFloat} {n : ℕ∞} (hx : IsMagnitude x) (hu : u = x)
    (hsteps : n = steps x) :
  IsMagnitude (Float.Model.pack u).unpack ∧ steps (Float.Model.pack u).unpack = rounded n
  := by
  rw [hu, hx.unpack_pack, hsteps, hx.rounded_steps]
  exact ⟨hx, rfl⟩

/-- The steps of a mantissa whose exponent is lowered. -/
theorem steps_shiftLeft (m : ℕ) {e x : ℤ} (hx : -1074 ≤ x) (hle : x ≤ e) :
  m * 2 ^ (e + 1074).toNat = (m <<< (e - x).toNat) * 2 ^ (x + 1074).toNat
  := by
  have hsum : (e + 1074).toNat = (e - x).toNat + (x + 1074).toNat := by omega
  rw [hsum, Nat.pow_add, Nat.shiftLeft_eq, Nat.mul_assoc]

section Finite

variable {m m' : ℕ} {e e' : ℤ} {hm : 0 < m} {hm' : 0 < m'} (h : IsNormal m e)
  (h' : IsNormal m' e')

include h h'

/-- The sum of two finite magnitudes, brought to the lesser of their exponents. -/
theorem hasSteps_add :
  HasSteps
    (UnpackedFloat.add Format.binary64 (.finite .positive m e hm) (.finite .positive m' e' hm'))
    (nearest (m * 2 ^ (e + 1074).toNat + m' * 2 ^ (e' + 1074).toNat))
  := by
  have hx : -1074 ≤ min e e' := le_min h.le h'.le
  rw [steps_shiftLeft m hx (min_le_left e e'), steps_shiftLeft m' hx (min_le_right e e'),
    ← Nat.add_mul]
  apply hasSteps_normalize _ hx

/-- The difference of two finite magnitudes, brought to the lesser of their exponents. -/
theorem hasSteps_sub (hle : m' * 2 ^ (e' + 1074).toNat ≤ m * 2 ^ (e + 1074).toNat) :
  HasSteps
    (UnpackedFloat.sub Format.binary64 (.finite .positive m e hm) (.finite .positive m' e' hm'))
    (nearest (m * 2 ^ (e + 1074).toNat - m' * 2 ^ (e' + 1074).toNat))
  := by
  have hx : -1074 ≤ min e e' := le_min h.le h'.le
  rw [steps_shiftLeft m hx (min_le_left e e'), steps_shiftLeft m' hx (min_le_right e e')] at hle ⊢
  rw [← Nat.sub_mul]
  have hmantissa := Nat.le_of_mul_le_mul_right hle (Nat.two_pow_pos _)
  have hrounded := hasSteps_normalize
    (m <<< (e - min e e').toNat - m' <<< (e' - min e e').toNat) hx
  rw [Nat.cast_sub hmantissa] at hrounded
  apply hrounded

end Finite

/-- The sum of two magnitudes is a magnitude with the rounded sum of their steps. -/
theorem IsMagnitude.add {u v : UnpackedFloat} (hu : IsMagnitude u) (hv : IsMagnitude v) :
  IsMagnitude (Float.Model.pack (UnpackedFloat.add Format.binary64 u v)).unpack
    ∧ steps (Float.Model.pack (UnpackedFloat.add Format.binary64 u v)).unpack
      = rounded (steps u + steps v)
  := by
  cases hu with
  | zero s =>
      cases hv with
      | zero s' =>
          cases s with
          | negative =>
              cases s' with
              | negative => apply pack_of_eq (.zero .negative) rfl rfl
              | positive => apply pack_of_eq (.zero .positive) rfl rfl
          | positive =>
              cases s' with
              | negative => apply pack_of_eq (.zero .positive) rfl rfl
              | positive => apply pack_of_eq (.zero .positive) rfl rfl
      | finite h he => apply pack_of_eq (.finite h he) rfl (zero_add _)
      | infinity => apply pack_of_eq .infinity rfl (zero_add _)
  | finite h he =>
      cases hv with
      | zero s' => apply pack_of_eq (.finite h he) rfl (add_zero _)
      | finite h' he' => apply (hasSteps_add h h').pack
      | infinity => apply pack_of_eq .infinity rfl (add_top _)
  | infinity =>
      cases hv with
      | zero s' => apply pack_of_eq .infinity rfl (add_zero _)
      | finite h' he' => apply pack_of_eq .infinity rfl (top_add _)
      | infinity => apply pack_of_eq .infinity rfl (top_add _)

/-- The difference of a magnitude and a finite one that is no greater is a magnitude with the
rounded difference of their steps. -/
theorem IsMagnitude.sub {u v : UnpackedFloat} (hu : IsMagnitude u) (hv : IsMagnitude v)
    (hfinite : steps v ≠ ⊤) (hle : steps v ≤ steps u) :
  IsMagnitude (Float.Model.pack (UnpackedFloat.sub Format.binary64 u v)).unpack
    ∧ steps (Float.Model.pack (UnpackedFloat.sub Format.binary64 u v)).unpack
      = rounded (steps u - steps v)
  := by
  cases hv with
  | zero s' =>
      cases hu with
      | zero s =>
          cases s with
          | negative =>
              cases s' with
              | negative => apply pack_of_eq (.zero .positive) rfl rfl
              | positive => apply pack_of_eq (.zero .negative) rfl rfl
          | positive =>
              cases s' with
              | negative => apply pack_of_eq (.zero .positive) rfl rfl
              | positive => apply pack_of_eq (.zero .positive) rfl rfl
      | finite h he => apply pack_of_eq (.finite h he) rfl (tsub_zero _)
      | infinity => apply pack_of_eq .infinity rfl (tsub_zero _)
  | @finite m' e' hm' h' he' =>
      cases hu with
      | zero s =>
          have hpos : 0 < m' * 2 ^ (e' + 1074).toNat := by positivity
          apply absurd (Nat.cast_le.mp hle) hpos.not_ge
      | @finite m e hm h he =>
          have hpack := (@hasSteps_sub m m' e e' hm hm' h h' (Nat.cast_le.mp hle)).pack
          rw [← rounded_coe, ENat.natCast_sub] at hpack
          apply hpack
      | infinity => apply pack_of_eq .infinity rfl (ENat.top_sub_natCast _)
  | infinity => apply absurd rfl hfinite

end ReliableRouting.Double
