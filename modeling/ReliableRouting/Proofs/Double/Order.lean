import Mathlib.Data.Prod.Lex
import ReliableRouting.Proofs.Double.Format

/-!
# The order of doubles

Doubles that are numbers are ordered by their sign, then by exponent and mantissa, and those
that are negative the other way round; the two zeros are equal, and the infinities lie at the
ends. What is no number compares with nothing. So the order of all doubles is transitive.
-/

namespace ReliableRouting.Double

open Float.Model Float.Model.UnpackedFloat

/-! ### Ranks -/

/-- The side of zero that a double is on, where an infinity is further out. -/
def side : UnpackedFloat → ℤ
  | .infinity .negative => -2
  | .finite .negative _ _ _ => -1
  | .zero _ => 0
  | .notANumber => 0
  | .finite .positive _ _ _ => 1
  | .infinity .positive => 2

/-- The place of a double among those on its side, by exponent and mantissa. -/
def place : UnpackedFloat → ℤ ×ₗ ℤ
  | .finite .negative m e _ => toLex (-e, -m)
  | .finite .positive m e _ => toLex (e, m)
  | _ => toLex (0, 0)

/-- What doubles that are numbers are ordered by. -/
def rank (u : UnpackedFloat) : ℤ ×ₗ ℤ ×ₗ ℤ :=
  toLex (side u, place u)

theorem compare_toLex {α β : Type} [LinearOrder α] [LinearOrder β] (a a' : α) (b b' : β) :
  compare (toLex (a, b)) (toLex (a', b')) = (compare a a').then (compare b b')
  := by
  rw [Prod.Lex.compare_def]
  rfl

theorem compare_neg_neg (a b : ℤ) :
  compare (-a) (-b) = (compare a b).swap
  := by
  rw [Int.compare_swap, Int.compare_eq_ite_lt, Int.compare_eq_ite_lt]
  simp only [neg_lt_neg_iff]

theorem compare_natCast (m n : ℕ) :
  compare (m : ℤ) (n : ℤ) = compare m n
  := by
  rw [Int.compare_eq_ite_lt, Nat.compare_eq_ite_lt]
  simp only [Nat.cast_lt]

/-- Doubles on different sides compare like the sides. -/
theorem compare_of_side_ne {u v : UnpackedFloat} (hu : u ≠ .notANumber) (hv : v ≠ .notANumber)
    (h : side u ≠ side v) :
  UnpackedFloat.compare u v = some (compare (side u) (side v))
  := by
  rcases u with (_ | _) | _ | _ | ⟨_ | _, m, e, hm⟩
  all_goals
    rcases v with (_ | _) | _ | _ | ⟨_ | _, m', e', hm'⟩
    all_goals first | rfl | exact absurd rfl h | exact absurd rfl hu | exact absurd rfl hv

/-- Doubles on the same side compare like their places. -/
theorem compare_of_side_eq {u v : UnpackedFloat} (hu : u ≠ .notANumber) (hv : v ≠ .notANumber)
    (h : side u = side v) :
  UnpackedFloat.compare u v = some (compare (place u) (place v))
  := by
  rcases u with (_ | _) | _ | _ | ⟨_ | _, m, e, hm⟩
  all_goals
    rcases v with (_ | _) | _ | _ | ⟨_ | _, m', e', hm'⟩
    all_goals first | rfl | exact absurd rfl hu | exact absurd rfl hv | (cases h; done) | skip
  -- What is left are two finite doubles of the same sign.
  · change some ((compare e e').then (compare m m')).swap = _
    rw [place, place, compare_toLex, compare_neg_neg, compare_neg_neg, compare_natCast,
      Ordering.swap_then]
  · change some ((compare e e').then (compare m m')) = _
    rw [place, place, compare_toLex, compare_natCast]

/-- Numbers compare like their ranks. -/
theorem compare_eq_compare_rank {u v : UnpackedFloat} (hu : u ≠ .notANumber)
    (hv : v ≠ .notANumber) :
  UnpackedFloat.compare u v = some (compare (rank u) (rank v))
  := by
  rw [rank, rank, compare_toLex]
  by_cases h : side u = side v
  · rw [compare_of_side_eq hu hv h, compare_eq_iff_eq.mpr h]
    rfl
  · rw [compare_of_side_ne hu hv h]
    rcases lt_or_gt_of_ne h with hlt | hgt
    · rw [compare_lt_iff_lt.mpr hlt]
      rfl
    · rw [compare_gt_iff_gt.mpr hgt]
      rfl

/-! ### The order -/

/-- What is no number compares with nothing. -/
theorem ne_notANumber_of_compare {u v : UnpackedFloat} {o : Ordering}
    (h : UnpackedFloat.compare u v = some o) :
  u ≠ .notANumber ∧ v ≠ .notANumber
  := by
  constructor
  · rintro rfl
    cases h
  · rintro rfl
    rcases u with (_ | _) | _ | _ | ⟨_ | _, m, e, hm⟩
    all_goals cases h

variable {x y z : Float}

theorem lt_iff_rank :
  x < y ↔ x.toModel.unpack ≠ .notANumber ∧ y.toModel.unpack ≠ .notANumber
    ∧ rank x.toModel.unpack < rank y.toModel.unpack
  := by
  apply decide_eq_true_iff.trans
  change (UnpackedFloat.compare x.toModel.unpack y.toModel.unpack == some .lt) = true ↔ _
  rw [beq_iff_eq]
  constructor
  · intro h
    obtain ⟨hx, hy⟩ := ne_notANumber_of_compare h
    rw [compare_eq_compare_rank hx hy] at h
    exact ⟨hx, hy, compare_lt_iff_lt.mp (Option.some.inj h)⟩
  · rintro ⟨hx, hy, hlt⟩
    rw [compare_eq_compare_rank hx hy, compare_lt_iff_lt.mpr hlt]

theorem le_iff_rank :
  x ≤ y ↔ x.toModel.unpack ≠ .notANumber ∧ y.toModel.unpack ≠ .notANumber
    ∧ rank x.toModel.unpack ≤ rank y.toModel.unpack
  := by
  apply decide_eq_true_iff.trans
  change (UnpackedFloat.compare x.toModel.unpack y.toModel.unpack).any Ordering.isLE = true ↔ _
  rw [Option.any_eq_true]
  constructor
  · rintro ⟨o, h, ho⟩
    obtain ⟨hx, hy⟩ := ne_notANumber_of_compare h
    rw [compare_eq_compare_rank hx hy] at h
    obtain rfl := Option.some.inj h
    exact ⟨hx, hy, compare_le_iff_le.mp (Ordering.ne_gt_iff_isLE.mpr ho)⟩
  · rintro ⟨hx, hy, hle⟩
    have hcompare := Ordering.ne_gt_iff_isLE.mp (compare_le_iff_le.mpr hle)
    exact ⟨_, compare_eq_compare_rank hx hy, hcompare⟩

theorem lt_of_lt_of_le (hxy : x < y) (hyz : y ≤ z) :
  x < z
  := by
  obtain ⟨hx, -, hxy⟩ := lt_iff_rank.mp hxy
  obtain ⟨-, hz, hyz⟩ := le_iff_rank.mp hyz
  exact lt_iff_rank.mpr ⟨hx, hz, hxy.trans_le hyz⟩

theorem lt_of_le_of_lt (hxy : x ≤ y) (hyz : y < z) :
  x < z
  := by
  obtain ⟨hx, -, hxy⟩ := le_iff_rank.mp hxy
  obtain ⟨-, hz, hyz⟩ := lt_iff_rank.mp hyz
  exact lt_iff_rank.mpr ⟨hx, hz, hxy.trans_lt hyz⟩

theorem le_of_lt (h : x < y) :
  x ≤ y
  := by
  obtain ⟨hx, hy, hlt⟩ := lt_iff_rank.mp h
  exact le_iff_rank.mpr ⟨hx, hy, hlt.le⟩

theorem le_trans (hxy : x ≤ y) (hyz : y ≤ z) :
  x ≤ z
  := by
  obtain ⟨hx, -, hxy⟩ := le_iff_rank.mp hxy
  obtain ⟨-, hz, hyz⟩ := le_iff_rank.mp hyz
  exact le_iff_rank.mpr ⟨hx, hz, hxy.trans hyz⟩

theorem not_lt_of_le (h : x ≤ y) :
  ¬ y < x
  := by
  intro hlt
  obtain ⟨-, -, h⟩ := le_iff_rank.mp h
  obtain ⟨-, -, hlt⟩ := lt_iff_rank.mp hlt
  apply absurd hlt h.not_gt

/-- Of two numbers, one is at most the other. -/
theorem le_of_not_lt (hx : x.toModel.unpack ≠ .notANumber) (hy : y.toModel.unpack ≠ .notANumber)
    (h : ¬ y < x) :
  x ≤ y
  := by
  rw [lt_iff_rank, not_and, not_and] at h
  exact le_iff_rank.mpr ⟨hx, hy, not_lt.mp (h hy hx)⟩

/-- What is compared is a number. -/
theorem ne_notANumber_of_le (h : x ≤ y) :
  y.toModel.unpack ≠ .notANumber
  := (le_iff_rank.mp h).2.1

/-- What is compared is a number, and so at most itself. -/
theorem le_self_of_le (h : x ≤ y) :
  y ≤ y
  := by
  have hy := ne_notANumber_of_le h
  exact le_iff_rank.mpr ⟨hy, hy, le_rfl⟩

end ReliableRouting.Double
