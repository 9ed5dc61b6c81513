import ReliableRouting.Proofs.Double.Grid

/-!
# The format of doubles

A double is stored as a sign, an exponent and a fraction. Unpacked, it is a mantissa of at
most 53 binary digits and an exponent of two, where the digits are used up unless the
exponent is the least one. Packing a mantissa and an exponent in that form loses nothing,
and an exponent beyond the greatest one overflows to infinity.

A number is determined by what it is unpacked to. The doubles that are not negative are ordered
by their numbers of steps, and only the two zeros have as many steps as each other.
-/

namespace ReliableRouting.Double

open Float.Model Float.Model.UnpackedFloat

/-! ### Fields -/

/-- The double with a sign, an exponent field and a fraction field. -/
def ofFields (s : Sign) (e : BitVec 11) (f : BitVec 52) : UnpackedFloat :=
  if e = -1#11 then
    if f = 0#52 then .infinity s else .notANumber
  else if e = 0#11 then
    if h : f = 0#52 then .zero s
    else .finite s f.toNat (-1074) (by simpa [BitVec.toNat_pos, BitVec.pos_iff_ne_zero])
  else
    .finite s (2 ^ 52 + f.toNat) ((e.toNat : ℤ) - 1075) (by positivity)

/-- The digit that is not stored, in front of a fraction. -/
theorem toNat_one_append (f : BitVec 52) :
  (1#1 ++ f).toNat = 2 ^ 52 + f.toNat
  := by
  rw [BitVec.toNat_append, ← Nat.shiftLeft_add_eq_or_of_lt f.isLt]
  rfl

theorem unpack_eq_ofFields (b : BitVec 64) :
  UnpackedFloat.unpack Format.binary64 b
    = ofFields (Sign.ofBitVec (@unpackSign Format.binary64 b))
        (@unpackExponent Format.binary64 b)
        (@unpackMantissa Format.binary64 b)
  := by
  unfold UnpackedFloat.unpack ofFields
  dsimp only
  split_ifs with _ _ h
  · rfl
  · rfl
  · rfl
  · congr 1
    rw [h]
    rfl
  · congr 1
    apply toNat_one_append

theorem unpackSign_packComponents (format : Format) (s : Sign)
    (e : BitVec format.exponentBits) (f : BitVec format.mantissaBitsWithoutImplicit) :
  unpackSign (packComponents format s e f) = s.toBitVec
  := by
  apply BitVec.eq_of_getLsbD_eq
  intro i hi
  obtain rfl : i = 0 := by omega
  simp [unpackSign, packComponents, BitVec.getLsbD_append, BitVec.getElem_append]

theorem ofBitVec_toBitVec (s : Sign) :
  Sign.ofBitVec s.toBitVec = s
  := by
  cases s <;> rfl

theorem unpack_packComponents (s : Sign) (e : BitVec 11) (f : BitVec 52) :
  UnpackedFloat.unpack Format.binary64 (packComponents Format.binary64 s e f) = ofFields s e f
  := by
  rw [unpack_eq_ofFields]
  simp only [unpackMantissa_packComponents, unpackExponent_packComponents,
    unpackSign_packComponents, ofBitVec_toBitVec]

/-- A double is put together from its fields. -/
theorem packComponents_unpack (b : BitVec 64) :
  packComponents Format.binary64 (Sign.ofBitVec (@unpackSign Format.binary64 b))
      (@unpackExponent Format.binary64 b) (@unpackMantissa Format.binary64 b)
    = b
  := by
  have hsign : ∀ s : BitVec 1, (Sign.ofBitVec s).toBitVec = s := by decide
  rw [packComponents, hsign]
  change (BitVec.extractLsb 63 63 b ++ BitVec.extractLsb 62 52 b ++ BitVec.extractLsb 51 0 b :
    BitVec 64) = b
  apply BitVec.eq_of_getLsbD_eq
  intro i hi
  simp only [BitVec.getLsbD_append, BitVec.getLsbD_extractLsb]
  split_ifs with hfraction hexponent
  · rw [Nat.zero_add, decide_eq_true (by omega), Bool.true_and]
  · rw [Nat.add_sub_of_le (by omega), decide_eq_true (by omega), Bool.true_and]
  · obtain rfl : i = 63 := by omega
    simp

/-- The fields of a double that is a number can be told from it. -/
theorem ofFields_inj {s s' : Sign} {e e' : BitVec 11} {f f' : BitVec 52}
    (h : ofFields s e f = ofFields s' e' f') (hnumber : ofFields s e f ≠ .notANumber) :
  s = s' ∧ e = e' ∧ f = f'
  := by
  have hf := f.isLt
  have hf' := f'.isLt
  rw [ofFields] at hnumber h
  rw [ofFields] at h
  split_ifs at h hnumber
  all_goals simp_all [← BitVec.toNat_inj]
  all_goals omega

/-- Doubles that are numbers are equal if they are unpacked to the same. -/
theorem eq_of_unpack_eq {x y : Float} (h : x.toModel.unpack = y.toModel.unpack)
    (hnumber : x.toModel.unpack ≠ .notANumber) :
  x = y
  := by
  obtain ⟨⟨⟨b⟩, hb⟩⟩ := x
  obtain ⟨⟨⟨b'⟩, hb'⟩⟩ := y
  change UnpackedFloat.unpack Format.binary64 b = UnpackedFloat.unpack Format.binary64 b' at h
  change UnpackedFloat.unpack Format.binary64 b ≠ _ at hnumber
  rw [unpack_eq_ofFields] at hnumber
  rw [unpack_eq_ofFields, unpack_eq_ofFields b'] at h
  obtain ⟨hsign, hexponent, hfraction⟩ := ofFields_inj h hnumber
  have hbits : b = b' := by
    rw [← packComponents_unpack b, ← packComponents_unpack b', hsign, hexponent, hfraction]
  subst hbits
  rfl

/-! ### Normal form -/

/-- A mantissa and an exponent are in the form that the format asks for, the greatest
exponent left aside. -/
structure IsNormal (m : ℕ) (e : ℤ) : Prop where
  lt : m < 2 ^ 53
  le : -1074 ≤ e
  full : 2 ^ 52 ≤ m ∨ e = -1074

theorem isNormal_of_ofFields_eq {s s' : Sign} {e : BitVec 11} {f : BitVec 52} {m : ℕ}
    {x : ℤ} {hm : 0 < m} (h : ofFields s e f = .finite s' m x hm) :
  IsNormal m x ∧ x ≤ 971
  := by
  have hf := f.isLt
  have he := e.isLt
  rw [ofFields] at h
  split_ifs at h with h₁ _ h₂
  · cases h
    refine ⟨⟨?_, ?_, ?_⟩, ?_⟩ <;> omega
  · cases h
    have hmax : e.toNat ≠ 2047 := fun h => h₁ (BitVec.eq_of_toNat_eq h)
    have hmin : e.toNat ≠ 0 := fun h => h₂ (BitVec.eq_of_toNat_eq h)
    refine ⟨⟨?_, ?_, ?_⟩, ?_⟩ <;> omega

theorem unpack_pack_infinity (s : Sign) :
  (Float.Model.pack (.infinity s)).unpack = .infinity s
  := unpack_packComponents s _ _

theorem unpack_pack_zero (s : Sign) :
  (Float.Model.pack (.zero s)).unpack = .zero s
  := unpack_packComponents s _ _

/-- With all digits in use, the leading one is not stored and the exponent field is in the
middle range. -/
theorem ofFields_of_full {s : Sign} {m : ℕ} {e : ℤ} {hm : 0 < m} (h : IsNormal m e)
    (hfull : 2 ^ 52 ≤ m) (he : e ≤ 971) :
  ofFields s (BitVec.ofNat 11 (e + 1075).toNat) (BitVec.ofNat 52 m) = .finite s m e hm
  := by
  have hlt := h.lt
  have hle := h.le
  have hexponent : (BitVec.ofNat 11 (e + 1075).toNat).toNat = (e + 1075).toNat := by
    rw [BitVec.toNat_ofNat, Nat.mod_eq_of_lt (by omega)]
  have hfraction : (BitVec.ofNat 52 m).toNat = m - 2 ^ 52 := by
    rw [BitVec.toNat_ofNat, Nat.mod_eq_sub_mod hfull, Nat.mod_eq_of_lt (by omega)]
  rw [ofFields, if_neg, if_neg]
  · congr 1
    · rw [hfraction]
      omega
    · rw [hexponent]
      omega
  · intro hzero
    rw [hzero, BitVec.toNat_ofNat] at hexponent
    omega
  · intro hmax
    rw [hmax] at hexponent
    change 2047 = _ at hexponent
    omega

/-- With fewer digits, all are stored and the exponent field is zero. -/
theorem ofFields_of_lt {s : Sign} {m : ℕ} {hm : 0 < m} (hlt : m < 2 ^ 52) :
  ofFields s 0#11 (BitVec.ofNat 52 m) = .finite s m (-1074) hm
  := by
  have hfraction : (BitVec.ofNat 52 m).toNat = m := by
    rw [BitVec.toNat_ofNat, Nat.mod_eq_of_lt hlt]
  have hne : BitVec.ofNat 52 m ≠ 0#52 := by
    intro hzero
    rw [hzero, BitVec.toNat_ofNat] at hfraction
    omega
  rw [ofFields, if_neg (by decide), if_pos rfl, dif_neg hne]
  congr 1

/-- All digits are in use if the leading one is. -/
theorem log2_eq_iff {m : ℕ} (hm : 0 < m) (hlt : m < 2 ^ 53) :
  m.log2 + 1 = 53 ↔ 2 ^ 52 ≤ m
  := by
  have hlog := (Nat.log2_lt hm.ne').mpr hlt
  rw [← Nat.le_log2 hm.ne']
  omega

/-- Packing keeps a mantissa and an exponent in normal form, unless they overflow. -/
theorem unpack_pack_finite {s : Sign} {m : ℕ} {e : ℤ} {hm : 0 < m} (h : IsNormal m e) :
  (Float.Model.pack (.finite s m e hm)).unpack
    = if e ≤ 971 then .finite s m e hm else .infinity s
  := by
  have hle := h.le
  have hbias : e + (Format.binary64.exponentBias : ℤ)
      + (Format.binary64.mantissaBitsWithoutImplicit : ℤ) = e + 1075 := by
    change e + 1023 + 52 = _
    omega
  change UnpackedFloat.unpack _ (UnpackedFloat.pack _ _) = _
  rw [UnpackedFloat.pack]
  dsimp only
  rw [hbias]
  change UnpackedFloat.unpack _ (if 2048 ≤ _ + 1 then _ else if m.log2 + 1 = 53 then _ else _) = _
  obtain hbig | hsmall := lt_or_ge 971 e
  · rw [if_pos (by omega), if_neg (by omega)]
    apply unpack_packComponents
  · rw [if_neg (by omega), if_pos hsmall]
    by_cases hfull : 2 ^ 52 ≤ m
    · rw [if_pos ((log2_eq_iff hm h.lt).mpr hfull)]
      apply (unpack_packComponents s _ _).trans (ofFields_of_full h hfull hsmall)
    · obtain rfl := h.full.resolve_left hfull
      rw [if_neg (fun hlog => hfull ((log2_eq_iff hm h.lt).mp hlog))]
      apply (unpack_packComponents s _ _).trans (ofFields_of_lt (Nat.lt_of_not_le hfull))

/-! ### Magnitudes -/

/-- The number of steps of a double, its sign left aside. What is not finite has
infinitely many. -/
def steps : UnpackedFloat → ℕ∞
  | .zero _ => 0
  | .finite _ m e _ => (m * 2 ^ (e + 1074).toNat : ℕ)
  | .infinity _ => ⊤
  | .notANumber => ⊤

theorem isFinite_iff_steps (u : UnpackedFloat) :
  UnpackedFloat.isFinite u = true ↔ steps u ≠ ⊤
  := by
  cases u with
  | infinity s => apply iff_of_false Bool.false_ne_true (fun h => h rfl)
  | notANumber => apply iff_of_false Bool.false_ne_true (fun h => h rfl)
  | zero s => apply iff_of_true rfl ENat.top_ne_zero.symm
  | finite s m e hm => apply iff_of_true rfl (ENat.natCast_ne_top _)

/-- The double is a number that is not negative, or positive infinity, in normal form. -/
inductive IsMagnitude : UnpackedFloat → Prop
  | zero (s : Sign) : IsMagnitude (.zero s)
  | finite {m : ℕ} {e : ℤ} {hm : 0 < m} (h : IsNormal m e) (he : e ≤ 971) :
      IsMagnitude (.finite .positive m e hm)
  | infinity : IsMagnitude (.infinity .positive)

/-- A double is a magnitude exactly if it is at least zero. -/
theorem isMagnitude_iff (x : Float) :
  IsMagnitude x.toModel.unpack ↔ 0 ≤ x
  := by
  have hzero : (0 : Float).toModel.unpack = .zero .positive := by rfl
  have hle : 0 ≤ x ↔ UnpackedFloat.le (.zero .positive) x.toModel.unpack = true := by
    rw [← hzero]
    apply decide_eq_true_iff
  rw [hle]
  cases hx : x.toModel.unpack with
  | infinity s =>
      cases s with
      | negative => apply iff_of_false (fun h => nomatch h) (by decide)
      | positive => apply iff_of_true .infinity (by decide)
  | notANumber => apply iff_of_false (fun h => nomatch h) (by decide)
  | zero s => apply iff_of_true (.zero s) rfl
  | finite s m e hm =>
      cases s with
      | negative => apply iff_of_false (fun h => nomatch h) (by simp [UnpackedFloat.le,
          UnpackedFloat.compare])
      | positive =>
          obtain ⟨hnormal, he⟩ := isNormal_of_ofFields_eq ((unpack_eq_ofFields _).symm.trans hx)
          apply iff_of_true (.finite hnormal he) rfl

/-- Every finite magnitude stays below the threshold. -/
theorem steps_lt_overflow {m : ℕ} {e : ℤ} (h : IsNormal m e) :
  m * 2 ^ (e + 1074).toNat < overflow ↔ e ≤ 971
  := by
  have hle := h.le
  have hfull := h.full
  rw [overflow]
  constructor
  · intro hlt
    by_contra hbig
    have hpow : 2 ^ 2098 ≤ m * 2 ^ (e + 1074).toNat := by
      calc
        2 ^ 2098 = 2 ^ 52 * 2 ^ 2046 := by rw [← Nat.pow_add]
        _ ≤ m * 2 ^ (e + 1074).toNat := by
          apply Nat.mul_le_mul (by omega)
          apply Nat.pow_le_pow_right Nat.zero_lt_two
          omega
    omega
  · intro he
    calc
      m * 2 ^ (e + 1074).toNat < 2 ^ 53 * 2 ^ (e + 1074).toNat := by
        apply Nat.mul_lt_mul_of_pos_right h.lt (by positivity)
      _ ≤ 2 ^ 2098 := by
        rw [← Nat.pow_add]
        apply Nat.pow_le_pow_right Nat.zero_lt_two
        omega

/-- A lesser exponent makes for fewer steps, since the greater one comes with all digits. -/
theorem steps_lt_of_lt {m m' : ℕ} {e e' : ℤ} (h : IsNormal m e) (h' : IsNormal m' e')
    (hlt : e < e') :
  m * 2 ^ (e + 1074).toNat < m' * 2 ^ (e' + 1074).toNat
  := by
  have hle := h.le
  have hfull := h'.full
  calc
    m * 2 ^ (e + 1074).toNat < 2 ^ 53 * 2 ^ (e + 1074).toNat := by
      apply Nat.mul_lt_mul_of_pos_right h.lt (by positivity)
    _ = 2 ^ 52 * 2 ^ ((e + 1074).toNat + 1) := by ring
    _ ≤ m' * 2 ^ (e' + 1074).toNat := by
      apply Nat.mul_le_mul (by omega)
      apply Nat.pow_le_pow_right Nat.zero_lt_two
      omega

/-- In normal form, the exponents and then the mantissas decide how two doubles compare. -/
theorem compare_steps {m m' : ℕ} {e e' : ℤ} (h : IsNormal m e) (h' : IsNormal m' e') :
  (compare e e').then (compare m m')
    = compare (m * 2 ^ (e + 1074).toNat) (m' * 2 ^ (e' + 1074).toNat)
  := by
  rcases lt_trichotomy e e' with hlt | rfl | hgt
  · rw [Int.compare_eq_lt.mpr hlt, Nat.compare_eq_lt.mpr (steps_lt_of_lt h h' hlt)]
    rfl
  · rw [Int.compare_eq_eq.mpr rfl]
    change compare m m' = _
    rw [Nat.compare_eq_ite_lt, Nat.compare_eq_ite_lt]
    simp only [Nat.mul_lt_mul_right (Nat.two_pow_pos _)]
  · rw [Int.compare_eq_gt.mpr hgt, Nat.compare_eq_gt.mpr (steps_lt_of_lt h' h hgt)]
    rfl

/-- Magnitudes compare like their numbers of steps. -/
theorem IsMagnitude.compare_eq {u v : UnpackedFloat} (hu : IsMagnitude u)
    (hv : IsMagnitude v) :
  UnpackedFloat.compare u v
    = some (if steps u < steps v then .lt else if steps v < steps u then .gt else .eq)
  := by
  cases hu with
  | zero s =>
      cases hv with
      | zero s' => simp [UnpackedFloat.compare, steps]
      | @finite m e hm h he => simp [UnpackedFloat.compare, steps, hm.ne']
      | infinity => simp [UnpackedFloat.compare, steps]
  | @finite m e hm h he =>
      cases hv with
      | zero s' => simp [UnpackedFloat.compare, steps, hm.ne']
      | @finite m' e' hm' h' he' =>
          change some ((compare e e').then (compare m m')) = _
          rw [compare_steps h h', Nat.compare_eq_ite_lt]
          simp only [steps, Nat.cast_lt]
      | infinity =>
          have hlt : steps (.finite .positive m e hm) < steps (.infinity .positive) :=
            ENat.natCast_lt_top _
          rw [if_pos hlt]
          rfl
  | infinity =>
      cases hv with
      | zero s' => simp [UnpackedFloat.compare, steps]
      | @finite m' e' hm' h' he' =>
          have hlt : steps (.finite .positive m' e' hm') < steps (.infinity .positive) :=
            ENat.natCast_lt_top _
          rw [if_neg hlt.asymm, if_pos hlt]
          rfl
      | infinity =>
          rw [if_neg (lt_irrefl _), if_neg (lt_irrefl _)]
          rfl

theorem IsMagnitude.le_iff {u v : UnpackedFloat} (hu : IsMagnitude u) (hv : IsMagnitude v) :
  UnpackedFloat.le u v = true ↔ steps u ≤ steps v
  := by
  rw [UnpackedFloat.le, hu.compare_eq hv, ← not_lt]
  split_ifs with h h'
  · simp [h.le]
  · simp [h']
  · simp [h']

theorem IsMagnitude.lt_iff {u v : UnpackedFloat} (hu : IsMagnitude u) (hv : IsMagnitude v) :
  UnpackedFloat.lt u v = true ↔ steps u < steps v
  := by
  rw [UnpackedFloat.lt, hu.compare_eq hv]
  split_ifs with h h'
  · simp [h]
  · simp [h]
  · simp [h]

/-- Magnitudes with the same number of steps are the same, but for the two zeros. -/
theorem IsMagnitude.eq_of_steps_eq {u v : UnpackedFloat} (hu : IsMagnitude u)
    (hv : IsMagnitude v) (h : steps u = steps v) (hne : steps u ≠ 0) :
  u = v
  := by
  cases hu with
  | zero s => apply absurd rfl hne
  | @finite m e hm hnormal he =>
      cases hv with
      | zero s => apply absurd h hne
      | infinity => apply absurd h (ENat.natCast_ne_top _)
      | @finite m' e' hm' hnormal' he' =>
          have hcompare := compare_steps hnormal hnormal'
          rw [Nat.cast_injective h, Nat.compare_eq_eq.mpr rfl, Ordering.then_eq_eq,
            Int.compare_eq_eq, Nat.compare_eq_eq] at hcompare
          obtain ⟨rfl, rfl⟩ := hcompare
          rfl
  | infinity =>
      cases hv with
      | zero s => apply absurd h hne
      | infinity => rfl
      | finite => apply absurd h.symm (ENat.natCast_ne_top _)

end ReliableRouting.Double
