import Leuit.Proofs.Comparisons

/-! Integers seen as floats. A float has 53 bits, so an integer of more bits is rounded to a multiple of a
power of two (`Rounding.nearest`). Rounding keeps the order of integers, and makes some of them equal
(`Rounding.nearest_mono`). The float of an integer of 64 bits stands for the integer nearest to it
(`Rounding.stands_ofInt`), and floats that stand for integers compare as these do, so integers compare as
floats exactly as their nearest ones do (`Rounding.floatOrder?_ofInt`). -/
namespace Leuit

namespace Rounding
variable {n m shift i : Nat} {a b : Int}

/-! ### Nearest multiples -/

/-- A number divided by a power of two and rounded to the nearest integer, of two such to the even one. -/
def quotient (shift n : Nat) : Nat :=
  n / 2 ^ shift +
    if 2 ^ shift < 2 * (n % 2 ^ shift) then 1
    else if 2 ^ shift = 2 * (n % 2 ^ shift) then n / 2 ^ shift % 2 else 0

theorem quotient_zero (n : Nat) : quotient 0 n = n := by
  simp [quotient, Nat.mod_one]

theorem le_quotient (shift n : Nat) : n / 2 ^ shift ≤ quotient shift n := Nat.le_add_right ..

theorem quotient_le (shift n : Nat) : quotient shift n ≤ n / 2 ^ shift + 1 := by
  unfold quotient
  split_ifs <;> omega

theorem quotient_mono (h : n ≤ m) : quotient shift n ≤ quotient shift m := by
  have hdiv : n / 2 ^ shift ≤ m / 2 ^ shift := Nat.div_le_div_right h
  rcases Nat.lt_or_eq_of_le hdiv with hlt | heq
  · have hn := quotient_le shift n
    have hm := le_quotient shift m
    omega
  · have hn := Nat.div_add_mod n (2 ^ shift)
    have hm := Nat.div_add_mod m (2 ^ shift)
    have hmod : n % 2 ^ shift ≤ m % 2 ^ shift := by
      rw [heq] at hn
      omega
    unfold quotient
    rw [heq]
    split_ifs <;> omega

/-- Common powers of two cancel. -/
theorem quotient_mul (shift i n : Nat) : quotient (shift + i) (n * 2 ^ i) = quotient shift n := by
  have hpos : 0 < 2 ^ i := Nat.two_pow_pos i
  have hpow : 2 ^ (shift + i) = 2 ^ shift * 2 ^ i := Nat.pow_add ..
  have hlt : 2 ^ shift * 2 ^ i < 2 * (n % 2 ^ shift * 2 ^ i) ↔ 2 ^ shift < 2 * (n % 2 ^ shift) := by
    rw [← Nat.mul_assoc, Nat.mul_lt_mul_right hpos]
  have heq : 2 ^ shift * 2 ^ i = 2 * (n % 2 ^ shift * 2 ^ i) ↔ 2 ^ shift = 2 * (n % 2 ^ shift) := by
    rw [← Nat.mul_assoc, Nat.mul_left_inj hpos.ne']
  unfold quotient
  rw [hpow, Nat.mul_div_mul_right _ _ hpos, Nat.mul_mod_mul_right]
  simp only [hlt, heq]

/-- A number of 53 bits and more is left with 53 of them, or rounded up to the next power of two. -/
theorem quotient_bounds (h : 52 ≤ n.log2) :
    2 ^ 52 ≤ quotient (n.log2 - 52) n ∧ quotient (n.log2 - 52) n ≤ 2 ^ 53 := by
  have hne : n ≠ 0 := by
    rintro rfl
    cases h
  have hlow : 2 ^ n.log2 ≤ n := Nat.log2_self_le hne
  have hhigh : n < 2 ^ (n.log2 + 1) := Nat.lt_log2_self
  have hsplit : 2 ^ n.log2 = 2 ^ 52 * 2 ^ (n.log2 - 52) := by
    rw [← Nat.pow_add, Nat.add_sub_cancel' h]
  have hsplit' : 2 ^ (n.log2 + 1) = 2 ^ 53 * 2 ^ (n.log2 - 52) := by
    rw [Nat.pow_succ, hsplit]
    ring
  have hpos : 0 < 2 ^ (n.log2 - 52) := Nat.two_pow_pos _
  rw [hsplit] at hlow
  rw [hsplit'] at hhigh
  constructor
  · exact ((Nat.le_div_iff_mul_le hpos).mpr hlow).trans (le_quotient ..)
  · exact (quotient_le ..).trans ((Nat.div_lt_iff_lt_mul hpos).mpr hhigh)

/-- The nearest number of 53 bits and zeros after them. -/
def magnitude (n : Nat) : Nat := quotient (n.log2 - 52) n * 2 ^ (n.log2 - 52)

theorem log2_le_of_lt (h : n < 2 ^ 53) : n.log2 ≤ 52 := by
  rcases Nat.eq_zero_or_pos n with rfl | hpos
  · decide
  · have := (Nat.log2_lt hpos.ne').mpr h
    omega

theorem magnitude_of_small (h : n.log2 ≤ 52) : magnitude n = n := by
  rw [magnitude, Nat.sub_eq_zero_of_le h, quotient_zero, Nat.pow_zero, Nat.mul_one]

theorem log2_mul_two_pow (hne : n ≠ 0) (i : Nat) : (n * 2 ^ i).log2 = n.log2 + i := by
  have hpos : 0 < 2 ^ i := Nat.two_pow_pos i
  rw [Nat.log2_eq_iff (Nat.mul_ne_zero hne hpos.ne'), Nat.pow_add, Nat.add_right_comm, Nat.pow_add]
  exact ⟨Nat.mul_le_mul_right _ (Nat.log2_self_le hne), Nat.mul_lt_mul_of_pos_right Nat.lt_log2_self hpos⟩

/-- Zeros after a number do not change what is nearest to it. -/
theorem quotient_shifted (h : 52 ≤ n.log2 + i) :
    quotient (n.log2 + i - 52) (n * 2 ^ i) * 2 ^ n.log2 = 2 ^ 52 * magnitude n := by
  rcases Nat.le_total 52 n.log2 with hlarge | hsmall
  · have hshift : n.log2 + i - 52 = n.log2 - 52 + i := by omega
    have hpow : 2 ^ n.log2 = 2 ^ 52 * 2 ^ (n.log2 - 52) := by
      rw [← Nat.pow_add, Nat.add_sub_cancel' hlarge]
    rw [hshift, quotient_mul, hpow, magnitude, Nat.mul_left_comm]
  · have hzeros : n * 2 ^ i = n * 2 ^ (52 - n.log2) * 2 ^ (n.log2 + i - 52) := by
      rw [Nat.mul_assoc, ← Nat.pow_add]
      congr 2
      omega
    have hquotient := quotient_mul 0 (n.log2 + i - 52) (n * 2 ^ (52 - n.log2))
    rw [Nat.zero_add, quotient_zero] at hquotient
    rw [hzeros, hquotient, magnitude_of_small hsmall, Nat.mul_assoc, ← Nat.pow_add,
      Nat.sub_add_cancel hsmall, Nat.mul_comm]

/-- The nearest number lies between the same powers of two. -/
theorem magnitude_bounds (hne : n ≠ 0) : 2 ^ n.log2 ≤ magnitude n ∧ magnitude n ≤ 2 ^ (n.log2 + 1) := by
  rcases Nat.le_total n.log2 52 with h | h
  · rw [magnitude_of_small h]
    exact ⟨Nat.log2_self_le hne, Nat.lt_log2_self.le⟩
  · obtain ⟨hlow, hhigh⟩ := quotient_bounds h
    have hpow : 2 ^ n.log2 = 2 ^ 52 * 2 ^ (n.log2 - 52) := by
      rw [← Nat.pow_add, Nat.add_sub_cancel' h]
    rw [magnitude, Nat.pow_succ, hpow]
    constructor
    · exact Nat.mul_le_mul_right _ hlow
    · rw [Nat.mul_right_comm]
      exact Nat.mul_le_mul_right _ hhigh

theorem magnitude_mono (h : n ≤ m) : magnitude n ≤ magnitude m := by
  rcases Nat.eq_zero_or_pos n with rfl | hpos
  · exact Nat.zero_le _
  have hlog : n.log2 ≤ m.log2 := (Nat.le_log2 (by omega)).mpr ((Nat.log2_self_le hpos.ne').trans h)
  rcases Nat.lt_or_eq_of_le hlog with hlt | heq
  · -- A power of two lies between them.
    calc magnitude n ≤ 2 ^ (n.log2 + 1) := (magnitude_bounds hpos.ne').2
      _ ≤ 2 ^ m.log2 := Nat.pow_le_pow_right (by decide) hlt
      _ ≤ magnitude m := (magnitude_bounds (by omega)).1
  · rw [magnitude, magnitude, heq]
    exact Nat.mul_le_mul_right _ (quotient_mono h)

theorem magnitude_le (h : n ≤ 2 ^ 63) : magnitude n ≤ 2 ^ 63 :=
  (magnitude_mono h).trans_eq (by decide +kernel)

/-- The nearest integer of 53 bits and zeros after them. -/
def nearest (a : Int) : Int := a.sign * magnitude a.natAbs

theorem nearest_natCast (n : Nat) : nearest n = magnitude n := by
  rcases Nat.eq_zero_or_pos n with rfl | hpos
  · rfl
  · rw [nearest, Int.sign_natCast_of_ne_zero hpos.ne', Int.one_mul, Int.natAbs_natCast]

theorem nearest_neg (a : Int) : nearest (-a) = -nearest a := by
  rw [nearest, nearest, Int.sign_neg, Int.natAbs_neg, Int.neg_mul]

/-- Rounding keeps the order. -/
theorem nearest_mono (h : a ≤ b) : nearest a ≤ nearest b := by
  have hnat : ∀ n m : Nat, n ≤ m → nearest n ≤ nearest m := fun n m h => by
    rw [nearest_natCast, nearest_natCast]
    exact Int.ofNat_le.mpr (magnitude_mono h)
  have hnonneg : ∀ n : Nat, 0 ≤ nearest n := fun n => by
    rw [nearest_natCast]
    exact Int.natCast_nonneg _
  obtain ⟨n, rfl | rfl⟩ := a.eq_nat_or_neg <;> obtain ⟨m, rfl | rfl⟩ := b.eq_nat_or_neg
  · exact hnat n m (by omega)
  · obtain rfl : n = 0 := by omega
    obtain rfl : m = 0 := by omega
    exact le_refl _
  · rw [nearest_neg]
    have := hnonneg n
    have := hnonneg m
    omega
  · rw [nearest_neg, nearest_neg]
    have := hnat m n (by omega)
    omega

/-- Integers that need no more than 53 bits are their own nearest ones. -/
theorem nearest_of_le (h : a.natAbs ≤ 2 ^ 53) : nearest a = a := by
  have hmagnitude : magnitude a.natAbs = a.natAbs := by
    rcases Nat.lt_or_eq_of_le h with hlt | heq
    · exact magnitude_of_small (log2_le_of_lt hlt)
    · rw [heq]
      decide +kernel
  rw [nearest, hmagnitude, Int.sign_mul_natAbs]

/-- Integers compare as their nearest ones, unless they have the same. -/
theorem compare_nearest_iff :
    compare (nearest a) (nearest b) = compare a b ↔ (nearest a = nearest b → a = b) := by
  rcases Int.lt_trichotomy a b with h | rfl | h
  · have hmono := nearest_mono h.le
    rw [compare_lt_iff_lt.mpr h, compare_lt_iff_lt]
    omega
  · simp
  · have hmono := nearest_mono h.le
    rw [compare_gt_iff_gt.mpr h, compare_gt_iff_gt]
    omega

/-! ### Rounding of mantissas -/

open Float.Model Float.Model.UnpackedFloat

/-- What is shifted out of a mantissa is kept as far as it matters for rounding. -/
theorem shiftRight_exact (n shift : Nat) :
    ExtendedMantissa.ofMantissaAndAccuracy n .exact >>> shift =
      ⟨n / 2 ^ shift, decide (2 ^ shift ≤ 2 * (n % 2 ^ shift)),
        decide (2 * (n % 2 ^ shift) ≠ 0 ∧ 2 * (n % 2 ^ shift) ≠ 2 ^ shift)⟩ := by
  show shift.repeat ExtendedMantissa.shiftRightOne _ = _
  induction shift with
  | zero => simp [Nat.repeat, ExtendedMantissa.ofMantissaAndAccuracy, Nat.mod_one]
  | succ shift ih =>
    have hmod : n % 2 ^ (shift + 1) = n % 2 ^ shift + 2 ^ shift * (n / 2 ^ shift % 2) := by
      rw [Nat.pow_succ, Nat.mod_mul]
    have hlt : n % 2 ^ shift < 2 ^ shift := Nat.mod_lt _ (Nat.two_pow_pos shift)
    have hpow : 2 ^ (shift + 1) = 2 * 2 ^ shift := Nat.pow_succ'
    rw [Nat.repeat, ih, ExtendedMantissa.shiftRightOne]
    simp only [ExtendedMantissa.mk.injEq]
    refine ⟨?_, ?_, ?_⟩
    · rw [Nat.div_div_eq_div_mul, Nat.pow_succ]
    · rw [hmod, hpow]
      rcases Nat.mod_two_eq_zero_or_one (n / 2 ^ shift) with h | h
      · rw [h]
        simp
        omega
      · rw [h]
        simp
    · rw [hmod, hpow]
      rcases Nat.mod_two_eq_zero_or_one (n / 2 ^ shift) with h | h <;> rw [h, ← Bool.decide_or] <;>
        simp only [decide_eq_decide] <;> omega

theorem roundedMantissa_shiftRight (n shift : Nat) :
    (ExtendedMantissa.ofMantissaAndAccuracy n .exact >>> shift).roundedMantissa = quotient shift n := by
  rw [shiftRight_exact, quotient]
  by_cases hlt : 2 ^ shift < 2 * (n % 2 ^ shift)
  · have h : 2 * (n % 2 ^ shift) ≠ 0 ∧ 2 * (n % 2 ^ shift) ≠ 2 ^ shift := by omega
    rw [if_pos hlt, decide_eq_true hlt.le, decide_eq_true h]
    rfl
  · rw [if_neg hlt]
    by_cases heq : 2 ^ shift = 2 * (n % 2 ^ shift)
    · have h : ¬(2 * (n % 2 ^ shift) ≠ 0 ∧ 2 * (n % 2 ^ shift) ≠ 2 ^ shift) := by omega
      rw [if_pos heq, decide_eq_true heq.le, decide_eq_false h]
      rfl
    · have h : ¬2 ^ shift ≤ 2 * (n % 2 ^ shift) := by omega
      rw [if_neg heq, decide_eq_false h]
      cases decide (2 * (n % 2 ^ shift) ≠ 0 ∧ 2 * (n % 2 ^ shift) ≠ 2 ^ shift) <;> rfl

/-! ### Floats that stand for integers -/

/-- A float that is an integer: zero, or a mantissa of 53 bits and an exponent from which the unit can be
seen. -/
inductive Stands : UnpackedFloat → Int → Prop
  | zero (s : Sign) : Stands (.zero s) 0
  | finite (s : Sign) {m k z : Nat} (hpos : 0 < m) (hlow : 2 ^ 52 ≤ m) (hhigh : m < 2 ^ 53)
    (hz : m * 2 ^ k = 2 ^ 52 * z) : Stands (.finite s m ((k : Int) - 52) hpos) (s.apply z)

theorem two_pow_le_of_mul {k z : Nat} (hlow : 2 ^ 52 ≤ m) (hz : m * 2 ^ k = 2 ^ 52 * z) : 2 ^ k ≤ z :=
  Nat.le_of_mul_le_mul_left (hz ▸ Nat.mul_le_mul_right (2 ^ k) hlow) (by decide)

theorem pos_of_mul {k z : Nat} (hlow : 2 ^ 52 ≤ m) (hz : m * 2 ^ k = 2 ^ 52 * z) : 0 < z :=
  (Nat.two_pow_pos k).trans_le (two_pow_le_of_mul hlow hz)

theorem shiftToTargetExponent_exact {e : Int} (hlog : m.log2 = 52 + shift) (he : -1074 ≤ e + shift) :
    shiftToTargetExponent Format.binary64 m e .exact =
      (ExtendedMantissa.ofMantissaAndAccuracy m .exact >>> shift, e + shift) := by
  have htarget : Format.binary64.targetExponent (totalExponent m e) = e + shift := by
    have hmin : Format.binary64.minExponent = -1074 := by decide
    have hbits : Format.binary64.mantissaBits = 53 := rfl
    rw [Format.targetExponent, totalExponent, hmin, hbits, hlog]
    omega
  have hshift : (e + shift - e).toNat = shift := by omega
  rw [shiftToTargetExponent, htarget, shiftToExponent]
  simp only [hshift]

/-- A rounded mantissa has 53 bits, or it is shifted once more. -/
theorem exists_shifted {q k z : Nat} (hlow : 2 ^ 52 ≤ q) (hhigh : q ≤ 2 ^ 53)
    (hz : q * 2 ^ k = 2 ^ 52 * z) :
    ∃ (em : ExtendedMantissa) (k' : Nat),
      shiftToTargetExponent Format.binary64 q ((k : Int) - 52) .exact = (em, (k' : Int) - 52) ∧
        2 ^ 52 ≤ em.mantissa ∧ em.mantissa < 2 ^ 53 ∧ em.mantissa * 2 ^ k' = 2 ^ 52 * z := by
  rcases Nat.lt_or_eq_of_le hhigh with hlt | rfl
  · have hlog : q.log2 = 52 + 0 := by
      rw [Nat.log2_eq_iff (by omega)]
      omega
    refine ⟨_, k, (shiftToTargetExponent_exact hlog (by omega)).trans (by rw [Int.natCast_zero, Int.add_zero]), ?_⟩
    rw [shiftRight_exact, Nat.pow_zero, Nat.div_one]
    exact ⟨hlow, hlt, hz⟩
  · have hlog : (2 ^ 53).log2 = 52 + 1 := by decide +kernel
    refine ⟨_, k + 1, (shiftToTargetExponent_exact hlog (by omega)).trans (by congr 1; omega), ?_⟩
    rw [shiftRight_exact]
    refine ⟨by decide, by decide, ?_⟩
    rw [← hz, Nat.pow_succ]
    show 2 ^ 53 / 2 ^ 1 * _ = _
    omega

/-- Rounding leaves a float that stands for the rounded number. -/
theorem stands_roundWithAccuracy (s : Sign) {e : Int} {k z : Nat} (hlog : m.log2 = 52 + shift)
    (he : e + shift = (k : Int) - 52) (hz : quotient shift m * 2 ^ k = 2 ^ 52 * z) :
    Stands (roundWithAccuracy Format.binary64 s m e .exact) (s.apply z) := by
  obtain ⟨hlow, hhigh⟩ : 2 ^ 52 ≤ quotient shift m ∧ quotient shift m ≤ 2 ^ 53 := by
    have hbounds := quotient_bounds (n := m) (by omega)
    rwa [hlog, Nat.add_sub_cancel_left] at hbounds
  obtain ⟨em, k', hshifted, hlow', hhigh', hz'⟩ := exists_shifted hlow hhigh hz
  unfold roundWithAccuracy
  rw [shiftToTargetExponent_exact hlog (by omega)]
  simp only [roundedMantissa_shiftRight, he, hshifted]
  rw [dif_neg (by omega)]
  exact .finite s _ hlow' hhigh' hz'

/-- An integer with enough zeros after it is rounded to the nearest one. -/
theorem stands_round_shifted (s : Sign) (hne : n ≠ 0) (h : 52 ≤ n.log2 + i) :
    Stands (roundWithAccuracy Format.binary64 s (n * 2 ^ i) (-(i : Int)) .exact) (s.apply (magnitude n)) := by
  have hlog : (n * 2 ^ i).log2 = 52 + (n.log2 + i - 52) := by
    rw [log2_mul_two_pow hne]
    omega
  exact stands_roundWithAccuracy s hlog (by omega) (quotient_shifted h)

/-! ### Packed floats -/

theorem unpackSign_packComponents (s : Sign) (exponent : BitVec 11) (mantissa : BitVec 52) :
    Sign.ofBitVec (unpackSign (packComponents Format.binary64 s exponent mantissa)) = s := by
  simp only [unpackSign, packComponents, BitVec.extractLsb]
  rw [BitVec.extractLsb'_append_eq_of_le (by decide), BitVec.extractLsb'_append_eq_of_le (by decide)]
  cases s <;> rfl

/-- A mantissa of 53 bits is packed without the first of them, and gets it back. -/
theorem unpack_pack_finite (s : Sign) {e : Int} (hpos : 0 < m) (hlow : 2 ^ 52 ≤ m) (hhigh : m < 2 ^ 53)
    (helow : -1074 ≤ e) (hehigh : e ≤ 971) :
    (Float.Model.pack (.finite s m e hpos)).unpack = .finite s m e hpos := by
  show UnpackedFloat.unpack Format.binary64 (UnpackedFloat.pack Format.binary64 (.finite s m e hpos)) = _
  have hlog : m.log2 + 1 = Format.binary64.mantissaBits := by
    have : m.log2 = 52 := by
      rw [Nat.log2_eq_iff (by omega)]
      omega
    rw [this]
    rfl
  have hexponent : (e + Format.binary64.exponentBias + Format.binary64.mantissaBitsWithoutImplicit).toNat =
      (e + 1075).toNat := by
    show (e + (1023 : Nat) + (52 : Nat)).toNat = _
    omega
  have hfield : (BitVec.ofNat 11 (e + 1075).toNat).toNat = (e + 1075).toNat := by
    rw [BitVec.toNat_ofNat, Nat.mod_eq_of_lt (by omega)]
  have hones : BitVec.ofNat 11 (e + 1075).toNat ≠ -1#11 := by
    intro h
    have := hfield.symm.trans (congrArg BitVec.toNat h)
    simp at this
    omega
  have hzero : BitVec.ofNat 11 (e + 1075).toNat ≠ 0#11 := by
    intro h
    have := hfield.symm.trans (congrArg BitVec.toNat h)
    simp at this
    omega
  have hmantissa : (1#1 ++ BitVec.ofNat 52 m).toNat = m := by
    rw [BitVec.toNat_append, ← Nat.shiftLeft_add_eq_or_of_lt (BitVec.ofNat 52 m).isLt, BitVec.toNat_ofNat,
      Nat.shiftLeft_eq]
    simp
    omega
  have hbias : (Format.binary64.exponentBias : Int) = 1023 := rfl
  rw [UnpackedFloat.pack]
  simp only [hexponent]
  rw [if_neg (by omega), if_pos hlog, UnpackedFloat.unpack]
  simp only [unpackMantissa_packComponents, unpackExponent_packComponents, unpackSign_packComponents]
  rw [if_neg hones, if_neg hzero]
  simp only [hmantissa, hfield, hbias, UnpackedFloat.finite.injEq, true_and]
  omega

/-- Packing keeps what stands for an integer of 64 bits. -/
theorem Stands.unpack_pack {u : UnpackedFloat} (h : Stands u a) (ha : a.natAbs ≤ 2 ^ 64) :
    (Float.Model.pack u).unpack = u := by
  cases h with
  | zero s => cases s <;> rfl
  | @finite s m k z hpos hlow hhigh hz =>
    have hk : k ≤ 64 := by
      have hz' : z ≤ 2 ^ 64 := by cases s <;> simpa [Sign.apply] using ha
      exact (Nat.pow_le_pow_iff_right (by decide)).mp ((two_pow_le_of_mul hlow hz).trans hz')
    exact unpack_pack_finite s hpos hlow hhigh (by omega) (by omega)

/-! ### Floats in order -/

/-- The greater exponent belongs to the greater number, and the greater mantissa if the exponents are one. -/
theorem compare_exponent_mantissa {m' k k' z z' : Nat} (hlow : 2 ^ 52 ≤ m) (hhigh : m < 2 ^ 53)
    (hz : m * 2 ^ k = 2 ^ 52 * z) (hlow' : 2 ^ 52 ≤ m') (hhigh' : m' < 2 ^ 53)
    (hz' : m' * 2 ^ k' = 2 ^ 52 * z') :
    (compare ((k : Int) - 52) ((k' : Int) - 52)).then (compare m m') = compare z z' := by
  have hless : ∀ {m m' k k' z z' : Nat}, m < 2 ^ 53 → m * 2 ^ k = 2 ^ 52 * z → 2 ^ 52 ≤ m' →
      m' * 2 ^ k' = 2 ^ 52 * z' → k < k' → z < z' := by
    intro m m' k k' z z' hhigh hz hlow' hz' hk
    have hpow : 2 ^ (k + 1) ≤ 2 ^ k' := Nat.pow_le_pow_right (by decide) hk
    refine Nat.lt_of_mul_lt_mul_left (a := 2 ^ 52) ?_
    calc 2 ^ 52 * z = m * 2 ^ k := hz.symm
      _ < 2 ^ 53 * 2 ^ k := Nat.mul_lt_mul_of_pos_right hhigh (Nat.two_pow_pos k)
      _ = 2 ^ 52 * 2 ^ (k + 1) := by rw [Nat.pow_succ 2 k]; ring
      _ ≤ m' * 2 ^ k' := Nat.mul_le_mul hlow' hpow
      _ = 2 ^ 52 * z' := hz'
  rcases Nat.lt_trichotomy k k' with hk | rfl | hk
  · rw [compare_lt_iff_lt.mpr (by omega), compare_lt_iff_lt.mpr (hless hhigh hz hlow' hz' hk)]
    rfl
  · have hpos : 0 < 2 ^ k := Nat.two_pow_pos k
    have hlt : m < m' ↔ z < z' := by
      rw [← Nat.mul_lt_mul_right hpos, hz, hz', Nat.mul_lt_mul_left (by decide)]
    have heq : m = m' ↔ z = z' := by
      rw [← Nat.mul_left_inj hpos.ne', hz, hz', Nat.mul_right_inj (by decide)]
    rw [compare_eq_iff_eq.mpr rfl]
    show compareOfLessAndEq m m' = compareOfLessAndEq z z'
    simp only [compareOfLessAndEq, hlt, heq]
  · rw [compare_gt_iff_gt.mpr (by omega), compare_gt_iff_gt.mpr (hless hhigh' hz' hlow hz hk)]
    rfl

theorem compare_natCast (z z' : Nat) : compare (z : Int) z' = compare z z' := by
  show compareOfLessAndEq (z : Int) z' = compareOfLessAndEq z z'
  simp only [compareOfLessAndEq, Int.ofNat_lt, Int.natCast_inj]

theorem compare_neg (a b : Int) : compare (-a) (-b) = (compare a b).swap := by
  rw [← Std.OrientedOrd.eq_swap]
  show compareOfLessAndEq (-a) (-b) = compareOfLessAndEq b a
  simp only [compareOfLessAndEq, Int.neg_lt_neg_iff, neg_inj, eq_comm]

/-- Floats that stand for integers compare as the integers. -/
theorem Stands.compare {u v : UnpackedFloat} (hu : Stands u a) (hv : Stands v b) :
    u.compare v = some (compare a b) := by
  cases hu with
  | zero s =>
    cases hv with
    | zero s' => cases s <;> cases s' <;> rfl
    | finite s' hpos hlow hhigh hz =>
      have := pos_of_mul hlow hz
      cases s' with
      | negative => exact congrArg some (compare_gt_iff_gt.mpr (by simp only [Sign.apply]; omega)).symm
      | positive => exact congrArg some (compare_lt_iff_lt.mpr (by simp only [Sign.apply]; omega)).symm
  | finite s hpos hlow hhigh hz =>
    have := pos_of_mul hlow hz
    cases hv with
    | zero s' =>
      cases s with
      | negative => exact congrArg some (compare_lt_iff_lt.mpr (by simp only [Sign.apply]; omega)).symm
      | positive => exact congrArg some (compare_gt_iff_gt.mpr (by simp only [Sign.apply]; omega)).symm
    | finite s' hpos' hlow' hhigh' hz' =>
      have := pos_of_mul hlow' hz'
      have hcompare := compare_exponent_mantissa hlow hhigh hz hlow' hhigh' hz'
      cases s with
      | negative =>
        cases s' with
        | negative =>
          refine congrArg some ?_
          rw [hcompare, Sign.apply, Sign.apply, compare_neg, compare_natCast]
        | positive => exact congrArg some (compare_lt_iff_lt.mpr (by simp only [Sign.apply]; omega)).symm
      | positive =>
        cases s' with
        | negative => exact congrArg some (compare_gt_iff_gt.mpr (by simp only [Sign.apply]; omega)).symm
        | positive =>
          refine congrArg some ?_
          rw [hcompare, Sign.apply, Sign.apply, compare_natCast]

/-! ### Floats of integers -/

/-- An integer of no more than 53 bits is a float. -/
theorem stands_unpacked_ofNat (h : n < 2 ^ 53) : Stands (UnpackedFloat.ofNat Format.binary64 n) n := by
  rcases Nat.eq_zero_or_pos n with rfl | hpos
  · exact .zero .positive
  have hlog := log2_le_of_lt h
  have htarget : Format.binary64.targetExponent (totalExponent n 0) = (n.log2 : Int) - 52 := by
    have hmin : Format.binary64.minExponent = -1074 := by decide
    have hbits : Format.binary64.mantissaBits = 53 := rfl
    rw [Format.targetExponent, totalExponent, hmin, hbits]
    omega
  have hshift : (0 - ((n.log2 : Int) - 52)).toNat = 52 - n.log2 := by omega
  have hgreater : compare (n : Int) 0 = .gt := compare_gt_iff_gt.mpr (by omega)
  have hrounded := stands_round_shifted .positive hpos.ne' (i := 52 - n.log2) (by omega)
  rw [magnitude_of_small hlog] at hrounded
  rw [UnpackedFloat.ofNat, UnpackedFloat.ofInt, UnpackedFloat.normalize, hgreater]
  simp only [Int.toNat_natCast, UnpackedFloat.round, htarget, decreaseExponent, hshift, Nat.shiftLeft_eq]
  rw [Int.zero_sub]
  exact hrounded

/-- A number times one is the number. -/
theorem Stands.mul_one {u : UnpackedFloat} (hu : Stands u n) (hn : n < 2 ^ 53) :
    Stands (u.mul Format.binary64 (.finite .positive (2 ^ 52) (-52) (by decide))) n := by
  generalize ha : (n : Int) = a at hu
  cases hu with
  | zero s => exact .zero (s * .positive)
  | @finite s m k z hpos hlow hhigh hz =>
    have hz0 := pos_of_mul hlow hz
    cases s with
    | negative =>
      simp only [Sign.apply] at ha
      omega
    | positive =>
      obtain rfl : n = z := Int.natCast_inj.mp ha
      have hk : k < 53 :=
        (Nat.pow_lt_pow_iff_right (a := 2) (by decide)).mp ((two_pow_le_of_mul hlow hz).trans_lt hn)
      have hmantissa : m * 2 ^ 52 = n * 2 ^ (104 - k) := by
        refine Nat.mul_right_cancel (Nat.two_pow_pos k) ?_
        rw [Nat.mul_right_comm, hz, Nat.mul_assoc n, ← Nat.pow_add, Nat.sub_add_cancel (by omega)]
        ring
      have hexponent : (k : Int) - 52 + -52 = -((104 - k : Nat) : Int) := by omega
      have hrounded := stands_round_shifted .positive hz0.ne' (i := 104 - k) (by omega)
      rw [magnitude_of_small (log2_le_of_lt hn)] at hrounded
      show Stands (roundWithAccuracy Format.binary64 (.positive * .positive) (m * 2 ^ 52)
        ((k : Int) - 52 + -52) .exact) _
      rw [hmantissa, hexponent]
      exact hrounded

theorem toModel_mul (x y : Float) :
    (x * y).toModel = Float.Model.pack (x.toModel.unpack.mul Format.binary64 y.toModel.unpack) := rfl

theorem unpack_ten_pow_zero : (Float.exactlyRepresentablePowersOfTen[0]).toModel.unpack =
    .finite .positive (2 ^ 52) (-52) (by decide) := rfl

/-- A number of no more than 53 bits is converted and multiplied by one. -/
theorem stands_small (h : n < 2 ^ 53) :
    Stands (n.toUInt64.toFloat * Float.exactlyRepresentablePowersOfTen[0]).toModel.unpack n := by
  have htoNat : n.toUInt64.toNat = n := Nat.mod_eq_of_lt (by omega)
  have hunpacked := stands_unpacked_ofNat h
  have hconverted : n.toUInt64.toFloat.toModel.unpack = UnpackedFloat.ofNat Format.binary64 n := by
    rw [← hunpacked.unpack_pack (by omega)]
    show (Float.Model.pack (UnpackedFloat.ofNat Format.binary64 n.toUInt64.toNat)).unpack = _
    rw [htoNat]
  have hproduct := hunpacked.mul_one h
  rw [toModel_mul, hconverted, unpack_ten_pow_zero, hproduct.unpack_pack (by omega)]
  exact hproduct

/-- A number of more bits is rounded. -/
theorem stands_large (hlow : 2 ^ 53 ≤ n) (hhigh : n ≤ 2 ^ 63) :
    Stands (Float.Model.ofScientific n 0).unpack (magnitude n) := by
  have hne : n ≠ 0 := by omega
  have hbound := magnitude_le hhigh
  have hrounded := stands_round_shifted .positive hne (i := 53) (by omega)
  have hproduct : UnpackedFloat.ofScientific Format.binary64 n 0 =
      roundWithAccuracy Format.binary64 .positive (n * 2 ^ 53) (-(53 : Nat)) .exact := by
    have hfirst : ¬(0 : Int) > 2 ^ Format.binary64.exponentBits := by decide
    have hsecond : ¬(0 : Int) < -(2 ^ Format.binary64.exponentBits + n.log2) := by
      have : (0 : Int) < 2 ^ Format.binary64.exponentBits := by decide
      omega
    rw [UnpackedFloat.ofScientific, dif_neg hne, if_neg hfirst, if_neg hsecond, if_pos (le_refl _)]
    show roundWithAccuracy Format.binary64 .positive (n <<< 53 * 1) (-53 + 0) .exact = _
    rw [Nat.mul_one, Nat.shiftLeft_eq, Int.add_zero]
    rfl
  rw [Float.Model.ofScientific, hproduct, hrounded.unpack_pack (by simp only [Sign.apply]; omega)]
  exact hrounded

/-- The float of a number stands for the nearest one. -/
theorem stands_ofNat (h : n ≤ 2 ^ 63) : Stands (Float.ofNat n).toModel.unpack (magnitude n) := by
  show Stands (Float.ofScientific n false 0).toModel.unpack _
  rw [Float.ofScientific]
  by_cases hsmall : n < 2 ^ 53
  · rw [dif_pos ⟨hsmall, by decide⟩, magnitude_of_small (log2_le_of_lt hsmall)]
    exact stands_small hsmall
  · rw [dif_neg (fun h => hsmall h.1)]
    exact stands_large (by omega) h

theorem Stands.neg {u : UnpackedFloat} (hu : Stands u a) : Stands u.neg (-a) := by
  cases hu with
  | zero s => exact .zero _
  | finite s hpos hlow hhigh hz =>
    cases s with
    | negative => exact (Int.neg_neg _).symm ▸ .finite .positive hpos hlow hhigh hz
    | positive => exact .finite .negative hpos hlow hhigh hz

/-- The float of an integer stands for the nearest one. -/
theorem stands_ofInt (h : a.natAbs ≤ 2 ^ 63) : Stands (Float.ofInt a).toModel.unpack (nearest a) := by
  cases a with
  | ofNat n =>
    rw [Int.ofNat_eq_natCast, nearest_natCast]
    exact stands_ofNat h
  | negSucc n =>
    have hneg := (stands_ofNat (n := n + 1) h).neg
    have hbound := magnitude_le (n := n + 1) h
    rw [Int.negSucc_eq, nearest_neg, ← Int.natCast_succ, nearest_natCast]
    show Stands (Float.Model.pack (Float.ofNat (n + 1)).toModel.unpack.neg).unpack _
    rw [hneg.unpack_pack (by omega)]
    exact hneg

/-- **Integers compare as floats like their nearest ones.** -/
theorem floatOrder?_ofInt (ha : a.natAbs ≤ 2 ^ 63) (hb : b.natAbs ≤ 2 ^ 63) :
    floatOrder? (Float.ofInt a) (Float.ofInt b) = some (compare (nearest a) (nearest b)) := by
  rw [floatOrder?_eq_compare]
  exact (stands_ofInt ha).compare (stands_ofInt hb)

end Rounding

end Leuit
