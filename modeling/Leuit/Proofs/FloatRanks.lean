import Leuit.Proofs.NearestFloats

/-! Ranks of floats. The bits of a float are a sign and a magnitude, and read so they number the floats in
their order (`FloatRank.rank`): both zeros have rank zero, and the infinities have the greatest magnitude
that is a number. Floats that are numbers compare as their ranks (`FloatRank.floatOrder?_eq`), and only the
zeros share one (`FloatRank.eq_or_zeros`). -/
namespace Leuit.FloatRank
open Float.Model Float.Model.UnpackedFloat
variable {s s' : Sign} {n n' : Nat} {u v : UnpackedFloat} {x y : Float}

/-! ### Bits -/

/-- The magnitude of the infinities. -/
def infinite : Nat := 2047 * 2 ^ 52

def magnitude (x : Float) : Nat := x.toBits.toNat % 2 ^ 63

def sign (x : Float) : Sign := if x.toBits.toNat < 2 ^ 63 then .positive else .negative

def rank (x : Float) : Int := (sign x).apply (magnitude x)

/-- What the magnitude `n` stands for with a sign: zero, a mantissa and its exponent, or infinity. From each
exponent to the next the mantissas go on where they ended, so the magnitude counts them all. -/
inductive Encodes (s : Sign) : Nat → UnpackedFloat → Prop
  | zero : Encodes s 0 (.zero s)
  | finite {m k : Nat} (hpos : 0 < m) (hhigh : m < 2 ^ 53) (hlow : k = 0 ∨ 2 ^ 52 ≤ m) (hk : k < 2046) :
    Encodes s (k * 2 ^ 52 + m) (.finite s m ((k : Int) - 1074) hpos)
  | infinity : Encodes s infinite (.infinity s)

theorem lt_infinite {m k : Nat} (hhigh : m < 2 ^ 53) (hk : k < 2046) : k * 2 ^ 52 + m < infinite := by
  unfold infinite
  omega

theorem Encodes.le_infinite (h : Encodes s n u) : n ≤ infinite := by
  cases h with
  | zero => exact Nat.zero_le _
  | finite hpos hhigh hlow hk => exact (lt_infinite hhigh hk).le
  | infinity => exact Nat.le_refl _

/-! ### Bits and their parts -/

theorem toNat_append_one (fraction : BitVec 52) : (1#1 ++ fraction).toNat = 2 ^ 52 + fraction.toNat := by
  rw [BitVec.toNat_append, ← Nat.shiftLeft_add_eq_or_of_lt fraction.isLt]
  rfl

/-- What a sign, an exponent and a mantissa without its first bit stand for. -/
def ofParts (s : Sign) (field : BitVec 11) (fraction : BitVec 52) : UnpackedFloat :=
  if field = -1#11 then if fraction = 0#52 then .infinity s else .notANumber
  else if field = 0#11 then
    if h : fraction = 0#52 then .zero s
    else .finite s fraction.toNat ((field.toNat : Int) - 1075 + 1)
      (Nat.pos_of_ne_zero fun h' => h (BitVec.eq_of_toNat_eq h'))
  else .finite s (1#1 ++ fraction).toNat ((field.toNat : Int) - 1075) (by rw [toNat_append_one]; omega)

theorem encodes_ofParts {field : BitVec 11} {fraction : BitVec 52}
    (h : (ofParts s field fraction).isNaN = false) :
    Encodes s (field.toNat * 2 ^ 52 + fraction.toNat) (ofParts s field fraction) := by
  have hfraction := fraction.isLt
  have hfield := field.isLt
  unfold ofParts at h ⊢
  split
  · next hones =>
    split
    · next hnone =>
      rw [hones, hnone]
      exact .infinity
    · next hsome =>
      rw [if_pos hones, if_neg hsome] at h
      cases h
  · next hones =>
    split
    · next hzero =>
      rw [hzero]
      split
      · next hnone =>
        rw [hnone]
        exact .zero
      · next hsome => exact .finite (k := 0) _ (by omega) (.inl rfl) (by decide)
    · next hzero =>
      have hlast : field.toNat ≠ 2047 := fun hlast => hones (BitVec.eq_of_toNat_eq hlast)
      have hfirst : field.toNat ≠ 0 := fun hfirst => hzero (BitVec.eq_of_toNat_eq hfirst)
      obtain ⟨k, hk⟩ := Nat.exists_eq_add_one_of_ne_zero hfirst
      have hplace : (k + 1) * 2 ^ 52 + fraction.toNat = k * 2 ^ 52 + (2 ^ 52 + fraction.toNat) := by omega
      have hexponent : ((k + 1 : Nat) : Int) - 1075 = (k : Int) - 1074 := by omega
      simp only [hk, toNat_append_one, hexponent, hplace]
      exact .finite _ (by omega) (.inr (by omega)) (by omega)

theorem toNat_unpackMantissa (b : BitVec 64) :
    (@unpackMantissa Format.binary64 b).toNat = b.toNat % 2 ^ 52 := by
  simp [unpackMantissa]

theorem toNat_unpackExponent (b : BitVec 64) :
    (@unpackExponent Format.binary64 b).toNat = b.toNat / 2 ^ 52 % 2 ^ 11 := by
  simp [unpackExponent, Nat.shiftRight_eq_div_pow]

theorem ofBitVec_unpackSign (b : BitVec 64) :
    Sign.ofBitVec (@unpackSign Format.binary64 b) =
      if b.toNat < 2 ^ 63 then .positive else .negative := by
  have hbit : (@unpackSign Format.binary64 b).toNat = b.toNat / 2 ^ 63 := by
    have := b.isLt
    simp [unpackSign, Nat.shiftRight_eq_div_pow]
    omega
  have hzero : @unpackSign Format.binary64 b = 0#1 ↔ b.toNat < 2 ^ 63 := by
    rw [← BitVec.toNat_inj, hbit]
    simp
  simp only [Sign.ofBitVec, hzero]

/-- What the bits of a float stand for if it is a number. -/
theorem encodes_unpack (h : x.isNaN = false) : Encodes (sign x) (magnitude x) x.toModel.unpack := by
  have hunpack : x.toModel.unpack = ofParts
      (Sign.ofBitVec (@unpackSign Format.binary64 x.toBits.toBitVec))
      (@unpackExponent Format.binary64 x.toBits.toBitVec)
      (@unpackMantissa Format.binary64 x.toBits.toBitVec) := rfl
  have hnan : x.toModel.unpack.isNaN = false := h
  rw [hunpack] at hnan ⊢
  have hencodes := encodes_ofParts hnan
  rw [toNat_unpackMantissa, toNat_unpackExponent] at hencodes
  have hmagnitude : magnitude x = x.toBits.toBitVec.toNat / 2 ^ 52 % 2 ^ 11 * 2 ^ 52 +
      x.toBits.toBitVec.toNat % 2 ^ 52 := by
    show x.toBits.toBitVec.toNat % 2 ^ 63 = _
    omega
  rwa [hmagnitude, sign, show x.toBits.toNat = x.toBits.toBitVec.toNat from rfl, ← ofBitVec_unpackSign]

/-! ### Order -/

/-- Mantissas in the order of their magnitudes. -/
theorem compare_finite {m m' k k' : Nat} (hhigh : m < 2 ^ 53) (hlow : k = 0 ∨ 2 ^ 52 ≤ m)
    (hhigh' : m' < 2 ^ 53) (hlow' : k' = 0 ∨ 2 ^ 52 ≤ m') :
    (compare ((k : Int) - 1074) ((k' : Int) - 1074)).then (compare m m') =
      compare (k * 2 ^ 52 + m) (k' * 2 ^ 52 + m') := by
  rcases Nat.lt_trichotomy k k' with hk | rfl | hk
  · have hexponent : (k : Int) - 1074 < (k' : Int) - 1074 := by omega
    have hplace : k * 2 ^ 52 + m < k' * 2 ^ 52 + m' := by omega
    rw [compare_lt_iff_lt.mpr hexponent, compare_lt_iff_lt.mpr hplace]
    rfl
  · rw [compare_eq_iff_eq.mpr rfl]
    show compareOfLessAndEq m m' = compareOfLessAndEq (k * 2 ^ 52 + m) (k * 2 ^ 52 + m')
    simp only [compareOfLessAndEq, Nat.add_lt_add_iff_left, Nat.add_left_cancel_iff]
  · have hexponent : (k : Int) - 1074 > (k' : Int) - 1074 := by omega
    have hplace : k * 2 ^ 52 + m > k' * 2 ^ 52 + m' := by omega
    rw [compare_gt_iff_gt.mpr hexponent, compare_gt_iff_gt.mpr hplace]
    rfl

theorem compare_apply (s : Sign) (n n' : Nat) :
    compare (s.apply n) (s.apply n') = match s with
      | .negative => (compare n n').swap
      | .positive => compare n n' := by
  cases s with
  | negative => rw [Sign.apply, Sign.apply, Rounding.compare_neg, Rounding.compare_natCast]
  | positive => rw [Sign.apply, Sign.apply, Rounding.compare_natCast]

theorem Encodes.compare_same (hu : Encodes s n u) (hv : Encodes s n' v) :
    u.compare v = some (compare (s.apply n) (s.apply n')) := by
  rw [compare_apply]
  cases hu with
  | zero =>
    cases hv with
    | zero => cases s <;> rfl
    | finite hpos =>
      rw [compare_lt_iff_lt.mpr (by omega)]
      cases s <;> rfl
    | infinity => cases s <;> rfl
  | finite hpos hhigh hlow hk =>
    cases hv with
    | zero =>
      rw [compare_gt_iff_gt.mpr (by omega)]
      cases s <;> rfl
    | finite hpos' hhigh' hlow' hk' =>
      rw [← compare_finite hhigh hlow hhigh' hlow']
      cases s <;> rfl
    | infinity =>
      rw [compare_lt_iff_lt.mpr (lt_infinite hhigh hk)]
      cases s <;> rfl
  | infinity =>
    cases hv with
    | zero => cases s <;> rfl
    | finite hpos hhigh hlow hk =>
      rw [compare_gt_iff_gt.mpr (lt_infinite hhigh hk)]
      cases s <;> rfl
    | infinity => cases s <;> rfl

theorem Encodes.compare_opposite (hu : Encodes .negative n u) (hv : Encodes .positive n' v) :
    u.compare v = some (compare (Sign.negative.apply n) (Sign.positive.apply n')) := by
  have hless : ∀ {a b : Int}, a < b → some Ordering.lt = some (Ord.compare a b) := fun h =>
    congrArg some (compare_lt_iff_lt.mpr h).symm
  cases hu <;> cases hv
  case zero.zero => rfl
  all_goals exact hless (by simp only [Sign.apply, infinite]; omega)

/-- Numbers compare as the integers that their signs and magnitudes are. -/
theorem Encodes.compare (hu : Encodes s n u) (hv : Encodes s' n' v) :
    u.compare v = some (compare (s.apply n) (s'.apply n')) := by
  cases s <;> cases s'
  case negative.negative => exact hu.compare_same hv
  case negative.positive => exact hu.compare_opposite hv
  case positive.negative =>
    rw [unpacked_compare_swap, hv.compare_opposite hu, Option.map_some, ← Std.OrientedOrd.eq_swap]
  case positive.positive => exact hu.compare_same hv

/-- **Floats that are numbers compare as their ranks.** -/
theorem floatOrder?_eq (hx : x.isNaN = false) (hy : y.isNaN = false) :
    floatOrder? x y = some (compare (rank x) (rank y)) := by
  rw [floatOrder?_eq_compare]
  exact (encodes_unpack hx).compare (encodes_unpack hy)

theorem lt_iff (hx : x.isNaN = false) (hy : y.isNaN = false) : x < y ↔ rank x < rank y := by
  rw [← compare_lt_iff_lt, ← Option.some_inj, ← floatOrder?_eq hx hy, floatOrder?]
  split
  · next h => simp [h]
  · next h =>
    refine iff_of_false h ?_
    split
    · nofun
    · split <;> nofun

theorem le_iff (hx : x.isNaN = false) (hy : y.isNaN = false) : x ≤ y ↔ rank x ≤ rank y := by
  show Float.le x y = true ↔ _
  rw [Float.le, decide_eq_true_eq]
  show (x.toModel.unpack.compare y.toModel.unpack).any Ordering.isLE = true ↔ _
  rw [(encodes_unpack hx).compare (encodes_unpack hy), Option.any_some, Ordering.isLE_iff_ne_gt]
  exact compare_le_iff_le

theorem beq_iff (hx : x.isNaN = false) (hy : y.isNaN = false) : (x == y) = true ↔ rank x = rank y := by
  show (x.toModel.unpack.compare y.toModel.unpack == some .eq) = true ↔ _
  rw [beq_iff_eq, (encodes_unpack hx).compare (encodes_unpack hy), Option.some_inj, compare_eq_iff_eq]
  rfl

theorem rank_eq (x : Float) :
    rank x = if x.toBits.toNat < 2 ^ 63 then (x.toBits.toNat : Int) else 2 ^ 63 - x.toBits.toNat := by
  have := x.toBits.toNat_lt
  unfold rank sign magnitude
  split <;> simp only [Sign.apply] <;> omega

/-- Only the zeros share a rank. -/
theorem eq_or_zeros (h : rank x = rank y) : x = y ∨ rank x = 0 := by
  rw [← Float.toBits_inj, ← UInt64.toNat_inj]
  rw [rank_eq, rank_eq] at h
  rw [rank_eq]
  split_ifs at h ⊢ <;> omega

theorem eq_of_rank (h : rank x = rank y) (hne : rank y ≠ 0) : x = y :=
  (eq_or_zeros h).resolve_right (h ▸ hne)

/-- Nothing lies beyond the infinities. -/
theorem rank_bounds (h : x.isNaN = false) : -(infinite : Int) ≤ rank x ∧ rank x ≤ infinite := by
  have hle := (encodes_unpack h).le_infinite
  unfold rank
  cases sign x <;> simp only [Sign.apply] <;> omega

end Leuit.FloatRank
