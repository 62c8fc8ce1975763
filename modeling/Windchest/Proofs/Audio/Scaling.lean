/-
# Windchest.Proofs.Audio.Scaling -- whole numbers are scaled without rounding

A stored number becomes a sample in two operations that may round: it is converted to
single precision, and divided by full scale.  Neither does if the number has up to 24 bits,
since full scale is a power of two: the mantissa stays as it is, and the exponent goes
down.  `rational?` reads the value off the bits of a sample, apart from any arithmetic.

* `unpack_nearest`: the conversion keeps the number.
* `div_power`: the division keeps the mantissa.
* `rational_pack`: the bits that are packed stand for the number.
* `rational_ofSigned`: the sample is the quotient.
-/
import Windchest.Audio.Buffer
import Mathlib

namespace Windchest

set_option autoImplicit false

open Float.Model Float.Model.UnpackedFloat

/-- The number that the bits stand for: a sign, eight bits of an exponent, and 23 bits of a fraction
to which the leading one is added.  Small numbers have no leading one; infinity and what is no
number stand for none. -/
def Sample.rational? (s : Sample) : Option ℚ :=
  let sign : ℚ := if s.bits.toNat / 2 ^ 31 = 0 then 1 else -1
  let exponent : ℕ := s.bits.toNat / 2 ^ 23 % 2 ^ 8
  let fraction : ℕ := s.bits.toNat % 2 ^ 23
  if exponent = 255 then none
  else if exponent = 0 then some (sign * fraction * 2 ^ (-149 : ℤ))
  else some (sign * (2 ^ 23 + fraction : ℕ) * 2 ^ ((exponent : ℤ) - 150))

namespace Single

/-- The mantissa has its leading one. -/
def Normal (m : Nat) : Prop := 2 ^ 23 ≤ m ∧ m < 2 ^ 24

namespace Normal

variable {m : Nat}

theorem pos (normal : Normal m) : 0 < m := Nat.lt_of_lt_of_le (by decide) normal.1

theorem log2 (normal : Normal m) : m.log2 = 23 :=
  (Nat.log2_eq_iff normal.pos.ne').mpr normal

theorem log2_double (normal : Normal m) : (2 * m).log2 = 24 := by
  apply (Nat.log2_eq_iff (by have := normal.pos; omega)).mpr
  obtain ⟨low, high⟩ := normal
  omega

/-- Any number of up to 24 bits has a normal mantissa. -/
theorem of_shift {n : Nat} (positive : n ≠ 0) (small : n < 2 ^ 24) :
    Normal (n <<< (23 - n.log2)) := by
  have few : n.log2 < 24 := (Nat.log2_lt positive).mpr small
  have low := Nat.log2_self_le positive
  have high := Nat.lt_log2_self (n := n)
  rw [Normal, Nat.shiftLeft_eq]
  constructor
  · calc 2 ^ 23 = 2 ^ n.log2 * 2 ^ (23 - n.log2) := by rw [← Nat.pow_add]; congr 1; omega
      _ ≤ n * 2 ^ (23 - n.log2) := Nat.mul_le_mul_right _ low
  · calc n * 2 ^ (23 - n.log2) < 2 ^ (n.log2 + 1) * 2 ^ (23 - n.log2) :=
        Nat.mul_lt_mul_of_pos_right high (by positivity)
      _ = 2 ^ 24 := by rw [← Nat.pow_add]; congr 1; omega

end Normal

/-! ## Rounding what need not be rounded -/

theorem targetExponent_of_le {m : Nat} {e : ℤ} (low : -149 ≤ m.log2 + e - 23) :
    Format.binary32.targetExponent (totalExponent m e) = m.log2 + e - 23 := by
  simp only [Format.targetExponent, totalExponent, Format.mantissaBits, Format.minExponent]
  norm_num
  omega

theorem shift_normal {m : Nat} {e : ℤ} (normal : Normal m) (low : -149 ≤ e) :
    shiftToTargetExponent Format.binary32 m e .exact = (⟨m, false, false⟩, e) := by
  rw [shiftToTargetExponent, targetExponent_of_le (by rw [normal.log2]; omega), normal.log2]
  have none : ((23 : ℕ) + e - 23 - e).toNat = 0 := by omega
  rw [shiftToExponent, none]
  simp
  rfl

theorem round_normal (s : Sign) {m : Nat} {e : ℤ} (normal : Normal m) (low : -149 ≤ e) :
    roundWithAccuracy Format.binary32 s m e .exact = .finite s m e normal.pos := by
  have kept : (⟨m, false, false⟩ : ExtendedMantissa).roundedMantissa = m := rfl
  simp only [roundWithAccuracy, shift_normal normal low, kept]
  rw [dif_neg normal.pos.ne']

theorem round_double (s : Sign) {m : Nat} {e : ℤ} (normal : Normal m) (low : -149 ≤ e) :
    roundWithAccuracy Format.binary32 s (2 * m) e .exact = .finite s m (e + 1) normal.pos := by
  have halved : shiftToTargetExponent Format.binary32 (2 * m) e .exact
      = (⟨m, false, false⟩, e + 1) := by
    rw [shiftToTargetExponent, targetExponent_of_le (by rw [normal.log2_double]; omega),
      normal.log2_double]
    have one : ((24 : ℕ) + e - 23 - e).toNat = 1 := by omega
    rw [shiftToExponent, one]
    have shifted : ExtendedMantissa.ofMantissaAndAccuracy (2 * m) .exact >>> 1
        = ⟨2 * m / 2, 2 * m % 2 != 0, false⟩ := rfl
    rw [shifted]
    simp
  have kept : (⟨m, false, false⟩ : ExtendedMantissa).roundedMantissa = m := rfl
  simp only [roundWithAccuracy, halved, kept, shift_normal normal (by omega : -149 ≤ e + 1)]
  rw [dif_neg normal.pos.ne']

/-- A whole number of up to 24 bits is a single precision number. -/
theorem ofNat_eq {n : Nat} (positive : n ≠ 0) (small : n < 2 ^ 24) :
    UnpackedFloat.ofNat Format.binary32 n =
      .finite .positive (n <<< (23 - n.log2)) (n.log2 - 23) (Normal.of_shift positive small).pos := by
  have few : n.log2 < 24 := (Nat.log2_lt positive).mpr small
  have above : compare (n : ℤ) 0 = .gt := by
    rw [compare_gt_iff_gt]
    omega
  simp only [UnpackedFloat.ofNat, UnpackedFloat.ofInt, UnpackedFloat.normalize, above,
    Int.toNat_natCast, UnpackedFloat.round]
  rw [targetExponent_of_le (by omega)]
  have shift : ((0 : ℤ) - (n.log2 + 0 - 23)).toNat = 23 - n.log2 := by omega
  simp only [decreaseExponent, shift]
  have exponent : (0 : ℤ) - ((23 - n.log2 : ℕ) : ℤ) = n.log2 - 23 := by omega
  rw [exponent]
  exact round_normal .positive (Normal.of_shift positive small) (by omega)

/-- A power of two divides without rounding. -/
theorem div_power {s : Sign} {m : Nat} {e k : ℤ} (normal : Normal m) (low : -125 ≤ e - k)
    (positive : 0 < 2 ^ 23) :
    UnpackedFloat.div Format.binary32 (.finite s m e normal.pos)
      (.finite .positive (2 ^ 23) k positive) = .finite s m (e - k - 23) normal.pos := by
  have one : Normal (2 ^ 23) := by simp [Normal]
  have target : min (e - k)
      (Format.binary32.targetExponent (totalExponent m e - totalExponent (2 ^ 23) k))
        = e - k - 24 := by
    simp only [Format.targetExponent, totalExponent, Format.mantissaBits, Format.minExponent,
      normal.log2, one.log2]
    norm_num
    omega
  have core : divCore Format.binary32 m e (2 ^ 23) k = (2 * m, e - k - 24, .exact) := by
    have shift : (e - k - (e - k - 24)).toNat = 24 := by omega
    have wide : m <<< 24 = 2 * m * 2 ^ 23 := by
      rw [Nat.shiftLeft_eq]
      omega
    simp only [divCore, target, shift, wide]
    rw [Nat.mul_div_cancel _ (by decide), Nat.mul_mod_left]
    rfl
  have sign : s / .positive = s := by cases s <;> rfl
  simp only [UnpackedFloat.div, core, sign, round_double s normal (by omega : -149 ≤ e - k - 24)]
  congr 1
  omega

/-! ## Packing -/

theorem toNat_packComponents (s : Sign) (exponent : BitVec 8) (mantissa : BitVec 23) :
    (packComponents Format.binary32 s exponent mantissa).toNat
      = s.toBitVec.toNat * 2 ^ 31 + exponent.toNat * 2 ^ 23 + mantissa.toNat := by
  have low := mantissa.isLt
  have mid := exponent.isLt
  rw [packComponents, BitVec.toNat_append, BitVec.toNat_append,
    ← Nat.shiftLeft_add_eq_or_of_lt mid, ← Nat.shiftLeft_add_eq_or_of_lt low]
  simp only [Nat.shiftLeft_eq]
  omega

theorem unpackSign_packComponents (s : Sign) (exponent : BitVec 8) (mantissa : BitVec 23) :
    unpackSign (packComponents Format.binary32 s exponent mantissa) = s.toBitVec := by
  have low := mantissa.isLt
  have mid := exponent.isLt
  apply BitVec.eq_of_toNat_eq
  rw [unpackSign, BitVec.toNat_cast, BitVec.extractLsb_toNat, toNat_packComponents]
  have bit : s.toBitVec.toNat < 2 := s.toBitVec.isLt
  simp only [Nat.shiftRight_eq_div_pow]
  omega

/-- The exponent of a number that is neither tiny nor huge. -/
def Moderate (e : ℤ) : Prop := -149 ≤ e ∧ e ≤ 104

theorem pack_normal (s : Sign) {m : Nat} {e : ℤ} (normal : Normal m) (moderate : Moderate e) :
    UnpackedFloat.pack Format.binary32 (.finite s m e normal.pos)
      = packComponents Format.binary32 s (.ofNat 8 (e + 150).toNat) (.ofNat 23 m) := by
  obtain ⟨low, high⟩ := moderate
  have biased : (e + (127 : ℕ) + (23 : ℕ)).toNat = (e + 150).toNat := by omega
  have finite : ¬ 2 ^ 8 ≤ (e + 150).toNat + 1 := by omega
  simp only [UnpackedFloat.pack, normal.log2]
  rw [show Format.binary32.exponentBias = 127 from rfl, biased, if_neg finite]
  rfl

theorem toNat_exponent {e : ℤ} (moderate : Moderate e) :
    (BitVec.ofNat 8 (e + 150).toNat).toNat = (e + 150).toNat := by
  obtain ⟨low, high⟩ := moderate
  rw [BitVec.toNat_ofNat]
  omega

theorem toNat_fraction {m : Nat} (normal : Normal m) :
    (BitVec.ofNat 23 m).toNat = m - 2 ^ 23 := by
  obtain ⟨low, high⟩ := normal
  rw [BitVec.toNat_ofNat]
  omega

/-- What is packed comes back. -/
theorem unpack_pack_normal (s : Sign) {m : Nat} {e : ℤ} (normal : Normal m)
    (moderate : Moderate e) :
    (Float32.Model.pack (.finite s m e normal.pos)).unpack = .finite s m e normal.pos := by
  show UnpackedFloat.unpack Format.binary32 (UnpackedFloat.pack Format.binary32 _) = _
  rw [pack_normal s normal moderate]
  have exponent := toNat_exponent moderate
  obtain ⟨low, high⟩ := moderate
  have finite : BitVec.ofNat 8 (e + 150).toNat ≠ -1#8 := by
    intro same
    have same := congrArg BitVec.toNat same
    rw [exponent, BitVec.neg_one_eq_allOnes, BitVec.toNat_allOnes] at same
    omega
  have leading : BitVec.ofNat 8 (e + 150).toNat ≠ 0#8 := by
    intro same
    have same := congrArg BitVec.toNat same
    rw [exponent, BitVec.toNat_zero] at same
    omega
  have mantissa : (1#1 ++ BitVec.ofNat 23 m).toNat = m := by
    rw [BitVec.toNat_append, ← Nat.shiftLeft_add_eq_or_of_lt (BitVec.isLt _),
      toNat_fraction normal]
    obtain ⟨low, high⟩ := normal
    simp only [BitVec.toNat_ofNat, Nat.shiftLeft_eq]
    omega
  have sign : Sign.ofBitVec s.toBitVec = s := by cases s <;> rfl
  have bias : Format.binary32.exponentBias = 127 := rfl
  simp only [UnpackedFloat.unpack, unpackMantissa_packComponents, unpackExponent_packComponents,
    unpackSign_packComponents, if_neg finite, if_neg leading, mantissa, sign, exponent, bias]
  congr 1
  omega

/-- What is packed is what the bits stand for. -/
theorem rational_pack (s : Sign) {m : Nat} {e : ℤ} (normal : Normal m) (moderate : Moderate e) :
    (⟨(Float32.Model.pack (.finite s m e normal.pos)).toBits⟩ : Sample).rational?
      = some (s.apply m * (2 : ℚ) ^ e) := by
  have exponent := toNat_exponent moderate
  have fraction := toNat_fraction normal
  have bits : (Float32.Model.pack (.finite s m e normal.pos)).toBits.toNat
      = s.toBitVec.toNat * 2 ^ 31 + (e + 150).toNat * 2 ^ 23 + (m - 2 ^ 23) := by
    show (UnpackedFloat.pack Format.binary32 (.finite s m e normal.pos)).toNat = _
    rw [pack_normal s normal moderate, toNat_packComponents, exponent, fraction]
  obtain ⟨least, most⟩ := normal
  obtain ⟨low, high⟩ := moderate
  have bit : s.toBitVec.toNat < 2 := s.toBitVec.isLt
  have sign : (s.toBitVec.toNat * 2 ^ 31 + (e + 150).toNat * 2 ^ 23 + (m - 2 ^ 23)) / 2 ^ 31
      = s.toBitVec.toNat := by omega
  have middle : (s.toBitVec.toNat * 2 ^ 31 + (e + 150).toNat * 2 ^ 23 + (m - 2 ^ 23)) / 2 ^ 23
      % 2 ^ 8 = (e + 150).toNat := by omega
  have last : (s.toBitVec.toNat * 2 ^ 31 + (e + 150).toNat * 2 ^ 23 + (m - 2 ^ 23)) % 2 ^ 23
      = m - 2 ^ 23 := by omega
  have power : ((e + 150).toNat : ℤ) - 150 = e := by omega
  have whole : 2 ^ 23 + (m - 2 ^ 23) = m := by omega
  simp only [Sample.rational?, bits, sign, middle, last, power, whole]
  rw [if_neg (by omega : ¬ (e + 150).toNat = 255), if_neg (by omega : ¬ (e + 150).toNat = 0)]
  cases s with
  | positive => simp [Sign.toBitVec, Sign.apply]
  | negative => simp [Sign.toBitVec, Sign.apply]

/-! ## Scaling -/

/-- The sign of a whole number, which is positive for zero. -/
def signOf (n : ℤ) : Sign := if n < 0 then .negative else .positive

theorem unpack_nearest {n : ℤ} (nonzero : n ≠ 0) (small : n.natAbs < 2 ^ 24) :
    (Sample.nearest n).toModel.unpack = .finite (signOf n)
      (n.natAbs <<< (23 - n.natAbs.log2)) (n.natAbs.log2 - 23)
      (Normal.of_shift (Int.natAbs_ne_zero.mpr nonzero) small).pos := by
  have positive : n.natAbs ≠ 0 := Int.natAbs_ne_zero.mpr nonzero
  have normal := Normal.of_shift positive small
  have few : n.natAbs.log2 < 24 := (Nat.log2_lt positive).mpr small
  have moderate : Moderate ((n.natAbs.log2 : ℤ) - 23) := by
    rw [Moderate]
    omega
  have magnitude : (UInt64.ofNat n.natAbs).toFloat32.toModel
      = .pack (.finite .positive (n.natAbs <<< (23 - n.natAbs.log2)) (n.natAbs.log2 - 23)
          normal.pos) := by
    show Float32.Model.pack (UnpackedFloat.ofNat Format.binary32 (UInt64.ofNat n.natAbs).toNat) = _
    have fits : (UInt64.ofNat n.natAbs).toNat = n.natAbs := by
      rw [UInt64.toNat_ofNat']
      omega
    rw [fits, ofNat_eq positive small]
  by_cases below : n < 0
  · have negated : (Sample.nearest n).toModel
        = .pack (UnpackedFloat.neg (UInt64.ofNat n.natAbs).toFloat32.toModel.unpack) := by
      rw [Sample.nearest, if_pos below]
      rfl
    rw [negated, magnitude, unpack_pack_normal _ normal moderate, signOf, if_pos below]
    exact unpack_pack_normal _ normal moderate
  · rw [Sample.nearest, if_neg below, magnitude, signOf, if_neg below]
    exact unpack_pack_normal _ normal moderate

theorem unpack_power {k : Nat} (few : k ≤ 23) :
    (Sample.nearest (2 ^ k)).toModel.unpack
      = .finite .positive (2 ^ 23) (k - 23) (by decide) := by
  have magnitude : ((2 : ℤ) ^ k).natAbs = 2 ^ k := by simp [Int.natAbs_pow]
  have small : (2 : Nat) ^ k < 2 ^ 24 := Nat.pow_lt_pow_right (by decide) (by omega)
  rw [unpack_nearest (by positivity) (by rw [magnitude]; exact small)]
  have sign : signOf (2 ^ k) = .positive := if_neg (not_lt.mpr (by positivity))
  have mantissa : 2 ^ k <<< (23 - k) = 2 ^ 23 := by
    rw [Nat.shiftLeft_eq, ← Nat.pow_add, Nat.add_sub_cancel' few]
  simp only [magnitude, Nat.log2_two_pow, sign, mantissa]

/-- The mantissa of a whole number, with its sign. -/
theorem apply_signOf (n : ℤ) (shift : Nat) :
    (signOf n).apply (n.natAbs <<< shift : ℕ) = n * 2 ^ shift := by
  rw [Nat.shiftLeft_eq, signOf]
  by_cases below : n < 0
  · rw [if_pos below, Sign.apply, Nat.cast_mul, Int.ofNat_natAbs_of_nonpos below.le]
    simp
  · rw [if_neg below, Sign.apply, Nat.cast_mul, Int.natAbs_of_nonneg (not_lt.mp below)]
    simp

/-- A quotient by a power of two is exact. -/
theorem rational_quotient {n : ℤ} {k : Nat} (small : n.natAbs < 2 ^ 24) (few : k ≤ 23) :
    (Sample.ofValue (Sample.nearest n / Sample.nearest (2 ^ k))).rational?
      = some ((n : ℚ) / 2 ^ k) := by
  show (⟨(Float32.Model.pack (UnpackedFloat.div Format.binary32 (Sample.nearest n).toModel.unpack
    (Sample.nearest (2 ^ k)).toModel.unpack)).toBits⟩ : Sample).rational? = _
  rw [unpack_power few]
  by_cases zero : n = 0
  · subst zero
    have silent : (Sample.nearest 0).toModel.unpack = .zero .positive := rfl
    rw [silent]
    show Sample.rational? ⟨0⟩ = _
    simp [Sample.rational?]
  · have positive : n.natAbs ≠ 0 := Int.natAbs_ne_zero.mpr zero
    have normal := Normal.of_shift positive small
    have bits : n.natAbs.log2 < 24 := (Nat.log2_lt positive).mpr small
    rw [unpack_nearest zero small, div_power normal (by omega),
      rational_pack _ normal (by rw [Moderate]; omega)]
    congr 1
    have exponent : ((23 - n.natAbs.log2 : ℕ) : ℤ) + (n.natAbs.log2 - 23 - (k - 23) - 23) = -k := by
      omega
    calc (((signOf n).apply (n.natAbs <<< (23 - n.natAbs.log2) : ℕ) : ℤ) : ℚ)
          * 2 ^ ((n.natAbs.log2 : ℤ) - 23 - (k - 23) - 23)
        = n * (2 ^ ((23 - n.natAbs.log2 : ℕ) : ℤ)
          * 2 ^ ((n.natAbs.log2 : ℤ) - 23 - (k - 23) - 23)) := by
          rw [apply_signOf, zpow_natCast]
          push_cast
          ring
      _ = n * 2 ^ (-k : ℤ) := by rw [← zpow_add₀ (by norm_num), exponent]
      _ = n / 2 ^ k := by rw [zpow_neg, zpow_natCast, div_eq_mul_inv]

end Single

/-- A stored number lies within full scale. -/
theorem within_scale (depth : Depth) (n : BitVec depth.bits) :
    -2 ^ (depth.bits - 1) ≤ n.toInt ∧ n.toInt < 2 ^ (depth.bits - 1) := by
  cases depth with
  | eight | sixteen | twentyFour | thirtyTwo =>
    exact ⟨BitVec.le_toInt n, BitVec.toInt_lt⟩

/-- A part of full scale is at least -1 and less than 1. -/
theorem within_one (depth : Depth) (n : BitVec depth.bits) :
    -1 ≤ (n.toInt : ℚ) / 2 ^ (depth.bits - 1) ∧ (n.toInt : ℚ) / 2 ^ (depth.bits - 1) < 1 := by
  obtain ⟨low, high⟩ := within_scale depth n
  have scale : (0 : ℚ) < 2 ^ (depth.bits - 1) := by positivity
  constructor
  · rw [le_div_iff₀ scale, neg_one_mul]
    exact_mod_cast low
  · rw [div_lt_one scale]
    exact_mod_cast high

/-- Stored numbers of up to 24 bits are parts of full scale, exactly. -/
theorem rational_ofSigned {depth : Depth} (narrow : depth ≠ .thirtyTwo) (n : BitVec depth.bits) :
    (Sample.ofSigned depth n).rational? = some ((n.toInt : ℚ) / 2 ^ (depth.bits - 1)) := by
  obtain ⟨low, high⟩ := within_scale depth n
  have few : depth.bits - 1 ≤ 23 := by
    cases depth with
    | eight | sixteen | twentyFour => decide
    | thirtyTwo => exact absurd rfl narrow
  have scale : (2 : ℤ) ^ (depth.bits - 1) ≤ 2 ^ 23 := pow_le_pow_right₀ (by decide) few
  have small : n.toInt.natAbs < 2 ^ 24 := by omega
  have power : (depth.scale : ℤ) = 2 ^ (depth.bits - 1) := by
    rw [Depth.scale, Nat.one_shiftLeft]
    push_cast
    rfl
  rw [Sample.ofSigned, power]
  exact Single.rational_quotient small few

end Windchest
