/-
# Windchest.Proofs.Digest.Checksum -- what a checksum tells apart

A shift of the remainder is linear over the exclusive or (`shift_xor`), and no two
remainders are shifted to the same one (`shifts_injective`), because the polynomial has
the highest bit, which a shift to the right leaves clear.  So the remainder behind equal
bytes tells the remainders in front of them apart.

At most four bytes go into a remainder as one word (`remainder_eq_shifts`), and words of
the same width are different if their bytes are.  So bytes that differ in a row of at
most four have different checks, whatever stands around it (`ofBytes_ne`).
-/
import Windchest.Digest.Checksum
import Windchest.Proofs.Codec.Words

namespace Windchest.Checksum

set_option autoImplicit false

/-! ## One shift -/

theorem toNat_and_one (r : UInt32) : (r &&& 1).toNat = r.toNat % 2 := by
  rw [UInt32.toNat_and, UInt32.toNat_one, Nat.and_one_is_mod]

theorem and_one_eq_one_iff (r : UInt32) : r &&& 1 = 1 ↔ r.toNat % 2 = 1 := by
  rw [← toNat_and_one, ← UInt32.toNat_inj, UInt32.toNat_one]

/-- Whether a sum is odd, told by its parts. -/
theorem xor_odd_iff (r s : UInt32) :
    (r ^^^ s).toNat % 2 = 1 ↔ ¬ (r.toNat % 2 = 1 ↔ s.toNat % 2 = 1) := by
  rw [UInt32.toNat_xor, Nat.xor_mod_two_eq_one]

theorem xor_shiftRight_one (r s : UInt32) : (r ^^^ s) >>> 1 = (r >>> 1) ^^^ (s >>> 1) := by
  apply UInt32.toNat_inj.mp
  simp only [UInt32.toNat_shiftRight, UInt32.toNat_xor, Nat.shiftRight_xor_distrib]

/-- A shift is linear. -/
theorem shift_xor (r s : UInt32) : shift (r ^^^ s) = shift r ^^^ shift s := by
  simp only [shift, and_one_eq_one_iff, xor_odd_iff, xor_shiftRight_one]
  by_cases first : r.toNat % 2 = 1 <;> by_cases second : s.toNat % 2 = 1
  · simp only [first, second, iff_self, not_true_eq_false, if_true, if_false]
    calc (r >>> 1) ^^^ (s >>> 1)
        = (r >>> 1) ^^^ (s >>> 1) ^^^ (polynomial ^^^ polynomial) := by
          rw [UInt32.xor_self, UInt32.xor_zero]
      _ = (r >>> 1) ^^^ polynomial ^^^ ((s >>> 1) ^^^ polynomial) := by ac_rfl
  · simp only [first, second, iff_false, not_true_eq_false, not_false_eq_true, if_true, if_false]
    ac_rfl
  · simp only [first, second, false_iff, not_true_eq_false, not_false_eq_true, if_true, if_false]
    ac_rfl
  · simp only [first, second, iff_self, not_true_eq_false, if_false]

/-- Nothing but zero is shifted to zero: a remainder that the polynomial is taken from has the
highest bit afterwards. -/
theorem eq_zero_of_shift {r : UInt32} (zero : shift r = 0) : r = 0 := by
  have small := r.toNat_lt
  have half : (r >>> 1).toNat = r.toNat / 2 := by
    rw [UInt32.toNat_shiftRight]
    exact Nat.shiftRight_one _
  simp only [shift, and_one_eq_one_iff] at zero
  apply UInt32.toNat_inj.mp
  rw [UInt32.toNat_zero]
  split at zero
  · have is : r >>> 1 = polynomial := UInt32.xor_eq_zero_iff.mp zero
    have high : polynomial.toNat = 0xEDB88320 := rfl
    rw [is, high] at half
    omega
  · rw [zero, UInt32.toNat_zero] at half
    omega

/-! ## Many shifts -/

theorem shifts_xor (n : Nat) (r s : UInt32) : shifts n (r ^^^ s) = shifts n r ^^^ shifts n s := by
  induction n generalizing r s with
  | zero => rfl
  | succ n ih => rw [shifts, shift_xor, ih, shifts, shifts]

theorem shifts_add (m n : Nat) (r : UInt32) : shifts (m + n) r = shifts n (shifts m r) := by
  induction m generalizing r with
  | zero => rw [Nat.zero_add, shifts]
  | succ m ih => rw [Nat.succ_add, shifts, shifts, ih]

theorem shifts_injective (n : Nat) : Function.Injective (shifts n) := by
  intro r s same
  induction n generalizing r s with
  | zero => exact same
  | succ n ih =>
      have shifted : shift r = shift s := ih same
      apply UInt32.xor_eq_zero_iff.mp
      apply eq_zero_of_shift
      rw [shift_xor, shifted, UInt32.xor_self]

/-- Low bits that are clear are shifted out. -/
theorem shifts_ofNat {k n : Nat} (small : 2 ^ k * n < 2 ^ 32) :
    shifts k (UInt32.ofNat (2 ^ k * n)) = UInt32.ofNat n := by
  induction k with
  | zero => rw [shifts, Nat.pow_zero, Nat.one_mul]
  | succ k ih =>
      have double : 2 ^ (k + 1) * n = 2 * (2 ^ k * n) := by ring
      rw [double] at small ⊢
      have toNat : (UInt32.ofNat (2 * (2 ^ k * n))).toNat = 2 * (2 ^ k * n) :=
        UInt32.toNat_ofNat_of_lt' small
      have even : ¬ UInt32.ofNat (2 * (2 ^ k * n)) &&& 1 = 1 := by
        rw [and_one_eq_one_iff, toNat]
        omega
      have half : UInt32.ofNat (2 * (2 ^ k * n)) >>> 1 = UInt32.ofNat (2 ^ k * n) := by
        apply UInt32.toNat_inj.mp
        have fits : 2 ^ k * n < UInt32.size := Nat.lt_of_le_of_lt (Nat.le_mul_of_pos_left _ (by decide)) small
        rw [UInt32.toNat_shiftRight, toNat, UInt32.toNat_ofNat_of_lt' fits]
        exact (Nat.shiftRight_one _).trans (Nat.mul_div_cancel_left _ (by decide))
      rw [shifts, shift, if_neg even, half, ih (by omega)]

/-! ## Remainders -/

theorem remainder_append (r : UInt32) (front back : Bytes) :
    remainder r (front ++ back) = remainder (remainder r front) back := List.foldl_append

/-- The same bytes tell different remainders in front of them apart. -/
theorem remainder_injective (bytes : Bytes) : Function.Injective fun r => remainder r bytes := by
  induction bytes with
  | nil => exact fun _ _ same => same
  | cons b rest ih =>
      intro r s same
      have pushed : push r b = push s b := ih same
      exact (UInt32.xor_left_inj _).mp (shifts_injective 8 pushed)

/-- A number whose low byte is taken apart. -/
theorem ofNat_byte_add (b : UInt8) (n : Nat) :
    UInt32.ofNat (b.toNat + 256 * n) = b.toUInt32 ^^^ UInt32.ofNat (2 ^ 8 * n) := by
  have split : b.toNat + 256 * n = b.toNat ^^^ (2 ^ 8 * n) := by
    apply Nat.eq_of_testBit_eq
    intro i
    have small : b.toNat < 2 ^ 8 := b.toNat_lt
    rw [show b.toNat + 256 * n = 2 ^ 8 * n + b.toNat by omega, Nat.testBit_two_pow_mul_add _ small,
      Nat.testBit_xor, Nat.testBit_two_pow_mul]
    by_cases low : i < 8
    · simp [low, Nat.not_le.mpr low]
    · have clear : b.toNat.testBit i = false :=
        Nat.testBit_lt_two_pow (small.trans_le (Nat.pow_le_pow_right (by decide) (Nat.not_lt.mp low)))
      simp [low, Nat.not_lt.mp low, clear]
  have word : UInt32.ofNat b.toNat = b.toUInt32 := by
    apply UInt32.toNat_inj.mp
    rw [UInt8.toNat_toUInt32, UInt32.toNat_ofNat_of_lt' (b.toNat_lt.trans (by decide))]
  rw [split, UInt32.ofNat_xor, word]

/-- At most four bytes go into a remainder as one word. -/
theorem remainder_eq_shifts (r : UInt32) {bytes : Bytes} (few : bytes.length ≤ 4) :
    remainder r bytes = shifts (8 * bytes.length) (r ^^^ UInt32.ofNat (Bytes.toNat bytes)) := by
  induction bytes generalizing r with
  | nil => exact (UInt32.xor_zero (a := r)).symm
  | cons b rest ih =>
      have fits : 2 ^ 8 * Bytes.toNat rest < 2 ^ 32 := by
        have small := Bytes.toNat_lt rest
        have few : 256 ^ rest.length ≤ 256 ^ 3 :=
          Nat.pow_le_pow_right (by decide) (Nat.le_of_succ_le_succ few)
        omega
      calc remainder r (b :: rest) = remainder (push r b) rest := rfl
        _ = shifts (8 * rest.length) (push r b ^^^ UInt32.ofNat (Bytes.toNat rest)) :=
            ih _ (Nat.le_of_succ_le few)
        _ = shifts (8 * rest.length)
              (shifts 8 (r ^^^ b.toUInt32 ^^^ UInt32.ofNat (2 ^ 8 * Bytes.toNat rest))) := by
            rw [push, shifts_xor 8 (r ^^^ b.toUInt32), shifts_ofNat fits]
        _ = shifts (8 * (b :: rest).length) (r ^^^ UInt32.ofNat (Bytes.toNat (b :: rest))) := by
            rw [← shifts_add, Bytes.toNat, ofNat_byte_add, UInt32.xor_assoc, List.length_cons,
              Nat.mul_succ, Nat.add_comm]

/-- At most four bytes are told apart by any remainder. -/
theorem remainder_ne (r : UInt32) {old new : Bytes} (few : old.length ≤ 4)
    (length : new.length = old.length) (differs : new ≠ old) : remainder r new ≠ remainder r old := by
  intro same
  rw [remainder_eq_shifts r few, remainder_eq_shifts r (length ▸ few), length] at same
  have words := (UInt32.xor_right_inj _).mp (shifts_injective _ same)
  have fits (bytes : Bytes) (few : bytes.length ≤ 4) : Bytes.toNat bytes < 2 ^ 32 :=
    (Bytes.toNat_lt bytes).trans_le (Nat.pow_le_pow_right (by decide : 0 < 256) few)
  have numbers : Bytes.toNat new = Bytes.toNat old := by
    have := congrArg UInt32.toNat words
    rwa [UInt32.toNat_ofNat_of_lt' (fits new (length ▸ few)),
      UInt32.toNat_ofNat_of_lt' (fits old few)] at this
  apply differs
  rw [← Bytes.ofNat_toNat new, ← Bytes.ofNat_toNat old, numbers, length]

/-- **Bytes that differ in a row of at most four have different checks.** -/
theorem ofBytes_ne (front back : Bytes) {old new : Bytes} (few : old.length ≤ 4)
    (length : new.length = old.length) (differs : new ≠ old) :
    ofBytes (front ++ new ++ back) ≠ ofBytes (front ++ old ++ back) := by
  intro same
  have remainders := (UInt32.xor_left_inj _).mp same
  simp only [remainder_append] at remainders
  exact remainder_ne _ few length differs (remainder_injective back remainders)

/-- The check value that the catalogues of such checks give for the nine digits. -/
example : ofBytes (Bytes.ofText "123456789") = 0xCBF43926 := by decide +kernel

end Windchest.Checksum
