/-
# Windchest.Proofs.Codec.Words -- numbers in bytes

A number that fits into so many bytes is read back from them (`Bytes.toNat_ofNat`), and
bytes are what is written for the number they spell (`Bytes.ofNat_toNat`).
-/
import Mathlib
import Windchest.Bytes

namespace Windchest

set_option autoImplicit false

namespace Bytes

@[simp] theorem length_ofNat (w n : Nat) : (ofNat w n).length = w := by
  induction w generalizing n with
  | zero => rfl
  | succ w ih => simp [ofNat, ih]

theorem toNat_ofNat {w n : Nat} (fits : n < 256 ^ w) : toNat (ofNat w n) = n := by
  induction w generalizing n with
  | zero => simp at fits; simp [ofNat, toNat, fits]
  | succ w ih =>
    have high : n / 256 < 256 ^ w := by
      apply (Nat.div_lt_iff_lt_mul (by decide)).mpr
      simpa [Nat.pow_succ] using fits
    simp only [ofNat, toNat, ih high, UInt8.toNat_ofNat']
    omega

theorem toNat_lt (bytes : Bytes) : toNat bytes < 256 ^ bytes.length := by
  induction bytes with
  | nil => decide
  | cons b rest ih =>
    have := b.toNat_lt
    simp only [toNat, List.length_cons, Nat.pow_succ]
    omega

theorem ofNat_toNat (bytes : Bytes) : ofNat bytes.length (toNat bytes) = bytes := by
  induction bytes with
  | nil => rfl
  | cons b rest ih =>
    have small := b.toNat_lt
    have low : (b.toNat + 256 * toNat rest) % 256 = b.toNat := by omega
    have high : (b.toNat + 256 * toNat rest) / 256 = toNat rest := by omega
    simp only [List.length_cons, ofNat, toNat, low, high, ih]
    simp

end Bytes

end Windchest
