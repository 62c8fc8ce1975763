/-
# Windchest.Sample -- one sample value, bit for bit

Samples are single precision numbers.  The cache stores their bits, and a value
that is not a number keeps its payload there, so a sample is its bits; `value`
is the number that arithmetic works on.

`peak` is the largest magnitude in a list.  Magnitudes have a clear sign bit, so
they are ordered as their bits are, and values that are not numbers, whose bits
lie above those of infinity, are left out.
-/
import Windchest.Bytes

namespace Windchest

set_option autoImplicit false

/-- A sample value, as the bits of a single precision number. -/
structure Sample where
  bits : UInt32
deriving DecidableEq, Repr, Inhabited

namespace Sample

/-- Silence: positive zero. -/
def zero : Sample := ⟨0⟩

/-- The number that the bits stand for. -/
def value (s : Sample) : Float32 := Float32.ofBits s.bits

/-- The sample that holds a number. -/
def ofValue (x : Float32) : Sample := ⟨x.toBits⟩

/-- The bits of the absolute value. -/
def magnitude (s : Sample) : UInt32 := s.bits &&& 0x7fffffff

/-- Whether the bits stand for no number. -/
def isNaN (s : Sample) : Bool := 0x7f800000 < s.magnitude

/-- The larger of a magnitude and that of a sample, values that are not numbers aside. -/
def louder (peak : UInt32) (s : Sample) : UInt32 :=
  if s.isNaN then peak else max peak s.magnitude

/-- The largest magnitude in the list, or zero if it holds no number. -/
def peak (samples : List Sample) : Sample := ⟨samples.foldl louder 0⟩

/-- The four bytes of a sample. -/
def encode (s : Sample) : Bytes := Bytes.ofNat 4 s.bits.toNat

/-- The sample whose bytes are given. -/
def decode (bytes : Bytes) : Sample := ⟨UInt32.ofNat bytes.toNat⟩

/-- The samples in consecutive groups of four bytes; up to three bytes at the end are left over. -/
def decodeAll : Bytes → List Sample
  | a :: b :: c :: d :: rest => decode [a, b, c, d] :: decodeAll rest
  | _ => []

end Sample

end Windchest
