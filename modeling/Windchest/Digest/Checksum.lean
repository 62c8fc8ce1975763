/-
# Windchest.Digest.Checksum -- the 32-bit cyclic redundancy check of a record

The check of a byte string is the remainder of its bits under the reflected
polynomial `0xEDB88320`, started from all ones and complemented at the end.  Each
byte is folded in by eight shifts of the remainder.
-/
import Windchest.Bytes

namespace Windchest.Checksum

set_option autoImplicit false

/-- The generator polynomial, with its bits reversed. -/
def polynomial : UInt32 := 0xEDB88320

/-- One shift of the remainder. -/
def shift (r : UInt32) : UInt32 :=
  if r &&& 1 = 1 then (r >>> 1) ^^^ polynomial else r >>> 1

/-- `n` shifts of the remainder. -/
def shifts : Nat → UInt32 → UInt32
  | 0, r => r
  | n + 1, r => shifts n (shift r)

/-- The remainder after one more byte. -/
def push (r : UInt32) (b : UInt8) : UInt32 := shifts 8 (r ^^^ b.toUInt32)

/-- The remainder after the bytes, from a given one. -/
def remainder (r : UInt32) (bytes : Bytes) : UInt32 := bytes.foldl push r

/-- The check value of a byte string. -/
def ofBytes (bytes : Bytes) : UInt32 := remainder 0xFFFFFFFF bytes ^^^ 0xFFFFFFFF

end Windchest.Checksum
