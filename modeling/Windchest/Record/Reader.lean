/-
# Windchest.Record.Reader -- reading the fields of a record

A reader takes fields from the front of the unread bytes.  A field of fixed size
that the bytes do not suffice for is not begun: the bytes stay unread.  Counts and
lengths are compared with what is left of the record before anything is made of
them, so a damaged record cannot ask for more than its own size.
-/
import Windchest.Cache.Error
import Windchest.Fault
import Windchest.Record.Field

namespace Windchest

set_option autoImplicit false

/-- Reads from the front of the unread bytes of a record. -/
abbrev Reader := EStateM (Failure CacheError) Bytes

namespace Reader

/-- Fails because the record is malformed. -/
def malformed {α : Type} (why : Malformation) : Reader α := throw (.error (.malformed why))

/-- The number of unread bytes. -/
def remaining : Reader Nat := return (← get).length

/-- The next `n` bytes. -/
def take (n : Nat) : Reader Bytes := do
  let unread ← get
  if n ≤ unread.length then
    set (unread.drop n)
    return unread.take n
  else throw (.error (.truncated n unread.length))

/-- The number in the next `width` bytes. -/
def number (width : Nat) : Reader Nat := return (← take width).toNat

/-- The next byte. -/
def u8 : Reader UInt8 := return UInt8.ofNat (← number 1)

/-- The next truth value. -/
def bool : Reader Bool := do
  let value ← u8
  if value = 0 then return false
  else if value = 1 then return true
  else malformed (.boolean value)

/-- The next 16-bit number. -/
def u16 : Reader UInt16 := return UInt16.ofNat (← number 2)

/-- The next 32-bit number. -/
def u32 : Reader UInt32 := return UInt32.ofNat (← number 4)

/-- The next 64-bit number. -/
def u64 : Reader UInt64 := return UInt64.ofNat (← number 8)

/-- The next single precision number. -/
def sample : Reader Sample := return Sample.decode (← take 4)

/-- The next count of elements that take at least `size` bytes each.  If they take more bytes than a
word counts, the largest word stands for them. -/
def count (size : Nat) : Reader Nat := do
  let n := (← u32).toNat
  let left ← remaining
  let needed := min (n * max size 1) maxWord
  if needed ≤ left then return n else malformed (.count n left)

/-- The next length of a list of samples, measured against what is left as a count is. -/
def samplesLength : Reader Nat := do
  let n := (← u64).toNat
  let left ← remaining
  let needed := min (4 * n) maxWord
  if needed ≤ left then return n else throw (.error (.truncated needed left))

/-- The next `n` samples. -/
def samples (n : Nat) : Reader (List Sample) := return Sample.decodeAll (← take (4 * n))

/-- Fails unless everything is read. -/
def finish : Reader Unit := do
  let left ← remaining
  if left = 0 then return () else malformed (.trailing left)

/-- Runs `read` `n` times. -/
def times {α : Type} (read : Reader α) : Nat → Reader (List α)
  | 0 => return []
  | n + 1 => do
    let first ← read
    let rest ← times read n
    return first :: rest

/-- The next field of a kind. -/
def field : FieldKind → Reader Field
  | .u8 => return .u8 (← u8)
  | .bool => return .bool (← bool)
  | .u16 => return .u16 (← u16)
  | .u32 => return .u32 (← u32)
  | .u64 => return .u64 (← u64)
  | .number => return .number (← sample)
  | .samples => do
    let n ← samplesLength
    return .samples (← samples n)

end Reader

end Windchest
