/-
# Windchest.Record.Field -- the fields that records are made of

A record is a row of fields without names or tags; who reads it knows their kinds.
Numbers are little endian, a truth value is one byte, and a list of samples is its
length in eight bytes followed by the bits of each sample.
-/
import Windchest.Sample

namespace Windchest

set_option autoImplicit false

/-- A field of a record. -/
inductive Field where
  | u8 (value : UInt8)
  | bool (value : Bool)
  | u16 (value : UInt16)
  | u32 (value : UInt32)
  | u64 (value : UInt64)
  | number (value : Sample)
  | samples (values : List Sample)
deriving DecidableEq, Repr

namespace Field

/-- The bytes of a field. -/
def encode : Field → Bytes
  | u8 value => [value]
  | bool value => [if value then 1 else 0]
  | u16 value => Bytes.ofNat 2 value.toNat
  | u32 value => Bytes.ofNat 4 value.toNat
  | u64 value => Bytes.ofNat 8 value.toNat
  | number value => value.encode
  | samples values => Bytes.ofNat 8 values.length ++ values.flatMap Sample.encode

/-- The bytes of a row of fields. -/
def encodeAll (fields : List Field) : Bytes := fields.flatMap encode

end Field

/-- The kinds of fields. -/
inductive FieldKind where
  | u8
  | bool
  | u16
  | u32
  | u64
  | number
  | samples
deriving DecidableEq, Repr

/-- The kind of a field. -/
def Field.kind : Field → FieldKind
  | u8 _ => .u8
  | bool _ => .bool
  | u16 _ => .u16
  | u32 _ => .u32
  | u64 _ => .u64
  | number _ => .number
  | samples _ => .samples

end Windchest
