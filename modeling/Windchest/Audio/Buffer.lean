/-
# Windchest.Audio.Buffer -- frames as a decoder hands them out

A decoder keeps the channels of its frames apart: a buffer has a plane for each channel,
and all planes are as long as the buffer has frames.  Its values are what the format of
the file stores: whole numbers of some depth, with or without a sign, or floating point
numbers of single or double precision.

A recording interleaves the planes and holds samples alone.  Numbers with a sign are
parts of full scale, which is a power of two; numbers without a sign are spread over the
range from -1 to 1.
-/
import Windchest.Audio.Recording

namespace Windchest

set_option autoImplicit false

/-- Frames with a plane for each channel.  No format knows more than 32 channels. -/
structure Planar (α : Type) where
  frames : Nat
  channels : Nat
  few : channels ≤ 32
  value : Fin channels → Fin frames → α

namespace Planar

variable {α : Type}

/-- The samples of all channels, frame by frame. -/
def interleaved {β : Type} (b : Planar α) (convert : α → β) : List β :=
  (List.finRange b.frames).flatMap fun frame =>
    (List.finRange b.channels).map fun channel => convert (b.value channel frame)

/-- The same frames with other values. -/
def map {β : Type} (f : α → β) (b : Planar α) : Planar β :=
  { b with value := fun channel frame => f (b.value channel frame) }

/-- Where a value stands in a row of frames. -/
def position {frames channels : Nat} (channel : Fin channels) (frame : Fin frames) :
    Fin (frames * channels) where
  val := frame.val * channels + channel.val
  isLt :=
    calc frame.val * channels + channel.val
        < frame.val * channels + channels := Nat.add_lt_add_left channel.isLt _
      _ = (frame.val + 1) * channels := (Nat.succ_mul ..).symm
      _ ≤ frames * channels := Nat.mul_le_mul_right _ frame.isLt

/-- The frames in a row of values that is interleaved already. -/
def ofInterleaved (frames channels : Nat) (few : channels ≤ 32)
    (values : Vector α (frames * channels)) : Planar α :=
  ⟨frames, channels, few, fun channel frame => values.get (position channel frame)⟩

end Planar

/-- How many bits a stored whole number has. -/
inductive Depth where
  | eight
  | sixteen
  | twentyFour
  | thirtyTwo
deriving DecidableEq, Repr

/-- The number of bits. -/
def Depth.bits : Depth → Nat
  | eight => 8
  | sixteen => 16
  | twentyFour => 24
  | thirtyTwo => 32

/-- Full scale, which the magnitudes of numbers with a sign do not exceed. -/
def Depth.scale (d : Depth) : Nat := 1 <<< (d.bits - 1)

/-- The largest number without a sign. -/
def Depth.largest (d : Depth) : Nat := (1 <<< d.bits) - 1

namespace Sample

/-- The single precision number next to a whole number. -/
def nearest (n : Int) : Float32 :=
  if n < 0 then -(UInt64.ofNat n.natAbs).toFloat32 else (UInt64.ofNat n.natAbs).toFloat32

/-- A number with a sign, as a part of full scale. -/
def ofSigned (depth : Depth) (n : BitVec depth.bits) : Sample :=
  .ofValue (nearest n.toInt / nearest depth.scale)

/-- A number without a sign, in the range from -1 to 1. -/
def ofUnsigned (depth : Depth) (n : BitVec depth.bits) : Sample :=
  .ofValue (nearest n.toNat / nearest depth.largest * 2 - 1)

/-- The sample next to a double precision number.  What is no number keeps its sign and the front of
its payload. -/
def ofDouble (bits : UInt64) : Sample :=
  let x := Float.ofBits bits
  if x.isNaN then
    let sign := (bits >>> 32).toUInt32 &&& 0x80000000
    let payload := (bits >>> 29).toUInt32 &&& 0x3fffff
    ⟨(sign ||| (0x7fc00000 : UInt32)) ||| payload⟩
  else .ofValue x.toFloat32

end Sample

/-- What a decoder makes of a packet. -/
inductive AudioBuffer where
  | signed (depth : Depth) (b : Planar (BitVec depth.bits))
  | unsigned (depth : Depth) (b : Planar (BitVec depth.bits))
  | single (b : Planar Sample)
  | double (b : Planar UInt64)

namespace AudioBuffer

/-- The number of channels. -/
def channels : AudioBuffer → UInt16
  | signed _ b => .ofNat b.channels
  | unsigned _ b => .ofNat b.channels
  | single b => .ofNat b.channels
  | double b => .ofNat b.channels

/-- The samples of all channels, frame by frame. -/
def samples : AudioBuffer → List Sample
  | signed depth b => b.interleaved (Sample.ofSigned depth)
  | unsigned depth b => b.interleaved (Sample.ofUnsigned depth)
  | single b => b.interleaved id
  | double b => b.interleaved Sample.ofDouble

end AudioBuffer

end Windchest
