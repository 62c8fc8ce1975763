/-
# Windchest.Section.Alignment -- where a release can take over from an attack

A release should start in phase with the attack that it replaces.  Amplitudes
relative to the peak are sorted into sixteen buckets, each once for a rising and
once for a falling wave; the table holds, for each of these slots, the first frame
near the start of the release that falls into it.  Only the first channel counts.
A slot that no frame falls into holds frame 0.
-/
import Windchest.Sample

namespace Windchest

set_option autoImplicit false

/-- The frames at the start of a release that are searched. -/
def alignWindow : Nat := 4096

/-- The number of amplitude buckets. -/
def alignBuckets : Nat := 16

/-- The number of slots: a bucket and a direction each. -/
def alignSlots : Nat := alignBuckets * 2

/-- The first frame of each slot. -/
structure Alignment where
  positions : List UInt32
deriving DecidableEq, Repr

namespace Alignment

/-- The slot of an amplitude relative to the peak. -/
def slot (relative : Float32) (rising : Bool) : Nat :=
  min (relative.abs * 16).toUInt64.toNat (alignBuckets - 1) * 2 + rising.toNat

/-- The first channel of the frames. -/
def firstChannel (channels : Nat) (samples : List Sample) : List Float32 :=
  (List.range (samples.length / channels)).map fun frame =>
    (samples.getD (frame * channels) .zero).value

/-- The slots of consecutive values after `previous`. -/
def slots (peak previous : Float32) : List Float32 → List Nat
  | [] => []
  | value :: rest => slot (value / peak) (decide (previous < value)) :: slots peak value rest

/-- The slots of the frames behind the first one, as far as a release is searched. -/
def found (samples : List Sample) (channels : Nat) (peak : Sample) : List Nat :=
  match firstChannel channels (samples.take (alignWindow * channels)) with
  | [] => []
  | first :: rest => if 0 < peak.value then slots peak.value first rest else []

/-- The first frame with a slot, or the first of all. -/
def frameOf (found : List Nat) (s : Nat) : UInt32 :=
  match found.idxOf? s with
  | some i => UInt32.ofNat (i + 1)
  | none => 0

/-- The table of a release. -/
def compute (samples : List Sample) (channels : Nat) (peak : Sample) : Alignment :=
  ⟨(List.range alignSlots).map (frameOf (found samples channels peak))⟩

/-- The frame at which a release takes over at a relative amplitude. -/
def position (t : Alignment) (relative : Float32) (rising : Bool) : Nat :=
  (t.positions.getD (slot relative rising) 0).toNat

end Alignment

end Windchest
