/-
# Windchest.Section.Basic -- a section: one attack, one release or one wave

A section is a shape, which is everything but its samples, and the handle of a
block in the arena.  Before the block is committed it is a draft: the shape with
its samples beside it.

`Draft.build?` makes a draft of decoded audio.  The block of the draft is the
frames followed by the tails, and a tail repeats its loop for as long as it goes.
-/
import Windchest.Arena
import Windchest.Object.Error
import Windchest.Section.Alignment

namespace Windchest

set_option autoImplicit false

/-- Everything about a section but its samples. -/
structure Shape where
  rate : UInt32
  channels : UInt16
  frames : Nat
  peak : Sample
  loops : List Loop
  ends : List EndPoint
  alignment : Option Alignment
deriving DecidableEq, Repr

namespace Shape

/-- The frames of the block, tails included. -/
def totalFrames (s : Shape) : Nat := blockFrames s.frames s.ends

/-- The samples of the block. -/
def blockLength (s : Shape) : Nat := s.totalFrames * s.channels.toNat

end Shape

/-- A section whose samples are in the arena. -/
structure Section where
  shape : Shape
  block : BlockId
deriving DecidableEq, Repr

/-- The samples of a section, unless they were released. -/
def Section.samples? (s : Section) (a : Arena) : Option (List Sample) := a.block? s.block

/-- A section whose samples are not in the arena yet. -/
structure Draft where
  shape : Shape
  samples : List Sample
deriving DecidableEq, Repr

/-- The section that a draft becomes with the handle of its block. -/
def Draft.commit (d : Draft) (block : BlockId) : Section := ⟨d.shape, block⟩

/-- The first `n` samples of a row repeated for ever. -/
def cycle (n : Nat) (row : List Sample) : List Sample :=
  ((List.replicate (n / row.length + 1) row).flatten).take n

/-- The samples of the tail behind an end point. -/
def EndPoint.tail (e : EndPoint) (channels : Nat) (frames : List Sample) : List Sample :=
  match e.next with
  | some start =>
    cycle (e.tailFrames * channels)
      ((frames.drop (start * channels)).take ((e.frame - start) * channels))
  | none => List.replicate (e.tailFrames * channels) .zero

namespace Draft

/-- The draft of a section with the given loops, with or without an alignment table. -/
def build? (audio : Recording) (loops : List Loop) (aligned : Bool) : Except Unfit Draft :=
  let channels := audio.channels.toNat
  let frames := audio.frames
  if channels = 0 ∨ frames = 0 then .error .noAudio
  else
    match firstMisfit? frames loops with
    | some why => .error (.loop why)
    | none =>
      let main := audio.samples.take (frames * channels)
      let peak := Sample.peak main
      let ends := endPoints frames loops
      .ok {
        shape := {
          rate := audio.rate
          channels := audio.channels
          frames
          peak
          loops
          ends
          alignment := if aligned then some (Alignment.compute main channels peak) else none }
        samples := main ++ ends.flatMap fun e => e.tail channels main }

end Draft

end Windchest
