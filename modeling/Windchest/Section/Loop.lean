/-
# Windchest.Section.Loop -- loops, end points and where their tails lie

A section's block holds its frames and then one tail per end point, so that the
renderer can read a little past an end point without wrapping.  A section without
loops has a single end, with a silent tail; otherwise every loop is an end point
whose tail repeats the loop.  Short loops get a longer tail.
-/
import Windchest.Bytes

namespace Windchest

set_option autoImplicit false

/-- The frames of read-ahead behind every end point. -/
def readAheadFrames : Nat := 16

/-- Loops shorter than this are unrolled into their tail. -/
def shortLoopFrames : Nat := 2048

/-- A loop within a section.  `stop` is the first frame after it. -/
structure Loop where
  start : UInt32
  stop : UInt32
deriving DecidableEq, Repr

namespace Loop

/-- The number of frames in the loop. -/
def length (l : Loop) : Nat := l.stop.toNat - l.start.toNat

/-- Whether the loop has no frames. -/
def isEmpty (l : Loop) : Bool := l.length == 0

/-- The frames of read-ahead behind the loop. -/
def tailFrames (l : Loop) : Nat :=
  if l.length < shortLoopFrames then shortLoopFrames + readAheadFrames else readAheadFrames

/-- A loop fits if it is not empty and ends within the frames. -/
def Fits (l : Loop) (frames : Nat) : Prop := l.start < l.stop ∧ l.stop.toNat ≤ frames

instance (l : Loop) (frames : Nat) : Decidable (l.Fits frames) :=
  inferInstanceAs (Decidable (_ ∧ _))

end Loop

/-- A loop that does not fit into its section. -/
structure Misfit where
  loop : Loop
  frames : Nat
deriving DecidableEq, Repr

/-- What the user reads about a loop that does not fit. -/
def Misfit.message (m : Misfit) : String :=
  s!"loop {m.loop.start}..{m.loop.stop} does not fit in {m.frames} frames"

/-- The first loop that does not fit. -/
def firstMisfit? (frames : Nat) (loops : List Loop) : Option Misfit :=
  (loops.find? fun l => ¬ l.Fits frames).map (⟨·, frames⟩)

/-- Where playback goes at an end point, and where the tail behind it lies. -/
structure EndPoint where
  /-- The first frame that is not played. -/
  frame : Nat
  /-- The frame where playback goes on, if it does. -/
  next : Option Nat
  /-- The offset of the tail in the block, in frames. -/
  tailOffset : Nat
  tailFrames : Nat
deriving DecidableEq, Repr

/-- The end points of loops whose first tail lies at `offset`. -/
def loopEnds (offset : Nat) : List Loop → List EndPoint
  | [] => []
  | l :: rest =>
    ⟨l.stop.toNat, some l.start.toNat, offset, l.tailFrames⟩ :: loopEnds (offset + l.tailFrames) rest

/-- The end points of a section. -/
def endPoints (frames : Nat) (loops : List Loop) : List EndPoint :=
  if loops.isEmpty then [⟨frames, none, frames, readAheadFrames⟩] else loopEnds frames loops

/-- The frames of a block with the given end points, tails included. -/
def blockFrames (frames : Nat) (ends : List EndPoint) : Nat :=
  match ends.getLast? with
  | some e => e.tailOffset + e.tailFrames
  | none => frames

end Windchest
