/-
# Windchest.Section.Codec -- sections in cache records

A section is written field by field: its shape, then its samples.  Reading one
checks every field against the others, so that a damaged record is refused and
never becomes a section with end points or tails outside of its block.  The sizes
are computed in words; a record whose numbers outgrow them ends in a fault.
-/
import Windchest.Record.Reader
import Windchest.Section.Basic

namespace Windchest

set_option autoImplicit false

/-- Fails with a fault unless the number fits into a word. -/
def Reader.inWord (n : Nat) (why : Fault) : Reader Unit :=
  if n ≤ maxWord then return () else throw (.fault why)

namespace Loop

/-- The fields of a loop. -/
def fields (l : Loop) : List Field := [.u32 l.start, .u32 l.stop]

/-- The next loop. -/
def read : Reader Loop := do
  let start ← Reader.u32
  let stop ← Reader.u32
  return ⟨start, stop⟩

end Loop

namespace EndPoint

/-- The bytes that an end point takes. -/
def size : Nat := 33

/-- The fields of an end point. -/
def fields (e : EndPoint) : List Field :=
  [.u64 (.ofNat e.frame), .bool e.next.isSome, .u64 (.ofNat (e.next.getD 0)),
    .u64 (.ofNat e.tailOffset), .u64 (.ofNat e.tailFrames)]

/-- The next end point. -/
def read : Reader EndPoint := do
  let frame := (← Reader.u64).toNat
  let goesOn ← Reader.bool
  let next := (← Reader.u64).toNat
  let tailOffset := (← Reader.u64).toNat
  let tailFrames := (← Reader.u64).toNat
  return ⟨frame, if goesOn then some next else none, tailOffset, tailFrames⟩

end EndPoint

namespace Alignment

/-- The fields of an alignment table. -/
def fields (t : Alignment) : List Field := t.positions.map .u32

/-- The next position, which has to be one of the frames. -/
def readPosition (frames : Nat) : Reader UInt32 := do
  let position ← Reader.u32
  if position.toNat < frames then return position
  else Reader.malformed (.alignment position frames)

/-- The next alignment table of a section with that many frames. -/
def read (frames : Nat) : Reader Alignment :=
  return ⟨← Reader.times (readPosition frames) alignSlots⟩

end Alignment

namespace Shape

/-- The fields of a shape. -/
def fields (s : Shape) : List Field :=
  [.u32 s.rate, .u16 s.channels, .u64 (.ofNat s.frames), .number s.peak, .u32 (.ofNat s.loops.length)]
    ++ s.loops.flatMap Loop.fields
    ++ .u32 (.ofNat s.ends.length) :: s.ends.flatMap EndPoint.fields
    ++ .bool s.alignment.isSome :: (s.alignment.map Alignment.fields).getD []

/-- The next shape. -/
def read : Reader Shape := do
  let rate ← Reader.u32
  let channels ← Reader.u16
  let frames := (← Reader.u64).toNat
  let peak ← Reader.sample
  if channels = 0 ∨ frames = 0 then Reader.malformed .emptySection
  let loops ← Reader.times Loop.read (← Reader.count 8)
  match firstMisfit? frames loops with
  | some why => Reader.malformed (.loop why)
  | none =>
    let ends ← Reader.times EndPoint.read (← Reader.count EndPoint.size)
    -- The offset behind the last tail is only added up where there are loops.
    unless loops.isEmpty do Reader.inWord (blockFrames frames (endPoints frames loops)) .sumOverflow
    if ends ≠ endPoints frames loops then Reader.malformed .endPoints
    let alignment ← if ← Reader.bool then some <$> Alignment.read frames else pure none
    return { rate, channels, frames, peak, loops, ends, alignment }

end Shape

namespace Draft

/-- The fields of a section. -/
def fields (d : Draft) : List Field := d.shape.fields ++ [.samples d.samples]

/-- The next section. -/
def read : Reader Draft := do
  let shape ← Shape.read
  let stored ← Reader.samplesLength
  Reader.inWord shape.totalFrames .sumOverflow
  Reader.inWord shape.blockLength .productOverflow
  if stored ≠ shape.blockLength then Reader.malformed (.sampleCount stored shape.blockLength)
  return ⟨shape, ← Reader.samples stored⟩

end Draft

/-- The bytes of a section in a record, if its samples are still there. -/
def Section.encode (s : Section) (a : Arena) : Except CacheError Bytes :=
  match s.samples? a with
  | some samples => .ok (Field.encodeAll (Draft.fields ⟨s.shape, samples⟩))
  | none => .error (.malformed (.notResident s.block.index))

end Windchest
