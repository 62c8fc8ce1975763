/-
# Windchest.Arena -- bounded memory for sample blocks

All sample data of an organ lives in one arena.  It grants at most `limit` bytes;
a buffer is reserved before it is filled, and is then either committed, which
makes it a block for good, or dropped, which gives its bytes back.  `releaseAll`
lets go of every block at once: a handle carries the generation it was issued in
and resolves in no later one.  Generations are counted without an end, which is what a
word does as long as everything is released fewer than 2^64 times.

A request is refused exactly if it does not fit below the limit next to what is in
use, and a refusal changes nothing.  A request that fits but is larger than any
buffer can be is a fault; what it reserved stays reserved.
-/
import Windchest.Sample
import Windchest.Fault

namespace Windchest

set_option autoImplicit false

/-- A request that the arena has no room for. -/
structure OutOfMemory where
  requested : Nat
  used : Nat
  limit : Nat
deriving DecidableEq, Repr

/-- What the user reads about a refused request. -/
def OutOfMemory.message (e : OutOfMemory) : String :=
  s!"out of memory: {e.requested} bytes requested, {e.used} of {e.limit} bytes in use"

/-- A handle to a committed block. -/
structure BlockId where
  index : Nat
  generation : Nat
deriving DecidableEq, Repr

/-- Reserved memory that is not committed yet. -/
structure Buffer where
  samples : List Sample
  /-- The bytes that were reserved for it. -/
  bytes : Nat
deriving DecidableEq, Repr

/-- Overwrites the front of the buffer.  Samples beyond its end are left out. -/
def Buffer.fill (b : Buffer) (samples : List Sample) : Buffer :=
  { b with samples := samples.take b.samples.length ++ b.samples.drop samples.length }

/-- Bounded memory for blocks of samples. -/
structure Arena where
  /-- The most bytes that may be in use. -/
  limit : Nat
  /-- The bytes that are reserved or committed. -/
  used : Nat := 0
  /-- The committed blocks, oldest first. -/
  blocks : List (List Sample) := []
  /-- How often everything was released. -/
  generation : Nat := 0
deriving Repr

/-- The answer to a request for a buffer. -/
inductive Grant where
  | granted (buffer : Buffer)
  | refused (why : OutOfMemory)
  /-- The bytes are reserved, but no buffer of that size can exist. -/
  | impossible

namespace Arena

/-- An arena that every request fits into which a word can count. -/
def unbounded : Arena := { limit := maxWord }

/-- The bytes of `n` samples, or the largest word if they are more than that. -/
def bytesFor (n : Nat) : Nat := min (4 * n) maxWord

/-- The largest buffer there can be, in bytes. -/
def maxBuffer : Nat := 0x7fffffffffffffff

/-- Counts `bytes` more as used, if there is room. -/
def reserve (a : Arena) (bytes : Nat) : Except OutOfMemory Arena :=
  if a.used + bytes ≤ min a.limit maxWord then .ok { a with used := a.used + bytes }
  else .error ⟨bytes, a.used, a.limit⟩

/-- Asks for a buffer of `n` silent samples. -/
def allocate (a : Arena) (n : Nat) : Grant × Arena :=
  match a.reserve (bytesFor n) with
  | .error why => (.refused why, a)
  | .ok reserved =>
    if 4 * n ≤ maxBuffer then (.granted ⟨List.replicate n .zero, bytesFor n⟩, reserved)
    else (.impossible, reserved)

/-- Gives the bytes of a buffer back. -/
def drop (a : Arena) (b : Buffer) : Arena := { a with used := a.used - b.bytes }

/-- Makes the buffer a block. -/
def commit (a : Arena) (b : Buffer) : BlockId × Arena :=
  (⟨a.blocks.length, a.generation⟩, { a with blocks := a.blocks ++ [b.samples] })

/-- The samples of a block, unless it has been released. -/
def block? (a : Arena) (id : BlockId) : Option (List Sample) :=
  if id.generation = a.generation then a.blocks[id.index]? else none

/-- Lets go of every block. -/
def releaseAll (a : Arena) : Arena :=
  { a with used := 0, blocks := [], generation := a.generation + 1 }

/-- One line about the arena. -/
def describe (a : Arena) : String :=
  s!"SampleArena \x7b limit: {a.limit}, used: {a.used}, blocks: {a.blocks.length} \x7d"

end Arena

end Windchest
