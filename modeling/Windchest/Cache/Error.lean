/-
# Windchest.Cache.Error -- why a cache file or one of its records is of no use
-/
import Windchest.Object.Error

namespace Windchest

set_option autoImplicit false

/-- What is wrong with the content of an intact record. -/
inductive Malformation where
  | boolean (value : UInt8)
  | count (n remaining : Nat)
  | trailing (n : Nat)
  | emptySection
  | loop (why : Misfit)
  | endPoints
  | alignment (position : UInt32) (frames : Nat)
  | sampleCount (stored expected : Nat)
  | notResident (index : Nat)
  | attacks (title : String) (stored defined : Nat)
  | releases (title : String) (stored defined : Nat)
  | channels (clash : ChannelClash)
  | notMono (title : String)
  /-- A reason that an object of another kind gives. -/
  | other (text : String)
deriving DecidableEq, Repr

/-- What the user reads about a malformed record. -/
def Malformation.message : Malformation → String
  | .boolean value => s!"invalid boolean value {value}"
  | .count n remaining => s!"count {n} exceeds remaining record size {remaining}"
  | .trailing n => s!"{n} trailing bytes in record"
  | .emptySection => "empty section"
  | .loop why => why.message
  | .endPoints => "end segments do not match loops"
  | .alignment position frames => s!"alignment position {position} beyond {frames} frames"
  | .sampleCount stored expected => s!"section holds {stored} samples, expected {expected}"
  | .notResident index => s!"block {index} is not resident"
  | .attacks title stored defined => s!"{title}: cache holds {stored} attacks, definition has {defined}"
  | .releases title stored defined => s!"{title}: cache holds {stored} releases, definition has {defined}"
  | .channels clash => clash.message
  | .notMono title => s!"{title}: tremulant waves are mono"
  | .other text => text

/-- Why a cache, or a record of it, could not be read or written. -/
inductive CacheError where
  /-- The file could not be read or written. -/
  | file
  | badMagic
  | otherHash
  | noHash
  | truncated (needed available : Nat)
  | checksum
  /-- There are fewer records than objects. -/
  | tooShort
  | malformed (why : Malformation)
  /-- The object of that title is not loaded. -/
  | notReady (title : String)
deriving DecidableEq, Repr

/-- What the user reads about a cache that is of no use. -/
def CacheError.message : CacheError → String
  | .file => "Cache I/O error: the file could not be read or written"
  | .badMagic => "Cache file had bad magic"
  | .otherHash => "Cache file had a different hash"
  | .noHash => "Cache file ended inside the global hash"
  | .truncated needed available => s!"Cache record truncated: needed {needed} bytes, {available} available"
  | .checksum => "Cache record checksum mismatch"
  | .tooShort => "Cache ended before all objects were read"
  | .malformed why => s!"Malformed cache record: {why.message}"
  | .notReady title => s!"{title} is not loaded and cannot be cached"

end Windchest
