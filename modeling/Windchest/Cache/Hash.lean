/-
# Windchest.Cache.Hash -- the hash that decides whether a cache may be trusted

A cache belongs to one definition and one layout of the data in it.  Its hash covers
the version of the format, the sizes of all encoded structures, the constants that
shape derived data, and the hash of the definition's text.
-/
import Windchest.Digest.Tree
import Windchest.Object.Tremulant

namespace Windchest

set_option autoImplicit false

/-- A hash of 32 bytes. -/
structure Hash where
  bytes : Bytes
deriving DecidableEq, Repr

namespace Hash

/-- The bytes of a hash. -/
def size : Nat := 32

/-- The hash of a byte string. -/
def of (bytes : Bytes) : Hash := ⟨Tree.digest bytes⟩

/-- The hash in hexadecimal. -/
def toHex (h : Hash) : String := h.bytes.toHex

end Hash

/-- The version of the cache format. -/
def formatVersion : UInt16 := 1

/-- The sizes of the structures that a cache encodes. -/
def cacheLayout : List (String × UInt64) :=
  [("AudioSection", 216), ("LoopPoint", 8), ("EndSegment", 40), ("ReleaseAlignTable", 128),
    ("PipeSample", 152), ("TremulantWave", 512), ("sample", 4)]

/-- The constants that shape derived sample data. -/
def cacheConstants : List (String × UInt64) :=
  [("MAX_READ_AHEAD_FRAMES", .ofNat readAheadFrames), ("SHORT_LOOP_FRAMES", .ofNat shortLoopFrames),
    ("RELEASE_ALIGN_WINDOW", .ofNat alignWindow), ("ALIGN_AMPLITUDE_BUCKETS", .ofNat alignBuckets),
    ("TREMULANT_RELEASE_PERIODS", .ofNat releasePeriods)]

/-- Everything that the hash of a cache covers. -/
structure HashInputs where
  version : UInt16
  layout : List (String × UInt64)
  constants : List (String × UInt64)
  /-- The hash of the definition. -/
  definition : Hash
deriving DecidableEq, Repr

namespace HashInputs

/-- The inputs of this version for a definition. -/
def current (definition : Hash) : HashInputs :=
  ⟨formatVersion, cacheLayout, cacheConstants, definition⟩

/-- A name and its value, as they are hashed. -/
def entry (e : String × UInt64) : Bytes :=
  Bytes.ofText e.1 ++ Bytes.ofText "=" ++ Bytes.ofNat 8 e.2.toNat

/-- The byte string that is hashed. -/
def encode (i : HashInputs) : Bytes :=
  Bytes.ofText "pipecache-global-v1" ++ Bytes.ofNat 2 i.version.toNat
    ++ (i.layout ++ i.constants).flatMap entry ++ Bytes.ofText "organ:" ++ i.definition.bytes

/-- The hash over all inputs. -/
def digest (i : HashInputs) : Hash := .of i.encode

end HashInputs

/-- The hash that the cache of a definition carries, given the hash of its text. -/
def cacheHash (definition : Hash) : Hash := (HashInputs.current definition).digest

end Windchest
