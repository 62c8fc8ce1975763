/-
# Windchest.Cache.Stream -- the byte stream of a cache file

A cache file is a header, a hash, and one frame per record.  A frame is the length of
the record, its checksum and the record itself, so a damaged record is noticed
before anyone reads its fields.  The whole stream may be packed.

Reading goes from the front.  What runs short consumes all there is.  A stream that
was packed badly breaks off: whatever reads beyond its content fails.
-/
import Windchest.Cache.Error
import Windchest.Cache.Hash
import Windchest.Cache.Packing
import Windchest.Digest.Checksum

namespace Windchest

set_option autoImplicit false

namespace Cache

/-- The first bytes of every cache. -/
def magic : Bytes := Bytes.ofText "PIPECACHE" ++ [0]

/-- The magic and the version of the format. -/
def header : Bytes := magic ++ Bytes.ofNat 2 formatVersion.toNat

/-- A record with its length and its checksum in front. -/
def frame (record : Bytes) : Bytes :=
  Bytes.ofNat 8 record.length ++ Bytes.ofNat 4 (Checksum.ofBytes record).toNat ++ record

/-- The whole content of a cache. -/
def encode (hash : Hash) (records : List Bytes) : Bytes :=
  header ++ hash.bytes ++ records.flatMap frame

/-- What has been written of a cache. -/
structure Writer where
  content : Bytes := []
  /-- The number of records written. -/
  records : Nat := 0

namespace Writer

/-- Writes bytes. -/
def write (w : Writer) (bytes : Bytes) : Writer := { w with content := w.content ++ bytes }

/-- Writes a record. -/
def record (w : Writer) (bytes : Bytes) : Writer :=
  { w.write (frame bytes) with records := w.records + 1 }

/-- The bytes of the finished file. -/
def close (w : Writer) (packing : Packing) (packed : Bool) : Bytes :=
  if packed then packing.pack w.content else w.content

/-- The bytes of the file if it is not finished. -/
def abandon (w : Writer) (packing : Packing) (packed : Bool) : Bytes :=
  if packed then packing.begun w.content else w.content

end Writer

/-- What is left to read of a cache. -/
structure Source where
  content : Bytes
  /-- Whether reading beyond the content fails. -/
  broken : Bool := false
deriving DecidableEq, Repr

namespace Source

/-- The stream in a file. -/
def ofFile (packing : Packing) (file : Bytes) : Source :=
  if file.take 4 = Packing.magic then
    let (content, broken) := packing.unpack file
    ⟨content, broken⟩
  else ⟨file, false⟩

/-- The next `n` bytes, if there are so many. -/
def exactly? (s : Source) (n : Nat) : Option Bytes × Source :=
  if n ≤ s.content.length then (some (s.content.take n), { s with content := s.content.drop n })
  else (none, { s with content := [] })

/-- The next `n` bytes, or as many as there are before the stream ends. -/
def upTo (s : Source) (n : Nat) : Except CacheError Bytes × Source :=
  let rest := { s with content := s.content.drop n }
  if s.broken ∧ s.content.length < n then (.error .file, rest)
  else (.ok (s.content.take n), rest)

/-- Whether the stream goes on with the header. -/
def header (s : Source) : Bool × Source :=
  match s.exactly? magic.length with
  | (none, s) => (false, s)
  | (some start, s) =>
    if start ≠ magic then (false, s)
    else
      match s.exactly? 2 with
      | (none, s) => (false, s)
      | (some version, s) => (version = Bytes.ofNat 2 formatVersion.toNat, s)

/-- The hash that the stream goes on with. -/
def hash? (s : Source) : Option Hash × Source :=
  let (bytes, s) := s.exactly? Hash.size
  (bytes.map Hash.mk, s)

/-- Checks the header and the hash. -/
def validate (s : Source) (expected : Hash) : Except CacheError Unit × Source :=
  match s.header with
  | (false, s) => (.error .badMagic, s)
  | (true, s) =>
    match s.hash? with
    | (none, s) => (.error .noHash, s)
    | (some hash, s) => (if hash = expected then .ok () else .error .otherHash, s)

/-- The next record, or none at the end of the stream. -/
def next (s : Source) : Except CacheError (Option Bytes) × Source :=
  match s.upTo 8 with
  | (.error e, s) => (.error e, s)
  | (.ok length, s) =>
    if length.isEmpty then (.ok none, s)
    else if length.length < 8 then (.error (.truncated 8 length.length), s)
    else
      match s.upTo 4 with
      | (.error e, s) => (.error e, s)
      | (.ok check, s) =>
        if check.length < 4 then (.error (.truncated 4 check.length), s)
        else
          match s.upTo length.toNat with
          | (.error e, s) => (.error e, s)
          | (.ok record, s) =>
            if record.length < length.toNat then
              (.error (.truncated length.toNat record.length), s)
            else if (Checksum.ofBytes record).toNat ≠ check.toNat then (.error .checksum, s)
            else (.ok (some record), s)

end Source

end Cache

end Windchest
