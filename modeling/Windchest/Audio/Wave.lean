/-
# Windchest.Audio.Wave -- wave files

A wave file is a `RIFF` header and a row of chunks.  The `fmt ` chunk tells how
samples are encoded, the `data` chunk holds them, and every other chunk is passed
over.  Chunks start at even offsets.

The data is read in packets of whole blocks.  A file that ends early ends the last
packet early.  Blocks that have no size cannot be read.
-/
import Windchest.Audio.Library

namespace Windchest.Wave

set_option autoImplicit false

/-- How a sample is written. -/
inductive Encoding where
  | unsigned (depth : Depth)
  | signed (depth : Depth)
  /-- A single or a double precision number. -/
  | single
  | double
deriving DecidableEq, Repr

namespace Encoding

/-- The bits of one sample. -/
def bits : Encoding → Nat
  | unsigned depth => depth.bits
  | signed depth => depth.bits
  | single => 32
  | double => 64

/-- The bytes of one sample. -/
def width (e : Encoding) : Nat := e.bits / 8

/-- The first `n` samples in the bytes, as their bits. -/
def values (e : Encoding) : Nat → Bytes → List (BitVec e.bits)
  | 0, _ => []
  | n + 1, bytes =>
    .ofNat _ (Bytes.toNat (bytes.take e.width)) :: e.values n (bytes.drop e.width)

theorem length_values (e : Encoding) (n : Nat) (bytes : Bytes) : (e.values n bytes).length = n := by
  induction n generalizing bytes with
  | zero => rfl
  | succ n ih => simp [values, ih]

/-- The buffer of frames whose samples are written so. -/
def buffer : (e : Encoding) → Planar (BitVec e.bits) → AudioBuffer
  | unsigned depth, b => .unsigned depth b
  | signed depth, b => .signed depth b
  | single, b => .single (b.map fun bits => ⟨.ofBitVec bits⟩)
  | double, b => .double (b.map UInt64.ofBitVec)

end Encoding

/-- What the `fmt ` chunk says. -/
structure Format where
  encoding : Encoding
  channels : Nat
  channels_pos : 1 ≤ channels
  channels_le : channels ≤ 26
  rate : UInt32
  /-- The bytes of a block, which should be those of a frame. -/
  blockSize : Nat
deriving DecidableEq, Repr

namespace Format

/-- The bytes of a frame. -/
def frameSize (f : Format) : Nat := f.channels * f.encoding.width

end Format

/-- Reads from the front of the bytes of a file, or fails. -/
abbrev Parser := StateT Bytes Option

namespace Parser

/-- The next `n` bytes. -/
def take (n : Nat) : Parser Bytes := do
  let bytes ← get
  if n ≤ bytes.length then
    set (bytes.drop n)
    return bytes.take n
  else failure

/-- The number in the next `width` bytes. -/
def number (width : Nat) : Parser Nat := return (← take width).toNat

/-- Fails unless the condition holds. -/
def require (condition : Bool) : Parser Unit := if condition then pure () else failure

end Parser

open Wave.Parser

/-- `RIFF`, which a file is marked with. -/
def riff : Bytes := [0x52, 0x49, 0x46, 0x46]

/-- `WAVE`, the kind of the file. -/
def wave : Bytes := [0x57, 0x41, 0x56, 0x45]

/-- `fmt `, the chunk that tells the encoding. -/
def formatTag : Bytes := [0x66, 0x6d, 0x74, 0x20]

/-- `fact`, a chunk that has to have four bytes. -/
def factTag : Bytes := [0x66, 0x61, 0x63, 0x74]

/-- `data`, the chunk with the samples. -/
def dataTag : Bytes := [0x64, 0x61, 0x74, 0x61]

/-- The encoding of integer samples. -/
def integers? : Nat → Option Encoding
  | 8 => some (.unsigned .eight)
  | 16 => some (.signed .sixteen)
  | 24 => some (.signed .twentyFour)
  | 32 => some (.signed .thirtyTwo)
  | _ => none

/-- The encoding of floating point samples. -/
def floats? : Nat → Option Encoding
  | 32 => some .single
  | 64 => some .double
  | _ => none

/-- What all identifiers of sample formats end in. -/
def guidTail : Bytes := [0, 0, 0, 0, 0x10, 0, 0x80, 0, 0, 0xaa, 0, 0x38, 0x9b, 0x71]

/-- The rest of a `fmt ` chunk of the given length, behind its fixed part. -/
def parseEncoding (tag bits length : Nat) : Parser Encoding := do
  if tag = 1 ∨ tag = 3 then
    if length = 18 then
      let extra ← number 2
      require (tag = 1 || extra = 0)
    else if length = 40 then
      let _ ← take 24
    else require (length = 16)
    if tag = 1 then integers? bits else floats? bits
  else
    require (tag = 0xfffe && 40 ≤ length)
    require ((← number 2) = 22)
    let _ ← take 6
    let guid ← take 16
    require (guid.drop 2 = guidTail)
    match guid.take 2 with
    | [1, 0] => integers? bits
    | [3, 0] => floats? bits
    | _ => failure

/-- A `fmt ` chunk of the given length. -/
def parseFormat (length : Nat) : Parser Format := do
  require (16 ≤ length)
  let tag ← number 2
  let channels ← number 2
  let rate ← number 4
  let _ ← number 4
  let blockSize ← number 2
  let bits ← number 2
  let encoding ← parseEncoding tag bits length
  if known : 1 ≤ channels ∧ channels ≤ 26 then
    return ⟨encoding, channels, known.1, known.2, .ofNat rate, blockSize⟩
  else failure

/-- Reads chunks up to the header of the data, of which `consumed` bytes out of `total` are
behind.  Gives the format, if one came, and the length of the data; `fuel` bounds the chunks. -/
def parseChunks (total : Nat) : Nat → Nat → Option Format → Parser (Option Format × Nat)
  | 0, _, _ => failure
  | fuel + 1, consumed, format => do
    let odd := consumed % 2
    let _ ← take odd
    let consumed := consumed + odd + 8
    require (consumed ≤ total)
    let tag ← take 4
    let length ← number 4
    require (length ≤ total - consumed || (total = 0xffffffff && length = 0xffffffff))
    let consumed := consumed + length
    if tag = dataTag then return (format, length)
    else if tag = formatTag then
      parseChunks total fuel consumed (some (← parseFormat length))
    else
      require (tag ≠ factTag || length = 4)
      let _ ← take length
      parseChunks total fuel consumed format

/-- The header of a file from its marker on. -/
def parseHeader : Parser (Option Format × Nat) := do
  let _ ← take 4
  let total ← number 4
  require ((← take 4) = wave)
  parseChunks total ((← get).length + 1) 0 none

/-- The bytes from the first marker on. -/
def fromMarker? : Bytes → Option Bytes
  | [] => none
  | b :: rest =>
    if (b :: rest).take 4 = riff then some (b :: rest) else fromMarker? rest

/-- The most blocks in a packet. -/
def packetBlocks : Nat := 1152

/-- The frames in a packet: whole ones, and no more than a packet holds. -/
def Format.frames (f : Format) (bytes : Bytes) : Planar (BitVec f.encoding.bits) :=
  let frames := min packetBlocks (bytes.length / f.frameSize)
  let values := f.encoding.values (frames * f.channels) bytes
  .ofInterleaved frames f.channels (Nat.le_trans f.channels_le (by decide))
    ⟨values.toArray, f.encoding.length_values ..⟩

/-- What is made of a packet. -/
def Format.decode (f : Format) (bytes : Bytes) : AudioBuffer := f.encoding.buffer (f.frames bytes)

/-- The packets in the data, of which there are that many blocks, as far as the bytes go. -/
def Format.packets (f : Format) (blocks : Nat) (bytes : Bytes) : List ReadEvent :=
  if blocks = 0 ∨ bytes.isEmpty then []
  else
    let size := min packetBlocks blocks
    .ok ⟨0, bytes.take (size * f.blockSize)⟩
      :: f.packets (blocks - size) (bytes.drop (size * f.blockSize))
termination_by blocks
decreasing_by
  have : 1 ≤ packetBlocks := by decide
  omega

/-- The track in a file with so many bytes of data. -/
def Format.track (f : Format) (length : Nat) : Track where
  id := 0
  rate := some f.rate
  channels := some (.ofNat f.channels)
  announced := if f.blockSize = 0 then none else some (length / f.blockSize)

/-- What a reader comes upon in the data, of which `length` bytes are announced. -/
def Format.events (f : Format) (length : Nat) (bytes : Bytes) : List ReadEvent :=
  if f.blockSize = 0 then [.error (.error .malformed)] else f.packets (length / f.blockSize) bytes

/-- The sound file in a wave file, if it is one. -/
def open? (file : Bytes) : Option (SoundFile) := do
  let ((format?, length), bytes) ← parseHeader.run (← fromMarker? file)
  match format? with
  | some format => some (.ofTrack (format.track length) format.decode (format.events length bytes))
  | none => some ⟨[], fun _ => .error (.error .other), []⟩

end Windchest.Wave
