/-
# Windchest.Audio.Aiff -- interchange files with eight bit samples

An interchange file is a `FORM` header and a row of chunks, with big endian numbers.
The `COMM` chunk tells the channels and the rate, the `SSND` chunk holds the samples
behind eight bytes of its own.  Those bytes count when the frames are announced.
-/
import Windchest.Audio.Wave

namespace Windchest.Aiff

set_option autoImplicit false

open Wave.Parser

/-- The big endian number in the next `width` bytes. -/
def number (width : Nat) : Wave.Parser Nat := return Bytes.toNat (← take width).reverse

/-- The whole number that an extended precision number is next to, from below. -/
def extended (exponent mantissa : Nat) : Nat := (mantissa <<< exponent) >>> (16383 + 63)

/-- What the `COMM` chunk says. -/
structure Common where
  channels : Nat
  channels_le : channels ≤ 26
  rate : UInt32

/-- A `COMM` chunk of the given length. -/
def parseCommon (length : Nat) : Wave.Parser Common := do
  require (length = 18)
  let channels ← number 2
  let _ ← number 4
  require ((← number 2) = 8)
  let exponent ← number 2
  let mantissa ← number 8
  require (1 ≤ channels && exponent < 16383 + 32)
  if few : channels ≤ 26 then return ⟨channels, few, .ofNat (extended exponent mantissa)⟩
  else failure

/-- Reads chunks up to the samples.  Gives the `COMM` chunk and the length of that with the samples;
`fuel` bounds the chunks. -/
def parseChunks : Nat → Option Common → Wave.Parser (Common × Nat)
  | 0, _ => failure
  | fuel + 1, common => do
    let tag ← take 4
    let length ← number 4
    if tag = [0x53, 0x53, 0x4e, 0x44] then
      let common ← common
      let _ ← take 8
      return (common, length)
    else if tag = [0x43, 0x4f, 0x4d, 0x4d] then
      parseChunks fuel (some (← parseCommon length))
    else
      let _ ← take (length + length % 2)
      parseChunks fuel common

/-- The header of a file. -/
def parseHeader : Wave.Parser (Common × Nat) := do
  require ((← take 4) = [0x46, 0x4f, 0x52, 0x4d])
  let _ ← number 4
  require ((← take 4) = [0x41, 0x49, 0x46, 0x46])
  parseChunks ((← get).length + 1) none

/-- All whole frames in the bytes, but no more than so many. -/
def Common.decode (c : Common) (announced : Nat) (bytes : Bytes) : AudioBuffer :=
  let frames := min announced (bytes.length / c.channels)
  let values := Wave.Encoding.values (.signed .eight) (frames * c.channels) bytes
  .signed .eight <|
    .ofInterleaved frames c.channels (Nat.le_trans c.channels_le (by decide))
      ⟨values.toArray, Wave.Encoding.length_values ..⟩

/-- The sound file in an interchange file, if it is one. -/
def open? (file : Bytes) : Option (SoundFile) := do
  let ((common, length), bytes) ← parseHeader.run file
  let announced := length / common.channels
  let track : Track := ⟨0, true, some common.rate, some (.ofNat common.channels), some announced⟩
  some (.ofTrack track (common.decode announced) [.ok ⟨0, bytes⟩])

end Windchest.Aiff
