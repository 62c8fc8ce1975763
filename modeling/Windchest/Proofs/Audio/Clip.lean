/-
# Windchest.Proofs.Audio.Clip -- wave files, and what it takes to read them

A `Clip` is what a wave file can be made of: frames of stored values, and what the headers
tell of them.  Its `file` is those headers, in either of the two kinds there are, and the
values behind them.

`Library.Reads` is what is asked of a library that reads such a file.  It says what is
announced and which stored values are delivered, in packets of any size and each value in
its place, but nothing of samples, recordings and errors; those are for
`SoundFile.decode`, and the end of this module says what it makes of the frames that are
delivered.
-/
import Windchest.Audio.Known
import Windchest.Proofs.Audio.Decoding
import Windchest.Proofs.Codec.Words

namespace Windchest

set_option autoImplicit false

namespace Wave

namespace Encoding

/-- What a `fmt ` chunk calls the encoding. -/
def tag : Encoding → Nat
  | unsigned _ => 1
  | signed _ => 1
  | single => 3
  | double => 3

/-- The encoding is the one with this tag and so many bits. -/
def IsTold (e : Encoding) : Prop :=
  (if e.tag = 1 then integers? e.bits else floats? e.bits) = some e

/-- The sample that a stored value stands for. -/
def sample : (e : Encoding) → BitVec e.bits → Sample
  | unsigned depth, v => .ofUnsigned depth v
  | signed depth, v => .ofSigned depth v
  | single, v => ⟨.ofBitVec v⟩
  | double, v => .ofDouble (.ofBitVec v)

/-- The bytes of a stored value. -/
def encode (e : Encoding) (v : BitVec e.bits) : Bytes := Bytes.ofNat e.width v.toNat

variable (e : Encoding)

theorem width_eq : 8 * e.width = e.bits := by
  cases e with
  | unsigned depth | signed depth =>
    cases depth with
    | eight | sixteen | twentyFour | thirtyTwo => decide
  | single | double => decide

theorem width_pos : 0 < e.width := by
  cases e with
  | unsigned depth | signed depth =>
    cases depth with
    | eight | sixteen | twentyFour | thirtyTwo => decide
  | single | double => decide

end Encoding

/-- A chunk, with a byte behind it if another one could not start there. -/
def chunk (tag content : Bytes) : Bytes :=
  tag ++ Bytes.ofNat 4 content.length ++ content ++ List.replicate (content.length % 2) 0

/-- Frames with all that the headers of a wave file tell. -/
structure Clip where
  encoding : Encoding
  told : encoding.IsTold
  channels : Nat
  channels_pos : 1 ≤ channels
  channels_le : channels ≤ 26
  rate : UInt32
  /-- Whether the `fmt ` chunk is of the longer kind. -/
  extended : Bool
  frames : List (Vector (BitVec encoding.bits) channels)
  /-- The length of the file is written in four bytes. -/
  fits : (if extended then 60 else 36) + frames.length * (channels * encoding.width) +
    frames.length * (channels * encoding.width) % 2 < 2 ^ 32

namespace Clip

variable (c : Clip)

/-- The bytes of a frame. -/
def frameSize : Nat := c.channels * c.encoding.width

/-- The stored values of all channels, frame by frame. -/
def values : List (BitVec c.encoding.bits) := c.frames.flatMap Vector.toList

/-- What the `fmt ` chunk calls the encoding.  The longer kind tells it at its end. -/
def tag : Nat := if c.extended then 0xfffe else c.encoding.tag

/-- The end of the longer kind of `fmt ` chunk.  The speakers are not told. -/
def detail : Bytes :=
  if c.extended then
    Bytes.ofNat 2 22 ++ (Bytes.ofNat 2 c.encoding.bits ++ Bytes.ofNat 4 0) ++
      (Bytes.ofNat 2 c.encoding.tag ++ guidTail)
  else []

/-- The content of the `fmt ` chunk.  The bytes in a second may be more than can be told. -/
def format : Bytes :=
  Bytes.ofNat 2 c.tag ++ Bytes.ofNat 2 c.channels ++ Bytes.ofNat 4 c.rate.toNat ++
    Bytes.ofNat 4 (c.rate.toNat * c.frameSize % 2 ^ 32) ++ Bytes.ofNat 2 c.frameSize ++
    Bytes.ofNat 2 c.encoding.bits ++ c.detail

/-- The content of the `data` chunk. -/
def data : Bytes := c.values.flatMap c.encoding.encode

/-- The chunks of the file. -/
def content : Bytes := wave ++ chunk formatTag c.format ++ chunk dataTag c.data

/-- The wave file. -/
def file : Bytes := chunk riff c.content

/-- Where the frames begin in the file. -/
def start : Nat := if c.extended then 68 else 44

/-- The frames that are there in so many bytes of the file. -/
def present (bytes : Nat) : List (Vector (BitVec c.encoding.bits) c.channels) :=
  c.frames.take ((bytes - c.start) / c.frameSize)

/-- What the file holds. -/
def recording : Recording := ⟨c.values.map c.encoding.sample, .ofNat c.channels, c.rate⟩

end Clip

end Wave

/-- A sound file tells what the headers of a clip tell, and its decoder delivers certain frames as
they are stored. -/
def SoundFile.Delivers (f : SoundFile) (c : Wave.Clip)
    (frames : List (Vector (BitVec c.encoding.bits) c.channels)) : Prop :=
  ∃ (track : Track) (decoder : Decoder) (buffers : List (Planar (BitVec c.encoding.bits))),
    f.tracks.find? (·.coded) = some track ∧ f.decoder track = .ok decoder ∧
    track.rate = some c.rate ∧ track.channels = some (.ofNat c.channels) ∧
    track.announced = some c.frames.length ∧
    decoder.Hears track.id [] f.events (buffers.map c.encoding.buffer) none ∧
    Planar.Deliver buffers frames

/-- The library reads the wave file of a clip, and what a cut leaves of it: it opens the file, and if
it opens the front of the file, it announces the frames of the whole file and delivers those that
are there. -/
structure Library.Reads (library : Library) (c : Wave.Clip) (extension : Option String) : Prop where
  opens : library c.file extension ≠ .ok none
  delivers : ∀ k : Nat, library (c.file.take k) extension = .ok none ∨
    ∃ f, library (c.file.take k) extension = .ok (some f) ∧ f.Delivers c (c.present k)

/-! ## Buffers of stored values -/

namespace Planar

variable {α β : Type}

theorem interleaved_id (b : Planar α) (convert : α → β) :
    b.interleaved convert = (b.interleaved id).map convert := by
  simp only [interleaved, List.map_flatMap, List.map_map]
  rfl

end Planar

namespace Wave

namespace Encoding

variable (e : Encoding) (b : Planar (BitVec e.bits))

theorem channels_buffer : (e.buffer b).channels = .ofNat b.channels := by
  cases e with
  | unsigned depth | signed depth | single | double => rfl

theorem samples_buffer : (e.buffer b).samples = (b.interleaved id).map e.sample := by
  rw [← Planar.interleaved_id]
  cases e with
  | unsigned depth | signed depth | single | double => rfl

end Encoding

namespace Clip

variable (c : Clip)

theorem toNat_channels : (UInt16.ofNat c.channels).toNat = c.channels := by
  have few := c.channels_le
  rw [UInt16.toNat_ofNat']
  omega

theorem channels_ne_zero : UInt16.ofNat c.channels ≠ 0 := by
  have some := c.channels_pos
  have told := c.toNat_channels
  intro none
  rw [none] at told
  exact absurd told.symm (by show ¬ c.channels = 0; omega)

theorem frames_recording : c.recording.frames = c.frames.length := by
  rw [Recording.frames, recording, toNat_channels, List.length_map, values, Planar.length_flatMap_toList]
  exact Nat.mul_div_cancel _ c.channels_pos

end Clip

end Wave

/-! ## What is made of the frames -/

namespace SoundFile

variable {f : SoundFile} {c : Wave.Clip}

/-- The samples of the delivered frames are those of their stored values. -/
theorem samples_of_delivered {buffers : List (Planar (BitVec c.encoding.bits))}
    {frames : List (Vector (BitVec c.encoding.bits) c.channels)}
    (held : Planar.Deliver buffers frames) :
    (buffers.map c.encoding.buffer).flatMap AudioBuffer.samples
      = (frames.flatMap Vector.toList).map c.encoding.sample := by
  rw [← (Planar.deliver_iff c.channels_pos held.channels).mp held, List.map_flatMap,
    List.flatMap_map]
  simp only [Wave.Encoding.samples_buffer]

/-- The frames of a clip are few enough for a buffer. -/
theorem announcedSamples_le {track : Track} (channels : track.channels = some (.ofNat c.channels))
    (announced : track.announced = some c.frames.length) :
    4 * track.announcedSamples ≤ Arena.maxBuffer := by
  have fits : c.frames.length * c.channels < 2 ^ 32 := by
    have width := Nat.le_mul_of_pos_right (c.frames.length * c.channels) c.encoding.width_pos
    have fits := c.fits
    rw [← Nat.mul_assoc] at fits
    omega
  have some := c.channels_pos
  have declared : track.announcedSamples = c.frames.length * c.channels := by
    rw [Track.announcedSamples, Track.declared, channels, announced, Option.getD_some,
      Option.getD_some, c.toNat_channels, Nat.max_eq_left some]
  rw [declared, Arena.maxBuffer]
  omega

/-- A file that tells what the headers of a clip tell is decoded to the frames that it delivers, unless
some of those that it announces are missing. -/
theorem decode_of_delivers {frames : List (Vector (BitVec c.encoding.bits) c.channels)}
    (part : f.Delivers c frames) :
    f.decode =
      if frames.length < c.frames.length then
        .error (.error (.truncated c.frames.length frames.length))
      else .ok ⟨(frames.flatMap Vector.toList).map c.encoding.sample, .ofNat c.channels, c.rate⟩ := by
  obtain ⟨track, decoder, buffers, found, made, rate, channels, announced, said, held⟩ := part
  have declared : track.declared = .ofNat c.channels := by
    rw [Track.declared, channels]
    rfl
  have settles : Settles track.declared (buffers.map c.encoding.buffer) (.ofNat c.channels) := by
    refine ⟨?_, .inl declared⟩
    intro b mem _
    obtain ⟨planar, own, rfl⟩ := List.mem_map.mp mem
    rw [Wave.Encoding.channels_buffer, held.channels planar own]
  have gathered : track.gather decoder track.declared 0 [] f.events
      = .ok (.ofNat c.channels, (frames.flatMap Vector.toList).map c.encoding.sample) :=
    (Track.gather_eq_ok_iff said).mpr ⟨settles, (samples_of_delivered held).symm, nofun⟩
  have room := Track.makeRoom_eq_ok_iff.mpr (announcedSamples_le channels announced)
  have counted : ((frames.flatMap Vector.toList).map c.encoding.sample).length
      / (UInt16.ofNat c.channels).toNat = frames.length := by
    rw [List.length_map, Planar.length_flatMap_toList, c.toNat_channels]
    exact Nat.mul_div_cancel _ c.channels_pos
  simp only [decode, found, made, rate, room, gathered, Track.recording, c.channels_ne_zero, if_false,
    announced, Option.getD_some, counted]
  split <;> rfl

end SoundFile

end Windchest
