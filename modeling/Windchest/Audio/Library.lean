/-
# Windchest.Audio.Library -- a recording put together from packets

The formats of sound files are the business of a library, of which nothing else is known
here.  It finds the reader for a file, which tells the tracks and comes upon packets of any
of them, and it makes a decoder for a track, which turns packets into buffers.  Either of
them may want the decoder to start afresh, and either may fail or give up without an
answer.  The recording of a file is what the buffers of its first track with audio hold,
in the order of the packets.

A file that announces how many frames it has is believed: there must be room for them, and
fewer frames are no recording.  Some readers meet the end of a file with an error about
its data; that counts as the end if every announced frame has arrived by then.
-/
import Windchest.Arena
import Windchest.Audio.Buffer

namespace Windchest

set_option autoImplicit false

/-- A piece of a track, as it stands in the file. -/
structure Packet where
  track : Nat
  data : Bytes
deriving DecidableEq, Repr

/-- What the reader of a file comes upon next. -/
abbrev ReadEvent := Except (Failure AudioTrouble) Packet

/-- What a file says of a track. -/
structure Track where
  id : Nat
  /-- Whether the track is encoded in any way that is known to be one. -/
  coded : Bool := true
  rate : Option UInt32
  /-- The number of channels, or none if the buffers are to tell. -/
  channels : Option UInt16 := none
  /-- The number of frames. -/
  announced : Option Nat := none
deriving DecidableEq, Repr

/-- What a decoder is asked to do. -/
inductive DecoderCall where
  | decode (p : Packet)
  /-- Start afresh. -/
  | reset
deriving DecidableEq, Repr

/-- What makes buffers of packets.  What it makes of one may depend on all that it was asked before. -/
structure Decoder where
  answer : List DecoderCall → Packet → Except (Failure AudioTrouble) AudioBuffer

/-- A sound file with its reader and the decoders for its tracks. -/
structure SoundFile where
  tracks : List Track
  decoder : Track → Except (Failure AudioTrouble) Decoder
  /-- What the reader comes upon before no more data is there. -/
  events : List ReadEvent

/-- Finds the reader for the bytes of a file, if there is one, given the extension of its name if
it has one. -/
abbrev Library := Bytes → Option String → Except Fault (Option SoundFile)

/-- What became of an event, with all that the decoder has been asked by then. -/
inductive Heard where
  /-- No more data is there. -/
  | finished
  | nothing (calls : List DecoderCall)
  | buffer (b : AudioBuffer) (calls : List DecoderCall)
  | trouble (why : Failure AudioTrouble)

namespace Decoder

/-- Decodes a packet, and once more if the decoder had to start afresh. -/
def attempt (d : Decoder) (p : Packet) (calls : List DecoderCall) :
    Except (Failure AudioTrouble) AudioBuffer × List DecoderCall :=
  match d.answer calls p with
  | .error (.error .restart) =>
    let calls := calls ++ [.decode p, .reset]
    (d.answer calls p, calls ++ [.decode p])
  | answer => (answer, calls ++ [.decode p])

/-- What becomes of an event.  Packets of other tracks are passed over. -/
def hear (d : Decoder) (track : Nat) (calls : List DecoderCall) : ReadEvent → Heard
  | .ok p =>
    if p.track = track then
      match d.attempt p calls with
      | (.ok b, calls) => .buffer b calls
      | (.error why, _) => .trouble why
    else .nothing calls
  | .error (.error .restart) => .nothing (calls ++ [.reset])
  | .error (.error .ended) => .finished
  | .error why => .trouble why

end Decoder

namespace Track

/-- Whether so many samples are all the frames that were announced, if any were. -/
def isReached (t : Track) (channels : UInt16) (samples : Nat) : Bool :=
  match t.announced with
  | some n => channels != 0 && n ≤ samples / channels.toNat
  | none => false

/-- The number of channels, and the samples that the events give, behind so many samples that have
arrived.  As long as nobody has told the number of channels, it is 0. -/
def gather (t : Track) (d : Decoder) (channels : UInt16) (arrived : Nat) (calls : List DecoderCall) :
    List ReadEvent → Except (Failure DecodeError) (UInt16 × List Sample)
  | [] => .ok (channels, [])
  | event :: rest =>
    match d.hear t.id calls event with
    | .finished => .ok (channels, [])
    | .nothing calls => t.gather d channels arrived calls rest
    | .buffer b calls =>
      let samples := b.samples
      if b.channels = 0 ∨ samples.isEmpty then t.gather d channels arrived calls rest
      else if channels = 0 ∨ channels = b.channels then
        (t.gather d b.channels (arrived + samples.length) calls rest).map fun (channels, more) =>
          (channels, samples ++ more)
      else .error (.error (.channelsChanged channels b.channels))
    | .trouble why =>
      if why = .error .malformed ∧ t.isReached channels arrived then .ok (channels, [])
      else .error (why.map .audio)

/-- The number of channels that the file tells, or 0. -/
def declared (t : Track) : UInt16 := t.channels.getD 0

/-- The samples that a file announces.  What it does not tell counts as little as it can. -/
def announcedSamples (t : Track) : Nat := t.announced.getD 0 * max t.declared.toNat 1

/-- Makes room for the samples that a file announces. -/
def makeRoom (t : Track) : Except Fault Unit :=
  if maxWord < t.announcedSamples then .error .productOverflow
  else if Arena.maxBuffer < 4 * t.announcedSamples then .error .capacity
  else .ok ()

/-- The recording of the samples that have arrived, unless too few have. -/
def recording (t : Track) (rate : UInt32) (channels : UInt16) (samples : List Sample) :
    Except DecodeError Recording :=
  let decoded := samples.length / channels.toNat
  let expected := t.announced.getD 0
  if channels = 0 then .error .noChannels
  else if decoded < expected then .error (.truncated expected decoded)
  else .ok ⟨samples, channels, rate⟩

end Track

/-- A file with no track but one, whose packets make buffers on their own. -/
def SoundFile.ofTrack (track : Track) (decode : Bytes → AudioBuffer) (events : List ReadEvent) :
    SoundFile where
  tracks := [track]
  decoder _ := .ok ⟨fun _ p => .ok (decode p.data)⟩
  events := events

/-- The recording of the first track with audio in it. -/
def SoundFile.decode (f : SoundFile) : Except (Failure DecodeError) Recording :=
  match f.tracks.find? (·.coded) with
  | none => .error (.error .noTrack)
  | some track =>
    match track.rate with
    | none => .error (.error .noRate)
    | some rate =>
      match f.decoder track with
      | .error why => .error (why.map .audio)
      | .ok decoder =>
        match track.makeRoom with
        | .error fault => .error (.fault fault)
        | .ok () =>
          match track.gather decoder track.declared 0 [] f.events with
          | .error why => .error why
          | .ok (channels, samples) =>
            (track.recording rate channels samples).mapError .error

/-- The recording in a file, given the extension of its name if there is one. -/
def Library.decode (library : Library) (file : Bytes) (extension : Option String) :
    Except (Failure DecodeError) Recording :=
  match library file extension with
  | .error fault => .error (.fault fault)
  | .ok none => .error (.error .unknownFormat)
  | .ok (some f) => f.decode

end Windchest
