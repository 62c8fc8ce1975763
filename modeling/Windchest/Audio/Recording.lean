/-
# Windchest.Audio.Recording -- decoded audio

Samples of all channels are interleaved: a frame holds one sample of each channel.
-/
import Windchest.Sample

namespace Windchest

set_option autoImplicit false

/-- Decoded audio. -/
structure Recording where
  samples : List Sample
  channels : UInt16
  rate : UInt32
deriving DecidableEq, Repr

/-- The number of whole frames. -/
def Recording.frames (r : Recording) : Nat := r.samples.length / r.channels.toNat

/-- What the reader of a sound file, or a decoder, reports in place of audio. -/
inductive AudioTrouble where
  /-- The data makes no sense. -/
  | malformed
  /-- No more data is there. -/
  | ended
  /-- The decoder has to start afresh. -/
  | restart
  /-- Anything else, such as a file that cannot be read. -/
  | other
deriving DecidableEq, Repr

/-- Why a sample file could not be decoded. -/
inductive DecodeError where
  /-- The file is no sound file that is understood. -/
  | unknownFormat
  /-- The file has no audio in it. -/
  | noTrack
  | noRate
  | noChannels
  /-- The buffers of a track have different numbers of channels. -/
  | channelsChanged (before after : UInt16)
  /-- The file announces more frames than it holds. -/
  | truncated (expected decoded : Nat)
  | audio (why : AudioTrouble)
deriving DecidableEq, Repr

/-- What the user reads about a file that cannot be decoded. -/
def DecodeError.message : DecodeError → String
  | .unknownFormat => "Unsupported sample data: unable to probe format: no sound format was found"
  | .noTrack => "Unsupported sample data: No audio track found"
  | .noRate => "Unsupported sample data: Sample rate not specified"
  | .noChannels => "Unsupported sample data: Channels not specified"
  | .channelsChanged before after =>
    s!"Unsupported sample data: channel count changed from {before} to {after} mid-stream"
  | .truncated expected decoded => s!"Truncated sample data: {decoded} of {expected} frames"
  | .audio .malformed => "Audio file error: malformed stream"
  | .audio .ended => "Audio file error: end of stream"
  | .audio .restart => "Audio file error: decoder needs to be reset"
  | .audio .other => "Audio file error: the file could not be read"

end Windchest
