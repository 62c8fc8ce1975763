/-
# Windchest.Object.Error -- why sample files do not make a loaded object
-/
import Windchest.Audio.Recording
import Windchest.Files.Source
import Windchest.Section.Loop

namespace Windchest

set_option autoImplicit false

/-- Parameters that no tremulant can have. -/
inductive WaveFault where
  | depth (percent : UInt32)
  | rates
  | period (ms hertz : UInt32)
deriving DecidableEq, Repr

/-- What the user reads about impossible tremulant parameters. -/
def WaveFault.message : WaveFault → String
  | .depth percent => s!"depth {percent}% exceeds 100%"
  | .rates => "start and stop rates must be positive"
  | .period ms hertz => s!"period of {ms}ms is too short at {hertz}Hz"

/-- The channel counts of two sections of a pipe that should agree. -/
structure ChannelClash where
  title : String
  first : UInt16
  other : UInt16
deriving DecidableEq, Repr

/-- What the user reads about sections with different channel counts. -/
def ChannelClash.message (c : ChannelClash) : String :=
  s!"{c.title}: sections have mismatched channel counts ({c.first} and {c.other})"

/-- Why decoded audio and its definition do not make a section or an object. -/
inductive Unfit where
  | noAudio
  | loop (why : Misfit)
  | noAttacks (title : String)
  | channels (clash : ChannelClash)
  | wave (title : String) (why : WaveFault)
  /-- What is unfit is a sample file. -/
  | inFile (file : String) (why : Unfit)
  /-- A reason that an object of another kind gives. -/
  | other (text : String)
deriving DecidableEq, Repr

/-- What the user reads about unfit audio. -/
def Unfit.message : Unfit → String
  | .noAudio => "sample contains no audio"
  | .loop why => why.message
  | .noAttacks title => s!"{title}: no attack samples"
  | .channels clash => clash.message
  | .wave title why => s!"{title}: {why.message}"
  | .inFile file why => s!"{file}: {why.message}"
  | .other text => text

/-- Why an object could not be loaded from its files. -/
inductive LoadError where
  | undecodable (file : String) (why : DecodeError)
  | unopened (file : String) (why : SourceError)
  | unfit (why : Unfit)
deriving DecidableEq, Repr

/-- What the user reads about an object that could not be loaded. -/
def LoadError.message : LoadError → String
  | .undecodable file why => s!"unable to decode {file}: {why.message}"
  | .unopened file why => s!"unable to open {file}: {why.message}"
  | .unfit why => why.message

end Windchest
