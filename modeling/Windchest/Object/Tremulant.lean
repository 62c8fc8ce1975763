/-
# Windchest.Object.Tremulant -- gain waves of tremulants

A wave tremulant has no sample files; its wave is synthesized.  The attack ramps the
modulation in over whole periods and then loops on one period; the release fades it
out, over at least two periods.
-/
import Windchest.Object.Loadable
import Windchest.Text.Quoted

namespace Windchest

set_option autoImplicit false

/-- The least number of periods over which a release fades out. -/
def releasePeriods : Nat := 2

/-- The parameters of a wave tremulant. -/
structure WaveParams where
  /-- The length of a period of the modulation, in milliseconds. -/
  period : UInt32
  /-- The depth of the modulation, in percent. -/
  depth : UInt32
  /-- How fast the modulation starts, per second. -/
  startRate : UInt32
  /-- How fast the modulation stops, per second. -/
  stopRate : UInt32
  sampleRate : UInt32
deriving DecidableEq, Repr

namespace WaveParams

/-- The whole frames of one period. -/
def periodFrames (w : WaveParams) : Nat := w.sampleRate.toNat * w.period.toNat / 1000

/-- What makes the parameters impossible, if anything does. -/
def fault? (w : WaveParams) : Option WaveFault :=
  if 100 < w.depth then some (.depth w.depth)
  else if w.startRate = 0 ∨ w.stopRate = 0 then some .rates
  else if w.periodFrames < 2 then some (.period w.period w.sampleRate)
  else none

/-- The quotient, rounded up. -/
def ceilDiv (a b : Nat) : Nat := (a + b - 1) / b

/-- The frames of a transition at a rate: whole periods, and at least so many. -/
def transitionFrames (w : WaveParams) (rate : UInt32) (atLeast : Nat) : Nat :=
  max (ceilDiv (ceilDiv w.sampleRate.toNat rate.toNat) w.periodFrames) atLeast * w.periodFrames

/-- The single precision number next to a natural one. -/
def single (n : Nat) : Float32 := (UInt64.ofNat n).toFloat32

/-- A full turn. -/
def turn : Float32 := Float32.ofBits 0x40C90FDB

/-- The gain at a frame, for an envelope between 0 and 1. -/
def gain (w : WaveParams) (frame : Nat) (envelope : Float32) : Float32 :=
  let phase := single (frame % w.periodFrames) / single w.periodFrames
  let depth := single w.depth.toNat / 100
  1 - depth * envelope * 0.5 * (1 - (turn * phase).cos)

/-- The frames over which the modulation is ramped in. -/
def rampFrames (w : WaveParams) : Nat := w.transitionFrames w.startRate 1

/-- The frames over which the modulation fades out. -/
def fadeFrames (w : WaveParams) : Nat := w.transitionFrames w.stopRate releasePeriods

/-- A wave of so many frames with the given gain. -/
def wave (w : WaveParams) (frames : Nat) (gainAt : Nat → Float32) : Recording :=
  ⟨(List.range frames).map fun i => Sample.ofValue (gainAt i), 1, w.sampleRate⟩

/-- The wave that ramps the modulation in and goes on for one period. -/
def attack (w : WaveParams) : Recording :=
  let ramp := w.rampFrames
  w.wave (ramp + w.periodFrames) fun i =>
    let x := single i / single ramp
    w.gain i (if x < 1 then x else 1)

/-- The loop of the attack: its last period. -/
def attackLoop (w : WaveParams) : Loop :=
  ⟨.ofNat w.rampFrames, .ofNat (w.rampFrames + w.periodFrames)⟩

/-- The wave that fades the modulation out. -/
def release (w : WaveParams) : Recording :=
  let fade := w.fadeFrames
  w.wave fade fun i => w.gain i (1 - single i / single fade)

/-- One line about the parameters. -/
def describe (w : WaveParams) : String :=
  s!"TremulantParams \x7b period_ms: {w.period}, amp_mod_depth: {w.depth}, start_rate: {w.startRate}, stop_rate: {w.stopRate}, sample_rate: {w.sampleRate} \x7d"

end WaveParams

/-- A tremulant whose wave is synthesized when it is loaded. -/
structure Tremulant where
  title : String
  params : WaveParams
  attack : Option Section := none
  release : Option Section := none
  readiness : Readiness := {}
deriving DecidableEq, Repr

namespace Tremulant

/-- The tremulant while it is being loaded. -/
def starting (t : Tremulant) : Tremulant := { t with readiness := {} }

/-- The tremulant with its sections, given as drafts with the handles of their blocks. -/
def install (t : Tremulant) (attack release : Draft) (blocks : List BlockId) : Tremulant :=
  { t with
    attack := blocks[0]?.map attack.commit
    release := blocks[1]?.map release.commit
    readiness := { ready := true } }

/-- The plan to build sections of the waves. -/
def synthesis (t : Tremulant) : Plan Tremulant LoadError :=
  match Draft.build? t.params.attack [t.params.attackLoop] false with
  | .error why => .failing t.starting (.error (.unfit why))
  | .ok attack =>
    match Draft.build? t.params.release [] false with
    | .error why => ⟨t.starting, [⟨attack.samples, 0⟩], 0, .error (.error (.unfit why))⟩
    | .ok release =>
      ⟨t.starting, [⟨attack.samples, 0⟩, ⟨release.samples, 0⟩], 0,
        .ok (t.starting.install attack release)⟩

/-- The plan to synthesize the waves.  The loop is looked at first, so that no wave is made which is
refused for it. -/
def fromFiles (t : Tremulant) : Plan Tremulant LoadError :=
  match t.params.fault? with
  | some why => .failing t.starting (.error (.unfit (.wave t.title why)))
  | none =>
    match firstMisfit? (t.params.rampFrames + t.params.periodFrames) [t.params.attackLoop] with
    | some why => .failing t.starting (.error (.unfit (.loop why)))
    | none => t.synthesis

/-- Reads the record of the tremulant. -/
def read (t : Tremulant) : IntakeM (List BlockId → Tremulant) := do
  let attack ← Intake.draft
  let release ← Intake.draft
  Intake.lift Reader.finish
  if attack.shape.channels ≠ 1 ∨ release.shape.channels ≠ 1 then
    Intake.malformed (.notMono t.title)
  return t.starting.install attack release

/-- The bytes of the tremulant's record. -/
def save (a : Arena) (t : Tremulant) : Except CacheError Bytes :=
  match t.attack, t.release, t.readiness.ready with
  | some attack, some release, true => encodeSections a [attack, release]
  | _, _, _ => .error (.notReady t.title)

/-- The tremulant without its sections. -/
def cleared (t : Tremulant) (readiness : Readiness) : Tremulant :=
  { t with attack := none, release := none, readiness }

/-- One line about the tremulant. -/
def describe (t : Tremulant) : String :=
  s!"TremulantWave \x7b title: {Text.quoted t.title}, params: {t.params.describe}, ready: {t.readiness.ready} \x7d"

instance : Loadable Tremulant where
  title := title
  isReady t := t.readiness.ready
  error? t := t.readiness.error
  fromFiles _ t := t.fromFiles
  fromRecord record t := .ofRecord t.starting t.read record
  save := save
  fail message t := t.cleared { error := some message }
  reset t := t.cleared {}

end Tremulant

end Windchest
