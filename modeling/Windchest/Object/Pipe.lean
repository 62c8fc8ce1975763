/-
# Windchest.Object.Pipe -- the samples of one pipe

A pipe has attacks, which may loop, and releases, which have an alignment table.
All its sections have one number of channels.  A pipe is loaded as a whole: its
sections are reserved one after the other and committed once all of them are good.
-/
import Windchest.Object.Loadable
import Windchest.Text.Quoted

namespace Windchest

set_option autoImplicit false

/-- A sample file of a pipe, with the loops in it.  Releases have none. -/
structure SampleFile where
  file : String
  loops : List Loop := []
deriving DecidableEq, Repr

/-- One pipe. -/
structure Pipe where
  title : String
  attackFiles : List SampleFile
  releaseFiles : List SampleFile
  attacks : List Section := []
  releases : List Section := []
  readiness : Readiness := {}
deriving DecidableEq, Repr

namespace SampleFile

/-- The draft of the section in a sample file. -/
def draft (f : SampleFile) (store : Store) (aligned : Bool) : Except (Failure LoadError) Draft :=
  match store.recording f.file with
  | .error why => .error why
  | .ok audio =>
    match Draft.build? audio f.loops aligned with
    | .error why => .error (.error (.unfit (.inFile f.file why)))
    | .ok d => .ok d

end SampleFile

/-- The drafts of the files up to the first that has none, and why that one has none. -/
def draftFiles (store : Store) (aligned : Bool) :
    List SampleFile → List Draft × Option (Failure LoadError)
  | [] => ([], none)
  | f :: rest =>
    match f.draft store aligned with
    | .error why => ([], some why)
    | .ok d =>
      let (more, why) := draftFiles store aligned rest
      (d :: more, why)

namespace Pipe

/-- The pipe while it is being loaded: not ready, and its last error forgotten. -/
def starting (p : Pipe) : Pipe := { p with readiness := {} }

/-- The pipe with its sections, given as drafts with the handles of their blocks. -/
def install (p : Pipe) (attacks releases : List Draft) (blocks : List BlockId) : Pipe :=
  { p with
    attacks := List.zipWith Draft.commit attacks blocks
    releases := List.zipWith Draft.commit releases (blocks.drop attacks.length)
    readiness := { ready := true } }

/-- The plan to load the pipe from its files. -/
def fromFiles (store : Store) (p : Pipe) : Plan Pipe LoadError :=
  if p.attackFiles.isEmpty then .failing p.starting (.error (.unfit (.noAttacks p.title)))
  else
    let (attacks, why) := draftFiles store false p.attackFiles
    match why with
    | some why => ⟨p.starting, attacks.map fun d => ⟨d.samples, 0⟩, 0, .error why⟩
    | none =>
      let (releases, why) := draftFiles store true p.releaseFiles
      let drafts := attacks ++ releases
      let verdict :=
        match why, firstClash? p.title drafts with
        | some why, _ => .error why
        | none, some clash => .error (.error (.unfit (.channels clash)))
        | none, none => .ok (p.starting.install attacks releases)
      ⟨p.starting, drafts.map fun d => ⟨d.samples, 0⟩, 0, verdict⟩

/-- Reads the record of the pipe. -/
def read (p : Pipe) : IntakeM (List BlockId → Pipe) := do
  let n ← Intake.lift (Reader.count 1)
  if n ≠ p.attackFiles.length then
    Intake.malformed (.attacks p.title n p.attackFiles.length)
  let attacks ← Intake.drafts n
  let n ← Intake.lift (Reader.count 1)
  if n ≠ p.releaseFiles.length then
    Intake.malformed (.releases p.title n p.releaseFiles.length)
  let releases ← Intake.drafts n
  Intake.lift Reader.finish
  match firstClash? p.title (attacks ++ releases) with
  | some clash => Intake.malformed (.channels clash)
  | none => return p.starting.install attacks releases

/-- The bytes of the pipe's record. -/
def save (a : Arena) (p : Pipe) : Except CacheError Bytes :=
  if p.readiness.ready then do
    let attacks ← encodeSections a p.attacks
    let releases ← encodeSections a p.releases
    return Field.encode (.u32 (.ofNat p.attacks.length)) ++ attacks
      ++ (Field.encode (.u32 (.ofNat p.releases.length)) ++ releases)
  else .error (.notReady p.title)

/-- The pipe without its sections. -/
def cleared (p : Pipe) (readiness : Readiness) : Pipe :=
  { p with attacks := [], releases := [], readiness }

/-- One line about the pipe. -/
def describe (p : Pipe) : String :=
  s!"PipeSample \x7b title: {Text.quoted p.title}, attacks: {p.attackFiles.length}, releases: {p.releaseFiles.length}, ready: {p.readiness.ready} \x7d"

instance : Loadable Pipe where
  title := title
  isReady p := p.readiness.ready
  error? p := p.readiness.error
  fromFiles := fromFiles
  fromRecord record p := .ofRecord p.starting p.read record
  save := save
  fail message p := p.cleared { error := some message }
  reset p := p.cleared {}

end Pipe

end Windchest
