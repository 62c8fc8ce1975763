/-
# Windchest.Organ.Definition -- the definition of an organ

A definition lists the ranks of an organ with the sample files of their pipes, and its
tremulants.  Its objects are the pipes of all ranks and then the tremulants, in the
order of the text; the records of a cache have this order too.
-/
import Windchest.Config.Error
import Windchest.Config.Library
import Windchest.Config.Parts
import Windchest.Object.Basic

namespace Windchest

set_option autoImplicit false

/-- A pipe in a definition. -/
structure PipeEntry where
  /-- What tells the pipe from others of its rank; by default, its position. -/
  name : Option String := none
  attacks : List SampleFile
  releases : List SampleFile := []
deriving DecidableEq, Repr

/-- A rank in a definition. -/
structure Rank where
  name : String
  pipes : List PipeEntry
deriving DecidableEq, Repr

/-- A tremulant in a definition. -/
structure TremulantEntry where
  name : String
  params : WaveParams
deriving DecidableEq, Repr

/-- The definition of an organ. -/
structure Definition where
  name : String
  ranks : List Rank := []
  tremulants : List TremulantEntry := []
deriving DecidableEq, Repr

/-- The loop that a value describes. -/
def Loop.ofValue? (v : Value) : Option Loop := do
  let p ← Parts.of? v
  return ⟨← p.required ⟨"start", 0⟩ Value.asUInt32?, ← p.required ⟨"end", 1⟩ Value.asUInt32?⟩

/-- The attack file that a value describes. -/
def SampleFile.attackOfValue? (v : Value) : Option SampleFile := do
  let p ← Parts.of? v
  return ⟨← p.required ⟨"file", 0⟩ Value.asText?,
    ← p.withDefault ⟨"loops", 1⟩ [] (Value.asListOf? Loop.ofValue?)⟩

/-- The release file that a value describes. -/
def SampleFile.releaseOfValue? (v : Value) : Option SampleFile := do
  let p ← Parts.of? v
  return ⟨← p.required ⟨"file", 0⟩ Value.asText?, []⟩

/-- The pipe that a value describes. -/
def PipeEntry.ofValue? (v : Value) : Option PipeEntry := do
  let p ← Parts.of? v
  return ⟨← p.optional ⟨"name", 0⟩ Value.asText?,
    ← p.required ⟨"attacks", 1⟩ (Value.asListOf? SampleFile.attackOfValue?),
    ← p.withDefault ⟨"releases", 2⟩ [] (Value.asListOf? SampleFile.releaseOfValue?)⟩

/-- The rank that a value describes. -/
def Rank.ofValue? (v : Value) : Option Rank := do
  let p ← Parts.of? v
  return ⟨← p.required ⟨"name", 0⟩ Value.asText?,
    ← p.required ⟨"pipes", 1⟩ (Value.asListOf? PipeEntry.ofValue?)⟩

/-- The tremulant that a value describes. -/
def TremulantEntry.ofValue? (v : Value) : Option TremulantEntry := do
  let p ← Parts.of? v
  return ⟨← p.required ⟨"name", 0⟩ Value.asText?,
    { period := ← p.required ⟨"period_ms", 1⟩ Value.asUInt32?
      depth := ← p.required ⟨"amp_mod_depth", 2⟩ Value.asUInt32?
      startRate := ← p.withDefault ⟨"start_rate", 3⟩ 10 Value.asUInt32?
      stopRate := ← p.withDefault ⟨"stop_rate", 4⟩ 10 Value.asUInt32?
      sampleRate := ← p.withDefault ⟨"sample_rate", 5⟩ 44100 Value.asUInt32? }⟩

/-- The first pipe without attacks, counted from one, with the name of its rank. -/
def firstSilent? (ranks : List Rank) : Option (Nat × String) :=
  ranks.findSome? fun rank =>
    (rank.pipes.findIdx? fun pipe => pipe.attacks.isEmpty).map fun i => (i + 1, rank.name)

namespace Definition

/-- The definition that a table describes. -/
def ofTable? (fields : List (String × Value)) : Option Definition := do
  let p := Parts.named fields
  return ⟨← p.required ⟨"name", 0⟩ Value.asText?,
    ← p.withDefault ⟨"ranks", 1⟩ [] (Value.asListOf? Rank.ofValue?),
    ← p.withDefault ⟨"tremulants", 2⟩ [] (Value.asListOf? TremulantEntry.ofValue?)⟩

/-- The definition in a text. -/
def parse (config : ConfigLibrary) (text : String) : Except ConfigError Definition :=
  match (config.ofText text).bind ofTable? with
  | none => .error .load
  | some d =>
    match firstSilent? d.ranks with
    | some (pipe, rank) => .error (.noAttacks pipe rank)
    | none => .ok d

end Definition

/-- The object for a pipe at a position in its rank. -/
def Rank.object (rank : Rank) (position : Nat) (pipe : PipeEntry) : Object :=
  .pipe {
    title := s!"{rank.name} {pipe.name.getD (toString (position + 1))}"
    attackFiles := pipe.attacks
    releaseFiles := pipe.releases }

/-- The objects of a definition, in order. -/
def Definition.objects (d : Definition) : List Object :=
  d.ranks.flatMap (fun rank => rank.pipes.mapIdx rank.object)
    ++ d.tremulants.map fun t => .tremulant { title := t.name, params := t.params }

/-- Descriptions in brackets, with commas between them. -/
def describeList {α : Type} (describe : α → String) (items : List α) : String :=
  "[" ++ String.intercalate ", " (items.map describe) ++ "]"

/-- One line about a loop. -/
def Loop.describe (l : Loop) : String := s!"LoopPoint \x7b start: {l.start}, end: {l.stop} \x7d"

/-- One line about an attack file. -/
def SampleFile.describeAttack (f : SampleFile) : String :=
  s!"Attack \x7b file: {Text.quoted f.file}, loops: {describeList Loop.describe f.loops} \x7d"

/-- One line about a release file. -/
def SampleFile.describeRelease (f : SampleFile) : String :=
  s!"Release \x7b file: {Text.quoted f.file} \x7d"

/-- One line about a pipe. -/
def PipeEntry.describe (p : PipeEntry) : String :=
  let name := match p.name with
    | some name => s!"Some({Text.quoted name})"
    | none => "None"
  let attacks := describeList SampleFile.describeAttack p.attacks
  let releases := describeList SampleFile.describeRelease p.releases
  s!"Pipe \x7b name: {name}, attacks: {attacks}, releases: {releases} \x7d"

/-- One line about a tremulant. -/
def TremulantEntry.describe (t : TremulantEntry) : String :=
  let w := t.params
  s!"Tremulant \x7b name: {Text.quoted t.name}, period_ms: {w.period}, amp_mod_depth: {w.depth}, start_rate: {w.startRate}, stop_rate: {w.stopRate}, sample_rate: {w.sampleRate} \x7d"

end Windchest
