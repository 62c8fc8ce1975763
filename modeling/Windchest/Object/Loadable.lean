/-
# Windchest.Object.Loadable -- objects that can be loaded

A loadable object is populated from its sample files or from the record that it
wrote to the cache before.  Either way it says, as a plan, which blocks it wants and
what it becomes with them; carrying the plan out is not its business.

`Intake` reads a record and collects the blocks on the way, so that the plan of a
damaged record asks for exactly the blocks that come before the damage.
-/
import Windchest.Object.Store
import Windchest.Plan
import Windchest.Section.Codec

namespace Windchest

set_option autoImplicit false

/-- Objects whose sample data can be loaded and saved. -/
class Loadable (α : Type) where
  /-- The title shown while the object loads. -/
  title : α → String
  /-- Whether the sample data is in the arena. -/
  isReady : α → Bool
  /-- What the last load that failed has left as its message. -/
  error? : α → Option String
  /-- The plan to load the object from its sample files. -/
  fromFiles : Store → α → Plan α LoadError
  /-- The plan to load the object from the bytes of a record. -/
  fromRecord : Bytes → α → Plan α CacheError
  /-- The bytes of the object's record. -/
  save : Arena → α → Except CacheError Bytes
  /-- The object after a load that failed with a message. -/
  fail : String → α → α
  /-- The object without its sample data. -/
  reset : α → α

/-- Whether an object is loaded, or why the last load failed. -/
structure Readiness where
  ready : Bool := false
  error : Option String := none
deriving DecidableEq, Repr

/-- How far a record has been read, and the blocks found in it so far. -/
structure Intake where
  unread : Bytes
  demands : List Demand := []

/-- Reads a record and collects the blocks found in it. -/
abbrev IntakeM := EStateM (Failure CacheError) Intake

namespace Intake

/-- Reads fields. -/
def lift {α : Type} (read : Reader α) : IntakeM α := fun i =>
  match read i.unread with
  | .ok a rest => .ok a { i with unread := rest }
  | .error e rest => .error e { i with unread := rest }

/-- Fails because the record is malformed. -/
def malformed {α : Type} (why : Malformation) : IntakeM α := throw (.error (.malformed why))

/-- Asks for a block with the samples that were read last. -/
def demand (contents : List Sample) : IntakeM Unit :=
  modify fun i =>
    { i with demands := i.demands ++ [⟨contents, i.unread.length + 4 * contents.length⟩] }

/-- Reads a section and asks for its block. -/
def draft : IntakeM Draft := do
  let d ← lift Draft.read
  demand d.samples
  return d

/-- Reads `n` sections. -/
def drafts : Nat → IntakeM (List Draft)
  | 0 => return []
  | n + 1 => do
    let first ← draft
    let rest ← drafts n
    return first :: rest

end Intake

/-- The plan that reading a record results in. -/
def Plan.ofRecord {α : Type} (started : α) (read : IntakeM (List BlockId → α)) (record : Bytes) :
    Plan α CacheError :=
  match read { unread := record } with
  | .ok install i => ⟨started, i.demands, i.unread.length, .ok install⟩
  | .error why i => ⟨started, i.demands, i.unread.length, .error why⟩

/-- The plan to restore the section at the front of a record, whatever follows it. -/
def Section.fromRecord (record : Bytes) : Plan (Option Section) CacheError :=
  .ofRecord none (do
    let d ← Intake.draft
    return fun blocks => blocks.head?.map d.commit) record

/-- The bytes of several sections in a record. -/
def encodeSections (a : Arena) : List Section → Except CacheError Bytes
  | [] => .ok []
  | s :: rest => do
    let first ← s.encode a
    let more ← encodeSections a rest
    return first ++ more

/-- The first clash of channel counts between the first section and a later one. -/
def firstClash? (title : String) : List Draft → Option ChannelClash
  | [] => none
  | first :: rest =>
    (rest.find? fun d => d.shape.channels != first.shape.channels).map fun d =>
      ⟨title, first.shape.channels, d.shape.channels⟩

end Windchest
