/-
# Windchest.Proofs.Object.Laws -- what a load may rely on of its objects

Every kind of object keeps a readiness and the message of its last failure, and a load
tells by them what became of the object.  `LawfulLoadable` says how loading, failing and
resetting set them.

Where the blocks of an object lie depends on what else is being loaded at the time.
`Relocatable` says that this makes no difference: with other handles that resolve to the
same samples, an object has the same sections and the same record.
-/
import Windchest.Object.Loadable
import Windchest.Proofs.Arena.Plans

namespace Windchest

set_option autoImplicit false

/-- Objects that tell whether they are loaded, and why not. -/
class LawfulLoadable (α : Type) [Loadable α] : Prop where
  isReady_reset : ∀ object : α, Loadable.isReady (Loadable.reset object) = false
  error?_reset : ∀ object : α, Loadable.error? (Loadable.reset object) = none
  isReady_fail : ∀ (message : String) (object : α),
    Loadable.isReady (Loadable.fail message object) = false
  error?_fail : ∀ (message : String) (object : α),
    Loadable.error? (Loadable.fail message object) = some message
  isReady_fromFiles : ∀ {store : Store} {object : α} {install : List BlockId → α},
    (Loadable.fromFiles store object).verdict = .ok install →
      ∀ ids, Loadable.isReady (install ids) = true
  isReady_fromRecord : ∀ {record : Bytes} {object : α} {install : List BlockId → α},
    (Loadable.fromRecord record object).verdict = .ok install →
      ∀ ids, Loadable.isReady (install ids) = true

/-- Two sections are the same but for where their samples lie. -/
def Section.Same (a b : Arena) (s t : Section) : Prop :=
  t.shape = s.shape ∧ ∃ samples, s.samples? a = some samples ∧ t.samples? b = some samples

/-- Whatever handles an object is installed with, it is the same if they resolve to the same. -/
structure Installs {α : Type} [Loadable α] (sections : α → List Section)
    (install : List BlockId → α) (contents : List (List Sample)) : Prop where
  error? : ∀ ids, Loadable.error? (install ids) = none
  sections : ∀ {a b : Arena} {ids ids'}, a.Resolves ids contents → b.Resolves ids' contents →
    List.Forall₂ (Section.Same a b) (sections (install ids)) (sections (install ids'))
  save : ∀ {a b : Arena} {ids ids'}, a.Resolves ids contents → b.Resolves ids' contents →
    Loadable.save a (install ids) = Loadable.save b (install ids')

/-- Objects to which it makes no difference where their blocks lie. -/
class Relocatable (α : Type) [Loadable α] extends LawfulLoadable α where
  /-- The sections of an object. -/
  sections : α → List Section
  sections_reset : ∀ object : α, sections (Loadable.reset object) = []
  sections_fail : ∀ (message : String) (object : α), sections (Loadable.fail message object) = []
  installs_fromFiles : ∀ {store : Store} {object : α} {install : List BlockId → α},
    (Loadable.fromFiles store object).verdict = .ok install →
      Installs sections install (Loadable.fromFiles store object).contents
  installs_fromRecord : ∀ {record : Bytes} {object : α} {install : List BlockId → α},
    (Loadable.fromRecord record object).verdict = .ok install →
      Installs sections install (Loadable.fromRecord record object).contents

end Windchest
