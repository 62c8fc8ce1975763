/-
# Windchest.Object.Basic -- the objects of an organ: pipes and tremulants
-/
import Windchest.Object.Pipe
import Windchest.Object.Tremulant

namespace Windchest

set_option autoImplicit false

/-- An object of an organ. -/
inductive Object where
  | pipe (p : Pipe)
  | tremulant (t : Tremulant)
deriving DecidableEq, Repr

/-- The plan of the same load, seen from a wider type of objects. -/
def Plan.map {α β ε : Type} (f : α → β) (p : Plan α ε) : Plan β ε where
  started := f p.started
  demands := p.demands
  unread := p.unread
  verdict := p.verdict.map fun install ids => f (install ids)

namespace Object

/-- The attack sections in the arena. -/
def attacks : Object → List Section
  | pipe p => p.attacks
  | tremulant t => t.attack.toList

/-- The release sections in the arena. -/
def releases : Object → List Section
  | pipe p => p.releases
  | tremulant t => t.release.toList

instance : Loadable Object where
  title
    | pipe p => Loadable.title p
    | tremulant t => Loadable.title t
  isReady
    | pipe p => Loadable.isReady p
    | tremulant t => Loadable.isReady t
  error?
    | pipe p => Loadable.error? p
    | tremulant t => Loadable.error? t
  fromFiles store
    | pipe p => (Loadable.fromFiles store p).map pipe
    | tremulant t => (Loadable.fromFiles store t).map tremulant
  fromRecord record
    | pipe p => (Loadable.fromRecord record p).map pipe
    | tremulant t => (Loadable.fromRecord record t).map tremulant
  save a
    | pipe p => Loadable.save a p
    | tremulant t => Loadable.save a t
  fail message
    | pipe p => pipe (Loadable.fail message p)
    | tremulant t => tremulant (Loadable.fail message t)
  reset
    | pipe p => pipe (Loadable.reset p)
    | tremulant t => tremulant (Loadable.reset t)

end Object

end Windchest
