/-
# Windchest.Plan -- what an object wants from the arena in order to be loaded

Loading an object is split in two.  The first part reads sample files or a cache
record and touches no shared state; its result is a `Plan`: the blocks to reserve,
in order, and what becomes of the object once all of them are reserved.  The second
part carries a plan out on an arena.  It reserves block after block.  If one is
refused, or the plan ends in a failure, it gives back all it reserved; otherwise it
commits all blocks in order and installs their handles.

So an object that fails to load leaves nothing behind in the arena, whatever it is.

That a block is committed early cannot be said with a plan: its verdict stands behind all
demands, and handles are given to the verdict alone.  Whatever is loaded keeps to this order.
Pipes and tremulants commit at a single place, their `install`, and they come to it when all
sections are built or read, the record is used up and the channels are compared.  An object
that commits before its last check would need another kind of plan, with an end behind each
demand.
-/
import Windchest.Arena

namespace Windchest

set_option autoImplicit false

/-- A block that a load asks the arena for. -/
structure Demand where
  contents : List Sample
  /-- The bytes of the object's record not yet read when the arena is asked. -/
  unread : Nat := 0

/-- The way to load an object of type `α`, where errors are of type `ε`. -/
structure Plan (α ε : Type) where
  /-- The object from the moment the load starts, and after one that fails. -/
  started : α
  /-- The blocks to reserve, in order. -/
  demands : List Demand
  /-- The bytes of the object's record not read when the plan ends. -/
  unread : Nat := 0
  /-- The loaded object, given the handles of its blocks, or why there is none. -/
  verdict : Except (Failure ε) (List BlockId → α)

/-- Why an object was not loaded. -/
inductive Setback (ε : Type) where
  | outOfMemory (why : OutOfMemory)
  | error (e : ε)
  | fault (f : Fault)
deriving DecidableEq, Repr

/-- The setback that ends a plan. -/
def Failure.toSetback {ε : Type} : Failure ε → Setback ε
  | .error e => .error e
  | .fault f => .fault f

namespace Arena

/-- Asks for a buffer and fills it. -/
def place (a : Arena) (contents : List Sample) : Grant × Arena :=
  match a.allocate contents.length with
  | (.granted b, a) => (.granted (b.fill contents), a)
  | (answer, a) => (answer, a)

/-- Gives back a list of buffers. -/
def dropAll (a : Arena) (held : List Buffer) : Arena := held.foldl drop a

/-- Commits a list of buffers, in order. -/
def commitAll (a : Arena) : List Buffer → List BlockId × Arena
  | [] => ([], a)
  | b :: rest =>
    let (id, a) := a.commit b
    let (ids, a) := a.commitAll rest
    (id :: ids, a)

end Arena

/-- How carrying out a plan ended. -/
structure Carried (α ε : Type) where
  object : α
  arena : Arena
  /-- The bytes of the object's record that were not read. -/
  unread : Nat
  result : Except (Setback ε) Unit

/-- An attempt to load one of several objects, and how it ended. -/
structure Attempt (ε : Type) where
  /-- The position of the object among all of them. -/
  index : Nat
  result : Except (Setback ε) Unit

namespace Plan

variable {α ε : Type}

/-- Goes on with a plan of which the buffers `held` are already reserved. -/
def carryOn (p : Plan α ε) (a : Arena) (held : List Buffer) : List Demand → Carried α ε
  | [] =>
    match p.verdict with
    | .error why => ⟨p.started, a.dropAll held, p.unread, .error why.toSetback⟩
    | .ok install =>
      let (ids, a) := a.commitAll held
      ⟨install ids, a, p.unread, .ok ()⟩
  | d :: rest =>
    match a.place d.contents with
    | (.granted b, a) => p.carryOn a (held ++ [b]) rest
    | (.refused why, a) => ⟨p.started, a.dropAll held, d.unread, .error (.outOfMemory why)⟩
    | (.impossible, a) => ⟨p.started, a.dropAll held, d.unread, .error (.fault .capacity)⟩

/-- Carries a plan out. -/
def carryOut (p : Plan α ε) (a : Arena) : Carried α ε := p.carryOn a [] p.demands

/-- The plan that fails before it asks for anything. -/
def failing (started : α) (why : Failure ε) : Plan α ε :=
  { started, demands := [], verdict := .error why }

end Plan

end Windchest
