/-
# Windchest.Load.Distributor -- handing out objects, each exactly once

Whoever wants an object first looks whether the load was aborted, then takes the
next index from the cursor and counts it as handed out.  The cursor is locked from
the one to the other, so it is ahead of the position exactly while someone holds
the lock.
-/

namespace Windchest

set_option autoImplicit false

/-- How far the objects of an organ have been handed out and loaded. -/
structure Distributor where
  total : Nat
  /-- The index of the next object. -/
  cursor : Nat := 0
  /-- How many objects have been handed out. -/
  pos : Nat := 0
  /-- How many objects have been loaded. -/
  loaded : Nat := 0
  aborted : Bool := false
deriving DecidableEq, Repr

namespace Distributor

/-- Whether nobody holds the lock on the cursor. -/
def Free (d : Distributor) : Prop := d.cursor = d.pos

instance (d : Distributor) : Decidable d.Free := inferInstanceAs (Decidable (_ = _))

/-- Takes the next index from the cursor, if one is left. -/
def claim (d : Distributor) : Option Nat × Distributor :=
  if d.cursor < d.total then (some d.cursor, { d with cursor := d.cursor + 1 }) else (none, d)

/-- Counts a claimed object as handed out. -/
def publish (d : Distributor) : Distributor := { d with pos := d.pos + 1 }

/-- The next object, unless all were handed out or the load was aborted. -/
def fetch (d : Distributor) : Option Nat × Distributor :=
  if d.aborted then (none, d)
  else
    match d.claim with
    | (some i, d) => (some i, d.publish)
    | (none, d) => (none, d)

/-- Counts an object as loaded. -/
def recordLoaded (d : Distributor) : Distributor := { d with loaded := d.loaded + 1 }

/-- Stops handing out objects. -/
def abort (d : Distributor) : Distributor := { d with aborted := true }

/-- Whether every object has been loaded. -/
def isComplete (d : Distributor) : Bool := d.loaded == d.total

/-- One line about the distributor. -/
def describe (d : Distributor) : String :=
  s!"ObjectDistributor \x7b total: {d.total}, pos: {d.pos}, loaded: {d.loaded}, aborted: {d.aborted} \x7d"

end Distributor

end Windchest
