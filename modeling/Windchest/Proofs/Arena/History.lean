/-
# Windchest.Proofs.Arena.History -- an arena and its buffers, operation by operation

Buffers of one arena are asked for, filled, committed and dropped in any order, and now
and then everything is released.  `History.State.perform` is one such operation, on an
arena and the buffers that are open on it; `History.State.run` is a row of them.  Threads
that share an arena come down to such a row: what each of them does to the arena at once
is one operation.

`perform_cases` says what an operation can do to the arena: it lets go of everything, it
commits a buffer, or it gives no handle and takes no block away.
-/
import Windchest.Proofs.Arena.Plans

namespace Windchest

set_option autoImplicit false

namespace History

/-- What can be asked of an arena.  Open buffers are counted from the oldest on. -/
inductive Op where
  | allocate (n : Nat)
  | fill (buffer : Nat) (samples : List Sample)
  | commit (buffer : Nat)
  | drop (buffer : Nat)
  | releaseAll
deriving DecidableEq

/-- An arena and the buffers that are open on it, the oldest first. -/
structure State where
  arena : Arena
  buffers : List Buffer := []

namespace State

/-- What an operation does, and the handle that it gives out, if it does.  While a buffer is open
nothing can be released, so whoever releases everything drops what is open first. -/
def perform (s : State) : Op → Option BlockId × State
  | .allocate n =>
    match s.arena.allocate n with
    | (.granted b, a) => (none, ⟨a, s.buffers ++ [b]⟩)
    | (_, a) => (none, ⟨a, s.buffers⟩)
  | .fill i samples => (none, ⟨s.arena, s.buffers.modify i (·.fill samples)⟩)
  | .commit i =>
    match s.buffers[i]? with
    | some b => (some (s.arena.commit b).1, ⟨(s.arena.commit b).2, s.buffers.eraseIdx i⟩)
    | none => (none, s)
  | .drop i =>
    match s.buffers[i]? with
    | some b => (none, ⟨s.arena.drop b, s.buffers.eraseIdx i⟩)
    | none => (none, s)
  | .releaseAll => (none, ⟨(s.arena.dropAll s.buffers).releaseAll, []⟩)

/-- What a row of operations leads to. -/
def run (s : State) (ops : List Op) : State := ops.foldl (fun s op => (s.perform op).2) s

/-- The handles that a row of operations gives out, in order. -/
def given (s : State) : List Op → List BlockId
  | [] => []
  | op :: rest => (s.perform op).1.toList ++ (s.perform op).2.given rest

theorem perform_commit {s : State} {i : Nat} {b : Buffer} (isOpen : s.buffers[i]? = some b) :
    s.perform (.commit i)
      = (some (s.arena.commit b).1, ⟨(s.arena.commit b).2, s.buffers.eraseIdx i⟩) := by
  rw [perform, isOpen]

/-- Everything an operation can do to the arena. -/
theorem perform_cases (s : State) (op : Op) :
    (op = .releaseAll ∧ (s.perform op).1 = none ∧
      (s.perform op).2.arena = (s.arena.dropAll s.buffers).releaseAll) ∨
    (∃ i b, op = .commit i ∧ s.buffers[i]? = some b ∧ (s.perform op).1 = some (s.arena.commit b).1 ∧
      (s.perform op).2.arena = (s.arena.commit b).2) ∨
    (op ≠ .releaseAll ∧ (s.perform op).1 = none ∧ s.arena.Grows (s.perform op).2.arena) := by
  cases op with
  | allocate n =>
      refine Or.inr (Or.inr ⟨Op.noConfusion, ?_⟩)
      have grows := s.arena.grows_allocate n
      rw [perform]
      split <;> rename_i answer <;> rw [answer] at grows <;> exact ⟨rfl, grows⟩
  | fill i samples => exact Or.inr (Or.inr ⟨Op.noConfusion, rfl, .refl _⟩)
  | commit i =>
      cases isOpen : s.buffers[i]? with
      | some b =>
          rw [perform_commit isOpen]
          exact Or.inr (Or.inl ⟨i, b, rfl, isOpen, rfl, rfl⟩)
      | none =>
          rw [perform, isOpen]
          exact Or.inr (Or.inr ⟨Op.noConfusion, rfl, .refl _⟩)
  | drop i =>
      refine Or.inr (Or.inr ⟨Op.noConfusion, ?_⟩)
      rw [perform]
      split
      · exact ⟨rfl, s.arena.grows_drop _⟩
      · exact ⟨rfl, .refl _⟩
  | releaseAll => exact Or.inl ⟨rfl, rfl, rfl⟩

end State

end History

end Windchest
