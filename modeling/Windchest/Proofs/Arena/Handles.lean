/-
# Windchest.Proofs.Arena.Handles -- what the handle of a block stands for

A handle is given out when a buffer is committed.  Until everything is released it
resolves to the samples that the buffer held then, whatever else is asked of the arena.
Behind a release it resolves no more, although its index is given out again, and no two
handles of a history are alike (`History.stands_for_block`).

A handle is `Issued` if the arena is past it: it is of an earlier generation, or of this
one and the index of a block that is there.  No operation gives out a handle that is
issued already, and none makes an issued handle a new one; so all that is needed of the
past of an arena is in the arena.

Releases are counted without an end here (`generation_run`).  In a word there is room for the
count of fewer than 2^64 of them, and so far everything said here goes.
-/
import Windchest.Proofs.Arena.History
import Windchest.Section.Codec

namespace Windchest

set_option autoImplicit false

namespace Arena

/-- The arena has given out the handle, or one like it can never come from it. -/
def Issued (a : Arena) (id : BlockId) : Prop :=
  id.generation < a.generation ∨ id.generation = a.generation ∧ id.index < a.blocks.length

theorem Issued.of_grows {a b : Arena} {id : BlockId} (issued : a.Issued id) (grows : a.Grows b) :
    b.Issued id := by
  unfold Issued at issued ⊢
  have more := grows.blocks.length_le
  rw [grows.generation]
  omega

theorem issued_commit (a : Arena) (b : Buffer) :
    ¬ a.Issued (a.commit b).1 ∧ (a.commit b).2.Issued (a.commit b).1 := by
  constructor
  · rintro (earlier | ⟨-, inside⟩)
    · exact Nat.lt_irrefl _ earlier
    · exact Nat.lt_irrefl _ inside
  · refine Or.inr ⟨rfl, ?_⟩
    simp only [commit, List.length_append, List.length_singleton, Nat.lt_succ_self]

/-- Behind a release, every handle from before is of an earlier generation. -/
theorem Issued.stale {a : Arena} {id : BlockId} (issued : a.Issued id) :
    id.generation < a.releaseAll.generation := by
  have generation : a.releaseAll.generation = a.generation + 1 := rfl
  rcases issued with earlier | ⟨same, -⟩ <;> omega

theorem block?_of_stale {a : Arena} {id : BlockId} (stale : id.generation < a.generation) :
    a.block? id = none :=
  if_neg (Nat.ne_of_lt stale)

end Arena

namespace History.State

variable {s : State} {id : BlockId}

/-! ## One operation -/

theorem grows_perform {op : Op} (kept : op ≠ .releaseAll) : s.arena.Grows (s.perform op).2.arena := by
  rcases s.perform_cases op with ⟨released, -⟩ | ⟨i, b, -, -, -, arena⟩ | ⟨-, -, grows⟩
  · exact absurd released kept
  · rw [arena]
    exact s.arena.grows_commit b
  · exact grows

/-- Releases are counted, and nothing else is. -/
theorem generation_perform (op : Op) :
    (s.perform op).2.arena.generation
      = s.arena.generation + if op = .releaseAll then 1 else 0 := by
  by_cases released : op = .releaseAll
  · subst released
    rw [if_pos rfl]
    exact congrArg (· + 1) (s.arena.grows_dropAll s.buffers).generation
  · rw [if_neg released]
    exact (grows_perform released).generation

theorem stale_of_released (issued : s.arena.Issued id) :
    id.generation < (s.perform .releaseAll).2.arena.generation :=
  (issued.of_grows (s.arena.grows_dropAll s.buffers)).stale

/-- An issued handle stays issued. -/
theorem issued_perform (issued : s.arena.Issued id) (op : Op) : (s.perform op).2.arena.Issued id := by
  by_cases released : op = .releaseAll
  · subst released
    exact Or.inl (stale_of_released issued)
  · exact issued.of_grows (grows_perform released)

/-- A handle that is given out was not issued before. -/
theorem issued_of_given {op : Op} (given : (s.perform op).1 = some id) :
    ¬ s.arena.Issued id ∧ (s.perform op).2.arena.Issued id := by
  rcases s.perform_cases op with ⟨-, none, -⟩ | ⟨i, b, -, -, handle, arena⟩ | ⟨-, none, -⟩
  · cases none.symm.trans given
  · cases handle.symm.trans given
    rw [arena]
    exact s.arena.issued_commit b
  · cases none.symm.trans given

/-! ## Rows of operations -/

theorem grows_run {ops : List Op} (kept : Op.releaseAll ∉ ops) : s.arena.Grows (s.run ops).arena := by
  induction ops generalizing s with
  | nil => exact .refl _
  | cons op rest ih =>
      rw [List.mem_cons, not_or] at kept
      exact (grows_perform (Ne.symm kept.1)).trans (ih kept.2)

/-- The generation of an arena is the number of its releases.  It fits in a word as long as these are
fewer than 2^64. -/
theorem generation_run (s : State) (ops : List Op) :
    (s.run ops).arena.generation = s.arena.generation + ops.count .releaseAll := by
  induction ops generalizing s with
  | nil => rfl
  | cons op rest ih =>
      calc ((s.perform op).2.run rest).arena.generation
        _ = (s.perform op).2.arena.generation + rest.count .releaseAll := ih _
        _ = s.arena.generation + (op :: rest).count .releaseAll := by
          rw [generation_perform, List.count_cons, Nat.add_assoc, Nat.add_comm (rest.count _)]
          simp only [beq_iff_eq]

theorem stale_run (stale : id.generation < s.arena.generation) (ops : List Op) :
    id.generation < (s.run ops).arena.generation := by
  rw [generation_run]
  exact Nat.lt_add_right _ stale

/-- A release anywhere in the row makes a handle stale for the rest of it. -/
theorem stale_run_of_released (issued : s.arena.Issued id) {ops : List Op}
    (released : Op.releaseAll ∈ ops) : id.generation < (s.run ops).arena.generation := by
  induction ops generalizing s with
  | nil => exact absurd released List.not_mem_nil
  | cons op rest ih =>
      rcases List.mem_cons.mp released with rfl | later
      · exact stale_run (stale_of_released issued) rest
      · exact ih (issued_perform issued op) later

/-- What a row of operations gives out was not issued before it. -/
theorem not_issued_of_mem_given {ops : List Op} (mem : id ∈ s.given ops) : ¬ s.arena.Issued id := by
  induction ops generalizing s with
  | nil => exact absurd mem List.not_mem_nil
  | cons op rest ih =>
      rw [given, List.mem_append, Option.mem_toList] at mem
      rcases mem with now | later
      · exact (issued_of_given now).1
      · exact fun issued => ih later (issued_perform issued op)

/-- No two handles that a row of operations gives out are alike. -/
theorem nodup_given (s : State) (ops : List Op) : (s.given ops).Nodup := by
  induction ops generalizing s with
  | nil => exact List.nodup_nil
  | cons op rest ih =>
      rw [given]
      cases handle : (s.perform op).1 with
      | none => exact ih _
      | some id =>
          refine List.nodup_cons.mpr ⟨fun again => ?_, ih _⟩
          exact not_issued_of_mem_given again (issued_of_given handle).2

end History.State

namespace History

/-- **A handle stands for its block and for no other.**  It resolves to the samples that the buffer
held when it was committed, until everything is released, and from then on to nothing, whatever
else is done with the arena.  No two handles of a history are alike.

So a section is read and encoded with its own samples, or not at all. -/
theorem stands_for_block (s : State) {i : Nat} {id : BlockId}
    (committed : (s.perform (.commit i)).1 = some id) (later : List Op) :
    let now := (s.run (.commit i :: later)).arena
    (∃ b, s.buffers[i]? = some b ∧
      (Op.releaseAll ∉ later → now.block? id = some b.samples ∧ ∀ shape : Shape,
        Section.samples? ⟨shape, id⟩ now = some b.samples ∧
        Section.encode ⟨shape, id⟩ now = .ok (Field.encodeAll (Draft.fields ⟨shape, b.samples⟩)))) ∧
    (Op.releaseAll ∈ later → now.block? id = none ∧ ∀ shape : Shape,
      Section.samples? ⟨shape, id⟩ now = none ∧
      Section.encode ⟨shape, id⟩ now = .error (.malformed (.notResident id.index))) ∧
    (s.given (.commit i :: later)).Nodup := by
  intro now
  refine ⟨?_, fun released => ?_, s.nodup_given _⟩
  · rcases s.perform_cases (.commit i) with
      ⟨no, -⟩ | ⟨j, b, same, isOpen, handle, arena⟩ | ⟨-, none, -⟩
    · cases no
    · cases same
      cases handle.symm.trans committed
      refine ⟨b, isOpen, fun kept => ?_⟩
      have grows : (s.arena.commit b).2.Grows now := arena ▸ State.grows_run kept
      have resolved := Arena.block?_of_grows grows (s.arena.block?_commit b)
      refine ⟨resolved, fun shape => ⟨resolved, ?_⟩⟩
      rw [Section.encode, Section.samples?, resolved]
    · cases none.symm.trans committed
  · have gone : now.block? id = none :=
      Arena.block?_of_stale (State.stale_run_of_released (State.issued_of_given committed).2 released)
    refine ⟨gone, fun shape => ⟨gone, ?_⟩⟩
    rw [Section.encode, Section.samples?, gone]

/-- A buffer of two samples is open, and all of it is loud. -/
def loud : State := State.run ⟨{ limit := 64 }, []⟩ [.allocate 2, .fill 0 [⟨1⟩, ⟨2⟩]]

/-- Its block is given up, and another one takes its index: the old handle resolves to nothing, and
the new one, which stands for the other block, is not the old one. -/
theorem loud_does_not_come_back :
    let later : List Op := [.releaseAll, .allocate 1, .commit 0]
    (loud.perform (.commit 0)).1 = some ⟨0, 0⟩ ∧
      (loud.run [.commit 0, .allocate 3, .drop 0]).arena.block? ⟨0, 0⟩ = some [⟨1⟩, ⟨2⟩] ∧
      (loud.run (.commit 0 :: later)).arena.block? ⟨0, 0⟩ = none ∧
      loud.given (.commit 0 :: later) = [⟨0, 0⟩, ⟨0, 1⟩] := by
  have committed : (loud.perform (.commit 0)).1 = some ⟨0, 0⟩ := by decide
  obtain ⟨⟨b, isOpen, resolves⟩, -, -⟩ := stands_for_block loud committed [.allocate 3, .drop 0]
  obtain ⟨-, gone, -⟩ := stands_for_block loud committed [.releaseAll, .allocate 1, .commit 0]
  have filled : loud.buffers[0]? = some ⟨[⟨1⟩, ⟨2⟩], 8⟩ := by decide
  cases filled.symm.trans isOpen
  exact ⟨committed, (resolves (by decide)).1, (gone List.mem_cons_self).1, by decide⟩

end History

end Windchest
