/-
# Windchest.Proofs.Object.Atomicity -- an object is loaded as a whole, or the arena is as it was

A load reserves block after block, and any of its sections may turn out to be of no use:
a file is missing, a loop does not fit, a record ends early, there is no room, or at the
very end the channels do not agree.  Whatever the object was before and whatever it is
loaded from, no block is committed until all sections are good, and what a failed load
has reserved is given back (`loads_are_atomic`).
-/
import Windchest.Audio.Known
import Windchest.Proofs.Object.Volume
import Windchest.Proofs.Section.RoundTrip

namespace Windchest

set_option autoImplicit false

/-- A plan that fails without a fault leaves the arena as it was. -/
theorem Plan.arena_of_error {α ε : Type} {p : Plan α ε} {a : Arena} {why : Setback ε}
    (failed : (p.carryOut a).result = .error why) (regular : ∀ fault, why ≠ .fault fault) :
    (p.carryOut a).arena = a := by
  obtain ⟨used, blocks⟩ := carryOut_error failed regular
  obtain ⟨⟨limit, generation, -⟩, -⟩ := p.carryOut_ends a
  generalize (p.carryOut a).arena = b at *
  cases b
  simp only at limit used blocks generation
  rw [limit, used, blocks, generation]

namespace Object

theorem unready_starting (object : Object) : Loadable.isReady object.starting = false := by
  cases object <;> rfl

/-- An attempt to load an object has added just the blocks of its sections to the arena, or it has
changed nothing there. -/
structure Atomic {ε : Type} (a : Arena) (c : Carried Object ε) : Prop where
  /-- Blocks that were there before are there still, under the same handles. -/
  kept : a.Grows c.arena
  loaded : c.result = .ok () → Loadable.isReady c.object = true ∧
    c.arena.used = a.used + 4 * c.object.volume ∧
    c.arena.blocks.length = a.blocks.length + c.object.sections.length ∧
    ∀ s ∈ c.object.sections, s.Resident c.arena
  failed : ∀ why, c.result = .error why → (∀ fault, why ≠ .fault fault) →
    c.arena = a ∧ Loadable.isReady c.object = false

/-- Carrying out a plan is atomic if the plan starts from an object that is not ready, and makes
objects that have just the blocks that it asks for. -/
theorem atomic_of_exact {ε : Type} {p : Plan Object ε} (unready : Loadable.isReady p.started = false)
    (made : ∀ {a object}, p.Ends a object (.ok ()) → Loadable.isReady object = true ∧ Exact p a object)
    (a : Arena) : Atomic a (p.carryOut a) := by
  obtain ⟨grows, ends⟩ := p.carryOut_ends a
  refine ⟨grows, ?_, ?_⟩
  · intro accepted
    rw [accepted] at ends
    obtain ⟨ready, exact⟩ := made ends
    obtain ⟨used, blocks⟩ := Plan.carryOut_ok accepted
    exact ⟨ready, exact.bytes ▸ used, exact.blocks ▸ blocks, exact.resident⟩
  · intro why failed regular
    rw [failed] at ends
    exact ⟨Plan.arena_of_error failed regular, ends.started ▸ unready⟩

end Object

/-- **Loading an object is all or nothing.**  From whatever state of the object and of the arena, from
files or from a record: a load that succeeds takes four bytes for every sample of the sections that
the object has now and adds a block for each of them, and a load that fails leaves the whole arena as
it was and the object not ready. -/
theorem loads_are_atomic (object : Object) (store : Store) (record : Bytes) (a : Arena) :
    Object.Atomic a ((Loadable.fromFiles store object).carryOut a) ∧
      Object.Atomic a ((Loadable.fromRecord record object).carryOut a) := by
  constructor
  · refine Object.atomic_of_exact (by rw [Object.started_fromFiles, Object.unready_starting]) ?_ a
    intro b loaded ends
    obtain ⟨install, ids, promised, rfl, -⟩ := ends.installs
    exact ⟨LawfulLoadable.isReady_fromFiles (Plan.verdict_of_promised promised).2 ids,
      Object.exact_of_fromFiles ends⟩
  · refine Object.atomic_of_exact (by rw [Object.started_fromRecord, Object.unready_starting]) ?_ a
    intro b loaded ends
    obtain ⟨install, ids, promised, rfl, -⟩ := ends.installs
    exact ⟨LawfulLoadable.isReady_fromRecord (Plan.verdict_of_promised promised).2 ids,
      Object.exact_of_fromRecord ends⟩

/-- A pipe that is restored from two silent sections in an arena with this limit. -/
def restoreHushes (limit : Nat) : Carried Object CacheError :=
  (Loadable.fromRecord (Pipe.record [hush] [hush])
    (Object.pipe ⟨"C", [⟨"c.wav", []⟩], [⟨"r.wav", []⟩], [], [], {}⟩)).carryOut { limit }

/-- Where there is room for one of the two sections only, it is given back; where there is room for
both, they fill it. -/
theorem restoreHushes_all_or_nothing :
    ((restoreHushes 135).arena = { limit := 135 } ∧
      Loadable.isReady (restoreHushes 135).object = false) ∧
    Loadable.isReady (restoreHushes 136).object = true ∧ (restoreHushes 136).arena.used = 136 := by
  have atomic (limit : Nat) : Object.Atomic { limit } (restoreHushes limit) :=
    (loads_are_atomic _ ⟨.memory [], .known⟩ _ _).2
  constructor
  · have short : (restoreHushes 135).result = .error (.outOfMemory ⟨68, 68, 135⟩) := by
      decide +kernel
    exact (atomic 135).failed _ short fun fault => nofun
  · obtain ⟨accepted, volume⟩ :
        (restoreHushes 136).result = .ok () ∧ (restoreHushes 136).object.volume = 34 := by
      decide +kernel
    obtain ⟨ready, used, -⟩ := (atomic 136).loaded accepted
    exact ⟨ready, by rw [used, volume]⟩

end Windchest
