/-
# Windchest.Proofs.Load.Memory -- what a load takes of the arena

Objects that fail take nothing of the arena, whatever they have reserved before they
fail, and whatever the other threads reserve in the meantime.  So when a load has ended,
what is in use beyond what was in use before are the sections of the objects that are
ready (`memory_of_load`).

The walk over the cache and the crew behind it are added up apart: `CacheWalk.footprint_of_run`
counts the objects that were read from their records, and `Crew.footprint_of_reaches` the
plans of those that were loaded from their files.  Neither changes what an object was given to
load (`reset_of_loads`).
-/
import Windchest.Proofs.Crew.Footprint
import Windchest.Proofs.Load.Truth
import Windchest.Proofs.Object.Volume

namespace Windchest

set_option autoImplicit false

open Cache (Source)
open Object (Exact volume)

/-- Between two arenas, so many bytes have come into use and so many blocks were added as objects
take. -/
structure Arena.Gains (a b : Arena) (objects : List Object) : Prop where
  used : b.used = a.used + 4 * (objects.map volume).sum
  blocks : b.blocks.length = a.blocks.length + (objects.map (·.sections.length)).sum

namespace Arena.Gains

variable {a b c : Arena} {objects more : List Object}

theorem nil (a : Arena) : a.Gains a [] := ⟨rfl, rfl⟩

theorem trans (first : a.Gains b objects) (second : b.Gains c more) : a.Gains c (objects ++ more) := by
  constructor
  · rw [second.used, first.used, List.map_append, List.sum_append, Nat.mul_add, Nat.add_assoc]
  · rw [second.blocks, first.blocks, List.map_append, List.sum_append, Nat.add_assoc]

theorem perm (gains : a.Gains b objects) (perm : objects.Perm more) : a.Gains b more where
  used := by rw [gains.used, (perm.map volume).sum_eq]
  blocks := by rw [gains.blocks, (perm.map _).sum_eq]

end Arena.Gains

variable {report : Reporter} {store : Store} {workers : Nat}

namespace CacheWalk

variable {source last : Source} {a b : Arena} {front read left : List Object} {w : CacheWalk Object}

theorem Reads.gains (reads : Reads source a front read last b) : a.Gains b read := by
  induction reads with
  | none source a => exact .nil a
  | @more source next last a b object record rest read intact accepted others ih =>
      have exact_ : Exact (planFor object (.ok record)) (attempt record object a).arena
          (attempt record object a).object := Object.exact_of_fromRecord (ends_of_accepted accepted)
      obtain ⟨used, blocks⟩ := Plan.carryOut_ok accepted
      have first : a.Gains (attempt record object a).arena [(attempt record object a).object] := by
        constructor
        · rw [used, exact_.bytes, List.map_singleton, List.sum_singleton]
        · rw [blocks, exact_.blocks, List.map_singleton, List.sum_singleton]
      exact first.trans ih

theorem Stop.gains {attempts : List (Attempt CacheError)}
    (stop : Stop report source a read attempts left w) : a.Gains w.arena [] := by
  cases stop with
  | full trace quiet => exact .nil a
  | cancelled left trace declined => exact .nil a
  | short object rest record why trace quiet intact result =>
      obtain ⟨used, blocks⟩ := Plan.carryOut_error result (by simp)
      exact ⟨used, congrArg List.length blocks⟩
  | unusable object rest why trace quiet result =>
      obtain ⟨used, blocks⟩ := Plan.carryOut_error result (by simp)
      exact ⟨used, congrArg List.length blocks⟩

/-- **What a walk takes of the arena are the objects that it has loaded.** -/
theorem footprint_of_run {files : FileSystem} {target : CacheTarget} {objects : List Object}
    (ran : run files target report objects a = .ok w) :
    a.Gains w.arena (w.objects.take w.distributor.loaded) := by
  rcases run_cases ran with ⟨usage, -, rfl⟩ |
    ⟨records, last, b, front, read, left, -, rfl, reads, stop⟩
  · exact .nil a
  · have gains := reads.gains.trans stop.gains
    rw [List.append_nil] at gains
    cases stop with
    | full trace quiet =>
        rw [List.take_length]
        exact gains
    | cancelled left trace declined =>
        rw [List.take_left]
        exact gains
    | short object rest record why trace quiet intact result =>
        rw [List.take_left]
        exact gains
    | unusable object rest why trace quiet result =>
        rw [List.take_left]
        exact gains

/-- A walk changes nothing about what its objects were given to load. -/
theorem reset_of_run {files : FileSystem} {target : CacheTarget} {objects : List Object}
    (ran : run files target report objects a = .ok w) :
    w.objects.map Loadable.reset = objects.map Loadable.reset :=
  map_of_run Object.reset_started Object.reset_of_fromRecord Object.reset_fail ran

end CacheWalk

/-- What an attempt makes of an object is given the same to load. -/
theorem Object.reset_settle {store : Store} {before object : Object} {a : Arena}
    {result : Except (Setback LoadError) Unit}
    (ends : (Loadable.fromFiles store before).Ends a object result) :
    Loadable.reset (settle object result) = Loadable.reset before := by
  cases result with
  | ok accepted =>
      obtain ⟨install, ids, promised, rfl, -⟩ := ends.installs
      obtain ⟨attacks, releases, drafted, -⟩ :=
        drafted_of_fromFiles (Plan.verdict_of_promised promised).2
      exact drafted.reset_install ids
  | error why =>
      rw [settle, reset_fail, ends.started, reset_fromFiles_started]

/-- Neither does a crew. -/
theorem CacheWalk.reset_of_crew {objects : List Object} {w : CacheWalk Object} {s c : Crew Object}
    (done : w.Done report objects) (goesOn : w.crew? report store workers = some s)
    (reaches : s.Reaches c) (rest : c.AtRest) :
    c.objects.map Loadable.reset = w.objects.map Loadable.reset := by
  have finished := finished_of_crew? done goesOn reaches rest
  obtain ⟨-, plans, is, -⟩ := crew?_eq_some done goesOn
  apply List.ext_getElem?
  intro i
  rw [List.getElem?_map, List.getElem?_map, ← is]
  by_cases handed : w.distributor.loaded ≤ i ∧ i < c.distributor.pos
  · obtain ⟨attempt, mem, rfl⟩ := List.mem_map.mp (finished.mem_indices.mpr handed)
    obtain ⟨plan, object, planned, ends, at_i⟩ := finished.settled attempt mem
    rw [finished.follows.plans, plans, List.getElem?_map] at planned
    obtain ⟨before, given, rfl⟩ := Option.map_eq_some_iff.mp planned
    rw [at_i, is, given, Option.map_some, Option.map_some, Object.reset_settle ends]
  · rw [finished.untouched i handed]

/-- **A load changes nothing about what its objects were given to load.** -/
theorem reset_of_loads {target : CacheTarget} {stage : Stage Object} {r : LoadResult Object}
    (run : Loads report store target workers stage r) :
    r.objects.map Loadable.reset = stage.objects.map Loadable.reset := by
  rw [← Object.map_reset_reset stage.objects]
  cases run with
  | cached walked settled => exact CacheWalk.reset_of_run walked
  | crewed walked goesOn reaches rest =>
      exact (CacheWalk.reset_of_crew (CacheWalk.done_of_run walked) goesOn reaches rest).trans
        (CacheWalk.reset_of_run walked)

/-- No object asks the arena for as many as 2^61 samples at once when it is loaded from its files. -/
def Stage.Modest (store : Store) (stage : Stage Object) : Prop :=
  ∀ object ∈ stage.objects, ∀ samples ∈ (Loadable.fromFiles store object).contents,
    samples.length < 2 ^ 61

/-- What the crew of a modest stage asks for are buffers that can exist. -/
theorem Stage.Modest.crew {stage : Stage Object} {target : CacheTarget} {w : CacheWalk Object}
    {s : Crew Object} (modest : stage.Modest store)
    (walked : CacheWalk.run stage.files target report (stage.objects.map Loadable.reset) stage.arena
      = .ok w)
    (plans : s.plans = w.objects.map (Loadable.fromFiles store)) : s.Modest := by
  intro plan mem
  rw [plans] at mem
  obtain ⟨object, inWalk, rfl⟩ := List.mem_map.mp mem
  have all : w.objects.map Loadable.reset = stage.objects.map Loadable.reset := by
    rw [CacheWalk.reset_of_run walked, Object.map_reset_reset]
  have given : Loadable.reset object ∈ stage.objects.map Loadable.reset :=
    all ▸ List.mem_map_of_mem inWalk
  obtain ⟨original, inStage, same⟩ := List.mem_map.mp given
  rw [Plan.fits_iff, ← Object.contents_fromFiles, ← same, Object.contents_fromFiles]
  intro samples asked
  have := modest original inStage samples asked
  unfold Arena.maxBuffer
  omega

/-- The objects at some positions. -/
abbrev objectsAt (objects : List Object) (positions : List Nat) : List Object :=
  positions.filterMap fun i => objects[i]?

/-- What a crew takes of the arena are the objects that it has loaded. -/
theorem CacheWalk.gains_of_crew {objects : List Object} {w : CacheWalk Object} {s c : Crew Object}
    (done : w.Done report objects) (goesOn : w.crew? report store workers = some s)
    (modest : s.Modest) (reaches : s.Reaches c) (rest : c.AtRest) :
    w.arena.Gains c.arena (objectsAt c.objects ((c.attempts.filter (·.succeeded)).map (·.index))) := by
  have finished := finished_of_crew? done goesOn reaches rest
  obtain ⟨fresh, plans, is, arena, distributor, -⟩ := crew?_eq_some done goesOn
  have planned : s.objects.length = s.plans.length := by rw [plans, is, List.length_map]
  have total : s.distributor.total = s.plans.length := by
    rw [distributor, plans, List.length_map, done.total, done.length]
  obtain ⟨used, blocks⟩ := Crew.footprint_of_reaches fresh planned total modest reaches rest
  have loaded (attempt : Attempt LoadError) (mem : attempt ∈ c.attempts)
      (succeeded : attempt.succeeded = true) : ∃ object plan, c.objects[attempt.index]? = some object ∧
        c.plans[attempt.index]? = some plan ∧ Exact plan c.arena object := by
    obtain ⟨plan, object, at_i, ends, object_is⟩ := finished.settled attempt mem
    obtain ⟨i, result⟩ := attempt
    cases result with
    | error why => cases succeeded
    | ok accepted =>
        have planned := at_i
        rw [finished.follows.plans, plans, List.getElem?_map] at planned
        obtain ⟨before, -, rfl⟩ := Option.map_eq_some_iff.mp planned
        exact ⟨object, _, object_is, at_i, Object.exact_of_fromFiles ends⟩
  constructor
  · rw [used, arena, gained_eq fun object => 4 * volume object, List.sum_map_mul_left]
    intro attempt mem succeeded
    obtain ⟨object, plan, object_is, at_i, exact_⟩ := loaded attempt mem succeeded
    exact ⟨object, object_is, (sizeAt_of_planned at_i).trans exact_.bytes⟩
  · rw [blocks, arena, gained_eq fun object => object.sections.length]
    intro attempt mem succeeded
    obtain ⟨object, plan, object_is, at_i, exact_⟩ := loaded attempt mem succeeded
    exact ⟨object, object_is, (sizeAt_of_planned at_i).trans exact_.blocks⟩

/-- Every run of a load takes of the arena just the objects that it has loaded. -/
theorem gains_of_loads {target : CacheTarget} {stage : Stage Object} {r : LoadResult Object}
    (modest : stage.Modest store) (run : Loads report store target workers stage r) :
    ∃ ready, r.Sorted report (stage.objects.map Loadable.reset) ready ∧
      stage.arena.Gains r.arena (objectsAt r.objects ready) ∧
      ∀ object ∈ objectsAt r.objects ready, ∀ s ∈ object.sections, s.Resident r.arena := by
  cases run with
  | @cached w walked settled =>
      have done := CacheWalk.done_of_run walked
      refine ⟨_, CacheWalk.sorted_result done settled, ?_, ?_⟩
      · rw [objectsAt, filterMap_range_getElem?]
        exact CacheWalk.footprint_of_run walked
      · intro object mem
        obtain ⟨i, few, at_i⟩ := List.mem_filterMap.mp mem
        obtain ⟨record, before, result, -, is, ends⟩ := done.loaded i (List.mem_range.mp few)
        obtain rfl := Option.some.inj (at_i.symm.trans is)
        exact (Object.exact_of_fromRecord ends).resident
  | @crewed w s c walked goesOn reaches rest =>
      have done := CacheWalk.done_of_run walked
      have finished := CacheWalk.finished_of_crew? done goesOn reaches rest
      obtain ⟨fresh, plans, is, -⟩ := CacheWalk.crew?_eq_some done goesOn
      refine ⟨_, CacheWalk.sorted_resultWith done goesOn reaches rest, ?_, ?_⟩
      · have read : objectsAt c.objects (List.range w.distributor.loaded)
            = w.objects.take w.distributor.loaded := by
          rw [← filterMap_range_getElem?]
          refine List.filterMap_congr ?_
          intro i few
          rw [finished.untouched i (by have := List.mem_range.mp few; omega), is]
        change stage.arena.Gains c.arena (objectsAt c.objects _)
        rw [objectsAt, List.filterMap_append]
        refine Arena.Gains.trans ?_
          (CacheWalk.gains_of_crew done goesOn (modest.crew walked plans) reaches rest)
        rw [← objectsAt, read]
        exact CacheWalk.footprint_of_run walked
      · intro object mem
        change object ∈ objectsAt c.objects _ at mem
        change ∀ s ∈ object.sections, s.Resident c.arena
        obtain ⟨i, inReady, at_i⟩ := List.mem_filterMap.mp mem
        rcases List.mem_append.mp inReady with read | loaded
        · obtain ⟨record, before, result, is, ends⟩ :=
            CacheWalk.read_of_crew done goesOn reaches rest (List.mem_range.mp read)
          obtain rfl := Option.some.inj (at_i.symm.trans is)
          exact (Object.exact_of_fromRecord ends).resident
        · obtain ⟨before, result, is, ends⟩ :=
            CacheWalk.loaded_of_crew done goesOn reaches rest loaded
          obtain rfl := Option.some.inj (at_i.symm.trans is)
          exact (Object.exact_of_fromFiles ends).resident

/-- Writing a cache takes nothing of the arena. -/
theorem LoadResult.finish_arena (r : LoadResult Object) (report : Reporter) (target : CacheTarget)
    (options : LoadOptions) (files : FileSystem) :
    (r.finish report target options files).2.1.arena = r.arena := by
  unfold finish
  split <;> rfl

/-- The sections that the objects have which are ready. -/
def Stage.held (stage : Stage Object) : List Section :=
  (stage.objects.filter Loadable.isReady).flatMap fun object => object.attacks ++ object.releases

theorem sum_blockLength_flatMap (objects : List Object) :
    ((objects.flatMap Object.sections).map (·.shape.blockLength)).sum = (objects.map volume).sum := by
  induction objects with
  | nil => rfl
  | cons object rest ih =>
      rw [List.flatMap_cons, List.map_append, List.sum_append, ih, List.map_cons, List.sum_cons]
      rfl

/-- **What a load takes of the arena are the sections of the objects that are ready**, in every
run: four bytes for each of their samples, and one block for each of them.  An object that is not
ready has none. -/
theorem memory_of_load {target : CacheTarget} {options : LoadOptions} {stage after : Stage Object}
    {told : LoadReport} {trace : List Progress} (modest : stage.Modest store)
    (ended : LoadEnds report store target options stage told after trace) :
    after.arena.used = stage.arena.used + 4 * (after.held.map (·.shape.blockLength)).sum ∧
      after.arena.blocks.length = stage.arena.blocks.length + after.held.length ∧
      (∀ s ∈ after.held, s.Resident after.arena) ∧
      ∀ object ∈ after.objects, Loadable.isReady object = false →
        object.attacks = [] ∧ object.releases = [] := by
  obtain ⟨r, run, finished⟩ := ended
  obtain ⟨ready, sorted, gains, resident⟩ := gains_of_loads modest run
  obtain ⟨written, -, objects⟩ := r.finish_eq report target options stage.files
  have arena := r.finish_arena report target options stage.files
  rw [finished] at objects arena
  have perm : (objectsAt r.objects ready).Perm (after.objects.filter Loadable.isReady) := by
    rw [show after.objects = r.objects from objects]
    exact filterMap_perm_of_positions sorted.nodup sorted.mem_ready
  rw [show after.arena = r.arena from arena]
  obtain ⟨used, blocks⟩ := gains.perm perm
  refine ⟨?_, ?_, ?_, ?_⟩
  · rw [used, ← sum_blockLength_flatMap]
    rfl
  · rw [blocks, ← List.length_flatMap]
    rfl
  · intro s mem
    obtain ⟨object, inReady, inSections⟩ := List.mem_flatMap.mp mem
    exact resident object (perm.mem_iff.mpr inReady) s inSections
  · intro object mem unready
    rw [show after.objects = r.objects from objects] at mem
    have none : object.attacks ++ object.releases = [] := by
      rcases sorted.unready mem unready with ⟨message, before, rfl⟩ | given
      · exact Relocatable.sections_fail message before
      · obtain ⟨before, -, rfl⟩ := List.mem_map.mp given
        exact Relocatable.sections_reset before
    exact List.append_eq_nil_iff.mp none

/-- A chest of two pipes with the same attack.  The second has lost the file of its release. -/
def crackedChest : Stage Object where
  objects := [.pipe ⟨"D", [⟨"d.wav", []⟩], [], [], [], {}⟩,
    .pipe ⟨"F", [⟨"d.wav", []⟩], [⟨"f.wav", []⟩], [], [], {}⟩]
  arena := { limit := 200, used := 8 }
  files := {}

/-- The second pipe of the cracked chest gives the block of its attack back. -/
theorem crackedChest_memory : ∃ told after trace,
    LoadEnds Reporter.patient smallStore smallTarget { concurrency := 2 } crackedChest told after trace ∧
      told.failures.map (·.index) = [1] ∧ after.held.map (·.shape.blockLength) = [17] ∧
      after.arena.used = 8 + 4 * 17 ∧ after.arena.blocks.length = 1 := by
  have modest : crackedChest.Modest smallStore := by
    unfold Stage.Modest
    decide +kernel
  obtain ⟨⟨told, after, trace⟩, ran, failed, held⟩ :
      ∃ result ∈ (load Reporter.patient smallStore smallTarget { concurrency := 2 }
          crackedChest).toOption,
        result.1.failures.map (·.index) = [1] ∧
          result.2.1.held.map (·.shape.blockLength) = [17] := by
    decide +kernel
  have ended := loadEnds_of_load (eq_ok_of_mem_toOption ran)
  obtain ⟨used, blocks, -⟩ := memory_of_load modest ended
  have one : after.held.length = 1 := by simpa using congrArg List.length held
  refine ⟨told, after, trace, ended, failed, held, ?_, ?_⟩
  · rw [used, held]
    rfl
  · rw [blocks, one]
    rfl

end Windchest
