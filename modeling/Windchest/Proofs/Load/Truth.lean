/-
# Windchest.Proofs.Load.Truth -- the report of a load tells the truth

Whatever the cache holds, however much room there is, whenever the reporter declines
and in whatever order the threads take their steps: the report of a load agrees with
the objects that it leaves behind (`report_tells_the_truth`).

The bookkeeping behind it is `LoadResult.Sorted`: the objects handed out fall into two
lists of indices, those that were loaded and those of the failures.
-/
import Windchest.Audio.Known
import Windchest.Cache.Blocks
import Windchest.Proofs.Load.Runs
import Windchest.Proofs.Object.Drafts

namespace Windchest

set_option autoImplicit false

theorem filterMap_range_getElem? {β : Type} (l : List β) (n : Nat) :
    ((List.range n).filterMap fun i => l[i]?) = l.take n := by
  induction n with
  | zero => rfl
  | succ n ih =>
      rw [List.range_succ, List.filterMap_append, ih, List.take_add_one]
      cases is : l[n]? <;> simp [is]

section Positions

variable {β : Type} {p : β → Bool} {l : List β} {positions : List Nat}

/-- The elements with a property are those at the positions where it holds. -/
theorem filterMap_perm_of_positions (distinct : positions.Nodup)
    (mem : ∀ i, i ∈ positions ↔ ∃ x, l[i]? = some x ∧ p x = true) :
    (positions.filterMap fun i => l[i]?).Perm (l.filter p) := by
  have filtered : ((List.range l.length).filter fun i => l[i]?.any p).Perm positions := by
    apply (List.perm_ext_iff_of_nodup (List.nodup_range.filter _) distinct).mpr
    intro i
    rw [mem, List.mem_filter, List.mem_range, Option.any_eq_true]
    constructor
    · rintro ⟨-, inside⟩
      exact inside
    · rintro ⟨x, is, holds⟩
      exact ⟨(List.getElem?_eq_some_iff.mp is).1, x, is, holds⟩
  have swapped : ((List.range l.length).filter fun i => l[i]?.any p).filterMap (fun i => l[i]?)
      = ((List.range l.length).filterMap fun i => l[i]?).filter p := by
    rw [List.filterMap_filter, List.filter_filterMap]
    refine List.filterMap_congr ?_
    intro i _
    cases l[i]? with
    | none => rfl
    | some x => simp [Option.filter]
  rw [filterMap_range_getElem?, List.take_length] at swapped
  exact swapped ▸ filtered.symm.filterMap _

/-- The elements with a property are as many as their positions. -/
theorem countP_eq_length_of_positions (distinct : positions.Nodup)
    (mem : ∀ i, i ∈ positions ↔ ∃ x, l[i]? = some x ∧ p x = true) :
    l.countP p = positions.length := by
  rw [List.countP_eq_length_filter, ← (filterMap_perm_of_positions distinct mem).length_eq,
    List.length_filterMap_eq_countP, List.countP_eq_length]
  intro i inPositions
  obtain ⟨x, is, -⟩ := (mem i).mp inPositions
  rw [is]
  rfl

end Positions

variable {α : Type} [Loadable α]

namespace LoadResult

/-- Some object was not loaded because the arena had no room for it. -/
def RanOut (r : LoadResult α) : Prop :=
  (∃ attempt ∈ r.fromCache, attempt.isShort = true) ∨
    ∃ attempt ∈ r.fromFiles, attempt.isShort = true

instance (r : LoadResult α) : Decidable r.RanOut := inferInstanceAs (Decidable (_ ∨ _))

/-- The objects handed out are those at `ready` and those of the failures; the others are those
given. -/
structure Sorted (report : Reporter) (objects : List α) (ready : List Nat) (r : LoadResult α) :
    Prop where
  length : r.objects.length = objects.length
  total : r.distributor.total = objects.length
  free : r.distributor.cursor = r.distributor.pos
  bound : r.distributor.pos ≤ r.distributor.total
  handedOut : (ready ++ r.failures.map (·.index)).Perm (List.range r.distributor.pos)
  counted : ready.length = r.distributor.loaded
  increasing : r.failures.Pairwise (·.index < ·.index)
  loaded : ∀ i ∈ ready, ∃ object, r.objects[i]? = some object ∧ Loadable.isReady object = true
  failed : ∀ failure ∈ r.failures,
    ∃ object : α, r.objects[failure.index]? = some (Loadable.fail failure.message object)
  left : ∀ i, r.distributor.pos ≤ i → r.objects[i]? = objects[i]?
  shortage : r.outOfMemory = true ↔ r.RanOut
  declined : r.cancelled = true ↔ Declined report r.trace
  /-- Objects are left out for a reason. -/
  all : r.outOfMemory = false → r.cancelled = false → r.distributor.pos = r.distributor.total

/-- What a report says, against the run that it is about and the objects afterwards. -/
structure Truthful (report : Reporter) (r : LoadResult α) (told : LoadReport) (objects : List α) :
    Prop where
  loaded : told.loaded = objects.countP Loadable.isReady
  handedOut : told.loaded + told.failures.length = r.distributor.pos
  increasing : told.failures.Pairwise (·.index < ·.index)
  failed : ∀ failure ∈ told.failures, ∃ object, objects[failure.index]? = some object ∧
    Loadable.isReady object = false ∧ Loadable.error? object = some failure.message
  left : ∀ i object, r.distributor.pos ≤ i → objects[i]? = some object →
    Loadable.isReady object = false ∧ Loadable.error? object = none
  outOfMemory : told.outcome = .outOfMemory ↔ r.RanOut
  cancelled : told.outcome = .cancelled ↔ ¬ r.RanOut ∧ Declined report r.trace
  complete : told.outcome = .complete ↔
    ¬ r.RanOut ∧ ¬ Declined report r.trace ∧ ∀ object ∈ objects, Loadable.isReady object = true
  partiallyFailed : told.outcome = .partiallyFailed ↔
    ¬ r.RanOut ∧ ¬ Declined report r.trace ∧ ∃ object ∈ objects, Loadable.isReady object = false
  cacheable : told.cacheable = true ↔ told.outcome = .complete

namespace Sorted

variable {report : Reporter} {objects : List α} {ready : List Nat} {r : LoadResult α}

theorem loaded_add_failures (sorted : r.Sorted report objects ready) :
    r.distributor.loaded + r.failures.length = r.distributor.pos := by
  have := sorted.handedOut.length_eq
  rw [List.length_append, List.length_map, List.length_range, sorted.counted] at this
  exact this

theorem nodup (sorted : r.Sorted report objects ready) : ready.Nodup :=
  (List.nodup_append.mp (sorted.handedOut.nodup_iff.mpr List.nodup_range)).1

/-- What is not ready has failed, or is as it was given. -/
theorem unready (sorted : r.Sorted report objects ready) {object : α} (mem : object ∈ r.objects)
    (unready : Loadable.isReady object = false) :
    (∃ message before, object = Loadable.fail message before) ∨ object ∈ objects := by
  obtain ⟨i, at_i⟩ := List.mem_iff_getElem?.mp mem
  by_cases handed : i < r.distributor.pos
  · rcases List.mem_append.mp (sorted.handedOut.mem_iff.mpr (List.mem_range.mpr handed)) with
      loaded | failed
    · obtain ⟨other, is, isReady⟩ := sorted.loaded i loaded
      obtain rfl := Option.some.inj (at_i.symm.trans is)
      rw [unready] at isReady
      cases isReady
    · obtain ⟨failure, inFailures, rfl⟩ := List.mem_map.mp failed
      obtain ⟨before, is⟩ := sorted.failed failure inFailures
      exact .inl ⟨failure.message, before, Option.some.inj (at_i.symm.trans is)⟩
  · rw [sorted.left i (Nat.le_of_not_lt handed)] at at_i
    exact .inr (List.mem_of_getElem? at_i)

end Sorted

/-- Writing a cache changes neither the objects nor what the report says about them. -/
theorem finish_eq (r : LoadResult α) (report : Reporter) (target : CacheTarget)
    (options : LoadOptions) (files : FileSystem) :
    ∃ written, (r.finish report target options files).1 = r.toReport written ∧
      (r.finish report target options files).2.1.objects = r.objects := by
  unfold finish
  split
  · exact ⟨_, rfl, rfl⟩
  · exact ⟨_, rfl, rfl⟩

end LoadResult

variable {report : Reporter} {store : Store} {workers : Nat}

namespace CacheWalk

/-- A crew for what a walk has left finishes it. -/
theorem finished_of_crew? {objects : List α} {w : CacheWalk α} {s c : Crew α}
    (done : w.Done report objects) (goesOn : w.crew? report store workers = some s)
    (reaches : s.Reaches c) (rest : c.AtRest) :
    s.Finished w.distributor.loaded w.distributor.loaded c := by
  obtain ⟨fresh, plans, is, -, distributor, -⟩ := crew?_eq_some done goesOn
  have planned : s.objects.length = s.plans.length := by rw [plans, is, List.length_map]
  have total : s.distributor.total = s.plans.length := by
    rw [distributor, plans, List.length_map, done.total, done.length]
  have finished := Crew.finished_of_reaches fresh planned total reaches rest
  rw [distributor] at finished
  exact finished

/-- What was read from the cache stays as it was read. -/
theorem read_of_crew {objects : List α} {w : CacheWalk α} {s c : Crew α}
    (done : w.Done report objects) (goesOn : w.crew? report store workers = some s)
    (reaches : s.Reaches c) (rest : c.AtRest) {i : Nat} (few : i < w.distributor.loaded) :
    ∃ (record : Bytes) (before object : α), c.objects[i]? = some object ∧
      (Loadable.fromRecord record before).Ends c.arena object (.ok ()) := by
  have finished := finished_of_crew? done goesOn reaches rest
  obtain ⟨-, -, is, arena, -⟩ := crew?_eq_some done goesOn
  obtain ⟨record, before, object, -, at_i, ends⟩ := done.loaded i few
  refine ⟨record, before, object, ?_, ends.of_grows (arena ▸ finished.follows.grows)⟩
  rw [finished.untouched i (by omega), is, at_i]

/-- The objects of the attempts that succeeded were loaded from their files. -/
theorem loaded_of_crew {objects : List α} {w : CacheWalk α} {s c : Crew α}
    (done : w.Done report objects) (goesOn : w.crew? report store workers = some s)
    (reaches : s.Reaches c) (rest : c.AtRest) {i : Nat}
    (mem : i ∈ (c.attempts.filter (·.succeeded)).map (·.index)) :
    ∃ before object : α, c.objects[i]? = some object ∧
      (Loadable.fromFiles store before).Ends c.arena object (.ok ()) := by
  have finished := finished_of_crew? done goesOn reaches rest
  obtain ⟨-, plans, -⟩ := crew?_eq_some done goesOn
  obtain ⟨⟨index, result⟩, inAttempts, rfl⟩ := List.mem_map.mp mem
  obtain ⟨tried, succeeded⟩ := List.mem_filter.mp inAttempts
  obtain ⟨plan, object, planned, ends, object_is⟩ := finished.settled _ tried
  rw [finished.follows.plans, plans, List.getElem?_map] at planned
  obtain ⟨before, -, rfl⟩ := Option.map_eq_some_iff.mp planned
  cases result with
  | ok done => exact ⟨before, object, object_is, ends⟩
  | error why => cases succeeded

/-- A walk that leaves nothing to a crew has no failure, or one: the object that ran short. -/
theorem Done.failures_cases {objects : List α} {w : CacheWalk α} (done : w.Done report objects)
    (settled : w.crew? report store workers = none) :
    (w.distributor.pos = w.distributor.loaded ∧ w.failures = []) ∨
    (w.distributor.pos = w.distributor.loaded + 1 ∧ ∃ (object : α) (title message : String),
      w.failures = [⟨w.distributor.loaded, title, message⟩] ∧
        w.objects[w.distributor.loaded]? = some (Loadable.fail message object)) := by
  rcases done.ended with ⟨pos, -, none, -⟩ | ⟨pos, pending, -, enough, goesOn⟩ |
    ⟨pos, -, -, failed⟩
  · exact Or.inl ⟨pos, none⟩
  · -- an object is pending: a crew would take it
    rw [(loaded_of_settled done settled enough goesOn).1] at pending
    cases pending
  · exact Or.inr ⟨pos, failed⟩

/-- The failures of a crew are reported in the order of their objects. -/
theorem failures_resultWith {objects : List α} {w : CacheWalk α} {s : Crew α}
    (done : w.Done report objects) (goesOn : w.crew? report store workers = some s) (c : Crew α) :
    (w.resultWith c).failures = c.failures.mergeSort fun a b => a.index ≤ b.index := by
  obtain ⟨-, -, -, -, -, -, none, -⟩ := crew?_eq_some done goesOn
  rw [resultWith, none]
  rfl

variable [LawfulLoadable α]

/-- An object that was read is ready. -/
theorem Done.isReady {objects : List α} {w : CacheWalk α} (done : w.Done report objects) {i : Nat}
    (few : i < w.distributor.loaded) :
    ∃ object, w.objects[i]? = some object ∧ Loadable.isReady object = true := by
  obtain ⟨record, object, result, -, is, ends⟩ := done.loaded i few
  cases ends with
  | loaded install ids promised resolved =>
      exact ⟨_, is, LawfulLoadable.isReady_fromRecord (Plan.verdict_of_promised promised).2 ids⟩

theorem sorted_result {objects : List α} {w : CacheWalk α} (done : w.Done report objects)
    (settled : w.crew? report store workers = none) :
    w.result.Sorted report objects (List.range w.distributor.loaded) where
  length := done.length
  total := done.total
  free := done.free
  bound := done.bound
  handedOut := by
    change (_ ++ w.failures.map _).Perm (List.range w.distributor.pos)
    rcases done.failures_cases settled with ⟨pos, none⟩ | ⟨pos, object, title, message, one, -⟩
    · rw [pos, none]
      simp
    · rw [pos, one, List.range_succ]
      exact List.Perm.refl _
  counted := List.length_range
  increasing := by
    change w.failures.Pairwise _
    rcases done.failures_cases settled with ⟨-, none⟩ | ⟨-, object, title, message, one, -⟩
    · rw [none]
      exact .nil
    · rw [one]
      exact List.pairwise_singleton _ _
  loaded := by
    intro i mem
    exact done.isReady (List.mem_range.mp mem)
  failed := by
    intro failure mem
    change failure ∈ w.failures at mem
    rcases done.failures_cases settled with ⟨-, none⟩ | ⟨-, object, title, message, one, is⟩
    · rw [none] at mem
      exact absurd mem List.not_mem_nil
    · rw [one] at mem
      obtain rfl := List.mem_singleton.mp mem
      exact ⟨object, is⟩
  left := done.left
  shortage := by
    constructor
    · intro short
      exact Or.inl (done.shortage.mp short)
    · rintro (short | ⟨attempt, mem, -⟩)
      · exact done.shortage.mpr short
      · exact absurd mem List.not_mem_nil
  declined := done.declined
  all := by
    intro enough goesOn
    exact (loaded_of_settled done settled enough goesOn).2.1

theorem sorted_resultWith {objects : List α} {w : CacheWalk α} {s c : Crew α}
    (done : w.Done report objects) (goesOn : w.crew? report store workers = some s)
    (reaches : s.Reaches c) (rest : c.AtRest) :
    (w.resultWith c).Sorted report objects
      (List.range w.distributor.loaded ++ (c.attempts.filter (·.succeeded)).map (·.index)) := by
  have finished := finished_of_crew? done goesOn reaches rest
  obtain ⟨-, plans, is, -, distributor, reporter, -, enough, uncancelled⟩ :=
    crew?_eq_some done goesOn
  have follows := finished.follows
  have started := finished.started
  have sorted := failures_resultWith done goesOn c
  constructor
  case length =>
    change c.objects.length = _
    rw [follows.length, is, done.length]
  case total =>
    change c.distributor.total = _
    rw [follows.total, distributor, done.total]
  case free => exact finished.free
  case bound => exact finished.bound
  case handedOut =>
    have whole : List.range w.distributor.loaded
        ++ List.range' w.distributor.loaded (c.distributor.pos - w.distributor.loaded)
        = List.range c.distributor.pos := by
      have appended := @List.range'_append_1 0 w.distributor.loaded
        (c.distributor.pos - w.distributor.loaded)
      rw [Nat.zero_add, Nat.add_sub_of_le started] at appended
      rw [List.range_eq_range', List.range_eq_range', appended]
    have noted : ((w.resultWith c).failures.map (·.index)).Perm (c.failures.map (·.index)) := by
      rw [sorted]
      exact (List.mergeSort_perm _ _).map _
    change List.Perm _ (List.range c.distributor.pos)
    rw [List.append_assoc, ← whole]
    exact ((noted.append_left _).trans finished.split_indices).append_left _
  case counted =>
    change _ = c.distributor.loaded
    rw [finished.counted, List.length_append, List.length_range, List.length_map,
      List.countP_eq_length_filter]
  case increasing =>
    rw [sorted]
    exact finished.sorted_failures
  case loaded =>
    intro i mem
    rcases List.mem_append.mp mem with read | loaded
    · have few := List.mem_range.mp read
      obtain ⟨record, before, object, at_i, ends⟩ := read_of_crew done goesOn reaches rest few
      obtain ⟨install, ids, promised, rfl, -⟩ := ends.installs
      exact ⟨_, at_i, LawfulLoadable.isReady_fromRecord (Plan.verdict_of_promised promised).2 ids⟩
    · obtain ⟨before, object, at_i, ends⟩ := loaded_of_crew done goesOn reaches rest loaded
      obtain ⟨install, ids, promised, rfl, -⟩ := ends.installs
      exact ⟨_, at_i, LawfulLoadable.isReady_fromFiles (Plan.verdict_of_promised promised).2 ids⟩
  case failed =>
    intro failure mem
    obtain ⟨plan, -, object_is⟩ :=
      finished.failed (List.mem_mergeSort.mp (sorted ▸ mem))
    exact ⟨plan.started, object_is⟩
  case left =>
    intro i beyond
    change c.objects[i]? = _
    have beyond : c.distributor.pos ≤ i := beyond
    rw [finished.untouched i (by omega), is]
    have ahead := follows.ahead
    rw [distributor] at ahead
    exact done.left i (by omega)
  case shortage =>
    change c.outOfMemory = true ↔ _
    rw [finished.shortage, LoadResult.RanOut]
    constructor
    · intro short
      exact Or.inr short
    · rintro (short | short)
      · -- the walk would not have left anything to a crew
        rw [done.shortage.mpr short] at enough
        cases enough
      · exact short
  case declined =>
    change c.cancelled = true ↔ Declined report c.trace
    rw [finished.declined, follows.report, reporter]
  case all => exact finished.all

end CacheWalk

section Law

variable [LawfulLoadable α]

/-- Every run of a load sorts the objects. -/
theorem sorted_of_loads {target : CacheTarget} {stage : Stage α} {r : LoadResult α}
    (run : Loads report store target workers stage r) :
    ∃ ready, r.Sorted report (stage.objects.map Loadable.reset) ready := by
  cases run with
  | cached walked settled => exact ⟨_, CacheWalk.sorted_result (CacheWalk.done_of_run walked) settled⟩
  | crewed walked goesOn reaches rest =>
      exact ⟨_, CacheWalk.sorted_resultWith (CacheWalk.done_of_run walked) goesOn reaches rest⟩

namespace LoadResult

namespace Sorted

variable {objects : List α} {ready : List Nat} {r : LoadResult α}

/-- The objects that are ready are those at the positions that were loaded. -/
theorem mem_ready (sorted : r.Sorted report (objects.map Loadable.reset) ready) (i : Nat) :
    i ∈ ready ↔ ∃ object, r.objects[i]? = some object ∧ Loadable.isReady object = true := by
  refine ⟨sorted.loaded i, ?_⟩
  rintro ⟨object, at_i, isReady⟩
  by_cases handed : i < r.distributor.pos
  · rcases List.mem_append.mp (sorted.handedOut.mem_iff.mpr (List.mem_range.mpr handed)) with
      loaded | failed
    · exact loaded
    · obtain ⟨failure, inFailures, rfl⟩ := List.mem_map.mp failed
      obtain ⟨before, is⟩ := sorted.failed failure inFailures
      rw [at_i] at is
      rw [Option.some.inj is, LawfulLoadable.isReady_fail] at isReady
      cases isReady
  · rw [sorted.left i (Nat.le_of_not_lt handed), List.getElem?_map] at at_i
    obtain ⟨before, -, rfl⟩ := Option.map_eq_some_iff.mp at_i
    rw [LawfulLoadable.isReady_reset] at isReady
    cases isReady

/-- All objects are ready exactly if all positions were loaded. -/
theorem all_ready_iff_mem (sorted : r.Sorted report (objects.map Loadable.reset) ready) :
    r.objects.all Loadable.isReady = true ↔ ∀ i < r.objects.length, i ∈ ready := by
  rw [List.all_eq_true]
  constructor
  · intro all i inside
    exact (sorted.mem_ready i).mpr ⟨r.objects[i], List.getElem?_eq_getElem inside,
      all _ (List.getElem_mem inside)⟩
  · intro all object mem
    obtain ⟨i, inside, rfl⟩ := List.getElem_of_mem mem
    obtain ⟨object, at_i, isReady⟩ := (sorted.mem_ready i).mp (all i inside)
    rw [List.getElem?_eq_getElem inside] at at_i
    rw [Option.some.inj at_i]
    exact isReady

theorem loaded_eq_countP (sorted : r.Sorted report (objects.map Loadable.reset) ready) :
    r.distributor.loaded = r.objects.countP Loadable.isReady := by
  rw [countP_eq_length_of_positions sorted.nodup sorted.mem_ready, sorted.counted]

/-- Every object is ready exactly if as many were loaded as there are, and then none failed. -/
theorem all_ready_iff (sorted : r.Sorted report (objects.map Loadable.reset) ready) :
    (∀ object ∈ r.objects, Loadable.isReady object = true) ↔
      r.failures = [] ∧ r.objects.length ≤ r.distributor.loaded := by
  have sum := sorted.loaded_add_failures
  have bound := sorted.bound
  have total := sorted.total
  have length := sorted.length
  rw [← List.countP_eq_length, ← sorted.loaded_eq_countP]
  constructor
  · intro all
    exact ⟨List.eq_nil_of_length_eq_zero (by omega), Nat.le_of_eq all.symm⟩
  · rintro ⟨-, all⟩
    omega

/-- The outcome of a load, told by its objects. -/
theorem outcome_eq (sorted : r.Sorted report (objects.map Loadable.reset) ready) :
    r.outcome = if r.outOfMemory = true then .outOfMemory
      else if r.cancelled = true then .cancelled
      else if r.objects.all Loadable.isReady = true then .complete
      else .partiallyFailed := by
  have same : ((! r.failures.isEmpty) = true ∨ r.distributor.loaded < r.objects.length) ↔
      ¬ r.objects.all Loadable.isReady = true := by
    rw [List.all_eq_true, sorted.all_ready_iff, not_and_or, Nat.not_le, Bool.not_eq_true', ← List.isEmpty_iff,
      Bool.not_eq_true]
  simp only [outcome, same, ite_not]

theorem cacheable_iff (sorted : r.Sorted report (objects.map Loadable.reset) ready) :
    r.cacheable = true ↔ r.outOfMemory = false ∧ r.cancelled = false ∧
      r.objects.all Loadable.isReady = true := by
  have sum := sorted.loaded_add_failures
  have bound := sorted.bound
  have total : r.distributor.total = r.objects.length := sorted.total.trans sorted.length.symm
  have reached : r.distributor.loaded = r.distributor.total ↔
      r.objects.length ≤ r.distributor.loaded := by omega
  rw [List.all_eq_true, sorted.all_ready_iff, ← reached]
  simp only [cacheable, Distributor.isComplete, Bool.and_eq_true, beq_iff_eq, Bool.not_eq_true',
    List.isEmpty_iff]
  constructor
  · rintro ⟨⟨⟨all, empty⟩, goesOn⟩, enough⟩
    exact ⟨enough, goesOn, empty, all⟩
  · rintro ⟨enough, goesOn, empty, all⟩
    exact ⟨⟨⟨all, empty⟩, goesOn⟩, enough⟩

/-- The report of a run that sorts the objects is truthful. -/
theorem truthful (sorted : r.Sorted report (objects.map Loadable.reset) ready) (written : Bool) :
    r.Truthful report (r.toReport written) r.objects := by
  have short : r.RanOut ↔ r.outOfMemory = true := sorted.shortage.symm
  have declined : Declined report r.trace ↔ r.cancelled = true := sorted.declined.symm
  have allReady : (∀ object ∈ r.objects, Loadable.isReady object = true) ↔
      r.objects.all Loadable.isReady = true := List.all_eq_true.symm
  have someUnready : (∃ object ∈ r.objects, Loadable.isReady object = false) ↔
      r.objects.all Loadable.isReady = false := by
    simp
  refine ⟨sorted.loaded_eq_countP, sorted.loaded_add_failures, sorted.increasing, ?_, ?_, ?_, ?_, ?_,
    ?_, ?_⟩
  · intro failure mem
    obtain ⟨object, is⟩ := sorted.failed failure mem
    exact ⟨_, is, LawfulLoadable.isReady_fail _ _, LawfulLoadable.error?_fail _ _⟩
  · intro i object beyond is
    rw [sorted.left i beyond, List.getElem?_map] at is
    obtain ⟨before, -, rfl⟩ := Option.map_eq_some_iff.mp is
    exact ⟨LawfulLoadable.isReady_reset _, LawfulLoadable.error?_reset _⟩
  all_goals
    simp only [toReport, sorted.outcome_eq, sorted.cacheable_iff, short, declined, allReady,
      someUnready]
    cases r.outOfMemory <;> cases r.cancelled <;> cases r.objects.all Loadable.isReady <;> decide

end Sorted

end LoadResult

/-- **The report of a load tells the truth**, in every run. -/
theorem report_tells_the_truth {target : CacheTarget} {options : LoadOptions}
    {stage after : Stage α} {r : LoadResult α} {told : LoadReport} {trace : List Progress}
    (run : Loads report store target options.concurrency stage r)
    (finished : r.finish report target options stage.files = (told, after, trace)) :
    r.Truthful report told after.objects := by
  obtain ⟨ready, sorted⟩ := sorted_of_loads run
  obtain ⟨written, reported, objects⟩ := r.finish_eq report target options stage.files
  rw [finished] at reported objects
  obtain rfl : told = r.toReport written := reported
  rw [show after.objects = r.objects from objects]
  exact sorted.truthful written

end Law

theorem eq_ok_of_mem_toOption {ε β : Type} {result : Except ε β} {b : β} (mem : b ∈ result.toOption) :
    result = .ok b := by
  cases result with
  | error why => cases mem
  | ok c => exact congrArg _ (Option.some.inj mem)

/-- A wave file of one silent frame. -/
def silentWave : Bytes :=
  Bytes.ofText "RIFF" ++ Bytes.ofNat 4 40 ++ Bytes.ofText "WAVE"
    ++ (Bytes.ofText "fmt " ++ Bytes.ofNat 4 16 ++ Bytes.ofNat 2 3 ++ Bytes.ofNat 2 1
      ++ Bytes.ofNat 4 48000 ++ Bytes.ofNat 4 192000 ++ Bytes.ofNat 2 4 ++ Bytes.ofNat 2 32)
    ++ (Bytes.ofText "data" ++ Bytes.ofNat 4 4 ++ Bytes.ofNat 4 0)

/-- A store with one sample file. -/
def smallStore : Store := ⟨.memory [("d.wav", silentWave)], .known⟩

/-- Where the cache of the small chest is. -/
def smallTarget : CacheTarget := ⟨"cache", ⟨List.replicate 32 7⟩, .blocks⟩

/-- A chest of three pipes.  The first has no samples, and its record is in the cache, which is
damaged behind it; the second has its sample file, the third has not. -/
def smallChest : Stage Object where
  objects := [.pipe ⟨"C", [], [], [], [], {}⟩, .pipe ⟨"D", [⟨"d.wav", []⟩], [], [], [], {}⟩,
    .pipe ⟨"E", [⟨"e.wav", []⟩], [], [], [], {}⟩]
  -- the blocks of the second pipe fill the arena
  arena := { limit := 68 }
  files := { nodes := [(["cache"],
    .file (Cache.encode smallTarget.hash [List.replicate 8 0] ++ [1, 2, 3]))] }

theorem smallChest_loads : ∃ r, Loads Reporter.patient smallStore smallTarget 2 smallChest r ∧
    r.usage = .partially 1 ∧ r.outcome = .partiallyFailed ∧ r.distributor.loaded = 2 ∧
      r.failures.map (·.index) = [2] ∧ ¬ r.RanOut := by
  obtain ⟨r, found, facts⟩ :
      ∃ r ∈ (loadAll Reporter.patient smallStore smallTarget 2 smallChest).toOption,
        r.usage = .partially 1 ∧ r.outcome = .partiallyFailed ∧ r.distributor.loaded = 2 ∧
          r.failures.map (·.index) = [2] ∧ ¬ r.RanOut := by
    decide +kernel
  exact ⟨r, loads_of_loadAll (eq_ok_of_mem_toOption found), facts⟩

/-- The report about the small chest is truthful. -/
theorem smallChest_told_truthfully :
    ∃ (r : LoadResult Object) (told : LoadReport) (after : Stage Object),
      Loads Reporter.patient smallStore smallTarget 2 smallChest r ∧
      told.outcome = .partiallyFailed ∧ told.loaded = 2 ∧ told.failures.map (·.index) = [2] ∧
      r.Truthful Reporter.patient told after.objects := by
  obtain ⟨r, run, -, outcome, loaded, failures, -⟩ := smallChest_loads
  obtain ⟨written, told, -⟩ :=
    r.finish_eq Reporter.patient smallTarget { concurrency := 2 } smallChest.files
  have truthful := @report_tells_the_truth _ _ _ _ _ _ { concurrency := 2 } smallChest _ _ _ _ run rfl
  exact ⟨r, _, _, run, told ▸ outcome, told ▸ loaded, told ▸ failures, truthful⟩

end Windchest
