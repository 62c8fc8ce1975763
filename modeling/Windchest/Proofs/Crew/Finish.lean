/-
# Windchest.Proofs.Crew.Finish -- what a crew leaves behind

A crew that was started for the objects from some index on keeps all the invariants of
this directory (`Crew.Kept`).  At rest nothing is in flight any more, and what they say
becomes a description of the whole run (`Crew.Finished`): every object handed out has
exactly one attempt, the objects show how the attempts ended, the driver has noted
exactly the failures among them, and if objects were left out, an attempt was short of
room or the reporter had declined an update.
-/
import Windchest.Proofs.Crew.Rest

namespace Windchest

set_option autoImplicit false

variable {α : Type} [Loadable α]

/-- The failure that an attempt is noted as. -/
def Attempt.failure? (plans : List (Plan α LoadError)) (attempt : Attempt LoadError) :
    Option LoadFailure :=
  (attempt.event? plans).bind LoadEvent.failure?

/-- The weight of being a certain failure. -/
def LoadEvent.isFailure (failure : LoadFailure) (event : LoadEvent) : Nat :=
  if event.failure? = some failure then 1 else 0

theorem sum_isFailure (failure : LoadFailure) (events : List LoadEvent) :
    (events.map (LoadEvent.isFailure failure)).sum
      = (events.filterMap LoadEvent.failure?).count failure := by
  induction events with
  | nil => rfl
  | cons event rest ih =>
      rw [List.map_cons, List.sum_cons, ih, List.filterMap_cons]
      cases is : event.failure? with
      | none => simp [LoadEvent.isFailure, is]
      | some other =>
          simp only [LoadEvent.isFailure, is, Option.some.injEq, List.count_cons, beq_iff_eq]
          omega

theorem weightOf_shortage_pos {plans : List (Plan α LoadError)} {attempts : List (Attempt LoadError)}
    (planned : ∀ attempt ∈ attempts, ∃ plan, plans[attempt.index]? = some plan) :
    0 < weightOf plans attempts LoadEvent.shortage ↔
      ∃ attempt ∈ attempts, attempt.isShort = true := by
  rw [weightOf, sum_shortage_pos, List.any_eq_true]
  constructor
  · rintro ⟨event, isEvent, short⟩
    obtain ⟨attempt, mem, becomes⟩ := List.mem_filterMap.mp isEvent
    refine ⟨attempt, mem, ?_⟩
    rw [Attempt.isShort_of_event? becomes, short]
  · rintro ⟨attempt, mem, short⟩
    obtain ⟨plan, is⟩ := planned attempt mem
    obtain ⟨event, becomes⟩ : ∃ event, attempt.event? plans = some event := by
      unfold Attempt.event?
      unfold Attempt.isShort at short
      split at short
      · cases short
      · rename_i why failed
        simp [failed, is]
    refine ⟨event, List.mem_filterMap.mpr ⟨attempt, mem, becomes⟩, ?_⟩
    rw [← Attempt.isShort_of_event? becomes, short]

namespace Crew

/-- Everything that stays true of a crew that started as `s`. -/
structure Kept (first loaded : Nat) (s c : Crew α) : Prop where
  follows : s.Follows c
  books : c.Accounted first loaded
  sound : s.Sound c
  informed : c.Informed
  steered : c.Steered

/-- A crew that has done nothing yet.  The driver may have the object at `first` in its hands. -/
structure Fresh (first : Nat) (s : Crew α) : Prop where
  driver : ∃ pending task, s.driver = .working pending task ∧
    (task = .checking ∧ first = s.distributor.cursor ∨
      ∃ plan, s.plans[first]? = some plan ∧ task = .reserving first plan [] plan.demands ∧
        first + 1 = s.distributor.cursor)
  workers : ∀ task ∈ s.workers, task = .checking
  bound : s.distributor.cursor ≤ s.distributor.total
  free : s.distributor.cursor = s.distributor.pos
  running : s.distributor.aborted = false
  quiet : ¬ Declined s.report s.trace
  attempts : s.attempts = []
  channel : s.channel = []
  senders : s.senders = s.workers.length + 1
  failures : s.failures = []
  outOfMemory : s.outOfMemory = false
  cancelled : s.cancelled = false

namespace Fresh

variable {first : Nat} {s : Crew α}

omit [Loadable α] in
/-- The driver looks for an object, or has the first one. -/
theorem task_cases (fresh : s.Fresh first) :
    (s.driver.task = .checking ∧ first = s.distributor.cursor) ∨
      ∃ plan, s.plans[first]? = some plan ∧
        s.driver.task = .reserving first plan [] plan.demands ∧ first + 1 = s.distributor.cursor := by
  obtain ⟨pending, task, driver, holds⟩ := fresh.driver
  rw [driver]
  exact holds

omit [Loadable α] in
/-- Of a sum over all tasks, that of the driver is left. -/
theorem total_eq (fresh : s.Fresh first) {f : Task α → Nat} (none : f .checking = 0) :
    s.total f = f s.driver.task := by
  have idle : (s.workers.map f).sum = 0 := by
    apply List.sum_eq_zero
    intro n mem
    obtain ⟨t, worker, rfl⟩ := List.mem_map.mp mem
    rw [fresh.workers t worker, none]
  rw [total, tasks, List.map_cons, List.sum_cons, idle, Nat.add_zero]

omit [Loadable α] in
theorem accounted (fresh : s.Fresh first) : s.Accounted first s.distributor.loaded := by
  have started : first ≤ s.distributor.cursor := by
    rcases fresh.task_cases with ⟨-, here⟩ | ⟨plan, -, -, next⟩ <;> omega
  constructor
  · intro i
    rw [fresh.attempts, fresh.total_eq rfl, List.countP_nil]
    rcases fresh.task_cases with ⟨is, here⟩ | ⟨plan, -, is, next⟩
    · rw [is, if_neg (by omega)]
      rfl
    · simp only [is, Task.claims, Task.index?, Option.some.injEq]
      split_ifs <;> omega
  · exact started
  · exact fresh.bound
  · rw [fresh.total_eq rfl]
    rcases fresh.task_cases with ⟨is, -⟩ | ⟨plan, -, is, -⟩ <;> rw [is] <;> exact fresh.free
  · rw [fresh.total_eq rfl]
    rcases fresh.task_cases with ⟨is, -⟩ | ⟨plan, -, is, -⟩ <;> rw [is] <;> exact Nat.zero_le 1
  · rw [fresh.total_eq rfl, fresh.attempts]
    rcases fresh.task_cases with ⟨is, -⟩ | ⟨plan, -, is, -⟩ <;> rw [is] <;> rfl

theorem sound (fresh : s.Fresh first) : s.Sound s := by
  constructor
  · intro task mem
    rcases List.mem_cons.mp mem with rfl | worker
    · rcases fresh.task_cases with ⟨is, -⟩ | ⟨plan, planned, is, -⟩
      · rw [is]
        trivial
      · rw [is]
        refine ⟨planned, [], rfl, rfl, ?_⟩
        simp
    · rw [fresh.workers task worker]
      trivial
  · rw [fresh.attempts]
    simp
  · intro i _
    rfl

theorem informed (fresh : s.Fresh first) : s.Informed := by
  refine ⟨[], fresh.failures, fresh.outOfMemory, ?_⟩
  intro weight _
  rw [carried, fresh.channel, fresh.total_eq rfl, fresh.attempts]
  rcases fresh.task_cases with ⟨is, -⟩ | ⟨plan, -, is, -⟩ <;> rw [is] <;> rfl

omit [Loadable α] in
theorem steered (fresh : s.Fresh first) : s.Steered := by
  obtain ⟨pending, task, driver, -⟩ := fresh.driver
  have busy : ∀ task ∈ s.tasks, task.senders = 1 ∧ ¬ task.Stops := by
    intro task mem
    rcases List.mem_cons.mp mem with rfl | worker
    · rcases fresh.task_cases with ⟨is, -⟩ | ⟨plan, -, is, -⟩ <;> rw [is] <;> exact ⟨rfl, id⟩
    · rw [fresh.workers task worker]
      exact ⟨rfl, id⟩
  refine { toClosing := ?_, declined := ?_, aborted := ?_, stopped := ?_ }
  · exact closing_of_working driver (fun task mem => (busy task mem).1) fresh.senders
  · rw [fresh.cancelled]
    exact iff_of_false Bool.false_ne_true fresh.quiet
  · simp [fresh.running]
  · exact fun task mem stops => absurd stops (busy task mem).2

/-- All invariants hold at the start. -/
theorem kept (fresh : s.Fresh first) : s.Kept first s.distributor.loaded s where
  follows := .refl s
  books := fresh.accounted
  sound := fresh.sound
  informed := fresh.informed
  steered := fresh.steered

end Fresh

/-- The crew of a load has done nothing yet. -/
theorem fresh_start {report : Reporter} {store : Store} {workers : Nat} {objects : List α}
    {arena : Arena} {distributor : Distributor} {trace : List Progress} {pending : Option Nat}
    (total : distributor.total = objects.length) (free : distributor.cursor = distributor.pos)
    (bound : distributor.cursor ≤ distributor.total) (running : distributor.aborted = false)
    (quiet : ¬ Declined report trace) (last : ∀ i ∈ pending, i + 1 = distributor.cursor) :
    (start report store workers objects arena distributor trace pending).Fresh
      (pending.getD distributor.cursor) := by
  refine ⟨?_, fun task mem => (List.mem_replicate.mp mem).2, bound, free, running, quiet,
    rfl, rfl, congrArg (· + 1) List.length_replicate.symm, rfl, rfl, rfl⟩
  cases pending with
  | none => exact ⟨false, .checking, rfl, Or.inl ⟨rfl, rfl⟩⟩
  | some i =>
      have next := last i rfl
      have small : i < objects.length := by omega
      have planned : (objects.map (Loadable.fromFiles store))[i]?
          = some (Loadable.fromFiles store objects[i]) := by simp [small]
      refine ⟨true, _, ?_, Or.inr ⟨_, planned, rfl, next⟩⟩
      simp only [start, Option.bind_some, planned, Option.map_some]
      rfl

theorem kept_of_reaches {first loaded : Nat} {s c : Crew α} (reaches : s.Reaches c)
    (planned : s.objects.length = s.plans.length) (start : s.Kept first loaded s) :
    s.Kept first loaded c := by
  apply reaches_induction reaches start
  intro c d kept moves
  have lengths : c.objects.length = c.plans.length := by
    rw [kept.follows.length, kept.follows.plans, planned]
  constructor
  · exact kept.follows.trans (follows_move moves)
  · exact accounted_move kept.books moves
  · exact sound_move kept.books lengths kept.sound moves
  · exact informed_move kept.sound kept.informed moves
  · exact steered_move kept.informed kept.steered kept.books.bound moves

/-- At rest nothing is queued, and every thread is gone. -/
theorem Kept.gone_of_atRest {first loaded : Nat} {s c : Crew α} (kept : s.Kept first loaded c)
    (planned : s.distributor.total ≤ s.plans.length) (rest : c.AtRest) :
    c.channel = [] ∧ ∀ task ∈ c.tasks, task = .gone := by
  have plansBound : c.distributor.total ≤ c.plans.length := by
    rw [kept.follows.total, kept.follows.plans]
    exact planned
  have orderly : c.Orderly := ⟨kept.steered.toClosing, plansBound, kept.books.lock⟩
  have drained := (orderly.finished (orderly.finished_of_atRest rest)).1
  exact ⟨drained, fun task mem => orderly.gone_of_atRest rest mem⟩

/-- A crew `c` that has finished the run on which it started as `s`. -/
structure Finished (first loaded : Nat) (s c : Crew α) : Prop where
  follows : s.Follows c
  free : c.distributor.cursor = c.distributor.pos
  /-- The objects handed out are those from `first` up to the position. -/
  started : first ≤ c.distributor.pos
  bound : c.distributor.pos ≤ c.distributor.total
  once : ∀ i, c.attempts.countP (·.index == i) = if first ≤ i ∧ i < c.distributor.pos then 1 else 0
  counted : c.distributor.loaded = loaded + c.attempts.countP (·.succeeded)
  settled : ∀ attempt ∈ c.attempts, attempt.Settled c.plans c.objects c.arena
  untouched : ∀ i, ¬ (first ≤ i ∧ i < c.distributor.pos) → c.objects[i]? = s.objects[i]?
  failures : c.failures.Perm (c.attempts.filterMap (Attempt.failure? c.plans))
  shortage : c.outOfMemory = true ↔ ∃ attempt ∈ c.attempts, attempt.isShort = true
  declined : c.cancelled = true ↔ Declined c.report c.trace
  /-- Without a reason to stop, every object was handed out. -/
  all : c.outOfMemory = false → c.cancelled = false → c.distributor.pos = c.distributor.total

theorem finished_of_atRest {first loaded : Nat} {s c : Crew α} (kept : s.Kept first loaded c)
    (planned : s.distributor.total ≤ s.plans.length) (rest : c.AtRest) :
    s.Finished first loaded c := by
  obtain ⟨drained, gone⟩ := kept.gone_of_atRest planned rest
  obtain ⟨follows, books, sound, informed, steered⟩ := kept
  have quiet (f : Task α → Nat) (none : f .gone = 0) : c.total f = 0 := total_of_gone gone none
  have cursor : c.distributor.cursor = c.distributor.pos := by
    have := books.lock
    rw [quiet Task.publishes rfl] at this
    exact this
  have once (i : Nat) : c.attempts.countP (·.index == i)
      = if first ≤ i ∧ i < c.distributor.pos then 1 else 0 := by
    have := books.once i
    rw [quiet (Task.claims i) rfl, cursor] at this
    exact this
  obtain ⟨handled, failures, outOfMemory, told⟩ := informed
  have arrived (weight : LoadEvent → Nat) (light : ∀ title, weight (.loaded title) = 0) :
      (handled.map weight).sum = weightOf c.plans c.attempts weight := by
    have := told weight light
    rw [carried, drained, quiet (Task.weigh weight) rfl] at this
    exact this
  have shortage : c.outOfMemory = true ↔ ∃ attempt ∈ c.attempts, attempt.isShort = true := by
    rw [outOfMemory, ← sum_shortage_pos, arrived LoadEvent.shortage fun _ => rfl]
    apply weightOf_shortage_pos
    intro attempt mem
    obtain ⟨plan, _, planned, _⟩ := sound.settled attempt mem
    exact ⟨plan, planned⟩
  refine ⟨follows, cursor, cursor ▸ books.started, cursor ▸ books.bound, once, ?_, sound.settled,
    ?_, ?_, shortage, steered.declined, ?_⟩
  · have := books.loaded
    rw [quiet Task.unrecorded rfl] at this
    exact this
  · intro i outside
    apply sound.untouched
    rw [once, if_neg outside]
  · rw [List.perm_iff_count]
    intro failure
    have := arrived (LoadEvent.isFailure failure) fun _ => rfl
    rw [weightOf, sum_isFailure, sum_isFailure, List.filterMap_filterMap] at this
    rw [failures]
    exact this
  · intro enough goesOn
    have stops : c.driver.task.Stops := by
      rw [gone c.driver.task List.mem_cons_self]
      trivial
    rcases steered.stopped _ List.mem_cons_self stops with aborted | all
    · rcases steered.aborted aborted with cancelled | short
      · rw [cancelled] at goesOn
        cases goesOn
      · rw [shortage.mpr short] at enough
        cases enough
    · exact Nat.le_antisymm (cursor ▸ books.bound) (cursor ▸ all)

/-- **Every run of a fresh crew ends like this**, in whatever order its threads take their steps. -/
theorem finished_of_reaches {first : Nat} {s c : Crew α} (fresh : s.Fresh first)
    (planned : s.objects.length = s.plans.length) (total : s.distributor.total = s.plans.length)
    (reaches : s.Reaches c) (rest : c.AtRest) : s.Finished first s.distributor.loaded c :=
  finished_of_atRest (kept_of_reaches reaches planned fresh.kept) (Nat.le_of_eq total) rest

namespace Finished

variable {first loaded : Nat} {s c : Crew α}

theorem indices_nodup (finished : s.Finished first loaded c) :
    (c.attempts.map (·.index)).Nodup := by
  rw [List.nodup_iff_count]
  intro i
  have once := finished.once i
  rw [List.count, List.countP_map]
  change c.attempts.countP (·.index == i) ≤ 1
  rw [once]
  split <;> omega

theorem mem_indices (finished : s.Finished first loaded c) {i : Nat} :
    i ∈ c.attempts.map (·.index) ↔ first ≤ i ∧ i < c.distributor.pos := by
  have once := finished.once i
  constructor
  · intro mem
    obtain ⟨attempt, inAttempts, rfl⟩ := List.mem_map.mp mem
    have : 0 < c.attempts.countP (·.index == attempt.index) :=
      List.countP_pos_iff.mpr ⟨attempt, inAttempts, beq_self_eq_true _⟩
    by_contra outside
    rw [if_neg outside] at once
    omega
  · intro inside
    rw [if_pos inside] at once
    obtain ⟨attempt, inAttempts, is⟩ := List.countP_pos_iff.mp (once ▸ Nat.one_pos)
    exact List.mem_map.mpr ⟨attempt, inAttempts, by simpa using is⟩

/-- Every attempt has succeeded exactly if one has for each object handed out. -/
theorem all_succeeded_iff (finished : s.Finished first loaded c) :
    (∀ attempt ∈ c.attempts, attempt.succeeded = true) ↔
      ∀ i < c.distributor.pos, first ≤ i →
        i ∈ (c.attempts.filter (·.succeeded)).map (·.index) := by
  constructor
  · intro all i few started
    obtain ⟨attempt, mem, is⟩ := List.mem_map.mp (finished.mem_indices.mpr ⟨started, few⟩)
    exact List.mem_map.mpr ⟨attempt, List.mem_filter.mpr ⟨mem, all attempt mem⟩, is⟩
  · intro each attempt mem
    obtain ⟨started, few⟩ := finished.mem_indices.mp (List.mem_map_of_mem mem)
    obtain ⟨other, inFilter, same⟩ := List.mem_map.mp (each attempt.index few started)
    obtain ⟨inAttempts, succeeded⟩ := List.mem_filter.mp inFilter
    obtain rfl := List.inj_on_of_nodup_map finished.indices_nodup inAttempts mem same
    exact succeeded

/-- The attempts are on the objects handed out, in some order. -/
theorem indices (finished : s.Finished first loaded c) :
    (c.attempts.map (·.index)).Perm (List.range' first (c.distributor.pos - first)) := by
  apply (List.perm_ext_iff_of_nodup finished.indices_nodup List.nodup_range').mpr
  intro i
  have := finished.started
  rw [finished.mem_indices, List.mem_range'_1]
  omega

/-- What became of the object of a failure. -/
theorem failed (finished : s.Finished first loaded c) {failure : LoadFailure}
    (mem : failure ∈ c.failures) :
    ∃ plan, c.plans[failure.index]? = some plan ∧
      c.objects[failure.index]? = some (Loadable.fail failure.message plan.started) := by
  obtain ⟨attempt, inAttempts, is⟩ := List.mem_filterMap.mp (finished.failures.mem_iff.mp mem)
  obtain ⟨plan, object, planned, ends, object_is⟩ := finished.settled attempt inAttempts
  obtain ⟨i, result⟩ := attempt
  cases result with
  | ok done => cases is
  | error why =>
      simp only [Attempt.failure?, Attempt.event?, planned, Option.map_some, Option.bind_some,
        LoadEvent.failure?, Option.some.injEq] at is
      subst is
      refine ⟨plan, planned, ?_⟩
      rw [object_is, ends.started]
      rfl

/-- The failures are those of the attempts that did not succeed. -/
theorem failureIndices (finished : s.Finished first loaded c) :
    (c.failures.map (·.index)).Perm ((c.attempts.filter (! ·.succeeded)).map (·.index)) := by
  refine (finished.failures.map _).trans (.of_eq ?_)
  have settled := finished.settled
  revert settled
  induction c.attempts with
  | nil =>
      intro _
      rfl
  | cons attempt rest ih =>
      intro settled
      rw [List.forall_mem_cons] at settled
      obtain ⟨⟨plan, -, planned, -⟩, later⟩ := settled
      have others := ih later
      obtain ⟨i, result⟩ := attempt
      cases result with
      | ok done => simpa [Attempt.failure?, Attempt.event?, Attempt.succeeded, Except.isOk,
          Except.toBool, List.filterMap_cons] using others
      | error why => simpa [Attempt.failure?, Attempt.event?, Attempt.succeeded, Except.isOk,
          Except.toBool, List.filterMap_cons, planned, LoadEvent.failure?] using others

/-- The objects handed out were loaded or failed. -/
theorem split_indices (finished : s.Finished first loaded c) :
    ((c.attempts.filter (·.succeeded)).map (·.index) ++ c.failures.map (·.index)).Perm
      (List.range' first (c.distributor.pos - first)) := by
  refine (List.Perm.append_left _ finished.failureIndices).trans ?_
  rw [← List.map_append]
  exact ((List.filter_append_perm _ _).map _).trans finished.indices

/-- Sorted by their indices, the failures are strictly increasing: no object fails twice. -/
theorem sorted_failures (finished : s.Finished first loaded c) :
    (c.failures.mergeSort fun a b => a.index ≤ b.index).Pairwise (·.index < ·.index) := by
  have ordered : (c.failures.mergeSort fun a b => a.index ≤ b.index).Pairwise
      (·.index ≤ ·.index) := by
    refine (List.pairwise_mergeSort ?_ ?_ c.failures).imp ?_
    · intro a b d first second
      simp only [decide_eq_true_eq] at *
      omega
    · intro a b
      simp only [Bool.or_eq_true, decide_eq_true_eq]
      omega
    · intro a b le
      simpa using le
  have distinct : ((c.failures.mergeSort fun a b => a.index ≤ b.index).map (·.index)).Nodup := by
    rw [((List.mergeSort_perm _ _).map _).nodup_iff, finished.failureIndices.nodup_iff]
    exact finished.indices_nodup.sublist (List.filter_sublist.map _)
  rw [List.Nodup, List.pairwise_map] at distinct
  apply ordered.imp₂ _ distinct
  intro a b le ne
  exact Nat.lt_of_le_of_ne le ne

end Finished

end Crew

end Windchest
