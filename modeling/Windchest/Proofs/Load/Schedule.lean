/-
# Windchest.Proofs.Load.Schedule -- the order of the threads makes no difference

With room for everything its objects ask for, and a reporter that never cancels, a load
comes to the same whatever the number of its workers and whatever the order in which the
threads take their steps: the same report, the same files, and objects that are the same
but for where their blocks lie (`load_without_workers`).
-/
import Windchest.Proofs.Crew.Agree
import Windchest.Proofs.Load.Room
import Windchest.Proofs.Load.Truth
import Windchest.Proofs.Load.Update

namespace Windchest

set_option autoImplicit false

variable {α : Type} [Loadable α]

/-- What was read from the cache is the same in every arena that the load may have come to. -/
theorem CacheWalk.Done.twin {report : Reporter} {objects : List α} {w : CacheWalk α}
    (done : w.Done report objects)
    {a b : Arena} (grows : w.arena.Grows a) (grows' : w.arena.Grows b) {i : Nat}
    (few : i < w.distributor.loaded) :
    ∃ object, w.objects[i]? = some object ∧ Twin a b object object := by
  obtain ⟨record, before, object, -, is, ends⟩ := done.loaded i few
  obtain ⟨install, ids, promised, rfl, resolved⟩ := ends.installs
  exact ⟨_, is, .fromRecord (Plan.verdict_of_promised promised).2 (resolved.of_grows grows)
    (resolved.of_grows grows')⟩

/-- With enough room, and nobody who cancels, a crew tries every object that a walk has left, and
never runs short. -/
theorem CacheWalk.served_of_crew? {report : Reporter} (patient : ∀ trace, report trace = true)
    {objects : List α} {w : CacheWalk α} (done : w.Done report objects) {store : Store}
    {workers : Nat} {s c : Crew α}
    (room : w.arena.used + filesAppetite store (w.objects.drop w.distributor.loaded)
      ≤ w.arena.capacity)
    (crew : w.crew? report store workers = some s) (reaches : s.Reaches c) (rest : c.AtRest) :
    (∀ attempt ∈ c.attempts, attempt.isShort = false) ∧ c.outOfMemory = false ∧
      c.cancelled = false ∧ c.distributor.pos = w.distributor.total := by
  obtain ⟨fresh, plans, -, arena, distributor, reporter, -⟩ := crew?_eq_some done crew
  have finished := finished_of_crew? done crew reaches rest
  have asked : s.arena.used + ((s.plans.drop w.distributor.loaded).map Plan.bytes).sum
      ≤ s.arena.capacity := by
    rw [arena, plans, ← List.map_drop, List.map_map]
    exact room
  have served := Crew.served_of_reaches fresh asked reaches
  have enough : c.outOfMemory = false := by
    apply Bool.eq_false_iff.mpr
    intro short
    obtain ⟨attempt, mem, isShort⟩ := finished.shortage.mp short
    rw [served attempt mem] at isShort
    cases isShort
  have goesOn : c.cancelled = false := by
    apply Bool.eq_false_iff.mpr
    intro cancelled
    have declined := finished.declined.mp cancelled
    rw [finished.follows.report, reporter] at declined
    exact not_declined_of_patient patient _ declined
  refine ⟨served, enough, goesOn, ?_⟩
  rw [finished.all enough goesOn, finished.follows.total, distributor]

section Objects

variable [Relocatable α]

/-- Two objects tell the same, and have the same sections, each in its own arena. -/
structure Alike (a b : Arena) (object other : α) : Prop where
  isReady : Loadable.isReady other = Loadable.isReady object
  error? : Loadable.error? other = Loadable.error? object
  sections : List.Forall₂ (Section.Same a b) (Relocatable.sections object)
    (Relocatable.sections other)

namespace Twin

variable {a b : Arena} {object other : α}

theorem alike (twin : Twin a b object other) : Alike a b object other := by
  cases twin with
  | failed message object =>
      refine ⟨rfl, rfl, ?_⟩
      rw [Relocatable.sections_fail]
      exact .nil
  | fromFiles verdict here there =>
      have installs := Relocatable.installs_fromFiles verdict
      refine ⟨?_, ?_, installs.sections here there⟩
      · rw [LawfulLoadable.isReady_fromFiles verdict, LawfulLoadable.isReady_fromFiles verdict]
      · rw [installs.error?, installs.error?]
  | fromRecord verdict here there =>
      have installs := Relocatable.installs_fromRecord verdict
      refine ⟨?_, ?_, installs.sections here there⟩
      · rw [LawfulLoadable.isReady_fromRecord verdict, LawfulLoadable.isReady_fromRecord verdict]
      · rw [installs.error?, installs.error?]

/-- Loaded objects that are the same but for where their blocks lie have the same record. -/
theorem save_eq (twin : Twin a b object other) (ready : Loadable.isReady object = true) :
    Loadable.save a object = Loadable.save b other := by
  cases twin with
  | failed message object =>
      rw [LawfulLoadable.isReady_fail] at ready
      cases ready
  | fromFiles verdict here there => exact (Relocatable.installs_fromFiles verdict).save here there
  | fromRecord verdict here there => exact (Relocatable.installs_fromRecord verdict).save here there

end Twin

end Objects

namespace LoadResult

/-- Two results of a load that differ at most in where blocks lie and in what was told. -/
structure Agrees (r r' : LoadResult α) : Prop where
  twins : List.Forall₂ (Twin r.arena r'.arena) r.objects r'.objects
  loaded : r.distributor.loaded = r'.distributor.loaded
  total : r.distributor.total = r'.distributor.total
  usage : r.usage = r'.usage
  failures : r.failures = r'.failures
  outOfMemory : r.outOfMemory = r'.outOfMemory
  cancelled : r.cancelled = r'.cancelled

namespace Agrees

variable {r r' : LoadResult α}

theorem outcome (agrees : r.Agrees r') : r.outcome = r'.outcome := by
  rw [LoadResult.outcome, LoadResult.outcome, agrees.outOfMemory, agrees.cancelled, agrees.failures,
    agrees.loaded, agrees.twins.length_eq]

theorem cacheable (agrees : r.Agrees r') : r.cacheable = r'.cacheable := by
  rw [LoadResult.cacheable, LoadResult.cacheable, Distributor.isComplete, Distributor.isComplete,
    agrees.outOfMemory, agrees.cancelled, agrees.failures, agrees.loaded, agrees.total]

theorem toReport (agrees : r.Agrees r') (written : Bool) : r.toReport written = r'.toReport written := by
  rw [LoadResult.toReport, LoadResult.toReport, agrees.outcome, agrees.usage, agrees.cacheable,
    agrees.failures, agrees.loaded, agrees.twins.length_eq]

end Agrees

end LoadResult

section Runs

variable [Relocatable α] {report : Reporter} {r r' : LoadResult α}

/-- Results that agree are finished alike. -/
theorem LoadResult.Agrees.finish (agrees : r.Agrees r') (patient : ∀ trace, report trace = true)
    (ready : r.cacheable = true → ∀ object ∈ r.objects, Loadable.isReady object = true)
    (target : CacheTarget) {options options' : LoadOptions}
    (manage : options.manageCache = options'.manageCache)
    (pack : options.packCache = options'.packCache) (files : FileSystem) :
    let here := r.finish report target options files
    let there := r'.finish report target options' files
    here.1 = there.1 ∧ here.2.1.files = there.2.1.files ∧
      List.Forall₂ (Alike here.2.1.arena there.2.1.arena) here.2.1.objects there.2.1.objects := by
  have alike : List.Forall₂ (Alike r.arena r'.arena) r.objects r'.objects :=
    agrees.twins.imp fun _ _ => Twin.alike
  unfold LoadResult.finish
  rw [← agrees.cacheable, ← agrees.usage, ← manage, ← pack]
  by_cases written : (r.cacheable && options.manageCache && decide (r.usage ≠ .full)) = true
  · rw [if_pos written, if_pos written]
    simp only [Bool.and_eq_true] at written
    have saves : List.Forall₂ (fun object other => Loadable.save r.arena object
        = Loadable.save r'.arena other) r.objects r'.objects :=
      ((List.forall₂_and_left r.objects r'.objects).mpr ⟨ready written.1.1, agrees.twins⟩).imp
        fun _ _ ⟨ready, twin⟩ => twin.save_eq ready
    obtain ⟨result, stored⟩ := updateCache_congr patient saves r.trace r'.trace target
      options.packCache files
    refine ⟨?_, stored, alike⟩
    dsimp only
    rw [result]
    exact agrees.toReport _
  · rw [if_neg written, if_neg written]
    exact ⟨agrees.toReport false, rfl, alike⟩

/-- Lists of one length whose elements are related one by one. -/
theorem forall₂_of_getElem? {β γ : Type} {related : β → γ → Prop} {l : List β} {l' : List γ}
    (length : l.length = l'.length)
    (each : ∀ i < l.length, ∃ x y, l[i]? = some x ∧ l'[i]? = some y ∧ related x y) :
    List.Forall₂ related l l' := by
  refine List.forall₂_iff_get.mpr ⟨length, ?_⟩
  intro i inside inside'
  obtain ⟨x, y, first, second, related⟩ := each i inside
  rw [List.getElem?_eq_getElem inside] at first
  rw [List.getElem?_eq_getElem inside'] at second
  rw [List.get_eq_getElem, List.get_eq_getElem, Option.some.inj first, Option.some.inj second]
  exact related

/-- Two crews that finish what a walk has left, with enough room, agree. -/
theorem CacheWalk.agrees_resultWith (patient : ∀ trace, report trace = true) {objects : List α}
    {w : CacheWalk α} (done : w.Done report objects) {store : Store} {workers workers' : Nat}
    {s t c d : Crew α}
    (room : w.arena.used + filesAppetite store (w.objects.drop w.distributor.loaded)
      ≤ w.arena.capacity)
    (crew : w.crew? report store workers = some s) (crew' : w.crew? report store workers' = some t)
    (reaches : s.Reaches c) (reaches' : t.Reaches d) (rest : c.AtRest) (rest' : d.AtRest) :
    (w.resultWith c).Agrees (w.resultWith d) := by
  obtain ⟨-, plans, is, arena, distributor, -, none, -⟩ := crew?_eq_some done crew
  obtain ⟨-, plans', is', arena', distributor', -⟩ := crew?_eq_some done crew'
  have finished := finished_of_crew? done crew reaches rest
  have finished' := finished_of_crew? done crew' reaches' rest'
  obtain ⟨served, enough, goesOn, reached⟩ := served_of_crew? patient done room crew reaches rest
  obtain ⟨served', enough', goesOn', reached'⟩ :=
    served_of_crew? patient done room crew' reaches' rest'
  have total : c.distributor.total = w.distributor.total := by rw [finished.follows.total, distributor]
  have total' : d.distributor.total = w.distributor.total := by
    rw [finished'.follows.total, distributor']
  have samePlans : c.plans = d.plans := by
    rw [finished.follows.plans, finished'.follows.plans, plans, plans']
  have attempts : c.attempts.Perm d.attempts := by
    have here := finished.attempts_perm served
    have there := finished'.attempts_perm served'
    rw [reached, samePlans] at here
    rw [reached'] at there
    exact here.trans there.symm
  refine ⟨forall₂_of_getElem? ?_ ?_, ?_, total.trans total'.symm, rfl, ?_, ?_, ?_⟩
  · change c.objects.length = d.objects.length
    rw [finished.follows.length, finished'.follows.length, is, is']
  · intro i inside
    change ∃ object other, c.objects[i]? = some object ∧ d.objects[i]? = some other ∧
      Twin c.arena d.arena object other
    have inside : i < w.distributor.total := by
      have length : c.objects.length = w.objects.length := by rw [finished.follows.length, is]
      rw [done.total, ← done.length, ← length]
      exact inside
    by_cases few : i < w.distributor.loaded
    · obtain ⟨object, at_i, twin⟩ :=
        done.twin (arena ▸ finished.follows.grows) (arena' ▸ finished'.follows.grows) few
      refine ⟨object, object, ?_, ?_, twin⟩
      · rw [finished.untouched i (by omega), is, at_i]
      · rw [finished'.untouched i (by omega), is', at_i]
    · exact finished.twin finished' plans (by rw [plans, plans']) served served'
        (Nat.le_of_not_lt few) (reached ▸ inside) (reached' ▸ inside)
  · change c.distributor.loaded = d.distributor.loaded
    rw [finished.counted, finished'.counted, attempts.countP_eq]
  · have sorted := (sorted_resultWith done crew reaches rest).increasing
    have sorted' := (sorted_resultWith done crew' reaches' rest').increasing
    have noted (e : Crew α) : (w.resultWith e).failures.Perm e.failures := by
      rw [resultWith, none]
      exact List.mergeSort_perm _ _
    refine List.Perm.eq_of_pairwise (?_) sorted sorted' ?_
    · intro a b _ _ before after
      exact absurd before (Nat.lt_asymm after)
    · refine (noted c).trans (finished.failures.trans ?_)
      rw [samePlans]
      exact (attempts.filterMap _).trans (finished'.failures.symm.trans (noted d).symm)
  · exact enough.trans enough'.symm
  · exact goesOn.trans goesOn'.symm

/-- **Two loads of the same objects agree**, if there is room for all that the objects may have in
use and nobody cancels. -/
theorem agrees_of_loads (patient : ∀ trace, report trace = true) {store : Store}
    {target : CacheTarget} {workers workers' : Nat} {stage : Stage α}
    (room : stage.arena.used + stage.appetite store target ≤ stage.arena.capacity)
    (run : Loads report store target workers stage r)
    (run' : Loads report store target workers' stage r') : r.Agrees r' := by
  cases run with
  | @cached w walked settled =>
      have done := CacheWalk.done_of_run walked
      obtain ⟨enough, goesOn, -⟩ := CacheWalk.room_of_run patient room walked
      have all := (CacheWalk.loaded_of_settled done settled enough goesOn).2.2
      cases run' with
      | cached walked' =>
          obtain rfl := Except.ok.inj (walked.symm.trans walked')
          refine ⟨forall₂_of_getElem? rfl ?_, rfl, rfl, rfl, rfl, rfl, rfl⟩
          intro i inside
          obtain ⟨object, is, twin⟩ := done.twin (.refl _) (.refl _) (all ▸ inside)
          exact ⟨object, object, is, is, twin⟩
      | crewed walked' crew =>
          obtain rfl := Except.ok.inj (walked.symm.trans walked')
          rw [CacheWalk.crew?_eq_none_congr settled] at crew
          cases crew
  | crewed walked crew reaches rest =>
      cases run' with
      | cached walked' settled =>
          obtain rfl := Except.ok.inj (walked.symm.trans walked')
          rw [CacheWalk.crew?_eq_none_congr settled] at crew
          cases crew
      | crewed walked' crew' reaches' rest' =>
          obtain rfl := Except.ok.inj (walked.symm.trans walked')
          obtain ⟨-, -, room⟩ := CacheWalk.room_of_run patient room walked
          exact CacheWalk.agrees_resultWith patient (CacheWalk.done_of_run walked) room crew crew'
            reaches reaches' rest rest'

/-- **The order of the threads makes no difference.**  Whatever a load with any number of workers
comes to, the load without workers comes to the same. -/
theorem load_without_workers (patient : ∀ trace, report trace = true) {store : Store}
    {target : CacheTarget} {options : LoadOptions} {stage : Stage α}
    (room : stage.arena.used + stage.appetite store target ≤ stage.arena.capacity)
    (run : Loads report store target options.concurrency stage r) :
    let here := r.finish report target options stage.files
    ∃ told after trace,
      load report store target { options with concurrency := 0 } stage = .ok (told, after, trace) ∧
      here.1 = told ∧ here.2.1.files = after.files ∧
      List.Forall₂ (Alike here.2.1.arena after.arena) here.2.1.objects after.objects := by
  obtain ⟨r', ran⟩ := @loadAll_of_loads _ _ _ _ _ 0 _ _ _ run
  obtain ⟨ready, sorted⟩ := sorted_of_loads run
  have agrees := agrees_of_loads patient room run (loads_of_loadAll ran)
  have allReady (cacheable : r.cacheable = true) :
      ∀ object ∈ r.objects, Loadable.isReady object = true :=
    List.all_eq_true.mp (sorted.cacheable_iff.mp cacheable).2.2
  obtain ⟨told, files, alike⟩ := @agrees.finish _ _ _ _ _ _ patient allReady target options
    { options with concurrency := 0 } rfl rfl stage.files
  have loads : load report store target { options with concurrency := 0 } stage
      = .ok (r'.finish report target { options with concurrency := 0 } stage.files) := by
    simp only [load, ran, bind, Except.bind, pure, Except.pure]
  exact ⟨_, _, _, loads, told, files, alike⟩

end Runs

/-- Two workers make no difference to the small chest, for whose pipes there is just enough room. -/
theorem smallChest_without_workers : ∃ r,
    Loads Reporter.patient smallStore smallTarget 2 smallChest r ∧
      let here := r.finish Reporter.patient smallTarget { concurrency := 2 } smallChest.files
      ∃ told after trace,
        load Reporter.patient smallStore smallTarget { concurrency := 0 } smallChest
          = .ok (told, after, trace) ∧
        here.1 = told ∧ here.2.1.files = after.files ∧
        List.Forall₂ (Alike here.2.1.arena after.arena) here.2.1.objects after.objects := by
  have room : smallChest.arena.used + smallChest.appetite smallStore smallTarget
      ≤ smallChest.arena.capacity := by
    decide +kernel
  obtain ⟨r, run, -⟩ := smallChest_loads
  exact ⟨r, run, @load_without_workers _ _ _ _ _ (fun _ => rfl) _ _ { concurrency := 2 } smallChest
    room run⟩

end Windchest
