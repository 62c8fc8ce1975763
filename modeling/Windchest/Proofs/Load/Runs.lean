/-
# Windchest.Proofs.Load.Runs -- the runs of a load

A load reads the cache, and if that leaves anything to be loaded, a crew of threads
does the rest.  `Loads` relates the input of a load to each of its results: one for
every order in which the threads of the crew may take their steps.  The load that
takes the threads in turn is one of its runs (`loads_of_loadAll`), so there always is
one unless a record makes its reader give up.
-/
import Windchest.Proofs.Load.Walk
import Windchest.Proofs.Object.Laws

namespace Windchest

set_option autoImplicit false

variable {α : Type} [Loadable α]

/-- A load of the objects of a stage, with some number of workers, may end with this result. -/
inductive Loads (report : Reporter) (store : Store) (target : CacheTarget) (concurrency : Nat)
    (stage : Stage α) : LoadResult α → Prop where
  | cached {walk : CacheWalk α}
      (walked : CacheWalk.run stage.files target report (stage.objects.map Loadable.reset)
        stage.arena = .ok walk)
      (settled : walk.crew? report store concurrency = none) :
      Loads report store target concurrency stage walk.result
  | crewed {walk : CacheWalk α} {start crew : Crew α}
      (walked : CacheWalk.run stage.files target report (stage.objects.map Loadable.reset)
        stage.arena = .ok walk)
      (goesOn : walk.crew? report store concurrency = some start)
      (reaches : start.Reaches crew) (rest : crew.AtRest) :
      Loads report store target concurrency stage (walk.resultWith crew)

/-- A load of a stage may end telling this, leaving that behind, with this trace. -/
def LoadEnds (report : Reporter) (store : Store) (target : CacheTarget) (options : LoadOptions)
    (stage : Stage α) (told : LoadReport) (after : Stage α) (trace : List Progress) : Prop :=
  ∃ r, Loads report store target options.concurrency stage r ∧
    r.finish report target options stage.files = (told, after, trace)

section Runs

variable {report : Reporter} {store : Store} {target : CacheTarget} {concurrency : Nat}
  {stage : Stage α}

/-- The load that takes its threads in turn is one of the runs. -/
theorem loads_of_loadAll {r : LoadResult α}
    (ran : loadAll report store target concurrency stage = .ok r) :
    Loads report store target concurrency stage r := by
  simp only [loadAll] at ran
  cases walked : CacheWalk.run stage.files target report (stage.objects.map Loadable.reset)
      stage.arena with
  | error why =>
      rw [walked] at ran
      cases ran
  | ok walk =>
      rw [walked] at ran
      simp only [bind, Except.bind] at ran
      cases goesOn : walk.crew? report store concurrency with
      | none =>
          rw [goesOn] at ran
          obtain rfl := Except.ok.inj ran
          exact .cached walked goesOn
      | some start =>
          rw [goesOn] at ran
          obtain rfl := Except.ok.inj ran
          exact .crewed walked goesOn start.run_atRest.1 start.run_atRest.2

/-- A load whose walk ends has a result. -/
theorem exists_loadAll {walk : CacheWalk α}
    (walked : CacheWalk.run stage.files target report (stage.objects.map Loadable.reset)
      stage.arena = .ok walk) :
    ∃ r, loadAll report store target concurrency stage = .ok r := by
  simp only [loadAll, walked, bind, Except.bind]
  split
  · exact ⟨_, rfl⟩
  · exact ⟨_, rfl⟩

/-- A load that can end with some number of workers ends with any number. -/
theorem loadAll_of_loads {workers : Nat} {r : LoadResult α}
    (run : Loads report store target workers stage r) :
    ∃ r', loadAll report store target concurrency stage = .ok r' := by
  cases run with
  | cached walked settled => exact exists_loadAll walked
  | crewed walked goesOn reaches rest => exact exists_loadAll walked

/-- What a load tells and leaves behind is what `finish` makes of one of its runs. -/
theorem loads_of_load {options : LoadOptions} {result : LoadReport × Stage α × List Progress}
    (ran : load report store target options stage = .ok result) :
    ∃ r, Loads report store target options.concurrency stage r ∧
      result = r.finish report target options stage.files := by
  simp only [load] at ran
  cases all : loadAll report store target options.concurrency stage with
  | error why =>
      rw [all] at ran
      cases ran
  | ok r =>
      rw [all] at ran
      exact ⟨r, loads_of_loadAll all, (Except.ok.inj ran).symm⟩

theorem loadEnds_of_load {options : LoadOptions} {told : LoadReport} {after : Stage α}
    {trace : List Progress} (ran : load report store target options stage = .ok (told, after, trace)) :
    LoadEnds report store target options stage told after trace := by
  obtain ⟨r, run, finished⟩ := loads_of_load ran
  exact ⟨r, run, finished.symm⟩

end Runs

namespace CacheWalk

variable {report : Reporter} {store : Store} {workers : Nat} {objects : List α} {w : CacheWalk α}
  {s : Crew α}

/-- Whether a crew is needed is not a matter of its size. -/
theorem crew?_eq_none_congr {workers' : Nat} (settled : w.crew? report store workers = none) :
    w.crew? report store workers' = none := by
  simp only [crew?, ite_eq_right_iff, reduceCtorEq, imp_false] at settled ⊢
  exact settled

/-- A walk that needs no crew and was not interrupted has loaded everything. -/
theorem loaded_of_settled (done : w.Done report objects) (settled : w.crew? report store workers = none)
    (enough : w.outOfMemory = false) (goesOn : w.cancelled = false) :
    w.pending = none ∧ w.distributor.pos = w.distributor.total ∧
      w.distributor.loaded = w.objects.length := by
  simp only [crew?, enough, goesOn, Bool.not_false, Bool.and_true, ite_eq_right_iff, reduceCtorEq,
    imp_false, Bool.or_eq_true, not_or, decide_eq_true_eq] at settled
  have pending : w.pending = none := by simpa using settled.1
  have reached := Nat.le_antisymm done.bound (Nat.le_of_not_lt settled.2)
  refine ⟨pending, reached, ?_⟩
  rw [done.length, ← done.total, ← reached]
  rcases done.ended with ⟨pos, -⟩ | ⟨-, some, -⟩ | ⟨-, -, short, -⟩
  · exact pos.symm
  · rw [pending] at some
    cases some
  · rw [enough] at short
    cases short

/-- The crew of a walk is fresh, and everything is left to it that the walk has not loaded. -/
theorem crew?_eq_some (done : w.Done report objects) (crew : w.crew? report store workers = some s) :
    s.Fresh w.distributor.loaded ∧ s.plans = w.objects.map (Loadable.fromFiles store) ∧
      s.objects = w.objects ∧ s.arena = w.arena ∧ s.distributor = w.distributor ∧
      s.report = report ∧ w.failures = [] ∧ w.outOfMemory = false ∧ w.cancelled = false := by
  simp only [crew?] at crew
  split at crew
  · rename_i goesOn
    obtain rfl := Option.some.inj crew
    simp only [Bool.and_eq_true, Bool.not_eq_true'] at goesOn
    obtain ⟨⟨-, enough⟩, uncancelled⟩ := goesOn
    have running : w.distributor.aborted = false := by rw [done.aborted, enough, uncancelled]; rfl
    have quiet : ¬ Declined report (w.trace ++ [.setup w.distributor.total .loadingSamples]) := by
      rw [declined_append_setup, ← done.declined, uncancelled]
      exact Bool.false_ne_true
    have total : w.distributor.total = w.objects.length := by rw [done.total, done.length]
    refine ⟨?_, rfl, rfl, rfl, rfl, rfl, ?_, enough, uncancelled⟩
    · have bound : w.distributor.cursor ≤ w.distributor.total := done.free ▸ done.bound
      have last : w.pending.getD w.distributor.cursor = w.distributor.loaded ∧
          ∀ i ∈ w.pending, i + 1 = w.distributor.cursor := by
        rw [done.free]
        rcases done.ended with ⟨pos, pending, -⟩ | ⟨pos, pending, -⟩ | ⟨-, -, short, -⟩
        · rw [pending, pos]
          exact ⟨rfl, fun i is => by cases is⟩
        · rw [pending, pos]
          exact ⟨rfl, fun i is => by cases is; rfl⟩
        · rw [short] at enough
          cases enough
      rw [← last.1]
      exact Crew.fresh_start total done.free bound running quiet last.2
    · rcases done.ended with ⟨-, -, none, -⟩ | ⟨-, -, none, -⟩ | ⟨-, -, short, -⟩
      · exact none
      · exact none
      · rw [short] at enough
        cases enough
  · cases crew

end CacheWalk

end Windchest
