/-
# Windchest.Proofs.Crew.Progress -- a crew always comes to its end

Threads wait for each other in two places: at the lock on the cursor, and at the channel, where
the driver waits for an event or for the last sender to be dropped.  Workers never wait there,
since the channel takes any number of events.  `crew_never_stuck` says that whatever a crew has come to
from its start, with any number of workers and with or without a pending object, a thread can
move until the driver has finished, and that a run has no more steps than the work at its start.

The measure is `Crew.work`.  What bounds the waiting is the invariant `Crew.Orderly`.
-/
import Windchest.Audio.Known
import Windchest.Object.Basic
import Windchest.Proofs.Crew.Rest

namespace Windchest

set_option autoImplicit false

namespace Crew

variable {α : Type} [Loadable α]

/-- No thread is lost, and none comes to a crew later. -/
theorem workers_of_reaches {c d : Crew α} (reaches : c.Reaches d) :
    d.workers.length = c.workers.length := by
  apply reaches_induction (P := fun d => d.workers.length = c.workers.length) reaches rfl
  intro c d same moves
  obtain ⟨task, task', swap, -⟩ := moves_cases moves
  rw [← same]
  exact Nat.succ.inj swap.length

/-- Each step of a run takes from the work. -/
theorem steps_le_work {run : Nat → Crew α} {n : Nat}
    (moves : ∀ k < n, (run k).Moves (run (k + 1))) : n + (run n).work ≤ (run 0).work := by
  induction n with
  | zero => exact Nat.le_of_eq (Nat.zero_add _)
  | succ n ih =>
      have sofar := ih fun k before => moves k (Nat.lt_succ_of_lt before)
      have less := work_move (moves n (Nat.lt_succ_self n))
      omega

/-- A crew that has not finished has a thread that can move. -/
theorem Orderly.exists_step {c : Crew α} (orderly : c.Orderly) (busy : c.driver ≠ .finished) :
    ∃ t ≤ c.workers.length, ∃ d, c.step t = some d := by
  by_contra stuck
  refine busy (orderly.finished_of_atRest ?_)
  intro t
  cases step : c.step t with
  | none => rfl
  | some d =>
      refine absurd ⟨t, ?_, d, step⟩ stuck
      by_contra beyond
      rw [c.step_beyond (Nat.lt_of_not_le beyond)] at step
      cases step

theorem Orderly.of_reaches {s c : Crew α} (orderly : s.Orderly) (reaches : s.Reaches c) : c.Orderly :=
  reaches_induction reaches orderly fun _ _ before moves => orderly_move before moves

/-- A crew starts orderly if nobody holds the lock then. -/
theorem orderly_start {report : Reporter} {store : Store} {workers : Nat} {objects : List α}
    {arena : Arena} {distributor : Distributor} {trace : List Progress} {pending : Option Nat}
    (total : distributor.total ≤ objects.length) (free : distributor.Free) :
    (start report store workers objects arena distributor trace pending).Orderly := by
  have idle : ((List.replicate workers (Task.checking (α := α))).map Task.publishes).sum = 0 := by
    simp [Task.publishes]
  have planned : distributor.total ≤ (objects.map (Loadable.fromFiles store)).length := by
    rw [List.length_map]
    exact total
  obtain ⟨pending', task, driver, unlocked, holding⟩ : ∃ pending' task,
      (start report store workers objects arena distributor trace pending).driver
        = .working pending' task ∧ task.publishes = 0 ∧ task.senders = 1 := by
    unfold start
    dsimp only
    split
    · exact ⟨_, _, rfl, rfl, rfl⟩
    · exact ⟨_, _, rfl, rfl, rfl⟩
  refine ⟨closing_of_working driver ?_ ?_, planned, ?_⟩
  · intro other mem
    rcases List.mem_cons.mp mem with rfl | worker
    · rw [driver]
      exact holding
    · rw [(List.mem_replicate.mp worker).2]
      rfl
  · exact congrArg (· + 1) List.length_replicate.symm
  · rw [Crew.total, tasks, driver, List.map_cons, List.sum_cons, Driver.task, unlocked]
    exact free.trans (by rw [start, idle, Nat.add_zero])

end Crew

/-- **A crew cannot get stuck.**  A run is not longer than the work at its start, so none goes on for
ever.  Whatever it has come to, some thread can move unless the driver has finished.  Once it has
dropped its own sender, the driver waits exactly while the channel is empty and some worker has not
dropped its own.  When the driver has finished, every worker is gone, the channel is empty and has
no sender, and nobody has an object in hands or holds the lock. -/
theorem crew_never_stuck {α : Type} [Loadable α] (report : Reporter) (store : Store) (workers : Nat)
    (objects : List α) (arena : Arena) (distributor : Distributor) (trace : List Progress)
    (pending : Option Nat) (total : distributor.total = objects.length) (free : distributor.Free) :
    let s := Crew.start report store workers objects arena distributor trace pending
    (∀ (run : Nat → Crew α) (n : Nat), run 0 = s → (∀ k < n, (run k).Moves (run (k + 1))) →
      n ≤ s.work) ∧
    (¬ ∃ run : Nat → Crew α, run 0 = s ∧ ∀ k, (run k).Moves (run (k + 1))) ∧
    ∀ c, s.Reaches c →
      (c.driver ≠ .finished → ∃ t ≤ workers, ∃ d, c.step t = some d) ∧
      (c.driver = .receiving →
        (c.step 0 = none ↔ c.channel = [] ∧ ∃ task ∈ c.workers, task ≠ .gone)) ∧
      (c.driver = .finished → c.channel = [] ∧ c.senders = 0 ∧
        c.workers = List.replicate workers .gone ∧ (∀ task ∈ c.tasks, task.index? = none) ∧
        c.distributor.Free) := by
  intro s
  have bounded (run : Nat → Crew α) (n : Nat) (first : run 0 = s)
      (moves : ∀ k < n, (run k).Moves (run (k + 1))) : n ≤ s.work := by
    have := Crew.steps_le_work moves
    rw [first] at this
    omega
  refine ⟨bounded, ?_, ?_⟩
  · rintro ⟨run, first, moves⟩
    have := bounded run (s.work + 1) first fun k _ => moves k
    omega
  · intro c reaches
    have orderly : c.Orderly :=
      (Crew.orderly_start (Nat.le_of_eq total) free).of_reaches reaches
    have length : c.workers.length = workers := by
      rw [Crew.workers_of_reaches reaches]
      exact List.length_replicate
    refine ⟨?_, orderly.waits_iff, ?_⟩
    · intro busy
      rw [← length]
      exact orderly.exists_step busy
    · intro finished
      obtain ⟨drained, unconnected⟩ := orderly.finished finished
      have gone (task : Task α) (mem : task ∈ c.tasks) : task = .gone :=
        orderly.gone unconnected mem
      refine ⟨drained, unconnected, List.eq_replicate_iff.mpr ⟨length, ?_⟩, ?_, ?_⟩
      · exact fun task mem => gone task (List.mem_cons_of_mem _ mem)
      · intro task mem
        rw [gone task mem]
        rfl
      · have lock := orderly.lock
        rw [Crew.total_of_gone gone rfl] at lock
        exact lock

/-- Three pipes whose sample files are nowhere. -/
def strandedPipes : List Object :=
  [.pipe ⟨"C", [⟨"c.wav", []⟩], [], [], [], {}⟩, .pipe ⟨"D", [⟨"d.wav", []⟩], [], [], [], {}⟩,
    .pipe ⟨"E", [⟨"e.wav", []⟩], [], [], [], {}⟩]

/-- A driver, which has the first of the stranded pipes in its hands, and two workers.  The reporter
declines to go on as soon as it is asked. -/
def strandedCrew : Crew Object :=
  Crew.start (fun _ => false) ⟨.memory [], .known⟩ 2 strandedPipes { limit := 0 }
    { total := 3, cursor := 1, pos := 1 } [] (some 0)

/-- The crew of the stranded pipes comes to its end, too. -/
theorem strandedCrew_never_stuck :
    (∀ (run : Nat → Crew Object) (n : Nat), run 0 = strandedCrew →
      (∀ k < n, (run k).Moves (run (k + 1))) → n ≤ 44) ∧
    strandedCrew.run.cancelled = true ∧ strandedCrew.run.workers = [.gone, .gone] := by
  obtain ⟨bounded, -, reached⟩ := crew_never_stuck (fun _ => false) ⟨.memory [], .known⟩ 2 strandedPipes
    { limit := 0 } { total := 3, cursor := 1, pos := 1 } [] (some 0) rfl rfl
  have work : strandedCrew.work = 44 := by decide +kernel
  obtain ⟨reaches, rest⟩ := strandedCrew.run_atRest
  obtain ⟨busy, -, finished⟩ := reached _ reaches
  refine ⟨?_, by decide +kernel, ?_⟩
  · intro run n first moves
    exact work ▸ bounded run n first moves
  · refine (finished ?_).2.2.1
    by_contra unfinished
    obtain ⟨t, -, d, step⟩ := busy unfinished
    rw [rest t] at step
    cases step

end Windchest
