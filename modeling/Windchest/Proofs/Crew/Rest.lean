/-
# Windchest.Proofs.Crew.Rest -- every run of a crew ends, with nothing left to do

Each step does some of the work that is left (`work_move`), whichever thread takes it,
so no run goes on for ever, and the run that takes the threads in turn ends at rest
(`run_atRest`).  A crew at rest is not stuck: the only thing that a thread can wait for
at the cursor is the lock, and whoever holds that can move.  A thread that has stopped can drop its
sender, so at rest no sender is left, the channel is closed, and the driver has finished
(`Orderly.finished_of_atRest`).
-/
import Windchest.Proofs.Crew.Steering

namespace Windchest

set_option autoImplicit false

variable {α : Type}

/-- The work of a driver beside its task. -/
def Driver.slack : Driver α → Nat
  | finished => 0
  | receiving => 1
  | working _ _ => 2
  | draining => 3
  | aborting next => next.slack + 1

theorem Driver.work_eq (driver : Driver α) : driver.work = driver.task.work + driver.slack := by
  induction driver with
  | aborting next ih =>
      simp only [Driver.work, Driver.task, Driver.slack, ih]
      omega
  | _ => rfl

namespace Workbench

variable [Loadable α] {b b' : Workbench α} {task task' : Task α}

/-- The work of the objects that have not been handed out. -/
def undone (b : Workbench α) : Nat :=
  ((b.plans.drop b.distributor.cursor).map fun plan => 2 * plan.demands.length + 13).sum

theorem Advance.work (advance : b.Advance task task' b') :
    task'.work + b'.undone < task.work + b.undone := by
  cases advance with
  | claim plan free left planned =>
      obtain ⟨bound, is⟩ := List.getElem?_eq_some_iff.mp planned
      simp only [undone, Task.work]
      rw [List.drop_eq_getElem_cons bound, is, List.map_cons, List.sum_cons]
      omega
  | recordLoaded title =>
      simp only [undone, Task.work, Distributor.recordLoaded]
      omega
  | recordShortage failure =>
      simp only [undone, Task.work, Distributor.abort]
      omega
  | publish i plan =>
      simp only [undone, Task.work, Distributor.publish, List.length_nil]
      omega
  | _ =>
      simp only [undone, Task.work, List.length_cons, List.length_append, List.length_nil]
      omega

/-- Why a task cannot go on: it waits for the lock, or it is not its turn to do anything here. -/
theorem advance_none (planned : b.distributor.total ≤ b.plans.length)
    (stuck : b.advance task = none) :
    task = .claiming ∧ ¬ b.distributor.Free ∨ (∃ event, task = .sending event) ∨
      task = .stopped ∨ task = .gone := by
  cases task with
  | claiming =>
      left
      refine ⟨rfl, ?_⟩
      intro free
      by_cases left : b.distributor.cursor < b.distributor.total
      · have bound : b.distributor.cursor < b.plans.length := by omega
        simp [advance, free, Distributor.claim, left, bound] at stuck
      · simp [advance, free, Distributor.claim, left] at stuck
  | sending event => exact Or.inr (Or.inl ⟨event, rfl⟩)
  | stopped => exact Or.inr (Or.inr (Or.inl rfl))
  | gone => exact Or.inr (Or.inr (Or.inr rfl))
  | checking => simp [advance] at stuck
  | publishing i plan => simp [advance] at stuck
  | recording event => simp [advance] at stuck
  | committing i install blocks held => cases held <;> simp [advance] at stuck
  | dropping i object why held => cases held <;> simp [advance] at stuck
  | reserving i plan held demands =>
      cases demands with
      | nil => cases verdict : plan.verdict <;> simp [advance, verdict] at stuck
      | cons d rest =>
          rcases Arena.place_cases b.arena d with ⟨-, placed⟩ | ⟨-, -, placed⟩ | ⟨-, -, placed⟩ <;>
            simp [advance, placed] at stuck

end Workbench

namespace Crew

variable [Loadable α]

omit [Loadable α] in
theorem slack_handle (c : Crew α) (event : LoadEvent) (next : Driver α) :
    (c.handle event next).driver.slack ≤ next.slack + 1 := by
  rcases c.handle_cases event next with ⟨driver, -⟩ | ⟨driver, -⟩ <;> rw [driver]
  · exact Nat.le_succ _
  · exact Nat.le_refl _

omit [Loadable α] in
theorem work_eq (c : Crew α) :
    c.work = c.total Task.work + c.driver.slack + 3 * c.channel.length + c.undone := by
  have summed {β : Type} (f : β → Nat) (l : List β) :
      l.foldr (fun x n => f x + n) 0 = (l.map f).sum := by
    rw [List.sum, List.foldr_map]
  rw [work, summed, summed, total, tasks, List.map_cons, List.sum_cons, Driver.work_eq,
    Workbench.undone]
  omega

/-- Every step does some of the work. -/
theorem work_move {c d : Crew α} (moves : c.Moves d) : d.work < c.work := by
  obtain ⟨task, task', swap, effect⟩ := moves_cases moves
  have sum : d.total Task.work + task.work = c.total Task.work + task'.work := swap.sum _
  rw [work_eq, work_eq]
  cases effect with
  | advance driver workers advanced mover =>
      have less := advanced.work
      have slack : driver.slack = c.driver.slack := by
        rcases mover with same | ⟨pending, before, after⟩
        · rw [same]
        · rw [before, after]
          rfl
      dsimp only at *
      omega
  | send event workers =>
      simp only [Task.work, List.length_append, List.length_singleton] at *
      omega
  | handle event pending is =>
      have slack := c.slack_handle event (if pending then .working false .checking else .draining)
      have next : (if pending then Driver.working false Task.checking
          else (Driver.draining : Driver α)).slack ≤ 3 := by
        cases pending
        · exact Nat.le_refl 3
        · exact Nat.le_succ 2
      simp only [Task.work, handle_toWorkbench, handle_channel, is, Driver.slack] at *
      omega
  | receive event rest task queued is =>
      have slack := Crew.slack_handle { c with channel := rest } event c.driver
      simp only [handle_toWorkbench, handle_channel, queued, List.length_cons] at *
      omega
  | abort next task is =>
      simp only [is, Driver.slack, Workbench.undone, Distributor.abort] at *
      omega
  | leave workers =>
      simp only [Task.work] at *
      omega
  | turn pending is =>
      simp only [is, Task.work, Driver.slack] at *
      omega
  | again is drained =>
      simp only [is, Driver.slack] at *
      omega
  | finish is drained unconnected =>
      simp only [is, Driver.slack] at *
      omega

/-- A thread that does not exist has no step. -/
theorem step_beyond (c : Crew α) {t : Nat} (beyond : c.workers.length < t) : c.step t = none := by
  cases t with
  | zero => exact absurd beyond (Nat.not_lt_zero _)
  | succ w =>
      have none : c.workers[w]? = none := List.getElem?_eq_none (by omega)
      simp [step, none]

theorem exists_turn {threads t : Nat} (turn : Nat) (bound : t < threads) :
    ∃ k < threads, (turn + k) % threads = t := by
  have small : turn % threads < threads := Nat.mod_lt _ (by omega)
  rcases Nat.le_total (turn % threads) t with ahead | behind
  · refine ⟨t - turn % threads, by omega, ?_⟩
    rw [← Nat.mod_add_mod, Nat.add_sub_of_le ahead, Nat.mod_eq_of_lt bound]
  · by_cases same : turn % threads = t
    · exact ⟨0, by omega, same⟩
    · refine ⟨threads - turn % threads + t, by omega, ?_⟩
      rw [← Nat.mod_add_mod, show turn % threads + (threads - turn % threads + t) = t + threads by
        omega, Nat.add_mod_right, Nat.mod_eq_of_lt bound]

theorem next?_cases (c : Crew α) (turn : Nat) :
    (c.next? turn = none ∧ c.AtRest) ∨ ∃ t d, c.next? turn = some (t, d) ∧ c.Moves d := by
  cases next : c.next? turn with
  | none =>
      left
      refine ⟨rfl, ?_⟩
      intro t
      by_cases bound : t < c.workers.length + 1
      · -- Every thread is reached from `turn` on.
        have reached := exists_turn turn bound
        obtain ⟨k, small, rfl⟩ := reached
        have := List.findSome?_eq_none_iff.mp next k (List.mem_range.mpr small)
        simpa using this
      · exact c.step_beyond (by omega)
  | some found =>
      obtain ⟨k, -, stepped⟩ := List.exists_of_findSome?_eq_some next
      obtain ⟨d, step, rfl⟩ := Option.map_eq_some_iff.mp stepped
      exact Or.inr ⟨_, d, rfl, (turn + k) % (c.workers.length + 1), step⟩

theorem runFor_spec (fuel turn : Nat) (c : Crew α) (enough : c.work ≤ fuel) :
    c.Reaches (runFor fuel turn c) ∧ (runFor fuel turn c).AtRest := by
  induction fuel generalizing turn c with
  | zero =>
      refine ⟨.refl, ?_⟩
      intro t
      cases step : c.step t with
      | none => exact step
      | some d => exact absurd (work_move ⟨t, step⟩) (by omega)
  | succ fuel ih =>
      rcases c.next?_cases turn with ⟨none, rest⟩ | ⟨t, d, some, moves⟩
      · simp only [runFor, none]
        exact ⟨.refl, rest⟩
      · simp only [runFor, some]
        have less := work_move moves
        obtain ⟨reaches, rest⟩ := ih (t + 1) d (by omega)
        exact ⟨.head moves reaches, rest⟩

/-- The run that takes the threads in turn is a run, and it ends at rest. -/
theorem run_atRest (c : Crew α) : c.Reaches c.run ∧ c.run.AtRest :=
  runFor_spec c.work 0 c (Nat.le_refl _)

/-- At rest no task can go on, and none has an event to send or a sender to drop. -/
theorem advance_of_atRest {c : Crew α} (rest : c.AtRest) {task : Task α} (mem : task ∈ c.tasks) :
    c.advance task = none ∧ (∀ event, task ≠ .sending event) ∧ task ≠ .stopped := by
  rcases List.mem_cons.mp mem with rfl | worker
  · have stuck : c.stepDriver = none := rest 0
    cases is : c.driver with
    | working pending task =>
        rw [Driver.task]
        cases task with
        | sending event => simp [stepDriver, is] at stuck
        | stopped => simp [stepDriver, is] at stuck
        | _ =>
            simp only [stepDriver, is, Option.map_eq_none_iff] at stuck
            exact ⟨stuck, by simp, by simp⟩
    | draining => cases queued : c.channel <;> simp [stepDriver, is, queued] at stuck
    | aborting next => simp [stepDriver, is] at stuck
    | receiving => exact ⟨rfl, by simp [Driver.task], by simp [Driver.task]⟩
    | finished => exact ⟨rfl, by simp [Driver.task], by simp [Driver.task]⟩
  · obtain ⟨w, at_w⟩ := List.mem_iff_getElem?.mp worker
    have stuck := rest (w + 1)
    simp only [step, at_w, Option.bind_some, Option.map_eq_none_iff] at stuck
    unfold advanceWorker at stuck
    split at stuck
    · cases stuck
    · cases stuck
    · rename_i sends stops
      exact ⟨by simpa using stuck, sends, stops⟩

/-- What keeps a crew from getting stuck: every object has a plan, the lock on the cursor is free
unless a thread holds it, and the crew comes to its end as it should. -/
structure Orderly (c : Crew α) : Prop extends c.Closing where
  planned : c.distributor.total ≤ c.plans.length
  lock : c.distributor.cursor = c.distributor.pos + c.total Task.publishes

theorem orderly_move {c d : Crew α} (orderly : c.Orderly) (moves : c.Moves d) : d.Orderly where
  toClosing := closing_move orderly.toClosing moves
  planned := by
    have follows := follows_move moves
    rw [follows.total, follows.plans]
    exact orderly.planned
  lock := lock_move orderly.lock moves

/-- The lock is free when no thread can move, since whoever holds it could. -/
theorem Orderly.free_of_atRest {c : Crew α} (orderly : c.Orderly) (rest : c.AtRest) :
    c.distributor.Free := by
  by_contra locked
  have held : (c.tasks.map Task.publishes).sum ≠ 0 := by
    intro none
    have lock := orderly.lock
    rw [total, none] at lock
    exact locked lock
  obtain ⟨n, inSum, nonzero⟩ := List.exists_mem_ne_zero_of_sum_ne_zero held
  obtain ⟨task, mem, rfl⟩ := List.mem_map.mp inSum
  have stuck := (advance_of_atRest rest mem).1
  cases task with
  | publishing i plan => cases stuck
  | _ => exact nonzero rfl

/-- At rest every thread is gone: it found nothing left to load, and has dropped its sender. -/
theorem Orderly.gone_of_atRest {c : Crew α} (orderly : c.Orderly) (rest : c.AtRest)
    {task : Task α} (mem : task ∈ c.tasks) : task = .gone := by
  obtain ⟨stuck, sends, stops⟩ := advance_of_atRest rest mem
  rcases Workbench.advance_none orderly.planned stuck with ⟨-, locked⟩ | ⟨event, is⟩ | is | is
  · exact absurd (orderly.free_of_atRest rest) locked
  · exact absurd is (sends event)
  · exact absurd is stops
  · exact is

/-- **No crew gets stuck**: at rest its driver has finished. -/
theorem Orderly.finished_of_atRest {c : Crew α} (orderly : c.Orderly) (rest : c.AtRest) :
    c.driver = .finished := by
  have gone : c.driver.task = .gone := orderly.gone_of_atRest rest List.mem_cons_self
  have stuck : c.stepDriver = none := rest 0
  cases is : c.driver with
  | working pending task =>
      rw [is, Driver.task] at gone
      exact absurd (gone ▸ is) (orderly.present pending)
  | draining =>
      rw [is, Driver.task] at gone
      cases gone
  | aborting next => simp [stepDriver, is] at stuck
  | receiving =>
      have unconnected : c.senders = 0 := by
        rw [orderly.connected]
        exact total_of_gone (fun task mem => orderly.gone_of_atRest rest mem) rfl
      cases queued : c.channel with
      | cons event more => simp [stepDriver, is, queued] at stuck
      | nil => simp [stepDriver, is, queued, unconnected] at stuck
  | finished => rfl

/-- **When the driver stops receiving**: it waits exactly as long as the channel is empty and some
worker has not dropped its sender. -/
theorem Closing.waits_iff {c : Crew α} (closing : c.Closing) (is : c.driver = .receiving) :
    c.step 0 = none ↔ c.channel = [] ∧ ∃ task ∈ c.workers, task ≠ .gone := by
  have connected : c.senders = (c.workers.map Task.senders).sum := by
    rw [closing.connected, total, tasks, is, List.map_cons, List.sum_cons]
    exact Nat.zero_add _
  have unconnected : c.senders = 0 ↔ ∀ task ∈ c.workers, task = .gone := by
    constructor
    · exact fun none task mem => closing.gone none (List.mem_cons_of_mem _ mem)
    · intro gone
      rw [connected]
      apply List.sum_eq_zero
      intro n counted
      obtain ⟨task, mem, rfl⟩ := List.mem_map.mp counted
      rw [gone task mem]
      rfl
  cases queued : c.channel with
  | cons event rest => simp [step, stepDriver, is, queued]
  | nil => simp [step, stepDriver, is, queued, unconnected]

end Crew

end Windchest
