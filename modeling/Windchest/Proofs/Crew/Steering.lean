/-
# Windchest.Proofs.Crew.Steering -- why a load stops early

A crew stops handing out objects for two reasons: an attempt was short of room, or
the reporter has declined an update.  `Crew.Steered` keeps track of both through all
interleavings, and of what the driver still has to do about them; a thread that has
stopped either saw the load aborted or found nothing left to load.

`Crew.Closing` says how a crew comes to its end.  The driver looks at nothing but the
channel; that the channel is closed only when every worker is gone follows from the count of
its senders.
-/
import Windchest.Proofs.Crew.Reports

namespace Windchest

set_option autoImplicit false

/-- The reporter has answered an update with no. -/
def Declined (report : Reporter) (trace : List Progress) : Prop :=
  ∃ told pos total title, told ++ [.update pos total title] <+: trace ∧
    report (told ++ [.update pos total title]) = false

theorem not_declined_nil (report : Reporter) : ¬ Declined report [] := by
  rintro ⟨told, pos, total, title, start, -⟩
  have := start.length_le
  simp at this

/-- A reporter that never cancels has never declined. -/
theorem not_declined_of_patient {report : Reporter} (patient : ∀ trace, report trace = true)
    (trace : List Progress) : ¬ Declined report trace := by
  rintro ⟨told, pos, total, title, -, no⟩
  rw [patient] at no
  cases no

/-- What was declined stays declined. -/
theorem Declined.mono {report : Reporter} {earlier trace : List Progress}
    (declined : Declined report earlier) (start : earlier <+: trace) : Declined report trace := by
  obtain ⟨told, pos, total, title, asked, no⟩ := declined
  exact ⟨told, pos, total, title, asked.trans start, no⟩

theorem declined_append_update (report : Reporter) (trace : List Progress) (pos total : Nat)
    (title : String) :
    Declined report (trace ++ [.update pos total title]) ↔
      Declined report trace ∨ report (trace ++ [.update pos total title]) = false := by
  constructor
  · rintro ⟨told, p, t, name, start, no⟩
    rcases List.prefix_concat_iff.mp (by simpa using start) with is | earlier
    · exact Or.inr (is ▸ no)
    · exact Or.inl ⟨told, p, t, name, earlier, no⟩
  · rintro (⟨told, p, t, name, start, no⟩ | no)
    · exact ⟨told, p, t, name, start.trans (List.prefix_append _ _), no⟩
    · exact ⟨trace, pos, total, title, List.prefix_rfl, no⟩

theorem declined_append_setup (report : Reporter) (trace : List Progress) (total : Nat)
    (phase : Phase) : Declined report (trace ++ [.setup total phase]) ↔ Declined report trace := by
  constructor
  · rintro ⟨told, p, t, name, start, no⟩
    rcases List.prefix_concat_iff.mp (by simpa using start) with is | earlier
    · exact absurd (List.append_inj_right' is rfl) (by simp)
    · exact ⟨told, p, t, name, earlier, no⟩
  · rintro ⟨told, p, t, name, start, no⟩
    exact ⟨told, p, t, name, start.trans (List.prefix_append _ _), no⟩

/-- The reporter agrees to these updates, one after the other, behind what it was told before. -/
def Reporter.Agrees (report : Reporter) (trace updates : List Progress) : Prop :=
  ∀ k < updates.length, report (trace ++ updates.take (k + 1)) = true

theorem Reporter.agrees_nil (report : Reporter) (trace : List Progress) : report.Agrees trace [] :=
  fun _ no => absurd no (Nat.not_lt_zero _)

theorem Reporter.agrees_cons {report : Reporter} {trace rest : List Progress} {update : Progress} :
    report.Agrees trace (update :: rest) ↔
      report (trace ++ [update]) = true ∧ report.Agrees (trace ++ [update]) rest := by
  have told (k : Nat) : trace ++ (update :: rest).take (k + 1) = (trace ++ [update]) ++ rest.take k := by
    rw [List.take_succ_cons, List.append_assoc, List.singleton_append]
  constructor
  · intro agrees
    refine ⟨agrees 0 (Nat.succ_pos _), fun k inside => ?_⟩
    rw [← told]
    exact agrees (k + 1) (Nat.succ_lt_succ inside)
  · rintro ⟨first, others⟩ k inside
    rw [told]
    cases k with
    | zero => rwa [List.take_zero, List.append_nil]
    | succ k => exact others k (Nat.lt_of_succ_lt_succ inside)

/-- An update about each of these titles, in order, behind those about the first `done` objects. -/
def Progress.updates (total : Nat) : Nat → List String → List Progress
  | _, [] => []
  | done, title :: rest => .update (done + 1) total title :: updates total (done + 1) rest

theorem Progress.length_updates (total done : Nat) (titles : List String) :
    (updates total done titles).length = titles.length := by
  induction titles generalizing done with
  | nil => rfl
  | cons title rest ih => rw [updates, List.length_cons, ih, List.length_cons]

theorem Progress.updates_append (total done : Nat) (titles more : List String) :
    updates total done (titles ++ more)
      = updates total done titles ++ updates total (done + titles.length) more := by
  induction titles generalizing done with
  | nil => rfl
  | cons title rest ih =>
      rw [List.cons_append, updates, updates, ih, List.cons_append, List.length_cons,
        Nat.add_right_comm done 1, Nat.add_assoc done]

variable {α : Type}

/-- Whether a task has found nothing left to load. -/
def Task.Stops : Task α → Prop
  | .stopped => True
  | .gone => True
  | _ => False

/-- The senders of the channel that a thread with this task has. -/
def Task.senders : Task α → Nat
  | .gone => 0
  | _ => 1

theorem Task.eq_gone_of_senders {task : Task α} (none : task.senders = 0) : task = .gone := by
  cases task with
  | gone => rfl
  | _ => cases none

namespace Workbench

variable [Loadable α] {b b' : Workbench α} {task task' : Task α}

/-- Attempts are only added. -/
theorem Advance.attempts_subset (advance : b.Advance task task' b') {attempt : Attempt LoadError}
    (mem : attempt ∈ b.attempts) : attempt ∈ b'.attempts := by
  cases advance with
  | install => exact List.mem_append_left _ mem
  | giveUp => exact List.mem_append_left _ mem
  | _ => exact mem

/-- A task only aborts the load for want of room. -/
theorem Advance.aborted (advance : b.Advance task task' b')
    (aborted : b'.distributor.aborted = true) :
    b.distributor.aborted = true ∨ ∃ failure, task = .recording (.failed failure true) := by
  cases advance with
  | recordShortage failure => exact Or.inr ⟨failure, rfl⟩
  | _ => exact Or.inl aborted

/-- Nobody takes an abort back. -/
theorem Advance.stays_aborted (advance : b.Advance task task' b')
    (aborted : b.distributor.aborted = true) : b'.distributor.aborted = true := by
  cases advance with
  | recordShortage => rfl
  | _ => exact aborted

/-- Whoever has an object that is short of room to record aborts the load. -/
theorem Advance.aborts {failure : LoadFailure}
    (advance : b.Advance (.recording (.failed failure true)) task' b') :
    b'.distributor.aborted = true := by
  cases advance
  rfl

/-- Whoever has found the arena full is about to abort the load. -/
theorem Advance.shortage (advance : b.Advance task task' b')
    (short : ∃ attempt ∈ b'.attempts, attempt.isShort = true) :
    (∃ attempt ∈ b.attempts, attempt.isShort = true) ∨
      ∃ failure, task' = .recording (.failed failure true) := by
  obtain ⟨attempt, mem, short⟩ := short
  cases advance with
  | install i make blocks =>
      rcases List.mem_append.mp mem with before | last
      · exact Or.inl ⟨attempt, before, short⟩
      · rw [List.mem_singleton.mp last] at short
        cases short
  | giveUp i object why =>
      rcases List.mem_append.mp mem with before | last
      · exact Or.inl ⟨attempt, before, short⟩
      · rw [List.mem_singleton.mp last] at short
        exact Or.inr ⟨_, by rw [show why.isOutOfMemory = true from short]⟩
  | _ => exact Or.inl ⟨attempt, mem, short⟩

/-- A task stops when nothing is handed out any more. -/
theorem Advance.stopped (advance : b.Advance task task' b') (stops : task'.Stops) :
    b'.distributor.aborted = true ∨ b'.distributor.total ≤ b'.distributor.cursor := by
  cases advance with
  | close aborted => exact Or.inl aborted
  | exhausted handedOut => exact Or.inr handedOut
  | _ => exact stops.elim

/-- Nobody drops a sender while there is something to do. -/
theorem Advance.senders (advance : b.Advance task task' b') : task'.senders = task.senders := by
  cases advance <;> rfl

/-- Once nothing is handed out any more, it stays like that. -/
theorem Advance.closed (advance : b.Advance task task' b')
    (bound : b.distributor.cursor ≤ b.distributor.total)
    (closed : b.distributor.aborted = true ∨ b.distributor.total ≤ b.distributor.cursor) :
    b'.distributor.aborted = true ∨ b'.distributor.total ≤ b'.distributor.cursor := by
  have ahead := (advance.cursor bound).1
  have total := advance.keeps.2.1
  rcases closed with aborted | handedOut
  · exact Or.inl (advance.stays_aborted aborted)
  · right
    omega

end Workbench

/-- Whether the driver is at work, aborting aside. -/
def Driver.Open : Driver α → Prop
  | .aborting _ => False
  | .working _ .gone => False
  | .finished => False
  | _ => True

namespace Crew

/-- How a crew comes to its end: the driver aborts only to go on, and keeps its sender while it
works; the senders are those of the threads that are not gone; and the driver has finished only
when the channel is closed. -/
structure Closing (c : Crew α) : Prop where
  aborting : ∀ next, c.driver = .aborting next → c.cancelled = true ∧ next.Open
  present : ∀ pending, c.driver ≠ .working pending .gone
  connected : c.senders = c.total Task.senders
  finished : c.driver = .finished → c.channel = [] ∧ c.senders = 0

/-- Without senders every thread is gone. -/
theorem Closing.gone {c : Crew α} (closing : c.Closing) (unconnected : c.senders = 0)
    {task : Task α} (mem : task ∈ c.tasks) : task = .gone := by
  apply Task.eq_gone_of_senders
  have counted := c.le_total mem Task.senders
  rw [← closing.connected, unconnected] at counted
  exact Nat.le_zero.mp counted

/-- A crew whose driver works is not at its end as long as every thread has its sender. -/
theorem closing_of_working {c : Crew α} {pending : Bool} {task : Task α}
    (driver : c.driver = .working pending task) (holding : ∀ task ∈ c.tasks, task.senders = 1)
    (connected : c.senders = c.workers.length + 1) : c.Closing where
  aborting next is := by cases driver.symm.trans is
  present other is := by
    obtain ⟨-, rfl⟩ := Driver.working.inj (driver.symm.trans is)
    have held : c.driver.task.senders = 1 := holding _ List.mem_cons_self
    rw [driver] at held
    cases held
  connected := by
    rw [connected, total, List.map_congr_left holding, List.map_const', List.sum_replicate, tasks,
      List.length_cons, smul_eq_mul, Nat.mul_one]
  finished is := by cases driver.symm.trans is

/-- Why a load stops early, and what the driver does about it. -/
structure Steered (c : Crew α) : Prop extends c.Closing where
  declined : c.cancelled = true ↔ Declined c.report c.trace
  aborted : c.distributor.aborted = true →
    c.cancelled = true ∨ ∃ attempt ∈ c.attempts, attempt.isShort = true
  stopped : ∀ task ∈ c.tasks, task.Stops →
    c.distributor.aborted = true ∨ c.distributor.total ≤ c.distributor.cursor

theorem declined_handle {c : Crew α} (declined : c.cancelled = true ↔ Declined c.report c.trace)
    (event : LoadEvent) (next : Driver α) :
    (c.handle event next).cancelled = true ↔
      Declined (c.handle event next).report (c.handle event next).trace := by
  rw [handle_report]
  rcases c.handle_cases event next with ⟨-, cancelled, ⟨trace, -⟩ | ⟨trace, goesOn⟩⟩ |
    ⟨-, cancelled, -, trace, no⟩
  · rw [cancelled, trace, declined]
  · rw [cancelled, trace, declined, declined_append_update, goesOn]
    simp
  · rw [cancelled, trace, declined_append_update, no]
    simp

theorem aborting_handle {c : Crew α} {event : LoadEvent} {next other : Driver α} (isOpen : next.Open)
    (aborting : (c.handle event next).driver = .aborting other) :
    (c.handle event next).cancelled = true ∧ other.Open := by
  rcases c.handle_cases event next with ⟨driver, -⟩ | ⟨driver, cancelled, -⟩ <;>
    rw [driver] at aborting
  · rw [aborting] at isOpen
    exact absurd isOpen id
  · cases aborting
    exact ⟨cancelled, isOpen⟩

theorem cancelled_handle {c : Crew α} (event : LoadEvent) (next : Driver α)
    (cancelled : c.cancelled = true) : (c.handle event next).cancelled = true := by
  rcases c.handle_cases event next with ⟨-, same, -⟩ | ⟨-, is, -⟩
  · rw [same, cancelled]
  · exact is

variable [Loadable α]

theorem declined_move {c d : Crew α} (declined : c.cancelled = true ↔ Declined c.report c.trace)
    (moves : c.Moves d) : d.cancelled = true ↔ Declined d.report d.trace := by
  obtain ⟨task, task', -, effect⟩ := moves_cases moves
  cases effect with
  | handle event pending is => exact declined_handle declined event _
  | receive event rest task queued is =>
      exact Crew.declined_handle (show { c with channel := rest }.cancelled = true ↔ _ from declined)
        event _
  | _ => exact declined

theorem aborting_move {c d : Crew α}
    (aborting : ∀ next, c.driver = .aborting next → c.cancelled = true ∧ next.Open)
    (moves : c.Moves d) : ∀ next, d.driver = .aborting next → d.cancelled = true ∧ next.Open := by
  obtain ⟨task, task', -, effect⟩ := moves_cases moves
  intro next is
  cases effect with
  | advance driver workers advanced mover =>
      rcases mover with same | ⟨pending, -, working⟩
      · exact aborting next (same ▸ is)
      · exact absurd (working.symm.trans is) (by simp)
  | send event workers => exact aborting next is
  | handle event pending _ =>
      exact aborting_handle (by cases pending <;> trivial) is
  | receive event rest task queued listening =>
      refine aborting_handle ?_ is
      rcases listening with driver | driver <;> rw [driver] <;> trivial
  | abort other task before =>
      have isOpen := (aborting other before).2
      have : other = .aborting next := is
      rw [this] at isOpen
      exact absurd isOpen id
  | leave workers => exact aborting next is
  | turn pending before => simp at is
  | again before drained => simp at is
  | finish before drained unconnected => simp at is

theorem present_move {c d : Crew α} (closing : c.Closing) (moves : c.Moves d) (pending : Bool) :
    d.driver ≠ .working pending .gone := by
  obtain ⟨task, task', -, effect⟩ := moves_cases moves
  intro is
  cases effect with
  | advance driver workers advanced mover =>
      rcases mover with same | ⟨_, -, working⟩
      · exact closing.present pending (same ▸ is)
      · -- No task goes on to be gone.
        obtain ⟨rfl, rfl⟩ := Driver.working.inj (working.symm.trans is)
        cases advanced
  | send event workers => exact closing.present pending is
  | handle event _ _ =>
      rcases c.handle_cases event _ with ⟨driver, -⟩ | ⟨driver, -⟩ <;> rw [driver] at is
      · split at is <;> cases is
      · cases is
  | receive event rest task queued listening =>
      rcases Crew.handle_cases { c with channel := rest } event c.driver with
        ⟨driver, -⟩ | ⟨driver, -⟩ <;> rw [driver] at is
      · rcases listening with other | other <;> rw [other] at is <;> cases is
      · cases is
  | abort other task before =>
      have isOpen := (closing.aborting other before).2
      have : other = .working pending .gone := is
      rw [this] at isOpen
      exact isOpen
  | leave workers => exact closing.present pending is
  | turn _ before => cases is
  | again before drained => cases is
  | finish before drained unconnected => cases is

theorem connected_move {c d : Crew α} (connected : c.senders = c.total Task.senders)
    (moves : c.Moves d) : d.senders = d.total Task.senders := by
  obtain ⟨task, task', swap, effect⟩ := moves_cases moves
  have sum : d.total Task.senders + task.senders = c.total Task.senders + task'.senders :=
    swap.sum _
  cases effect with
  | advance driver workers advanced mover =>
      rw [advanced.senders] at sum
      exact connected.trans (Nat.add_right_cancel sum).symm
  | leave workers => simp only [Task.senders] at *; omega
  | turn pending is => simp only [Task.senders] at *; omega
  | handle event pending is =>
      rw [handle_senders]
      exact connected.trans (Nat.add_right_cancel sum).symm
  | receive event rest task queued is =>
      rw [handle_senders]
      exact connected.trans (Nat.add_right_cancel sum).symm
  | _ => exact connected.trans (Nat.add_right_cancel sum).symm

/-- The reasons for an abort do not go away. -/
theorem reason_move {c d : Crew α} (moves : c.Moves d)
    (reason : c.cancelled = true ∨ ∃ attempt ∈ c.attempts, attempt.isShort = true) :
    d.cancelled = true ∨ ∃ attempt ∈ d.attempts, attempt.isShort = true := by
  obtain ⟨task, task', -, effect⟩ := moves_cases moves
  rcases reason with cancelled | ⟨attempt, mem, short⟩
  · left
    cases effect with
    | handle event pending is => exact cancelled_handle event _ cancelled
    | receive event rest task queued is =>
        exact Crew.cancelled_handle event _ (show { c with channel := rest }.cancelled = true from cancelled)
    | _ => exact cancelled
  · refine Or.inr ⟨attempt, ?_, short⟩
    cases effect with
    | advance driver workers advanced mover => exact advanced.attempts_subset mem
    | handle event pending is => simpa using mem
    | receive event rest task queued is => simpa using mem
    | _ => exact mem

theorem aborted_move {c d : Crew α} (informed : c.Informed)
    (aborting : ∀ next, c.driver = .aborting next → c.cancelled = true ∧ next.Open)
    (aborted : c.distributor.aborted = true →
      c.cancelled = true ∨ ∃ attempt ∈ c.attempts, attempt.isShort = true)
    (moves : c.Moves d) (is : d.distributor.aborted = true) :
    d.cancelled = true ∨ ∃ attempt ∈ d.attempts, attempt.isShort = true := by
  apply reason_move moves
  obtain ⟨task, task', swap, effect⟩ := moves_cases moves
  cases effect with
  | advance driver workers advanced mover =>
      rcases advanced.aborted is with before | ⟨failure, rfl⟩
      · exact aborted before
      · exact Or.inr (informed.isShort swap.old_mem rfl rfl)
  | handle event pending _ => exact aborted (by simpa using is)
  | receive event rest task queued _ => exact aborted (by simpa using is)
  | abort next task before => exact Or.inl (aborting next before).1
  | _ => exact aborted is

theorem stopped_move {c d : Crew α}
    (stopped : ∀ task ∈ c.tasks, task.Stops →
      c.distributor.aborted = true ∨ c.distributor.total ≤ c.distributor.cursor)
    (bound : c.distributor.cursor ≤ c.distributor.total) (moves : c.Moves d) (other : Task α)
    (mem : other ∈ d.tasks) (stops : other.Stops) :
    d.distributor.aborted = true ∨ d.distributor.total ≤ d.distributor.cursor := by
  obtain ⟨task, task', swap, bench⟩ := moves_bench moves
  rcases bench with advance | ⟨idle, bench⟩
  · rcases swap.mem_after mem with rfl | before
    · exact advance.stopped stops
    · exact advance.closed bound (stopped other before stops)
  · have before : c.distributor.aborted = true ∨ c.distributor.total ≤ c.distributor.cursor := by
      rcases swap.mem_after mem with rfl | before
      · cases idle with
        | same => exact stopped _ swap.old_mem stops
        | sent event => exact stops.elim
        | left => exact stopped _ swap.old_mem trivial
      · exact stopped other before stops
    rcases bench with bench | bench
    · rw [bench]
      exact before
    · rw [bench]
      exact Or.inl rfl

theorem finished_move {c d : Crew α} (closing : c.Closing) (moves : c.Moves d)
    (is : d.driver = .finished) : d.channel = [] ∧ d.senders = 0 := by
  obtain ⟨task, task', swap, effect⟩ := moves_cases moves
  -- Once the driver has finished, no thread has anything to go on with.
  have gone (before : c.driver = .finished) : task = .gone :=
    closing.gone (closing.finished before).2 swap.old_mem
  cases effect with
  | advance driver workers advanced mover =>
      rcases mover with same | ⟨pending, -, working⟩
      · obtain rfl := gone (same ▸ is)
        cases advanced
      · exact absurd (working.symm.trans is) (by simp)
  | send event workers => cases gone is
  | handle event pending _ =>
      rcases c.handle_cases event _ with ⟨driver, -⟩ | ⟨driver, -⟩ <;> rw [driver] at is
      · cases pending <;> cases is
      · cases is
  | receive event rest task queued listening =>
      rcases Crew.handle_cases { c with channel := rest } event c.driver with
        ⟨driver, -⟩ | ⟨driver, -⟩ <;> rw [driver] at is
      · rcases listening with other | other <;> rw [other] at is <;> cases is
      · cases is
  | abort other task before =>
      have isOpen := (closing.aborting other before).2
      have : other = .finished := is
      rw [this] at isOpen
      exact absurd isOpen id
  | leave workers => cases gone is
  | turn pending before => simp at is
  | again before drained => simp at is
  | finish before drained unconnected => exact ⟨drained, unconnected⟩

theorem closing_move {c d : Crew α} (closing : c.Closing) (moves : c.Moves d) : d.Closing where
  aborting := aborting_move closing.aborting moves
  present := present_move closing moves
  connected := connected_move closing.connected moves
  finished := finished_move closing moves

theorem steered_move {c d : Crew α} (informed : c.Informed) (steered : c.Steered)
    (bound : c.distributor.cursor ≤ c.distributor.total) (moves : c.Moves d) : d.Steered where
  toClosing := closing_move steered.toClosing moves
  declined := declined_move steered.declined moves
  aborted := aborted_move informed steered.aborting steered.aborted moves
  stopped := stopped_move steered.stopped bound moves

/-- A reason to stop is not ignored: the load is aborted, or a thread is about to abort it. -/
structure Heeded (c : Crew α) : Prop where
  cancelled : c.cancelled = true →
    c.distributor.aborted = true ∨ ∃ next, c.driver = .aborting next
  shortage : (∃ attempt ∈ c.attempts, attempt.isShort = true) →
    c.distributor.aborted = true ∨ ∃ failure, .recording (.failed failure true) ∈ c.tasks

omit [Loadable α] in
theorem heeded_handle {c : Crew α} (event : LoadEvent) (next : Driver α)
    (heeded : c.cancelled = true → c.distributor.aborted = true)
    (cancelled : (c.handle event next).cancelled = true) :
    (c.handle event next).distributor.aborted = true ∨
      ∃ other, (c.handle event next).driver = .aborting other := by
  rcases c.handle_cases event next with ⟨-, same, -⟩ | ⟨driver, -⟩
  · rw [handle_toWorkbench]
    exact Or.inl (heeded (same ▸ cancelled))
  · exact Or.inr ⟨next, driver⟩

theorem cancelled_move {c d : Crew α}
    (heeded : c.cancelled = true → c.distributor.aborted = true ∨ ∃ next, c.driver = .aborting next)
    (moves : c.Moves d) (cancelled : d.cancelled = true) :
    d.distributor.aborted = true ∨ ∃ next, d.driver = .aborting next := by
  -- Whoever is not aborting now has aborted already.
  have aborted {driver : Driver α} (is : c.driver = driver) (other : ∀ next, driver ≠ .aborting next)
      (cancelled : c.cancelled = true) : c.distributor.aborted = true := by
    rcases heeded cancelled with aborted | ⟨next, aborting⟩
    · exact aborted
    · exact absurd (is.symm.trans aborting) (other next)
  obtain ⟨task, task', -, effect⟩ := moves_cases moves
  cases effect with
  | advance driver workers advanced mover =>
      rcases mover with same | ⟨pending, is, -⟩
      · rcases heeded cancelled with before | aborting
        · exact Or.inl (advanced.stays_aborted before)
        · exact Or.inr (same ▸ aborting)
      · exact Or.inl (advanced.stays_aborted (aborted is (by simp) cancelled))
  | send event workers => exact heeded cancelled
  | handle event pending is => exact heeded_handle event _ (aborted is (by simp)) cancelled
  | receive event rest task queued is =>
      refine Crew.heeded_handle event _ ?_ cancelled
      rcases is with is | is
      · exact aborted is (by simp)
      · exact aborted is (by simp)
  | abort next task is => exact Or.inl rfl
  | leave workers => exact heeded cancelled
  | turn pending is => exact Or.inl (aborted is (by simp) cancelled)
  | again is drained => exact Or.inl (aborted is (by simp) cancelled)
  | finish is drained unconnected => exact Or.inl (aborted is (by simp) cancelled)

theorem shortage_move {c d : Crew α}
    (heeded : (∃ attempt ∈ c.attempts, attempt.isShort = true) →
      c.distributor.aborted = true ∨ ∃ failure, .recording (.failed failure true) ∈ c.tasks)
    (moves : c.Moves d) (short : ∃ attempt ∈ d.attempts, attempt.isShort = true) :
    d.distributor.aborted = true ∨ ∃ failure, .recording (.failed failure true) ∈ d.tasks := by
  obtain ⟨task, task', swap, bench⟩ := moves_bench moves
  rcases bench with advance | ⟨idle, bench⟩
  · rcases advance.shortage short with before | ⟨failure, rfl⟩
    · rcases heeded before with aborted | ⟨failure, mem⟩
      · exact Or.inl (advance.stays_aborted aborted)
      · rcases swap.mem_before mem with rfl | still
        · exact Or.inl advance.aborts
        · exact Or.inr ⟨failure, still⟩
    · exact Or.inr ⟨failure, swap.new_mem⟩
  · have before : ∃ attempt ∈ c.attempts, attempt.isShort = true := by
      rcases bench with bench | bench <;> rw [bench] at short <;> exact short
    rcases bench with bench | bench
    · rw [bench]
      rcases heeded before with aborted | ⟨failure, mem⟩
      · exact Or.inl aborted
      · rcases swap.mem_before mem with rfl | still
        · cases idle
          exact Or.inr ⟨failure, swap.new_mem⟩
        · exact Or.inr ⟨failure, still⟩
    · rw [bench]
      exact Or.inl rfl

theorem heeded_move {c d : Crew α} (heeded : c.Heeded) (moves : c.Moves d) : d.Heeded where
  cancelled := cancelled_move heeded.cancelled moves
  shortage := shortage_move heeded.shortage moves

end Crew

end Windchest
