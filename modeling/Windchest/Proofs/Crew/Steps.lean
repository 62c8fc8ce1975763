/-
# Windchest.Proofs.Crew.Steps -- what one step of a crew can do

A run of a crew is any sequence of steps of its threads (`Crew.Reaches`), and it is
over when no thread can move (`Crew.AtRest`).

Every thread has a task at every moment, the driver included (`Driver.task`): while
it drains the channel it is about to check for another object, and once it has dropped
its sender its task is over, though it still receives.  Seen like this, a step replaces the
task of one thread, and there are nine kinds of effects (`Crew.Effect`).  What a task does to the
workbench is listed once in `Workbench.Advance`.  Invariants of crews are proved by
cases on these two lists and never by unfolding a step.

Sums over the tasks of all threads change by the two tasks of the thread that moved
(`Swap.sum`), which turns bookkeeping over any number of threads into arithmetic.
-/
import Windchest.Load.Crew
import Windchest.Proofs.Arena.Growth

namespace Windchest

set_option autoImplicit false

/-! ## One element of a list replaced by another -/

/-- `after` is `before` with `old` replaced by `new` at one position. -/
def Swap {β : Type} (before after : List β) (old new : β) : Prop :=
  ∃ t, before[t]? = some old ∧ after = before.set t new

namespace Swap

variable {β : Type} {before after : List β} {old new : β}

/-- A sum over either list is the sum over what they share and the weight of the one element. -/
theorem rest {M : Type} [AddCommMonoid M] (swap : Swap before after old new) (f : β → M) :
    ∃ rest, (before.map f).sum = rest + f old ∧ (after.map f).sum = rest + f new := by
  obtain ⟨t, at_t, rfl⟩ := swap
  obtain ⟨bound, rfl⟩ := List.getElem?_eq_some_iff.mp at_t
  refine ⟨((before.take t).map f).sum + ((before.drop (t + 1)).map f).sum, ?_, ?_⟩
  · nth_rewrite 1 [← List.take_append_drop t before]
    rw [List.drop_eq_getElem_cons bound, List.map_append, List.sum_append, List.map_cons,
      List.sum_cons, add_comm (f before[t]), add_assoc]
  · rw [List.set_eq_take_append_cons_drop, if_pos bound, List.map_append, List.sum_append,
      List.map_cons, List.sum_cons, add_comm (f new), add_assoc]

theorem sum (swap : Swap before after old new) (f : β → Nat) :
    (after.map f).sum + f old = (before.map f).sum + f new := by
  obtain ⟨rest, first, second⟩ := swap.rest f
  omega

theorem old_mem (swap : Swap before after old new) : old ∈ before := by
  obtain ⟨t, at_t, -⟩ := swap
  exact List.mem_of_getElem? at_t

theorem mem_after (swap : Swap before after old new) {x : β} (mem : x ∈ after) :
    x = new ∨ x ∈ before := by
  obtain ⟨t, -, rfl⟩ := swap
  exact (List.mem_or_eq_of_mem_set mem).symm

theorem new_mem (swap : Swap before after old new) : new ∈ after := by
  obtain ⟨t, at_t, rfl⟩ := swap
  exact List.mem_set (List.getElem?_eq_some_iff.mp at_t).1 new

/-- What was there before is still there, unless it is what was replaced. -/
theorem mem_before (swap : Swap before after old new) {x : β} (mem : x ∈ before) :
    x = old ∨ x ∈ after := by
  obtain ⟨t, at_t, rfl⟩ := swap
  obtain ⟨k, at_k⟩ := List.mem_iff_getElem?.mp mem
  by_cases here : t = k
  · subst here
    exact Or.inl (Option.some.inj (at_k.symm.trans at_t))
  · exact Or.inr (List.mem_of_getElem? ((List.getElem?_set_ne here).trans at_k))

theorem length (swap : Swap before after old new) : after.length = before.length := by
  obtain ⟨t, -, rfl⟩ := swap
  exact List.length_set

theorem same {t : Nat} (at_t : before[t]? = some old) : Swap before before old old := by
  refine ⟨t, at_t, ?_⟩
  obtain ⟨bound, rfl⟩ := List.getElem?_eq_some_iff.mp at_t
  exact (List.set_getElem_self bound).symm

end Swap

/-! ## What a task does to the workbench -/

variable {α : Type}

namespace Workbench

variable [Loadable α]

/-- A task, the task after one step, and the workbench after it. -/
inductive Advance (b : Workbench α) : Task α → Task α → Workbench α → Prop where
  | close (aborted : b.distributor.aborted = true) : Advance b .checking .stopped b
  | goOn (aborted : b.distributor.aborted = false) : Advance b .checking .claiming b
  | exhausted (handedOut : b.distributor.total ≤ b.distributor.cursor) :
      Advance b .claiming .stopped b
  | claim (plan : Plan α LoadError) (free : b.distributor.Free)
      (left : b.distributor.cursor < b.distributor.total)
      (planned : b.plans[b.distributor.cursor]? = some plan) :
      Advance b .claiming (.publishing b.distributor.cursor plan)
        { b with distributor := { b.distributor with cursor := b.distributor.cursor + 1 } }
  | publish (i : Nat) (plan : Plan α LoadError) :
      Advance b (.publishing i plan) (.reserving i plan [] plan.demands)
        { b with distributor := b.distributor.publish }
  | accept (i : Nat) (plan : Plan α LoadError) (held : List Buffer) (install : List BlockId → α)
      (verdict : plan.verdict = .ok install) :
      Advance b (.reserving i plan held []) (.committing i install [] held) b
  | reject (i : Nat) (plan : Plan α LoadError) (held : List Buffer) (why : Failure LoadError)
      (verdict : plan.verdict = .error why) :
      Advance b (.reserving i plan held []) (.dropping i plan.started why.toSetback held) b
  | reserve (i : Nat) (plan : Plan α LoadError) (held : List Buffer) (d : Demand)
      (rest : List Demand) (room : b.arena.used + d.bytes ≤ b.arena.capacity) (fits : d.Fits) :
      Advance b (.reserving i plan held (d :: rest))
        (.reserving i plan (held ++ [d.buffer]) rest)
        { b with arena := b.arena.spend d.bytes }
  | refuse (i : Nat) (plan : Plan α LoadError) (held : List Buffer) (d : Demand)
      (rest : List Demand) (why : OutOfMemory) (full : b.arena.capacity < b.arena.used + d.bytes) :
      Advance b (.reserving i plan held (d :: rest))
        (.dropping i plan.started (.outOfMemory why) held) b
  | overflow (i : Nat) (plan : Plan α LoadError) (held : List Buffer) (d : Demand)
      (rest : List Demand) (room : b.arena.used + d.bytes ≤ b.arena.capacity) (tooLarge : ¬ d.Fits) :
      Advance b (.reserving i plan held (d :: rest))
        (.dropping i plan.started (.fault .capacity) held)
        { b with arena := b.arena.spend d.bytes }
  | install (i : Nat) (make : List BlockId → α) (blocks : List BlockId) :
      Advance b (.committing i make blocks [])
        (.recording (.loaded (Loadable.title (make blocks))))
        { b with
          objects := b.objects.set i (make blocks)
          attempts := b.attempts ++ [⟨i, .ok ()⟩] }
  | commit (i : Nat) (make : List BlockId → α) (blocks : List BlockId) (buffer : Buffer)
      (rest : List Buffer) :
      Advance b (.committing i make blocks (buffer :: rest))
        (.committing i make (blocks ++ [(b.arena.commit buffer).1]) rest)
        { b with arena := (b.arena.commit buffer).2 }
  | giveUp (i : Nat) (object : α) (why : Setback LoadError) :
      Advance b (.dropping i object why [])
        (.recording (.failed ⟨i, Loadable.title object, why.message⟩ why.isOutOfMemory))
        { b with
          objects := b.objects.set i (Loadable.fail why.message object)
          attempts := b.attempts ++ [⟨i, .error why⟩] }
  | giveBack (i : Nat) (object : α) (why : Setback LoadError) (buffer : Buffer)
      (rest : List Buffer) :
      Advance b (.dropping i object why (buffer :: rest)) (.dropping i object why rest)
        { b with arena := b.arena.drop buffer }
  | recordLoaded (title : String) :
      Advance b (.recording (.loaded title)) (.sending (.loaded title))
        { b with distributor := b.distributor.recordLoaded }
  | recordShortage (failure : LoadFailure) :
      Advance b (.recording (.failed failure true)) (.sending (.failed failure true))
        { b with distributor := b.distributor.abort }
  | recordFailure (failure : LoadFailure) :
      Advance b (.recording (.failed failure false)) (.sending (.failed failure false)) b

theorem advance_cases {b b' : Workbench α} {task task' : Task α}
    (step : b.advance task = some (task', b')) : b.Advance task task' b' := by
  cases task with
  | checking =>
      simp only [advance, Option.some.injEq, Prod.mk.injEq] at step
      obtain ⟨rfl, rfl⟩ := step
      cases aborted : b.distributor.aborted
      · exact .goOn aborted
      · exact .close aborted
  | claiming =>
      simp only [advance] at step
      split at step
      · rename_i free
        by_cases left : b.distributor.cursor < b.distributor.total
        · simp only [Distributor.claim, left, if_true, Option.map_eq_some_iff, Prod.mk.injEq] at step
          obtain ⟨plan, planned, rfl, rfl⟩ := step
          exact .claim plan free left planned
        · simp only [Distributor.claim, left, if_false, Option.some.injEq, Prod.mk.injEq] at step
          obtain ⟨rfl, rfl⟩ := step
          exact .exhausted (Nat.le_of_not_lt left)
      · simp at step
  | publishing i plan =>
      simp only [advance, Option.some.injEq, Prod.mk.injEq] at step
      obtain ⟨rfl, rfl⟩ := step
      exact .publish i plan
  | reserving i plan held demands =>
      cases demands with
      | nil =>
          cases verdict : plan.verdict with
          | ok install =>
              simp only [advance, verdict, Option.some.injEq, Prod.mk.injEq] at step
              obtain ⟨rfl, rfl⟩ := step
              exact .accept i plan held install verdict
          | error why =>
              simp only [advance, verdict, Option.some.injEq, Prod.mk.injEq] at step
              obtain ⟨rfl, rfl⟩ := step
              exact .reject i plan held why verdict
      | cons d rest =>
          rcases Arena.place_cases b.arena d with
            ⟨full, placed⟩ | ⟨room, fits, placed⟩ | ⟨room, large, placed⟩ <;>
            simp only [advance, placed, Option.some.injEq, Prod.mk.injEq] at step <;>
            obtain ⟨rfl, rfl⟩ := step
          · exact .refuse i plan held d rest _ full
          · exact .reserve i plan held d rest room fits
          · exact .overflow i plan held d rest room large
  | committing i install blocks held =>
      cases held <;>
        simp only [advance, Option.some.injEq, Prod.mk.injEq] at step <;>
        obtain ⟨rfl, rfl⟩ := step
      · exact .install i install blocks
      · exact .commit i install blocks _ _
  | dropping i object why held =>
      cases held <;>
        simp only [advance, Option.some.injEq, Prod.mk.injEq] at step <;>
        obtain ⟨rfl, rfl⟩ := step
      · exact .giveUp i object why
      · exact .giveBack i object why _ _
  | recording event =>
      rcases event with title | ⟨failure, outOfMemory⟩
      · simp only [advance, Option.some.injEq, Prod.mk.injEq] at step
        obtain ⟨rfl, rfl⟩ := step
        exact .recordLoaded title
      · cases outOfMemory <;>
          simp only [advance, Option.some.injEq, Prod.mk.injEq] at step <;>
          obtain ⟨rfl, rfl⟩ := step
        · exact .recordFailure failure
        · exact .recordShortage failure
  | sending event => simp [advance] at step
  | stopped => simp [advance] at step
  | gone => simp [advance] at step

end Workbench

/-- The workbench when the load was aborted. -/
def Workbench.stop (b : Workbench α) : Workbench α := { b with distributor := b.distributor.abort }

@[simp] theorem Workbench.stop_plans (b : Workbench α) : b.stop.plans = b.plans := rfl
@[simp] theorem Workbench.stop_objects (b : Workbench α) : b.stop.objects = b.objects := rfl
@[simp] theorem Workbench.stop_arena (b : Workbench α) : b.stop.arena = b.arena := rfl
@[simp] theorem Workbench.stop_attempts (b : Workbench α) : b.stop.attempts = b.attempts := rfl
@[simp] theorem Workbench.stop_cursor (b : Workbench α) :
    b.stop.distributor.cursor = b.distributor.cursor := rfl
@[simp] theorem Workbench.stop_pos (b : Workbench α) :
    b.stop.distributor.pos = b.distributor.pos := rfl
@[simp] theorem Workbench.stop_total (b : Workbench α) :
    b.stop.distributor.total = b.distributor.total := rfl
@[simp] theorem Workbench.stop_loaded (b : Workbench α) :
    b.stop.distributor.loaded = b.distributor.loaded := rfl

/-! ## What a thread does to the crew -/

/-- The task of the driver, seen as one of the threads. -/
def Driver.task : Driver α → Task α
  | .working _ task => task
  | .draining => .checking
  | .aborting next => next.task
  | .receiving => .gone
  | .finished => .gone

namespace Crew

/-- The tasks of all threads, that of the driver first. -/
def tasks (c : Crew α) : List (Task α) := c.driver.task :: c.workers

/-- A sum over the tasks of all threads. -/
def total (c : Crew α) (f : Task α → Nat) : Nat := (c.tasks.map f).sum

/-- The driver's task is the first one. -/
theorem swap_driver (c : Crew α) (task : Task α) :
    Swap c.tasks (task :: c.workers) c.driver.task task := ⟨0, rfl, rfl⟩

theorem swap_worker (c : Crew α) {w : Nat} {task task' : Task α}
    (at_w : c.workers[w]? = some task) :
    Swap c.tasks (c.driver.task :: c.workers.set w task') task task' := by
  refine ⟨w + 1, ?_, ?_⟩
  · simpa [tasks] using at_w
  · simp [tasks]

theorem swap_driver_of_eq {c : Crew α} {driver : Driver α} (is : c.driver = driver)
    (task : Task α) : Swap c.tasks (task :: c.workers) driver.task task :=
  is ▸ c.swap_driver task

/-- A task counts towards the sum over all tasks. -/
theorem le_total {c : Crew α} {task : Task α} (mem : task ∈ c.tasks) (f : Task α → Nat) :
    f task ≤ c.total f :=
  List.le_sum_of_mem (List.mem_map_of_mem mem)

/-- When all threads are gone, nothing is left of a sum over their tasks. -/
theorem total_of_gone {c : Crew α} (gone : ∀ task ∈ c.tasks, task = .gone)
    {f : Task α → Nat} (none : f .gone = 0) : c.total f = 0 := by
  apply List.sum_eq_zero
  intro n mem
  obtain ⟨task, inTasks, rfl⟩ := List.mem_map.mp mem
  rw [gone task inTasks, none]

/-! Handling an event -/

@[simp] theorem handle_toWorkbench (c : Crew α) (event : LoadEvent) (next : Driver α) :
    (c.handle event next).toWorkbench = c.toWorkbench := by
  simp only [handle]
  split
  · rfl
  · split <;> rfl

@[simp] theorem handle_report (c : Crew α) (event : LoadEvent) (next : Driver α) :
    (c.handle event next).report = c.report := by
  simp only [handle]
  split
  · rfl
  · split <;> rfl

@[simp] theorem handle_workers (c : Crew α) (event : LoadEvent) (next : Driver α) :
    (c.handle event next).workers = c.workers := by
  simp only [handle]
  split
  · rfl
  · split <;> rfl

@[simp] theorem handle_channel (c : Crew α) (event : LoadEvent) (next : Driver α) :
    (c.handle event next).channel = c.channel := by
  simp only [handle]
  split
  · rfl
  · split <;> rfl

@[simp] theorem handle_senders (c : Crew α) (event : LoadEvent) (next : Driver α) :
    (c.handle event next).senders = c.senders := by
  simp only [handle]
  split
  · rfl
  · split <;> rfl

@[simp] theorem handle_failures (c : Crew α) (event : LoadEvent) (next : Driver α) :
    (c.handle event next).failures = c.failures ++ event.failure?.toList := by
  simp only [handle]
  split
  · rfl
  · split <;> rfl

@[simp] theorem handle_outOfMemory (c : Crew α) (event : LoadEvent) (next : Driver α) :
    (c.handle event next).outOfMemory = (c.outOfMemory || event.isOutOfMemory) := by
  simp only [handle]
  split
  · rfl
  · split <;> rfl

/-- Handling an event either leaves the load as it is, or the reporter declines to go on. -/
theorem handle_cases (c : Crew α) (event : LoadEvent) (next : Driver α) :
    let told := c.trace ++ [.update c.distributor.pos c.distributor.total event.title]
    let d := c.handle event next
    (d.driver = next ∧ d.cancelled = c.cancelled ∧
      (d.trace = c.trace ∧ c.cancelled = true ∨ d.trace = told ∧ c.report told = true)) ∨
    (d.driver = .aborting next ∧ d.cancelled = true ∧ c.cancelled = false ∧
      d.trace = told ∧ c.report told = false) := by
  intro told d
  by_cases cancelled : c.cancelled = true
  · refine Or.inl ?_
    simp [d, handle, cancelled]
  · by_cases goesOn : c.report told = true
    · refine Or.inl ?_
      simp [d, handle, cancelled, told, goesOn]
    · refine Or.inr ?_
      have declined : c.report told = false := by simpa using goesOn
      simp [d, handle, cancelled, told, show c.report (c.trace ++ _) = false from declined]

/-- The tasks after a step of the driver that only handled an event. -/
theorem handle_tasks (c : Crew α) (event : LoadEvent) (next : Driver α) :
    (c.handle event next).tasks = next.task :: c.workers := by
  rw [tasks, handle_workers]
  rcases c.handle_cases event next with ⟨driver, -⟩ | ⟨driver, -⟩ <;> rw [driver]
  rfl

variable [Loadable α]

/-- One step of some thread. -/
def Moves (c d : Crew α) : Prop := ∃ t, c.step t = some d

/-- Any number of steps of the threads, in any order. -/
def Reaches : Crew α → Crew α → Prop := Relation.ReflTransGen Moves

/-- No thread can move. -/
def AtRest (c : Crew α) : Prop := ∀ t, c.step t = none

/-- The crew after a step, when the thread that moved had the first task and has the second one
now. -/
inductive Effect (c : Crew α) : Crew α → Task α → Task α → Prop where
  /-- A thread goes on with its task. -/
  | advance {task task' : Task α} {bench : Workbench α} (driver : Driver α)
      (workers : List (Task α)) (advanced : c.toWorkbench.Advance task task' bench)
      (mover : driver = c.driver ∨
        ∃ pending, c.driver = .working pending task ∧ driver = .working pending task') :
      Effect c { c with toWorkbench := bench, driver, workers } task task'
  /-- A worker sends an event. -/
  | send (event : LoadEvent) (workers : List (Task α)) :
      Effect c { c with channel := c.channel ++ [event], workers } (.sending event) .checking
  /-- The driver handles an event of its own. -/
  | handle (event : LoadEvent) (pending : Bool) (is : c.driver = .working pending (.sending event)) :
      Effect c (c.handle event (if pending then .working false .checking else .draining))
        (.sending event) .checking
  /-- The driver handles the first event in the channel. -/
  | receive (event : LoadEvent) (rest : List LoadEvent) (task : Task α)
      (queued : c.channel = event :: rest) (is : c.driver = .draining ∨ c.driver = .receiving) :
      Effect c ({ c with channel := rest }.handle event c.driver) task task
  /-- The driver aborts the load. -/
  | abort (next : Driver α) (task : Task α) (is : c.driver = .aborting next) :
      Effect c { c with distributor := c.distributor.abort, driver := next } task task
  /-- A worker has no object left to load. -/
  | leave (workers : List (Task α)) :
      Effect c { c with senders := c.senders - 1, workers } .stopped .gone
  /-- The driver has no object left to load. -/
  | turn (pending : Bool) (is : c.driver = .working pending .stopped) :
      Effect c { c with senders := c.senders - 1, driver := .receiving } .stopped .gone
  /-- The driver looks for another object. -/
  | again (is : c.driver = .draining) (drained : c.channel = []) :
      Effect c { c with driver := .working false .checking } .checking .checking
  /-- The driver is told that the channel is closed. -/
  | finish (is : c.driver = .receiving) (drained : c.channel = []) (unconnected : c.senders = 0) :
      Effect c { c with driver := .finished } .gone .gone

theorem stepDriver_cases {c d : Crew α} (step : c.stepDriver = some d) :
    ∃ task task', Swap c.tasks d.tasks task task' ∧ c.Effect d task task' := by
  unfold stepDriver at step
  split at step
  · rename_i pending event is
    obtain rfl := Option.some.inj step
    refine ⟨.sending event, .checking, ?_, .handle event pending is⟩
    rw [handle_tasks]
    cases pending <;> exact swap_driver_of_eq is .checking
  · rename_i is
    obtain rfl := Option.some.inj step
    exact ⟨.stopped, .gone, swap_driver_of_eq is .gone, .turn _ is⟩
  · rename_i pending task _ _ is
    simp only [Option.map_eq_some_iff] at step
    obtain ⟨⟨task', bench⟩, advanced, rfl⟩ := step
    exact ⟨task, task', swap_driver_of_eq is task',
      .advance _ _ (Workbench.advance_cases advanced) (Or.inr ⟨pending, is, rfl⟩)⟩
  · rename_i is
    split at step
    · rename_i event rest queued
      obtain rfl := Option.some.inj step
      refine ⟨.checking, .checking, ?_, ?_⟩
      · rw [handle_tasks]
        exact swap_driver_of_eq is .checking
      · rw [← is]
        exact .receive event rest _ queued (Or.inl is)
    · rename_i drained
      obtain rfl := Option.some.inj step
      exact ⟨.checking, .checking, swap_driver_of_eq is .checking, .again is drained⟩
  · rename_i next is
    obtain rfl := Option.some.inj step
    exact ⟨next.task, next.task, swap_driver_of_eq is next.task, .abort _ _ is⟩
  · rename_i is
    split at step
    · rename_i event rest queued
      obtain rfl := Option.some.inj step
      refine ⟨.gone, .gone, ?_, ?_⟩
      · rw [handle_tasks]
        exact swap_driver_of_eq is .gone
      · rw [← is]
        exact .receive event rest _ queued (Or.inr is)
    · rename_i drained
      split at step
      · rename_i unconnected
        obtain rfl := Option.some.inj step
        exact ⟨.gone, .gone, swap_driver_of_eq is .gone, .finish is drained unconnected⟩
      · simp at step
  · simp at step

/-- **Everything a step can do**: one thread replaces its task, with one of nine effects. -/
theorem moves_cases {c d : Crew α} (moves : c.Moves d) :
    ∃ task task', Swap c.tasks d.tasks task task' ∧ c.Effect d task task' := by
  obtain ⟨t, step⟩ := moves
  cases t with
  | zero => exact stepDriver_cases step
  | succ w =>
      simp only [Crew.step, Option.bind_eq_some_iff, Option.map_eq_some_iff] at step
      obtain ⟨task, at_w, ⟨task', after⟩, advanced, rfl⟩ := step
      unfold advanceWorker at advanced
      split at advanced
      · rename_i event
        simp only [Option.some.injEq, Prod.mk.injEq] at advanced
        obtain ⟨rfl, rfl⟩ := advanced
        exact ⟨_, _, c.swap_worker at_w, .send event _⟩
      · simp only [Option.some.injEq, Prod.mk.injEq] at advanced
        obtain ⟨rfl, rfl⟩ := advanced
        exact ⟨_, _, c.swap_worker at_w, .leave _⟩
      · simp only [Option.map_eq_some_iff, Prod.mk.injEq] at advanced
        obtain ⟨⟨next, bench⟩, advanced, rfl, rfl⟩ := advanced
        exact ⟨_, _, c.swap_worker at_w,
          .advance c.driver _ (Workbench.advance_cases advanced) (Or.inl rfl)⟩

/-- A task after a step that loads nothing: it stays, or an event was sent, or a sender dropped. -/
inductive Idle : Task α → Task α → Prop where
  | same (task : Task α) : Idle task task
  | sent (event : LoadEvent) : Idle (.sending event) .checking
  | left : Idle .stopped .gone

/-- What a step means to the workbench: a task goes on, or a task that loads nothing changes and
the load is aborted at most. -/
theorem moves_bench {c d : Crew α} (moves : c.Moves d) :
    ∃ task task', Swap c.tasks d.tasks task task' ∧
      (c.toWorkbench.Advance task task' d.toWorkbench ∨
        Idle task task' ∧
          (d.toWorkbench = c.toWorkbench ∨ d.toWorkbench = c.toWorkbench.stop)) := by
  obtain ⟨task, task', swap, effect⟩ := moves_cases moves
  refine ⟨task, task', swap, ?_⟩
  cases effect with
  | advance driver workers advanced mover => exact Or.inl advanced
  | send event workers => exact Or.inr ⟨.sent event, Or.inl rfl⟩
  | handle event pending is => exact Or.inr ⟨.sent event, Or.inl (handle_toWorkbench _ _ _)⟩
  | receive event rest task queued is =>
      exact Or.inr ⟨.same task, Or.inl (handle_toWorkbench _ _ _)⟩
  | abort next task is => exact Or.inr ⟨.same task, Or.inr rfl⟩
  | leave workers => exact Or.inr ⟨.left, Or.inl rfl⟩
  | turn pending is => exact Or.inr ⟨.left, Or.inl rfl⟩
  | again is drained => exact Or.inr ⟨.same _, Or.inl rfl⟩
  | finish is drained unconnected => exact Or.inr ⟨.same _, Or.inl rfl⟩

/-- What one step keeps, a run keeps. -/
theorem reaches_induction {P : Crew α → Prop} {c d : Crew α} (reaches : c.Reaches d) (start : P c)
    (step : ∀ c d, P c → c.Moves d → P d) : P d := by
  induction reaches with
  | refl => exact start
  | tail _ moves ih => exact step _ _ ih moves

end Crew

end Windchest
