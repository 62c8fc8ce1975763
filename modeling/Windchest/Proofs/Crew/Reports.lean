/-
# Windchest.Proofs.Crew.Reports -- what the driver learns of the attempts

A failed attempt becomes one event, which goes through a task and the channel to the
driver.  On the way it is neither lost nor doubled nor changed: the failures that the
driver has noted, those in the channel and those that tasks are about to tell make up
the failed attempts (`Crew.Informed`).  Events are counted by weights, so that one
statement covers every failure and the shortage of room alike.
-/
import Windchest.Proofs.Crew.Outcomes

namespace Windchest

set_option autoImplicit false

variable {α : Type}

/-- The weight of having been short of room. -/
def LoadEvent.shortage (event : LoadEvent) : Nat := if event.isOutOfMemory then 1 else 0

theorem sum_shortage_pos {events : List LoadEvent} :
    0 < (events.map LoadEvent.shortage).sum ↔ events.any LoadEvent.isOutOfMemory = true := by
  induction events with
  | nil => simp
  | cons event rest ih =>
      rw [List.map_cons, List.sum_cons, List.any_cons, Bool.or_eq_true, ← ih, LoadEvent.shortage]
      split
      · rename_i short
        simp only [short, true_or, iff_true]
        omega
      · rename_i enough
        simp only [enough, false_or, Nat.zero_add, Bool.false_eq_true]

namespace Task

/-- The event that a task is about to tell. -/
def event? : Task α → Option LoadEvent
  | recording event => some event
  | sending event => some event
  | _ => none

/-- The weight of the event that a task is about to tell. -/
def weigh (weight : LoadEvent → Nat) (task : Task α) : Nat := (task.event?.map weight).getD 0

end Task

namespace Crew

/-- The weight of all events on their way to the driver. -/
def carried (c : Crew α) (weight : LoadEvent → Nat) : Nat :=
  (c.channel.map weight).sum + c.total (Task.weigh weight)

end Crew

variable [Loadable α]

/-- The event that a failed attempt becomes. -/
def Attempt.event? (plans : List (Plan α LoadError)) (attempt : Attempt LoadError) :
    Option LoadEvent :=
  match attempt.result with
  | .ok () => none
  | .error why =>
    (plans[attempt.index]?).map fun plan =>
      .failed ⟨attempt.index, Loadable.title plan.started, why.message⟩ why.isOutOfMemory

theorem Attempt.isShort_of_event? {plans : List (Plan α LoadError)} {attempt : Attempt LoadError}
    {event : LoadEvent} (becomes : attempt.event? plans = some event) :
    attempt.isShort = event.isOutOfMemory := by
  unfold Attempt.event? at becomes
  split at becomes
  · cases becomes
  · rename_i why failed
    obtain ⟨plan, -, rfl⟩ := Option.map_eq_some_iff.mp becomes
    rw [Attempt.isShort, failed]
    rfl

/-- The weight of the events that attempts become. -/
def weightOf (plans : List (Plan α LoadError)) (attempts : List (Attempt LoadError))
    (weight : LoadEvent → Nat) : Nat :=
  ((attempts.filterMap (Attempt.event? plans)).map weight).sum

theorem Workbench.Advance.weigh {b b' : Workbench α} {task task' : Task α}
    (advance : b.Advance task task' b') (good : task.Good b.plans b.arena)
    {weight : LoadEvent → Nat} (light : ∀ title, weight (.loaded title) = 0) :
    weightOf b.plans b'.attempts weight + task.weigh weight
      = weightOf b.plans b.attempts weight + task'.weigh weight := by
  cases advance with
  | install i make blocks =>
      have none : Attempt.event? b.plans ⟨i, .ok ()⟩ = none := rfl
      simp [weightOf, none, Task.weigh, Task.event?, light]
  | giveUp i object why =>
      obtain ⟨plan, planned, ends⟩ := good
      have started := ends.started
      simp [weightOf, Attempt.event?, Task.weigh, Task.event?, planned, started]
  | _ => rfl

namespace Crew

/-- A step takes a task further, or the driver handles at most one event and no attempt ends. -/
theorem moves_events {c d : Crew α} (moves : c.Moves d) :
    (∃ task task', task ∈ c.tasks ∧ c.toWorkbench.Advance task task' d.toWorkbench ∧
      d.failures = c.failures ∧ d.outOfMemory = c.outOfMemory ∧
      ∀ weight, d.carried weight + task.weigh weight = c.carried weight + task'.weigh weight) ∨
    (d.attempts = c.attempts ∧ ∃ handled : List LoadEvent,
      d.failures = c.failures ++ handled.filterMap LoadEvent.failure? ∧
      d.outOfMemory = (c.outOfMemory || handled.any LoadEvent.isOutOfMemory) ∧
      ∀ weight, d.carried weight + (handled.map weight).sum = c.carried weight) := by
  obtain ⟨task, task', swap, effect⟩ := moves_cases moves
  have sum (weight : LoadEvent → Nat) :
      d.total (Task.weigh weight) + task.weigh weight
        = c.total (Task.weigh weight) + task'.weigh weight := swap.sum _
  cases effect with
  | advance driver workers advanced mover =>
      refine Or.inl ⟨task, task', swap.old_mem, advanced, rfl, rfl, ?_⟩
      intro weight
      have := sum weight
      simp only [carried]
      omega
  | send event workers =>
      refine Or.inr ⟨rfl, [], by simp, by simp, ?_⟩
      intro weight
      have := sum weight
      simp only [carried, List.map_append, List.sum_append, List.map_cons, List.map_nil,
        List.sum_cons, List.sum_nil, Task.weigh, Task.event?, Option.map_some, Option.map_none,
        Option.getD_some, Option.getD_none] at this ⊢
      omega
  | handle event pending is =>
      refine Or.inr ⟨by simp, [event], ?_, by simp, ?_⟩
      · cases event <;> simp [LoadEvent.failure?]
      · intro weight
        have := sum weight
        simp only [carried, handle_channel, List.map_cons, List.map_nil, List.sum_cons,
          List.sum_nil, Task.weigh, Task.event?, Option.map_some, Option.map_none,
          Option.getD_some, Option.getD_none] at this ⊢
        omega
  | receive event rest task queued is =>
      refine Or.inr ⟨by simp, [event], ?_, by simp, ?_⟩
      · cases event <;> simp [LoadEvent.failure?]
      · intro weight
        have := sum weight
        simp only [carried, handle_channel, queued, List.map_cons, List.map_nil, List.sum_cons,
          List.sum_nil]
        omega
  | _ =>
      refine Or.inr ⟨rfl, [], by simp, by simp, ?_⟩
      intro weight
      -- Neither task carries an event, or they are the same.
      have := Nat.add_right_cancel (sum weight)
      simp only [carried, List.map_nil, List.sum_nil]
      omega

/-- The events that the driver has handled and those on their way to it are those of the failed
attempts, whatever weight one gives to each of them. -/
def Informed (c : Crew α) : Prop :=
  ∃ handled : List LoadEvent,
    c.failures = handled.filterMap LoadEvent.failure? ∧
    c.outOfMemory = handled.any LoadEvent.isOutOfMemory ∧
    ∀ weight, (∀ title, weight (.loaded title) = 0) →
      (handled.map weight).sum + c.carried weight = weightOf c.plans c.attempts weight

theorem informed_move {s c d : Crew α} (sound : s.Sound c) (informed : c.Informed)
    (moves : c.Moves d) : d.Informed := by
  have plans := (follows_move moves).plans
  obtain ⟨handled, failures, outOfMemory, told⟩ := informed
  rcases moves_events moves with ⟨task, task', mem, advance, same, still, carried⟩ |
    ⟨attempts, more, added, short, carried⟩
  · refine ⟨handled, same.trans failures, still.trans outOfMemory, ?_⟩
    intro weight light
    have := told weight light
    have := carried weight
    have := advance.weigh (sound.good task mem) light
    rw [plans]
    omega
  · refine ⟨handled ++ more, ?_, ?_, ?_⟩
    · rw [added, failures, List.filterMap_append]
    · rw [short, outOfMemory, List.any_append]
    · intro weight light
      have := told weight light
      have := carried weight
      rw [plans, attempts, List.map_append, List.sum_append]
      omega

/-- An event for want of room comes of an attempt. -/
theorem Informed.isShort {c : Crew α} (informed : c.Informed) {task : Task α} (mem : task ∈ c.tasks)
    {event : LoadEvent} (tells : task.event? = some event) (short : event.isOutOfMemory = true) :
    ∃ attempt ∈ c.attempts, attempt.isShort = true := by
  obtain ⟨handled, -, -, told⟩ := informed
  have balance := told LoadEvent.shortage fun _ => rfl
  have owned := c.le_total mem (Task.weigh LoadEvent.shortage)
  have one : task.weigh LoadEvent.shortage = 1 := by
    simp [Task.weigh, tells, LoadEvent.shortage, short]
  have positive : 0 < weightOf c.plans c.attempts LoadEvent.shortage := by
    rw [← balance, carried]
    omega
  obtain ⟨other, isEvent, isShort⟩ := List.any_eq_true.mp (sum_shortage_pos.mp positive)
  obtain ⟨attempt, inAttempts, becomes⟩ := List.mem_filterMap.mp isEvent
  refine ⟨attempt, inAttempts, ?_⟩
  rw [Attempt.isShort_of_event? becomes, isShort]

end Crew

end Windchest
