/-
# Windchest.Proofs.Crew.Updates -- what a driver hears and tells

The driver hears of an object when it handles the event of that object, be it one of its own
or one out of the channel, in whichever of its loops.  `Crew.Run` is a run of a crew with the
list of all events that the driver hears on it, and the position of the distributor at each.

What the driver tells depends on this list alone (`tell`): one update for each event, until
one is answered with no.  The list is that of the attempts, in some order, once the run is
over; on the way the events that are still in a task or in the channel make up the rest
(`Crew.Reported`).  Since an object is handed out before its event can be heard, the position
is ahead of the number of events heard, and so it is at the end when the last one is.
-/
import Windchest.Proofs.Crew.Finish
import Windchest.Proofs.Crew.Progress
import Windchest.Proofs.Object.Volume

namespace Windchest

set_option autoImplicit false

/-! ## Titles -/

/-- Objects that keep their titles when they are loaded from their files. -/
class Titled (α : Type) [Loadable α] : Prop where
  title_started : ∀ (store : Store) (object : α),
    Loadable.title (Loadable.fromFiles store object).started = Loadable.title object
  title_install : ∀ {store : Store} {object : α} {install : List BlockId → α},
    (Loadable.fromFiles store object).verdict = .ok install →
      ∀ ids, Loadable.title (install ids) = Loadable.title object

theorem Object.title_reset (object : Object) :
    Loadable.title (Loadable.reset object) = Loadable.title object := by
  cases object <;> rfl

instance : Titled Object where
  title_started store object := by
    rw [Object.started_fromFiles]
    cases object <;> rfl
  title_install verdict ids := by
    obtain ⟨attacks, releases, drafted, -⟩ := Object.drafted_of_fromFiles verdict
    rw [← Object.title_reset, drafted.reset_install, Object.title_reset]

/-! ## What is told of what is heard -/

/-- What a reporter is told of events, each at a position, behind what it was told before: an update
for each event, up to and including the first one that it answers with no.  The second part of the
result is whether it has not done so. -/
def tell (report : Reporter) (total : Nat) : List Progress → List (Nat × LoadEvent) →
    List Progress × Bool
  | trace, [] => (trace, true)
  | trace, (pos, event) :: rest =>
    let trace := trace ++ [.update pos total event.title]
    if report trace then tell report total trace rest else (trace, false)

/-- The update about an event that is heard at a position. -/
def updateOn (total : Nat) (heard : Nat × LoadEvent) : Progress :=
  .update heard.1 total heard.2.title

theorem tell_concat {report : Reporter} {total : Nat} {trace told : List Progress} {goesOn : Bool}
    {heard : List (Nat × LoadEvent)} (tells : tell report total trace heard = (told, goesOn))
    (last : Nat × LoadEvent) :
    tell report total trace (heard ++ [last])
      = if goesOn then (told ++ [updateOn total last], report (told ++ [updateOn total last]))
        else (told, false) := by
  induction heard generalizing trace with
  | nil =>
      obtain ⟨rfl, rfl⟩ := Prod.mk.inj tells
      change (if report (trace ++ [updateOn total last]) then _ else _) = _
      cases report (trace ++ [updateOn total last]) <;> rfl
  | cons first rest ih =>
      simp only [List.cons_append, tell] at tells ⊢
      split at tells
      · rename_i yes
        rw [if_pos yes]
        exact ih tells
      · rename_i no
        obtain ⟨rfl, rfl⟩ := Prod.mk.inj tells
        rw [if_neg no]
        rfl

/-- Whoever is never answered with no tells of every event. -/
theorem tell_eq_true {report : Reporter} {total : Nat} {trace told : List Progress}
    {heard : List (Nat × LoadEvent)} (tells : tell report total trace heard = (told, true)) :
    told = trace ++ heard.map (updateOn total) := by
  induction heard generalizing trace with
  | nil =>
      rw [List.map_nil, List.append_nil]
      exact (Prod.mk.inj tells).1.symm
  | cons first rest ih =>
      rw [tell] at tells
      split at tells
      · rw [ih tells, List.map_cons, List.append_assoc]
        rfl
      · cases tells

variable {α : Type} [Loadable α]

/-- The event that an attempt on one of these objects becomes. -/
def Attempt.event (objects : List α) (attempt : Attempt LoadError) : LoadEvent :=
  let title := (objects[attempt.index]?.map Loadable.title).getD ""
  match attempt.result with
  | .ok () => .loaded title
  | .error why => .failed ⟨attempt.index, title, why.message⟩ why.isOutOfMemory

/-- One if the task has an object in its hands. -/
def Task.inHands (task : Task α) : Nat := if task.index?.isSome then 1 else 0

omit [Loadable α] in
/-- A task with an object in its hands has no event to tell. -/
theorem Task.event?_of_index? {task : Task α} (holds : task.index?.isSome = true) :
    task.event? = none := by
  cases task with
  | recording | sending => cases holds
  | _ => rfl

omit [Loadable α] in
theorem Task.publishes_le_inHands (task : Task α) : task.publishes ≤ task.inHands := by
  cases task with
  | publishing i plan => exact Nat.le_refl 1
  | _ => exact Nat.zero_le _

namespace Workbench

variable {b b' : Workbench α} {task task' : Task α}

/-- What has been taken from the cursor is in the hands of a task, or has been attempted. -/
theorem Advance.tally (advance : b.Advance task task' b') :
    b'.attempts.length + task'.inHands + b.distributor.cursor
      = b.attempts.length + task.inHands + b'.distributor.cursor := by
  cases advance with
  | claim plan free left planned =>
      change b.attempts.length + 1 + b.distributor.cursor = b.attempts.length + 0 + (_ + 1)
      omega
  | install i make blocks => rw [List.length_append]; rfl
  | giveUp i object why => rw [List.length_append]; rfl
  | _ => rfl

/-- A task that goes on either leaves the attempts and its event as they are, or it ends the attempt on
the object in its hands with its event, which names the object. -/
theorem Advance.event_cases [Titled α] {store : Store} {objects : List α}
    (plans : b.plans = objects.map (Loadable.fromFiles store)) (advance : b.Advance task task' b')
    (good : task.Good b.plans b.arena) :
    (b'.attempts = b.attempts ∧ task'.event? = task.event? ∧
      (task' = .claiming → task = .checking ∧ b.distributor.aborted = false) ∧
      (task'.index?.isSome = true → task = .claiming ∨ task.index?.isSome = true)) ∨
    ∃ i result, task.index? = some i ∧ b'.attempts = b.attempts ++ [⟨i, result⟩] ∧
      task' = .recording (Attempt.event objects ⟨i, result⟩) := by
  have planFor {i : Nat} {plan : Plan α LoadError} (planned : b.plans[i]? = some plan) :
      ∃ object, objects[i]? = some object ∧ Loadable.fromFiles store object = plan := by
    rw [plans, List.getElem?_map] at planned
    exact Option.map_eq_some_iff.mp planned
  cases advance with
  | install i make blocks =>
      obtain ⟨plan, planned, promised, -⟩ := good
      obtain ⟨object, is, rfl⟩ := planFor planned
      have title := Titled.title_install (Plan.verdict_of_promised promised).2 blocks
      exact Or.inr ⟨i, .ok (), rfl, rfl, by simp [Attempt.event, is, title]⟩
  | giveUp i object why =>
      obtain ⟨plan, planned, ends⟩ := good
      obtain ⟨before, is, rfl⟩ := planFor planned
      have title : Loadable.title object = Loadable.title before := by
        rw [ends.started, Titled.title_started]
      exact Or.inr ⟨i, .error why, rfl, rfl, by simp [Attempt.event, is, title]⟩
  | goOn aborted => exact Or.inl ⟨rfl, rfl, fun _ => ⟨rfl, aborted⟩, fun no => by cases no⟩
  | claim plan free left planned => exact Or.inl ⟨rfl, rfl, nofun, fun _ => Or.inl rfl⟩
  | close | exhausted => exact Or.inl ⟨rfl, rfl, nofun, fun no => by cases no⟩
  | recordLoaded | recordShortage | recordFailure =>
      exact Or.inl ⟨rfl, rfl, nofun, fun no => by cases no⟩
  | _ => exact Or.inl ⟨rfl, rfl, nofun, fun _ => Or.inr rfl⟩

/-- An attempt ends with its event, which names the object, and an event stays what it is. -/
theorem Advance.tells [Titled α] {store : Store} {objects : List α}
    (plans : b.plans = objects.map (Loadable.fromFiles store)) (advance : b.Advance task task' b')
    (good : task.Good b.plans b.arena) (weight : LoadEvent → Nat) :
    ((b'.attempts.map (Attempt.event objects)).map weight).sum + task.weigh weight
      = ((b.attempts.map (Attempt.event objects)).map weight).sum + task'.weigh weight := by
  rcases advance.event_cases plans good with ⟨attempts, event, -⟩ | ⟨i, result, holds, attempts, rfl⟩
  · rw [attempts, Task.weigh, Task.weigh, event]
  · have silent : task.event? = none := Task.event?_of_index? (Option.isSome_of_eq_some holds)
    rw [attempts, List.map_append, List.map_append, List.sum_append, Task.weigh, silent]
    rfl

end Workbench

namespace Crew

/-- The event that the driver handles in the next step of a thread. -/
def heard? (c : Crew α) : Nat → Option LoadEvent
  | 0 =>
    match c.driver with
    | .working _ (.sending event) => some event
    | .draining => c.channel.head?
    | .receiving => c.channel.head?
    | _ => none
  | _ + 1 => none

/-- A run, with the events that the driver has heard on it, and the position at each of them. -/
inductive Run (s : Crew α) : List (Nat × LoadEvent) → Crew α → Prop where
  | start : Run s [] s
  | step {heard : List (Nat × LoadEvent)} {c d : Crew α} (t : Nat) (run : Run s heard c)
      (step : c.step t = some d) :
      Run s (heard ++ ((c.heard? t).map (c.distributor.pos, ·)).toList) d

theorem Run.reaches {s c : Crew α} {heard : List (Nat × LoadEvent)} (run : s.Run heard c) :
    s.Reaches c := by
  induction run with
  | start => exact .refl
  | step t _ step ih => exact ih.tail ⟨t, step⟩

/-- On every run the driver hears something. -/
theorem exists_run {s c : Crew α} (reaches : s.Reaches c) : ∃ heard, s.Run heard c := by
  apply reaches_induction (P := fun c => ∃ heard, s.Run heard c) reaches ⟨[], .start⟩
  rintro c d ⟨heard, run⟩ ⟨t, step⟩
  exact ⟨_, run.step t step⟩

omit [Loadable α] in
/-- Whoever handles an event tells of it, unless there was a no before. -/
theorem told_handle (c : Crew α) (event : LoadEvent) (next : Driver α) :
    ((c.handle event next).trace, ! (c.handle event next).cancelled)
      = let update := updateOn c.distributor.total (c.distributor.pos, event)
        if ! c.cancelled then (c.trace ++ [update], c.report (c.trace ++ [update]))
        else (c.trace, false) := by
  unfold handle updateOn
  dsimp only
  cases cancelled : c.cancelled
  · cases c.report (c.trace ++ [.update c.distributor.pos c.distributor.total event.title]) <;> simp
  · simp

/-- Nothing that a driver has heard or told has changed. -/
structure Silent (c d : Crew α) : Prop where
  trace : d.trace = c.trace
  failures : d.failures = c.failures
  outOfMemory : d.outOfMemory = c.outOfMemory
  cancelled : d.cancelled = c.cancelled

/-- A step in which the driver hears an event takes it from those that are carried, and handles it. -/
theorem handles_of_heard {c d : Crew α} {t : Nat} {event : LoadEvent} (step : c.step t = some d)
    (heard : c.heard? t = some event) :
    ∃ rest next, d = { c with channel := rest }.handle event next ∧
      ∀ weight, d.carried weight + weight event = c.carried weight := by
  have received {rest : List LoadEvent} (queued : c.channel = event :: rest)
      (step : d = { c with channel := rest }.handle event c.driver) :
      ∀ weight, d.carried weight + weight event = c.carried weight := by
    intro weight
    rw [carried, carried, total, total, step, handle_tasks, handle_channel, queued, tasks]
    simp only [List.map_cons, List.sum_cons]
    omega
  cases t with
  | succ w => cases heard
  | zero =>
      change c.stepDriver = some d at step
      unfold heard? at heard
      unfold stepDriver at step
      cases is : c.driver with
      | working pending task =>
          rw [is] at step heard
          cases task with
          | sending event' =>
              obtain rfl : event' = event := Option.some.inj heard
              obtain rfl := Option.some.inj step
              refine ⟨c.channel, _, rfl, ?_⟩
              intro weight
              rw [carried, carried, total, total, handle_tasks, handle_channel, tasks, is]
              simp only [List.map_cons, List.sum_cons, Driver.task, Task.weigh, Task.event?,
                Option.map_some, Option.getD_some]
              cases pending <;> simp [Driver.task] <;> omega
          | _ => cases heard
      | draining =>
          rw [is] at step heard
          obtain ⟨rest, queued⟩ := List.head?_eq_some_iff.mp heard
          simp only [queued, Option.some.injEq] at step
          rw [← is] at step
          exact ⟨rest, c.driver, step.symm, received queued step.symm⟩
      | receiving =>
          rw [is] at step heard
          obtain ⟨rest, queued⟩ := List.head?_eq_some_iff.mp heard
          simp only [queued, Option.some.injEq] at step
          rw [← is] at step
          exact ⟨rest, c.driver, step.symm, received queued step.symm⟩
      | aborting next =>
          rw [is] at heard
          cases heard
      | finished =>
          rw [is] at heard
          cases heard

/-- A worker leaves the driver alone, and takes nothing out of the channel. -/
theorem driver_of_worker {c d : Crew α} {w : Nat} (step : c.step (w + 1) = some d) :
    d.driver = c.driver ∧ c.channel.length ≤ d.channel.length := by
  simp only [Crew.step, Option.bind_eq_some_iff, Option.map_eq_some_iff] at step
  obtain ⟨task, at_w, ⟨task', after⟩, advanced, rfl⟩ := step
  unfold advanceWorker at advanced
  split at advanced
  · simp only [Option.some.injEq, Prod.mk.injEq] at advanced
    obtain ⟨rfl, rfl⟩ := advanced
    exact ⟨rfl, (List.prefix_append _ _).length_le⟩
  · simp only [Option.some.injEq, Prod.mk.injEq] at advanced
    obtain ⟨rfl, rfl⟩ := advanced
    exact ⟨rfl, Nat.le_refl _⟩
  · simp only [Option.map_eq_some_iff, Prod.mk.injEq] at advanced
    obtain ⟨⟨next, bench⟩, advanced, rfl, rfl⟩ := advanced
    exact ⟨rfl, Nat.le_refl _⟩

/-- In a step in which the driver hears nothing, a task goes on, or at most an event moves on. -/
theorem silent_of_unheard {c d : Crew α} {t : Nat} (step : c.step t = some d)
    (unheard : c.heard? t = none) :
    c.Silent d ∧ ∃ task task', Swap c.tasks d.tasks task task' ∧
      (c.toWorkbench.Advance task task' d.toWorkbench ∧ d.channel = c.channel ∨
        d.attempts = c.attempts ∧ ∀ weight, d.carried weight = c.carried weight) := by
  obtain ⟨task, task', swap, effect⟩ := moves_cases ⟨t, step⟩
  have sum (weight : LoadEvent → Nat) :
      d.total (Task.weigh weight) + task.weigh weight
        = c.total (Task.weigh weight) + task'.weigh weight := swap.sum _
  cases effect with
  | advance driver workers advanced mover =>
      exact ⟨⟨rfl, rfl, rfl, rfl⟩, task, task', swap, Or.inl ⟨advanced, rfl⟩⟩
  | send event workers =>
      refine ⟨⟨rfl, rfl, rfl, rfl⟩, _, _, swap, Or.inr ⟨rfl, ?_⟩⟩
      intro weight
      have := sum weight
      simp only [carried, List.map_append, List.sum_append, List.map_cons, List.map_nil,
        List.sum_cons, List.sum_nil, Task.weigh, Task.event?, Option.map_some, Option.map_none,
        Option.getD_some, Option.getD_none] at this ⊢
      omega
  | handle event pending is =>
      -- Had the driver taken this step, it would have heard the event.
      exfalso
      cases t with
      | zero => simp [heard?, is] at unheard
      | succ w =>
          have same := (driver_of_worker step).1
          rw [is] at same
          rcases c.handle_cases event (if pending then .working false .checking else .draining) with
            ⟨driver, -⟩ | ⟨driver, -⟩ <;> rw [driver] at same
          · cases pending <;> cases same
          · cases same
  | receive event rest task queued is =>
      exfalso
      cases t with
      | zero => rcases is with is | is <;> simp [heard?, is, queued] at unheard
      | succ w =>
          have longer := (driver_of_worker step).2
          rw [handle_channel, queued, List.length_cons] at longer
          exact Nat.not_succ_le_self _ longer
  | _ =>
      refine ⟨⟨rfl, rfl, rfl, rfl⟩, _, _, swap, Or.inr ⟨rfl, ?_⟩⟩
      intro weight
      -- Neither task carries an event, or they are the same.
      have := Nat.add_right_cancel (sum weight)
      simp only [carried]
      omega

/-- The objects that were taken from the cursor stay accounted for. -/
theorem tally_move {first : Nat} {c d : Crew α}
    (tally : first + c.attempts.length + c.total Task.inHands = c.distributor.cursor)
    (moves : c.Moves d) :
    first + d.attempts.length + d.total Task.inHands = d.distributor.cursor := by
  obtain ⟨task, task', swap, bench⟩ := moves_bench moves
  have sum : d.total Task.inHands + task.inHands = c.total Task.inHands + task'.inHands := swap.sum _
  rcases bench with advance | ⟨idle, bench⟩
  · have := advance.tally
    omega
  · have quiet : task'.inHands = task.inHands := by
      cases idle <;> rfl
    rcases bench with bench | bench <;> rw [bench]
    · omega
    · rw [Workbench.stop_attempts, Workbench.stop_cursor]
      omega

/-- What the driver of a crew, which has started as `s` on these objects from the index `first` on,
has heard and told. -/
structure Reported (objects : List α) (first : Nat) (s c : Crew α) (heard : List (Nat × LoadEvent)) :
    Prop where
  told : tell s.report s.distributor.total s.trace heard = (c.trace, ! c.cancelled)
  failures : c.failures = (heard.map (·.2)).filterMap LoadEvent.failure?
  outOfMemory : c.outOfMemory = (heard.map (·.2)).any LoadEvent.isOutOfMemory
  /-- The events heard and those still carried are those of the attempts. -/
  events : ∀ weight, ((heard.map (·.2)).map weight).sum + c.carried weight
    = ((c.attempts.map (Attempt.event objects)).map weight).sum
  tally : first + c.attempts.length + c.total Task.inHands = c.distributor.cursor
  rising : (heard.map (·.1)).Pairwise (· ≤ ·)
  reached : ∀ h ∈ heard, h.1 ≤ c.distributor.pos
  /-- Whoever is heard was handed out, and so were those heard before. -/
  ahead : ∀ k h, heard[k]? = some h → first + k + 1 ≤ h.1

theorem reported_step [Titled α] {store : Store} {objects : List α} {first loaded t : Nat}
    {s c d : Crew α} {heard : List (Nat × LoadEvent)} (plans : s.plans = objects.map (Loadable.fromFiles store))
    (kept : s.Kept first loaded c) (reported : Reported objects first s c heard)
    (step : c.step t = some d) :
    Reported objects first s d (heard ++ ((c.heard? t).map (c.distributor.pos, ·)).toList) := by
  have follows := follows_move ⟨t, step⟩
  have tally := tally_move reported.tally ⟨t, step⟩
  have reached : ∀ h ∈ heard, h.1 ≤ d.distributor.pos :=
    fun h mem => Nat.le_trans (reported.reached h mem) follows.ahead
  cases is : c.heard? t with
  | none =>
      obtain ⟨silent, task, task', swap, does⟩ := silent_of_unheard step is
      have sum (f : Task α → Nat) : d.total f + f task = c.total f + f task' := swap.sum f
      rw [Option.map_none, Option.toList_none, List.append_nil]
      refine ⟨?_, ?_, ?_, ?_, tally, reported.rising, reached, reported.ahead⟩
      · rw [silent.trace, silent.cancelled]
        exact reported.told
      · rw [silent.failures]
        exact reported.failures
      · rw [silent.outOfMemory]
        exact reported.outOfMemory
      · intro weight
        have before := reported.events weight
        rcases does with ⟨advance, channel⟩ | ⟨attempts, carried⟩
        · have tells := advance.tells (kept.follows.plans.trans plans)
            (kept.sound.good task swap.old_mem) weight
          have := sum (Task.weigh weight)
          unfold carried at before ⊢
          rw [channel]
          omega
        · rw [attempts, carried, before]
  | some event =>
      obtain ⟨rest, next, rfl, carried⟩ := handles_of_heard step is
      have ahead : first + heard.length + 1 ≤ c.distributor.pos := by
        -- The event heard is carried, so there is an attempt more than events heard before.
        have counted := reported.events fun _ => 1
        have taken := carried fun _ => 1
        have published : c.total Task.publishes ≤ c.total Task.inHands :=
          List.sum_le_sum fun task _ => task.publishes_le_inHands
        have tally := reported.tally
        have lock := kept.books.lock
        simp only [List.map_const', List.sum_replicate_nat, List.length_map, Nat.mul_one] at counted
        omega
      rw [Option.map_some, Option.toList_some]
      refine ⟨?_, ?_, ?_, ?_, tally, ?_, ?_, ?_⟩
      · rw [tell_concat reported.told, ← kept.follows.total, ← kept.follows.report]
        exact (told_handle { c with channel := rest } event next).symm
      · rw [handle_failures, List.map_append, List.filterMap_append, ← reported.failures]
        cases event <;> rfl
      · rw [handle_outOfMemory, List.map_append, List.any_append, ← reported.outOfMemory]
        simp
      · intro weight
        have before := reported.events weight
        have := carried weight
        rw [handle_toWorkbench, List.map_append, List.map_append, List.sum_append]
        simp only [List.map_cons, List.map_nil, List.sum_cons, List.sum_nil]
        omega
      · rw [List.map_append, List.pairwise_append]
        refine ⟨reported.rising, List.pairwise_singleton _ _, ?_⟩
        intro p mem q last
        obtain ⟨h, inHeard, rfl⟩ := List.mem_map.mp mem
        rw [List.mem_singleton.mp last]
        exact reported.reached h inHeard
      · intro h mem
        rcases List.mem_append.mp mem with before | last
        · exact reached h before
        · rw [List.mem_singleton.mp last, handle_toWorkbench]
      · intro k h at_k
        rcases Nat.lt_or_ge k heard.length with before | last
        · rw [List.getElem?_append_left before] at at_k
          exact reported.ahead k h at_k
        · rw [List.getElem?_append_right last] at at_k
          obtain ⟨here, rfl⟩ := List.getElem?_eq_some_iff.mp at_k
          rw [List.length_singleton] at here
          rw [List.getElem_singleton]
          dsimp only
          omega

theorem reported_start {objects : List α} {first : Nat} {s : Crew α} (fresh : s.Fresh first) :
    Reported objects first s s [] := by
  refine ⟨?_, fresh.failures, fresh.outOfMemory, ?_, ?_, .nil, ?_, ?_⟩
  · rw [tell, fresh.cancelled]
    rfl
  · intro weight
    rw [carried, fresh.channel, fresh.total_eq rfl, fresh.attempts]
    rcases fresh.task_cases with ⟨is, -⟩ | ⟨plan, -, is, -⟩ <;> rw [is] <;> rfl
  · rw [fresh.total_eq rfl, fresh.attempts]
    rcases fresh.task_cases with ⟨is, here⟩ | ⟨plan, -, is, next⟩ <;> rw [is]
    · exact here
    · exact next
  · simp
  · simp

theorem reported_of_run [Titled α] {store : Store} {objects : List α} {first : Nat} {s c : Crew α}
    {heard : List (Nat × LoadEvent)} (fresh : s.Fresh first)
    (plans : s.plans = objects.map (Loadable.fromFiles store))
    (planned : s.objects.length = s.plans.length) (run : s.Run heard c) :
    Reported objects first s c heard := by
  induction run with
  | start => exact reported_start fresh
  | step t run step ih =>
      exact reported_step plans (kept_of_reaches run.reaches planned fresh.kept) ih step

omit [Loadable α] in
/-- Lists of events that weigh the same under all weights are the same but for their order. -/
theorem perm_of_weights {events others : List LoadEvent}
    (same : ∀ weight : LoadEvent → Nat, (events.map weight).sum = (others.map weight).sum) :
    events.Perm others := by
  have counted (event : LoadEvent) (list : List LoadEvent) :
      (list.map fun other => if other = event then 1 else 0).sum = list.count event := by
    induction list with
    | nil => rfl
    | cons first rest ih =>
        rw [List.map_cons, List.sum_cons, ih, List.count_cons, Nat.add_comm]
        simp
  rw [List.perm_iff_count]
  intro event
  rw [← counted, ← counted, same]

end Crew

/-- **Every object is heard of once, and told of once.**  On every run of a crew the reporter is told of
the events heard, one by one, up to the first no, while failures and shortages are noted of all of them;
the positions do not decrease or exceed the number of objects.  Once the run is over, the events
heard are those of the objects handed out to the crew, one each; and if the reporter never said no and
no object was short of room, every object was told of, the last one at the last position. -/
theorem crew_reports_every_object_once {α : Type} [Loadable α] [Titled α] {report : Reporter}
    {store : Store} {workers : Nat} {objects : List α} {arena : Arena} {distributor : Distributor}
    {trace : List Progress} {pending : Option Nat} (total : distributor.total = objects.length)
    (free : distributor.Free) (bound : distributor.cursor ≤ distributor.total)
    (running : distributor.aborted = false) (quiet : ¬ Declined report trace)
    (last : ∀ i ∈ pending, i + 1 = distributor.cursor) {heard : List (Nat × LoadEvent)} {c : Crew α}
    (run : (Crew.start report store workers objects arena distributor trace pending).Run heard c) :
    let first := pending.getD distributor.cursor
    tell report objects.length trace heard = (c.trace, ! c.cancelled) ∧
    c.failures = (heard.map (·.2)).filterMap LoadEvent.failure? ∧
    c.outOfMemory = (heard.map (·.2)).any LoadEvent.isOutOfMemory ∧
    (heard.map (·.1)).Pairwise (· ≤ ·) ∧ (∀ h ∈ heard, h.1 ≤ objects.length) ∧
    (c.AtRest →
      (c.attempts.map (·.index)).Perm (List.range' first (c.distributor.pos - first)) ∧
      (heard.map (·.2)).Perm (c.attempts.map (Attempt.event objects)) ∧
      (c.cancelled = false → (∀ attempt ∈ c.attempts, attempt.isShort = false) →
        c.trace = trace ++ heard.map (updateOn objects.length) ∧
        heard.length = objects.length - first ∧ ∀ h ∈ heard.getLast?, h.1 = objects.length)) := by
  intro first
  have fresh : (Crew.start report store workers objects arena distributor trace pending).Fresh first :=
    Crew.fresh_start total free bound running quiet last
  have planned : objects.length = (objects.map (Loadable.fromFiles store)).length :=
    (List.length_map _).symm
  have reported := Crew.reported_of_run fresh rfl planned run
  have kept := Crew.kept_of_reaches run.reaches planned fresh.kept
  have told : tell report objects.length trace heard = (c.trace, ! c.cancelled) :=
    total ▸ reported.told
  have limit : c.distributor.pos ≤ objects.length := by
    have := kept.books.lock
    have := kept.books.bound
    have : c.distributor.total = distributor.total := kept.follows.total
    omega
  have below (h : Nat × LoadEvent) (mem : h ∈ heard) : h.1 ≤ objects.length :=
    Nat.le_trans (reported.reached h mem) limit
  refine ⟨told, reported.failures, reported.outOfMemory, reported.rising, below, ?_⟩
  intro rest
  obtain ⟨drained, gone⟩ := kept.gone_of_atRest (Nat.le_of_eq (total.trans planned)) rest
  have finished := Crew.finished_of_reaches fresh planned (total.trans planned) run.reaches rest
  have perm : (heard.map (·.2)).Perm (c.attempts.map (Attempt.event objects)) := by
    apply Crew.perm_of_weights
    intro weight
    have := reported.events weight
    rw [Crew.carried, drained, Crew.total_of_gone gone rfl] at this
    exact this
  refine ⟨finished.indices, perm, ?_⟩
  intro goesOn enough
  have noShortage : c.outOfMemory = false := by
    cases short : c.outOfMemory with
    | false => rfl
    | true =>
        obtain ⟨attempt, mem, isShort⟩ := finished.shortage.mp short
        rw [enough attempt mem] at isShort
        cases isShort
  have all : c.distributor.pos = objects.length := by
    rw [finished.all noShortage goesOn, finished.follows.total]
    exact total
  have length : heard.length = objects.length - first := by
    have heardOf := perm.length_eq
    have indices := finished.indices.length_eq
    rw [List.length_map, List.length_map] at heardOf
    rw [List.length_map, List.length_range', all] at indices
    exact heardOf.trans indices
  refine ⟨?_, length, ?_⟩
  · rw [goesOn] at told
    exact tell_eq_true told
  · intro h isLast
    have at_last : heard[heard.length - 1]? = some h := by
      rw [← List.getLast?_eq_getElem?]
      exact isLast
    have ahead := reported.ahead _ _ at_last
    have mem := List.mem_of_getElem? at_last
    have := below h mem
    have := List.length_pos_of_mem mem
    change first + (heard.length - 1) + 1 ≤ h.1 at ahead
    omega

/-- A driver, which has the first of the stranded pipes in its hands, and a worker, with a reporter that
lets them go on. -/
def patientCrew : Crew Object :=
  Crew.start Reporter.patient ⟨.memory [], .known⟩ 1 strandedPipes { limit := 0 }
    { total := 3, cursor := 1, pos := 1 } [] (some 0)

/-- The reporter hears of all stranded pipes, whoever of the two has tried to load them. -/
theorem patientCrew_reports_once :
    ∃ heard, patientCrew.Run heard patientCrew.run ∧
      patientCrew.run.trace = heard.map (updateOn 3) ∧ heard.length = 3 ∧
      (∀ h ∈ heard.getLast?, h.1 = 3) ∧ (heard.map (·.2.title)).Perm ["C", "D", "E"] := by
  obtain ⟨reaches, rest⟩ := patientCrew.run_atRest
  obtain ⟨heard, run⟩ := Crew.exists_run reaches
  have free : Distributor.Free { total := 3, cursor := 1, pos := 1 } := rfl
  obtain ⟨-, -, -, -, -, atEnd⟩ := crew_reports_every_object_once rfl free (by decide) rfl
    (not_declined_nil _) (by decide) run
  obtain ⟨-, perm, all⟩ := atEnd rest
  obtain ⟨trace, length, last⟩ := all (by decide +kernel) (by decide +kernel)
  refine ⟨heard, run, trace, length, last, ?_⟩
  have titles : (patientCrew.run.attempts.map (Attempt.event strandedPipes)).map (·.title)
      = ["C", "D", "E"] := by decide +kernel
  rw [← titles, ← Function.comp_def, ← List.map_map]
  exact perm.map _

end Windchest
