/-
# Windchest.Proofs.Crew.Alone -- a driver without workers takes the objects in turn

Without workers nothing is ever in the channel, and a step is one of three things
(`Crew.alone_cases`): the task of the driver goes on, the driver handles the event of its
own object, or it only changes loops and drops its sender on the way.  So it comes to the next object when the last one has
been told of, and the updates are those about the objects from the first one on, in order
(`Crew.InTurn.told`).

A reason to stop is heeded before the next object is claimed.  What it follows from is
`Crew.Heeded`, which holds of any crew; here there is no thread that could claim an object in
between, so the update that was declined is the last one, and so is the attempt that was short
of room.
-/
import Windchest.Proofs.Crew.Updates

namespace Windchest

set_option autoImplicit false

/-- A stretch of a list, element by element. -/
theorem map_range'_getElem? {titles : List String} {first n : Nat} (inside : first + n ≤ titles.length) :
    ((List.range' first n).map fun i => titles[i]?.getD "") = (titles.drop first).take n := by
  apply List.ext_getElem
  · rw [List.length_map, List.length_range', List.length_take, List.length_drop]
    omega
  · intro k few _
    rw [List.length_map, List.length_range'] at few
    rw [List.getElem_map, List.getElem_range', Nat.one_mul, List.getElem_take, List.getElem_drop,
      List.getElem?_eq_getElem (by omega), Option.getD_some]

variable {α : Type} [Loadable α]

/-- The event of an attempt names its object. -/
theorem Attempt.title_event (objects : List α) (attempt : Attempt LoadError) :
    (attempt.event objects).title = (objects[attempt.index]?.map Loadable.title).getD "" := by
  unfold Attempt.event
  split <;> rfl

namespace Crew

/-- Everything that a step can be where the driver is alone: its task goes on, it handles its event, or
it only changes loops.  There its task stays or is over, and the load is aborted at most. -/
theorem alone_cases {c d : Crew α} (workers : c.workers = []) (channel : c.channel = [])
    (moves : c.Moves d) :
    (∃ pending task task' bench, c.driver = .working pending task ∧
      c.toWorkbench.Advance task task' bench ∧
        d = { c with toWorkbench := bench, driver := .working pending task' }) ∨
    (∃ event next, c.driver.task = .sending event ∧ next.task = .checking ∧
      d = c.handle event next) ∨
    ∃ bench next senders,
      (next.task = c.driver.task ∨ c.driver.task = .stopped ∧ next.task = .gone) ∧
      (bench = c.toWorkbench ∨ bench = c.toWorkbench.stop) ∧
        d = { c with toWorkbench := bench, driver := next, senders } := by
  obtain ⟨t, step⟩ := moves
  cases t with
  | succ w =>
      rw [Crew.step, workers] at step
      cases step
  | zero =>
      change c.stepDriver = some d at step
      unfold stepDriver at step
      split at step
      · rename_i pending event is
        refine Or.inr (Or.inl ⟨event, _, by rw [is]; rfl, ?_, (Option.some.inj step).symm⟩)
        cases pending <;> rfl
      · rename_i is
        exact Or.inr (Or.inr ⟨_, .receiving, _, Or.inr ⟨by rw [is]; rfl, rfl⟩, Or.inl rfl,
          (Option.some.inj step).symm⟩)
      · rename_i pending task _ _ is
        obtain ⟨⟨task', bench⟩, advanced, rfl⟩ := Option.map_eq_some_iff.mp step
        exact Or.inl ⟨pending, task, task', bench, is, Workbench.advance_cases advanced, rfl⟩
      · rename_i is
        split at step
        · rename_i queued
          cases channel.symm.trans queued
        · exact Or.inr (Or.inr ⟨_, .working false .checking, _, Or.inl (by rw [is]; rfl), Or.inl rfl,
            (Option.some.inj step).symm⟩)
      · rename_i next is
        exact Or.inr (Or.inr ⟨_, next, _, Or.inl (by rw [is]; rfl), Or.inr rfl,
          (Option.some.inj step).symm⟩)
      · rename_i is
        split at step
        · rename_i queued
          cases channel.symm.trans queued
        · split at step
          · exact Or.inr (Or.inr ⟨_, .finished, _, Or.inl (by rw [is]; rfl), Or.inl rfl,
              (Option.some.inj step).symm⟩)
          · cases step
      · cases step

/-- There is no reason to stop. -/
structure Untroubled (c : Crew α) : Prop where
  goesOn : c.cancelled = false
  enough : ∀ attempt ∈ c.attempts, attempt.isShort = false

/-- A driver without workers, which has started as `s` on these objects from the index `first` on, has
come to `c` by taking one object after the other. -/
structure InTurn (objects : List α) (first : Nat) (s c : Crew α) : Prop where
  workers : c.workers = []
  channel : c.channel = []
  indices : c.attempts.map (·.index) = List.range' first c.attempts.length
  /-- With the event at hand, what has been told are the attempts. -/
  told : c.trace ++ (c.driver.task.event?.map fun event =>
      Progress.update (first + c.attempts.length) s.distributor.total event.title).toList
    = s.trace ++ Progress.updates s.distributor.total first
        (c.attempts.map fun attempt => (attempt.event objects).title)
  /-- Only the last update can have been declined, and only the last attempt been short of room. -/
  agreed : ¬ Declined c.report c.trace.dropLast
  served : ∀ attempt ∈ c.attempts.dropLast, attempt.isShort = false
  /-- Whoever claims an object or has one has no reason to stop. -/
  going : c.driver.task = .claiming ∨ c.driver.task.index?.isSome = true → c.Untroubled
  telling : c.driver.task.event?.isSome = true → c.cancelled = false

omit [Loadable α] in
/-- A driver that looks for another object, and may claim it, has no reason to stop. -/
theorem Heeded.untroubled {c : Crew α} (heeded : c.Heeded) {pending : Bool}
    (is : c.driver = .working pending .checking) (workers : c.workers = [])
    (running : c.distributor.aborted = false) : c.Untroubled := by
  have alone : c.tasks = [.checking] := by rw [tasks, is, workers]; rfl
  constructor
  · by_contra cancelled
    rcases heeded.cancelled (Bool.eq_true_of_not_eq_false cancelled) with aborted | ⟨next, aborting⟩
    · rw [running] at aborted
      cases aborted
    · cases is.symm.trans aborting
  · intro attempt mem
    by_contra short
    rcases heeded.shortage ⟨attempt, mem, Bool.eq_true_of_not_eq_false short⟩ with
      aborted | ⟨failure, recording⟩
    · rw [running] at aborted
      cases aborted
    · rw [alone] at recording
      cases List.mem_singleton.mp recording

namespace InTurn

variable {objects : List α} {first : Nat} {s c d : Crew α}

/-- The object in the hands of the driver is the one behind those attempted. -/
theorem index_eq {loaded : Nat} (turn : InTurn objects first s c) (books : c.Accounted first loaded)
    (tally : first + c.attempts.length + c.total Task.inHands = c.distributor.cursor) {i : Nat}
    (holds : c.driver.task.index? = some i) : i = first + c.attempts.length := by
  have untried := books.unattempted List.mem_cons_self holds
  have once := books.once i
  have claimed : 1 ≤ c.total (Task.claims i) := by
    have := c.le_total (List.mem_cons_self : c.driver.task ∈ c.tasks) (Task.claims i)
    simpa [Task.claims, holds] using this
  have hands : c.total Task.inHands = 1 := by
    simp [total, tasks, turn.workers, Task.inHands, holds]
  have others : i ∉ List.range' first c.attempts.length := by
    rw [← turn.indices, List.mem_map]
    rintro ⟨attempt, mem, rfl⟩
    exact absurd (List.countP_eq_zero.mp untried attempt mem) (by simp)
  rw [List.mem_range'_1] at others
  split at once <;> omega

/-- Going on with its task, the driver stays in turn. -/
theorem advance [Titled α] {store : Store} {loaded : Nat} {pending : Bool} {task task' : Task α}
    {bench : Workbench α} (plans : s.plans = objects.map (Loadable.fromFiles store))
    (kept : s.Kept first loaded c) (heeded : c.Heeded)
    (tally : first + c.attempts.length + c.total Task.inHands = c.distributor.cursor)
    (turn : InTurn objects first s c) (is : c.driver = .working pending task)
    (advance : c.toWorkbench.Advance task task' bench) :
    InTurn objects first s { c with toWorkbench := bench, driver := .working pending task' } := by
  have same : c.driver.task = task := by rw [is]; rfl
  have told := turn.told
  rw [same] at told
  rcases advance.event_cases (kept.follows.plans.trans plans)
    (kept.sound.good task (same ▸ List.mem_cons_self)) with
    ⟨attempts, event, claims, holds⟩ | ⟨i, result, holds, attempts, rfl⟩
  · refine ⟨turn.workers, turn.channel, ?_, ?_, turn.agreed, ?_, ?_, ?_⟩
    · rw [attempts]
      exact turn.indices
    · rw [Driver.task, event, attempts]
      exact told
    · rw [attempts]
      exact turn.served
    · rintro (claiming | holding)
      · obtain ⟨rfl, running⟩ := claims claiming
        obtain ⟨goesOn, enough⟩ := heeded.untroubled is turn.workers running
        exact ⟨goesOn, attempts.symm ▸ enough⟩
      · obtain ⟨goesOn, enough⟩ := turn.going (same.symm ▸ holds holding)
        exact ⟨goesOn, attempts.symm ▸ enough⟩
    · intro telling
      exact turn.telling (by rw [same, ← event]; exact telling)
  · -- the attempt on the object in the driver's hands ends
    have held : task.index?.isSome = true := Option.isSome_of_eq_some holds
    obtain ⟨goesOn, enough⟩ := turn.going (Or.inr (same.symm ▸ held))
    obtain rfl := turn.index_eq kept.books tally (same.symm ▸ holds)
    rw [Task.event?_of_index? held, Option.map_none, Option.toList_none, List.append_nil] at told
    refine ⟨turn.workers, turn.channel, ?_, ?_, turn.agreed, ?_, ?_, fun _ => goesOn⟩
    · rw [attempts, List.map_append, turn.indices, List.length_append, List.length_singleton,
        List.range'_1_concat]
      rfl
    · simp only [Driver.task, Task.event?, Option.map_some, Option.toList_some]
      rw [attempts, List.map_append, List.map_singleton, Progress.updates_append, List.length_append,
        List.length_singleton, List.length_map, ← Nat.add_assoc, told, List.append_assoc]
      rfl
    · rw [attempts, List.dropLast_concat]
      exact enough
    · rintro (claiming | holding)
      · cases claiming
      · cases holding

/-- Handling the event of its object, the driver tells of it. -/
theorem handle {loaded : Nat} {event : LoadEvent} {next : Driver α} (kept : s.Kept first loaded c)
    (tally : first + c.attempts.length + c.total Task.inHands = c.distributor.cursor)
    (turn : InTurn objects first s c) (is : c.driver.task = .sending event)
    (checks : next.task = .checking) : InTurn objects first s (c.handle event next) := by
  have goesOn : c.cancelled = false := turn.telling (by rw [is]; rfl)
  have quiet : ¬ Declined c.report c.trace := by
    rw [← kept.steered.declined, goesOn]
    exact Bool.false_ne_true
  have pos : c.distributor.pos = first + c.attempts.length := by
    have lock := kept.books.lock
    simp only [total, tasks, turn.workers, is, List.map_cons, List.map_nil, List.sum_cons, List.sum_nil,
      Task.publishes, Task.inHands, Task.index?] at lock tally
    simp at lock tally
    omega
  have told := turn.told
  rw [is] at told
  have trace : (c.handle event next).trace
      = c.trace ++ [.update (first + c.attempts.length) s.distributor.total event.title] := by
    have tells := congrArg Prod.fst (c.told_handle event next)
    rw [goesOn] at tells
    rw [← pos, ← kept.follows.total]
    exact tells
  have looks : (c.handle event next).driver.task = .checking := by
    rcases c.handle_cases event next with ⟨driver, -⟩ | ⟨driver, -⟩ <;> rw [driver]
    · exact checks
    · exact checks
  refine ⟨?_, ?_, ?_, ?_, ?_, ?_, ?_, ?_⟩
  · rw [handle_workers]
    exact turn.workers
  · rw [handle_channel]
    exact turn.channel
  · rw [handle_toWorkbench]
    exact turn.indices
  · rw [trace, looks, handle_toWorkbench, ← told]
    exact List.append_nil _
  · rw [trace, List.dropLast_concat, handle_report]
    exact quiet
  · rw [handle_toWorkbench]
    exact turn.served
  · rw [looks]
    rintro (claiming | holding)
    · cases claiming
    · cases holding
  · rw [looks]
    intro telling
    cases telling

end InTurn

theorem inTurn_move [Titled α] {store : Store} {objects : List α} {first loaded : Nat}
    {s c d : Crew α} (plans : s.plans = objects.map (Loadable.fromFiles store))
    (kept : s.Kept first loaded c) (heeded : c.Heeded)
    (tally : first + c.attempts.length + c.total Task.inHands = c.distributor.cursor)
    (turn : InTurn objects first s c) (moves : c.Moves d) : InTurn objects first s d := by
  rcases alone_cases turn.workers turn.channel moves with
    ⟨pending, task, task', bench, is, advance, rfl⟩ | ⟨event, next, is, checks, rfl⟩ |
    ⟨bench, next, senders, idle, aborts, rfl⟩
  · exact turn.advance plans kept heeded tally is advance
  · exact turn.handle kept tally is checks
  · -- the attempts have not changed
    have attempts : bench.attempts = c.attempts := by rcases aborts with rfl | rfl <;> rfl
    obtain ⟨workers, channel, indices, told, agreed, served, going, telling⟩ := turn
    rw [← attempts] at indices told served
    rcases idle with same | ⟨stopped, gone⟩
    · rw [← same] at told going telling
      refine ⟨workers, channel, indices, told, agreed, served, fun busy => ?_, telling⟩
      obtain ⟨goesOn, enough⟩ := going busy
      exact ⟨goesOn, attempts.symm ▸ enough⟩
    · -- a task that is over has neither an object nor an event
      rw [stopped] at told
      refine ⟨workers, channel, indices, ?_, agreed, served, ?_, ?_⟩ <;> simp only [gone]
      · exact told
      · rintro (claiming | holding)
        · cases claiming
        · cases holding
      · intro telling
        cases telling

omit [Loadable α] in
/-- A crew that has done nothing has no reason to stop. -/
theorem Fresh.untroubled {first : Nat} {s : Crew α} (fresh : s.Fresh first) : s.Untroubled where
  goesOn := fresh.cancelled
  enough := by simp [fresh.attempts]

omit [Loadable α] in
theorem Fresh.heeded {first : Nat} {s : Crew α} (fresh : s.Fresh first) : s.Heeded where
  cancelled := by simp [fresh.cancelled]
  shortage := by simp [fresh.attempts]

theorem Fresh.inTurn {objects : List α} {first : Nat} {s : Crew α} (fresh : s.Fresh first)
    (alone : s.workers = []) : InTurn objects first s s := by
  have silent : s.driver.task.event? = none := by
    rcases fresh.task_cases with ⟨is, -⟩ | ⟨plan, -, is, -⟩ <;> rw [is] <;> rfl
  refine ⟨alone, fresh.channel, ?_, ?_, ?_, ?_, fun _ => fresh.untroubled, fun _ => fresh.cancelled⟩
  · rw [fresh.attempts]
    rfl
  · rw [silent, fresh.attempts]
    rfl
  · exact fun declined => fresh.quiet (declined.mono <| List.dropLast_prefix _)
  · rw [fresh.attempts]
    exact fun attempt no => absurd no List.not_mem_nil

/-- A driver that was started without workers takes the objects in turn. -/
theorem inTurn_of_reaches [Titled α] {store : Store} {objects : List α} {first : Nat} {s c : Crew α}
    (fresh : s.Fresh first) (plans : s.plans = objects.map (Loadable.fromFiles store))
    (planned : s.objects.length = s.plans.length) (alone : s.workers = []) (reaches : s.Reaches c) :
    InTurn objects first s c := by
  have start : Reported objects first s s [] := reported_start fresh
  induction reaches with
  | refl => exact fresh.inTurn alone
  | tail reaches moves ih =>
      have heeded := reaches_induction reaches fresh.heeded fun _ _ => heeded_move
      have tally := reaches_induction reaches start.tally fun _ _ => tally_move
      exact inTurn_move plans (kept_of_reaches reaches planned fresh.kept) heeded tally ih moves

namespace InTurn

variable {objects : List α} {first loaded : Nat} {s c : Crew α}

/-- When its run is over, the driver has told of the objects that were handed out to it, in order. -/
theorem trace_eq (turn : InTurn objects first s c) (finished : s.Finished first loaded c)
    (total : s.distributor.total = objects.length) (gone : c.driver.task = .gone) :
    c.trace = s.trace ++ Progress.updates s.distributor.total first
      (((objects.map Loadable.title).drop first).take (c.distributor.pos - first)) := by
  have count : c.attempts.length = c.distributor.pos - first := by
    simpa using finished.indices.length_eq
  have inside : first + c.attempts.length ≤ (objects.map Loadable.title).length := by
    have := finished.bound
    have := finished.started
    have := finished.follows.total
    rw [List.length_map]
    omega
  have titles : (c.attempts.map fun attempt => (attempt.event objects).title)
      = ((objects.map Loadable.title).drop first).take c.attempts.length := by
    rw [← map_range'_getElem? inside, ← turn.indices, List.map_map]
    refine List.map_congr_left fun attempt _ => ?_
    rw [Attempt.title_event, Function.comp_apply, List.getElem?_map]
  have told := turn.told
  rw [gone, titles, count] at told
  exact (List.append_nil _).symm.trans told

/-- Whoever was short of room was the last one. -/
theorem isShort_last (turn : InTurn objects first s c) (finished : s.Finished first loaded c)
    {attempt : Attempt LoadError} (mem : attempt ∈ c.attempts) (short : attempt.isShort = true) :
    attempt.index + 1 = c.distributor.pos := by
  have count : c.attempts.length = c.distributor.pos - first := by
    simpa using finished.indices.length_eq
  have indices := turn.indices
  have served := turn.served
  rcases c.attempts.eq_nil_or_concat' with none | ⟨earlier, last, is⟩
  · rw [none] at mem
    exact absurd mem List.not_mem_nil
  · rw [is, List.dropLast_concat] at served
    rw [is, List.length_append, List.length_singleton] at count indices
    rw [List.map_append, List.range'_1_concat] at indices
    have here : last.index = first + earlier.length :=
      List.singleton_inj.mp (List.append_inj_right' indices rfl)
    rcases List.mem_append.mp (is ▸ mem) with before | atLast
    · rw [served attempt before] at short
      cases short
    · rw [List.mem_singleton.mp atLast, here]
      omega

end InTurn

end Crew

end Windchest
