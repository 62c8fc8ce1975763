/-
# Windchest.Proofs.Crew.Footprint -- what a crew takes of the arena

While the threads of a crew reserve, commit and give back buffers, every byte in use
beyond those at the start is held for an object that some thread has in its hands
(`Task.holds`), or belongs to an object that was loaded.  The same is true of the blocks
(`Task.laid`).  A step moves bytes from one of these places to another, or takes or
returns them, and the two sides stay equal (`Crew.Balanced`).

At rest nobody holds anything, so what is left in use is what the plans of the loaded
objects have asked for (`Crew.footprint_of_reaches`).
-/
import Windchest.Proofs.Crew.Finish

namespace Windchest

set_option autoImplicit false

variable {α : Type} {size : Plan α LoadError → Nat} {plans : List (Plan α LoadError)}

/-- The size of the plan at an index. -/
def sizeAt (size : Plan α LoadError → Nat) (plans : List (Plan α LoadError)) (i : Nat) : Nat :=
  (plans[i]?.map size).getD 0

theorem sizeAt_of_planned {plan : Plan α LoadError} {i : Nat} (planned : plans[i]? = some plan) :
    sizeAt size plans i = size plan := by
  rw [sizeAt, planned]
  rfl

/-- What an attempt has added for good: the size of its plan, if it has succeeded. -/
def Attempt.gain (size : Plan α LoadError → Nat) (plans : List (Plan α LoadError))
    (attempt : Attempt LoadError) : Nat :=
  if attempt.succeeded then sizeAt size plans attempt.index else 0

/-- What all attempts have added for good. -/
def gained (size : Plan α LoadError → Nat) (plans : List (Plan α LoadError))
    (attempts : List (Attempt LoadError)) : Nat :=
  (attempts.map (Attempt.gain size plans)).sum

theorem gained_ok (attempts : List (Attempt LoadError)) (i : Nat) :
    gained size plans (attempts ++ [⟨i, .ok ()⟩]) = gained size plans attempts + sizeAt size plans i := by
  rw [gained, List.map_append, List.sum_append]
  rfl

theorem gained_error (attempts : List (Attempt LoadError)) (i : Nat) (why : Setback LoadError) :
    gained size plans (attempts ++ [⟨i, .error why⟩]) = gained size plans attempts := by
  rw [gained, List.map_append, List.sum_append]
  rfl

/-- What was gained can be read off the objects that were loaded. -/
theorem gained_eq {objects : List α} (weight : α → Nat) {attempts : List (Attempt LoadError)}
    (weighs : ∀ attempt ∈ attempts, attempt.succeeded = true →
      ∃ object, objects[attempt.index]? = some object ∧
        sizeAt size plans attempt.index = weight object) :
    gained size plans attempts
      = ((((attempts.filter (·.succeeded)).map (·.index)).filterMap fun i => objects[i]?).map
          weight).sum := by
  induction attempts with
  | nil => rfl
  | cons attempt rest ih =>
      rw [List.forall_mem_cons] at weighs
      obtain ⟨first, later⟩ := weighs
      rw [gained, List.map_cons, List.sum_cons, Attempt.gain]
      by_cases succeeded : attempt.succeeded = true
      · obtain ⟨object, is, weight_is⟩ := first succeeded
        rw [if_pos succeeded, List.filter_cons_of_pos succeeded, List.map_cons,
          List.filterMap_cons_some is, List.map_cons, List.sum_cons, weight_is, ← ih later]
        rfl
      · rw [if_neg succeeded, List.filter_cons_of_neg succeeded, Nat.zero_add, ← ih later]
        rfl

namespace Task

/-- The bytes in use for the object in the hands of a task. -/
def holds (plans : List (Plan α LoadError)) : Task α → Nat
  | reserving _ _ held _ => (held.map (·.bytes)).sum
  | committing i _ _ _ => sizeAt Plan.bytes plans i
  | dropping _ _ _ held => (held.map (·.bytes)).sum
  | _ => 0

/-- The blocks committed for the object in the hands of a task. -/
def laid : Task α → Nat
  | committing _ _ blocks _ => blocks.length
  | _ => 0

end Task

variable [Loadable α]

namespace Workbench

variable {b b' : Workbench α} {task task' : Task α}

/-- Every request is one that a buffer can hold. -/
def Modest (b : Workbench α) : Prop := ∀ plan ∈ b.plans, ∀ d ∈ plan.demands, d.Fits

/-- Going on with a task, the bytes in use change by those held and those gained. -/
theorem Advance.holds (advance : b.Advance task task' b') (good : task.Good b.plans b.arena)
    (modest : b.Modest) (covered : task.holds b.plans ≤ b.arena.used) :
    b'.arena.used + task.holds b.plans + gained Plan.bytes b.plans b.attempts
      = b.arena.used + task'.holds b.plans + gained Plan.bytes b.plans b'.attempts := by
  cases advance with
  | accept i plan held install verdict =>
      obtain ⟨planned, placed, demands, rfl, -⟩ := good
      simp only [Task.holds, sizeAt_of_planned planned, Plan.bytes, demands, List.append_nil, List.map_map]
      rfl
  | reserve i plan held d rest room fits =>
      simp only [Task.holds, Arena.spend, Demand.buffer, List.map_append, List.map_singleton,
        List.sum_append, List.sum_singleton]
      omega
  | overflow i plan held d rest room tooLarge =>
      obtain ⟨planned, placed, demands, -⟩ := good
      have mem : d ∈ plan.demands := demands ▸ List.mem_append_right _ List.mem_cons_self
      exact absurd (modest plan (List.mem_of_getElem? planned) d mem) tooLarge
  | install i make blocks =>
      rw [gained_ok]
      simp only [Task.holds]
      omega
  | giveUp i object why =>
      rw [gained_error]
      rfl
  | giveBack i object why buffer rest =>
      simp only [Task.holds, Arena.drop, List.map_cons, List.sum_cons] at covered ⊢
      omega
  | _ => rfl

/-- Going on with a task, the blocks change by those laid and those gained. -/
theorem Advance.laid (advance : b.Advance task task' b') (good : task.Good b.plans b.arena) :
    b'.arena.blocks.length + task.laid + gained (·.demands.length) b.plans b.attempts
      = b.arena.blocks.length + task'.laid + gained (·.demands.length) b.plans b'.attempts := by
  cases advance with
  | install i make blocks =>
      obtain ⟨plan, planned, -, committed, resolved, all⟩ := good
      have length : blocks.length = plan.demands.length := by
        rw [List.map_nil, List.append_nil] at all
        rw [resolved.length, all]
        exact List.length_map _
      rw [gained_ok, sizeAt_of_planned planned]
      simp only [Task.laid, length]
      omega
  | commit i make blocks buffer rest =>
      simp only [Task.laid, Arena.commit, List.length_append, List.length_singleton]
      omega
  | giveUp i object why =>
      rw [gained_error]
      rfl
  | _ => rfl

end Workbench

namespace Crew

/-- What is in use beyond what was at the start is held for an object in some thread's hands, or was
gained by an attempt that succeeded. -/
structure Balanced (s c : Crew α) : Prop where
  used : c.arena.used
    = s.arena.used + c.total (Task.holds c.plans) + gained Plan.bytes c.plans c.attempts
  blocks : c.arena.blocks.length
    = s.arena.blocks.length + c.total Task.laid + gained (·.demands.length) c.plans c.attempts

theorem balanced_move {s c d : Crew α} (sound : s.Sound c) (modest : c.Modest)
    (balanced : s.Balanced c) (moves : c.Moves d) : s.Balanced d := by
  have plans := (follows_move moves).plans
  obtain ⟨task, task', swap, bench⟩ := moves_bench moves
  have holds : d.total (Task.holds c.plans) + task.holds c.plans
      = c.total (Task.holds c.plans) + task'.holds c.plans := swap.sum _
  have laid : d.total Task.laid + task.laid = c.total Task.laid + task'.laid := swap.sum _
  obtain ⟨used, blocks⟩ := balanced
  rcases bench with advance | ⟨idle, bench⟩
  · have good := sound.good task swap.old_mem
    have covered := c.le_total swap.old_mem (Task.holds c.plans)
    have bytes := advance.holds good modest (by omega)
    have count := advance.laid good
    constructor
    · rw [plans]
      omega
    · rw [plans]
      omega
  · -- the task holds nothing before and after
    have quiet : task'.holds c.plans = task.holds c.plans ∧ task'.laid = task.laid := by
      cases idle <;> exact ⟨rfl, rfl⟩
    have arena : d.arena = c.arena := by
      rcases bench with bench | bench <;> simp [bench]
    have attempts : d.attempts = c.attempts := by
      rcases bench with bench | bench <;> simp [bench]
    constructor
    · rw [plans, arena, attempts]
      omega
    · rw [plans, arena, attempts]
      omega

omit [Loadable α] in
theorem Fresh.balanced {first : Nat} {s : Crew α} (fresh : s.Fresh first) : s.Balanced s := by
  constructor
  · rw [fresh.attempts, fresh.total_eq rfl]
    rcases fresh.task_cases with ⟨is, -⟩ | ⟨plan, -, is, -⟩ <;> rw [is] <;> rfl
  · rw [fresh.attempts, fresh.total_eq rfl]
    rcases fresh.task_cases with ⟨is, -⟩ | ⟨plan, -, is, -⟩ <;> rw [is] <;> rfl

theorem balanced_of_reaches {first : Nat} {s c : Crew α} (fresh : s.Fresh first)
    (planned : s.objects.length = s.plans.length) (modest : s.Modest) (reaches : s.Reaches c) :
    s.Balanced c := by
  have both : s.Reaches c ∧ s.Balanced c := by
    refine reaches_induction (P := fun c => s.Reaches c ∧ s.Balanced c) reaches
      ⟨.refl, fresh.balanced⟩ ?_
    rintro c d ⟨sofar, balanced⟩ moves
    have kept := kept_of_reaches sofar planned fresh.kept
    have still : c.Modest := by
      rw [Workbench.Modest, kept.follows.plans]
      exact modest
    exact ⟨sofar.tail moves, balanced_move kept.sound still balanced moves⟩
  exact both.2

/-- **What a crew leaves in use is what the plans of the objects have asked for that it has
loaded**, in whatever order its threads take their steps. -/
theorem footprint_of_reaches {first : Nat} {s c : Crew α} (fresh : s.Fresh first)
    (planned : s.objects.length = s.plans.length) (total : s.distributor.total = s.plans.length)
    (modest : s.Modest) (reaches : s.Reaches c) (rest : c.AtRest) :
    c.arena.used = s.arena.used + gained Plan.bytes c.plans c.attempts ∧
      c.arena.blocks.length
        = s.arena.blocks.length + gained (·.demands.length) c.plans c.attempts := by
  have kept := kept_of_reaches reaches planned fresh.kept
  obtain ⟨used, blocks⟩ := balanced_of_reaches fresh planned modest reaches
  obtain ⟨-, gone⟩ := kept.gone_of_atRest (Nat.le_of_eq total) rest
  rw [total_of_gone gone rfl] at used blocks
  exact ⟨used, blocks⟩

end Crew

end Windchest
