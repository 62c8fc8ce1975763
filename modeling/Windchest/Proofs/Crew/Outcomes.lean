/-
# Windchest.Proofs.Crew.Outcomes -- what the attempts of a crew do to the objects

A task follows the plan of the object it has in its hands (`Task.Good`), and when an
attempt ends, the object is what the end of its plan makes of it, for good
(`Attempt.Settled`): nobody else has the object, and the blocks it holds stay where
they are.  Objects without an attempt are those the crew started with.

`HasRoom` is the case in which the arena could serve everything that is still to be
reserved.  Then no attempt is short of room, whatever the other threads do.
-/
import Windchest.Proofs.Arena.Plans
import Windchest.Proofs.Crew.Ledger

namespace Windchest

set_option autoImplicit false

variable {α : Type}

/-- The object after an attempt, with the message noted on it if the attempt failed. -/
def settle [Loadable α] (object : α) : Except (Setback LoadError) Unit → α
  | .ok () => object
  | .error why => Loadable.fail why.message object

/-- The objects and the arena show how an attempt ended. -/
def Attempt.Settled [Loadable α] (plans : List (Plan α LoadError)) (objects : List α) (a : Arena)
    (attempt : Attempt LoadError) : Prop :=
  ∃ plan object, plans[attempt.index]? = some plan ∧ plan.Ends a object attempt.result ∧
    objects[attempt.index]? = some (settle object attempt.result)

/-- Whether the arena had no room for the object. -/
def Attempt.isShort {ε : Type} (attempt : Attempt ε) : Bool :=
  match attempt.result with
  | .ok () => false
  | .error why => why.isOutOfMemory

namespace Task

/-- The bytes that a task is going to reserve. -/
def needs : Task α → Nat
  | publishing _ plan => plan.bytes
  | reserving _ _ _ demands => (demands.map Demand.bytes).sum
  | _ => 0

/-- One if the task gives an object up for want of room. -/
def starves : Task α → Nat
  | dropping _ _ why _ => if why.isOutOfMemory then 1 else 0
  | _ => 0

/-- The task has followed the plan of its object so far. -/
def Good (plans : List (Plan α LoadError)) (a : Arena) : Task α → Prop
  | publishing i plan => plans[i]? = some plan
  | reserving i plan held demands =>
    plans[i]? = some plan ∧ ∃ placed, plan.demands = placed ++ demands ∧
      held = placed.map Demand.buffer ∧ ∀ d ∈ placed, d.Fits
  | committing i install blocks held =>
    ∃ plan, plans[i]? = some plan ∧ plan.promised = .ok install ∧
      ∃ committed, a.Resolves blocks committed ∧ committed ++ held.map (·.samples) = plan.contents
  | dropping i object why _ =>
    ∃ plan, plans[i]? = some plan ∧ plan.Ends a object (.error why)
  | _ => True

theorem Good.of_grows {plans : List (Plan α LoadError)} {a b : Arena} {task : Task α}
    (good : task.Good plans a) (grows : a.Grows b) : task.Good plans b := by
  cases task with
  | committing i install blocks held =>
      obtain ⟨plan, planned, promised, committed, resolved, all⟩ := good
      exact ⟨plan, planned, promised, committed, resolved.of_grows grows, all⟩
  | dropping i object why held =>
      obtain ⟨plan, planned, ends⟩ := good
      exact ⟨plan, planned, ends.of_grows grows⟩
  | _ => exact good

end Task

variable [Loadable α]

namespace Attempt.Settled

variable {plans : List (Plan α LoadError)} {objects : List α} {a b : Arena}
  {attempt : Attempt LoadError}

/-- What an attempt has come to stays, whatever is reserved and committed later. -/
theorem of_grows (settled : attempt.Settled plans objects a) (grows : a.Grows b) :
    attempt.Settled plans objects b := by
  obtain ⟨plan, object, planned, ends, is⟩ := settled
  exact ⟨plan, object, planned, ends.of_grows grows, is⟩

/-- The end of an attempt on another object makes no difference. -/
theorem set (settled : attempt.Settled plans objects a) {i : Nat} (other : i ≠ attempt.index)
    (object : α) : attempt.Settled plans (objects.set i object) a := by
  obtain ⟨plan, before, planned, ends, is⟩ := settled
  refine ⟨plan, before, planned, ends, ?_⟩
  rw [List.getElem?_set_ne other]
  exact is

end Attempt.Settled

namespace Workbench

variable {b b' : Workbench α} {task task' : Task α}

theorem Advance.good (advance : b.Advance task task' b') (good : task.Good b.plans b.arena) :
    task'.Good b'.plans b'.arena := by
  cases advance with
  | claim plan free left planned => exact planned
  | publish i plan =>
      refine ⟨good, [], rfl, rfl, ?_⟩
      simp
  | accept i plan held install verdict =>
      obtain ⟨planned, placed, demands, rfl, fits⟩ := good
      rw [List.append_nil] at demands
      refine ⟨plan, planned, Plan.promised_of_ok (demands ▸ fits) verdict, [], .nil _, ?_⟩
      rw [Plan.contents, demands, List.map_map]
      rfl
  | reject i plan held why verdict =>
      obtain ⟨planned, placed, demands, rfl, fits⟩ := good
      rw [List.append_nil] at demands
      exact ⟨plan, planned, .failed _ (Plan.promised_of_error (demands ▸ fits) verdict)⟩
  | reserve i plan held d rest room fits =>
      obtain ⟨planned, placed, demands, rfl, placedFit⟩ := good
      refine ⟨planned, placed ++ [d], ?_, ?_, ?_⟩
      · rw [demands, List.append_assoc, List.singleton_append]
      · rw [List.map_append, List.map_singleton]
      · intro e mem
        rcases List.mem_append.mp mem with earlier | last
        · exact placedFit e earlier
        · rw [List.mem_singleton.mp last]
          exact fits
  | refuse i plan held d rest why full => exact ⟨plan, good.1, .short why⟩
  | overflow i plan held d rest room tooLarge =>
      obtain ⟨planned, placed, demands, -⟩ := good
      have mem : d ∈ plan.demands := demands ▸ List.mem_append_right _ List.mem_cons_self
      exact ⟨plan, planned, .failed _ (Plan.promised_of_large mem tooLarge)⟩
  | commit i make blocks buffer rest =>
      have kept := good.of_grows (Arena.grows_commit b.arena buffer)
      obtain ⟨plan, planned, promised, committed, resolved, all⟩ := kept
      refine ⟨plan, planned, promised, committed ++ [buffer.samples],
        resolved.append (Arena.block?_commit _ _), ?_⟩
      rw [← all, List.append_assoc]
      rfl
  | giveBack i object why buffer rest =>
      obtain ⟨plan, planned, ends⟩ := good
      exact ⟨plan, planned, ends.of_grows (Arena.grows_drop _ _)⟩
  | _ => trivial

/-- Going on with a task, the arena spends no more than is no longer needed. -/
theorem Advance.spends (advance : b.Advance task task' b') :
    b'.arena.used + task'.needs + ((b'.plans.drop b'.distributor.cursor).map Plan.bytes).sum
      ≤ b.arena.used + task.needs + ((b.plans.drop b.distributor.cursor).map Plan.bytes).sum := by
  cases advance with
  | claim plan free left planned =>
      obtain ⟨bound, is⟩ := List.getElem?_eq_some_iff.mp planned
      rw [List.drop_eq_getElem_cons bound, is]
      simp only [Task.needs, List.map_cons, List.sum_cons]
      omega
  | publish i plan => exact Nat.le_refl _
  | reserve i plan held d rest room fits =>
      simp only [Task.needs, Arena.spend, List.map_cons, List.sum_cons]
      omega
  | overflow i plan held d rest room tooLarge =>
      simp only [Task.needs, Arena.spend, List.map_cons, List.sum_cons]
      omega
  | giveBack i object why buffer rest =>
      simp only [Task.needs, Arena.drop]
      omega
  | _ =>
      simp only [Task.needs, Arena.commit, Distributor.recordLoaded, Distributor.abort]
      omega

/-- With room for what the task needs, it does not become short of it. -/
theorem Advance.sated (advance : b.Advance task task' b')
    (room : b.arena.used + task.needs ≤ b.arena.capacity) (sated : task.starves = 0) :
    task'.starves = 0 ∧ b'.attempts.countP (·.isShort) = b.attempts.countP (·.isShort) := by
  cases advance with
  | refuse i plan held d rest why full =>
      simp only [Task.needs, List.map_cons, List.sum_cons] at room
      omega
  | reject i plan held why verdict => cases why <;> exact ⟨rfl, rfl⟩
  | giveUp i object why =>
      have enough : why.isOutOfMemory = false := by simpa [Task.starves] using sated
      refine ⟨rfl, ?_⟩
      rw [List.countP_append, List.countP_singleton]
      simp [Attempt.isShort, enough]
  | giveBack i object why buffer rest => exact ⟨sated, rfl⟩
  | install i make blocks =>
      refine ⟨rfl, ?_⟩
      rw [List.countP_append, List.countP_singleton]
      rfl
  | _ => exact ⟨rfl, rfl⟩

/-- What going on with a task does to the objects and to the list of attempts: nothing, or it ends
the attempt on the object that the task has in its hands. -/
theorem Advance.attempt (advance : b.Advance task task' b') (good : task.Good b.plans b.arena) :
    (b'.objects = b.objects ∧ b'.attempts = b.attempts) ∨
      ∃ (i : Nat) (plan : Plan α LoadError) (object : α) (result : Except (Setback LoadError) Unit),
        task.index? = some i ∧ b.plans[i]? = some plan ∧ plan.Ends b.arena object result ∧
          b'.objects = b.objects.set i (settle object result) ∧
          b'.attempts = b.attempts ++ [⟨i, result⟩] := by
  cases advance with
  | install i make blocks =>
      obtain ⟨plan, planned, promised, committed, resolved, all⟩ := good
      rw [List.map_nil, List.append_nil] at all
      subst all
      exact Or.inr ⟨i, plan, make blocks, .ok (), rfl, planned, .loaded make blocks promised resolved,
        rfl, rfl⟩
  | giveUp i object why =>
      obtain ⟨plan, planned, ends⟩ := good
      exact Or.inr ⟨i, plan, object, .error why, rfl, planned, ends, rfl, rfl⟩
  | _ => exact Or.inl ⟨rfl, rfl⟩

end Workbench

namespace Crew

/-- Every task and every attempt has done to the objects what the plans say; the others are those
of the crew `s`. -/
structure Sound (s c : Crew α) : Prop where
  good : ∀ task ∈ c.tasks, task.Good c.plans c.arena
  settled : ∀ attempt ∈ c.attempts, attempt.Settled c.plans c.objects c.arena
  untouched : ∀ i, c.attempts.countP (·.index == i) = 0 → c.objects[i]? = s.objects[i]?

theorem sound_move {s c d : Crew α} {first loaded : Nat} (books : c.Accounted first loaded)
    (planned : c.objects.length = c.plans.length) (sound : s.Sound c) (moves : c.Moves d) :
    s.Sound d := by
  have follows := follows_move moves
  obtain ⟨task, task', swap, bench⟩ := moves_bench moves
  have others (newGood : task'.Good d.plans d.arena) :
      ∀ t ∈ d.tasks, t.Good d.plans d.arena := by
    intro t mem
    rcases swap.mem_after mem with rfl | before
    · exact newGood
    · rw [follows.plans]
      exact (sound.good t before).of_grows follows.grows
  have settled : ∀ attempt ∈ c.attempts, attempt.Settled d.plans c.objects d.arena := by
    intro attempt mem
    rw [follows.plans]
    exact (sound.settled attempt mem).of_grows follows.grows
  rcases bench with advance | ⟨idle, bench⟩
  · have good := sound.good task swap.old_mem
    have tasks := others (advance.good good)
    rcases advance.attempt good with ⟨objects, attempts⟩ |
      ⟨i, plan, object, result, claims, at_i, ends, objects, attempts⟩
    · refine ⟨tasks, ?_, ?_⟩
      · rw [attempts, objects]
        exact settled
      · rw [attempts, objects]
        exact sound.untouched
    · have none := books.unattempted swap.old_mem claims
      refine ⟨tasks, ?_, ?_⟩
      · rw [attempts, objects]
        intro attempt mem
        rcases List.mem_append.mp mem with earlier | last
        · -- the object of an earlier attempt is another one
          have other : i ≠ attempt.index := by
            rintro rfl
            exact absurd (List.countP_eq_zero.mp none attempt earlier) (by simp)
          exact (settled attempt earlier).set other _
        · obtain rfl := List.mem_singleton.mp last
          have bound : i < c.objects.length := by
            rw [planned]
            exact (List.getElem?_eq_some_iff.mp at_i).1
          refine ⟨plan, object, ?_, ends.of_grows follows.grows, List.getElem?_set_self bound⟩
          rw [follows.plans]
          exact at_i
      · rw [attempts, objects]
        intro j untried
        rw [List.countP_append, List.countP_singleton] at untried
        have other : i ≠ j := by
          rintro rfl
          simp at untried
        rw [List.getElem?_set_ne other]
        exact sound.untouched j (by omega)
  · have newGood : task'.Good d.plans d.arena := by
      cases idle with
      | same =>
          rw [follows.plans]
          exact (sound.good _ swap.old_mem).of_grows follows.grows
      | sent event => trivial
      | left => trivial
    have attempts : d.attempts = c.attempts := by
      rcases bench with bench | bench <;> simp [bench]
    have objects : d.objects = c.objects := by
      rcases bench with bench | bench <;> simp [bench]
    refine ⟨others newGood, ?_, ?_⟩
    · rw [attempts, objects]
      exact settled
    · rw [attempts, objects]
      exact sound.untouched

/-- The bytes that all tasks and all objects not handed out yet may still reserve. -/
def demand (c : Crew α) : Nat :=
  c.total Task.needs + ((c.plans.drop c.distributor.cursor).map Plan.bytes).sum

/-- The arena can serve everything that is still to be reserved, and no object has been short of
room. -/
structure HasRoom (c : Crew α) : Prop where
  room : c.arena.used + c.demand ≤ c.arena.capacity
  sated : c.total Task.starves = 0
  served : c.attempts.countP (·.isShort) = 0

theorem hasRoom_move {c d : Crew α} (hasRoom : c.HasRoom) (moves : c.Moves d) : d.HasRoom := by
  have follows := follows_move moves
  have capacity := follows.grows.capacity
  obtain ⟨task, task', swap, bench⟩ := moves_bench moves
  have needs : d.total Task.needs + task.needs = c.total Task.needs + task'.needs := swap.sum _
  have starves : d.total Task.starves + task.starves = c.total Task.starves + task'.starves :=
    swap.sum _
  have owned := c.le_total swap.old_mem Task.needs
  obtain ⟨room, sated, served⟩ := hasRoom
  unfold demand at room
  rcases bench with advance | ⟨idle, bench⟩
  · have spent := advance.spends
    have := c.le_total swap.old_mem Task.starves
    obtain ⟨newSated, still⟩ := advance.sated (by omega) (by omega)
    refine ⟨?_, ?_, ?_⟩
    · unfold demand
      omega
    · omega
    · rw [still, served]
  · have quiet : task'.needs = task.needs ∧ task'.starves = task.starves := by
      cases idle <;> exact ⟨rfl, rfl⟩
    rcases bench with bench | bench
    · refine ⟨?_, by omega, by rw [bench]; exact served⟩
      unfold demand
      rw [bench] at capacity ⊢
      omega
    · refine ⟨?_, by omega, by rw [bench]; exact served⟩
      unfold demand
      rw [bench] at capacity ⊢
      simp only [Workbench.stop_arena, Workbench.stop_plans, Workbench.stop_cursor]
      omega

end Crew

end Windchest
