/-
# Windchest.Proofs.Crew.Ledger -- every object is loaded by one thread, once

However the steps of a crew are interleaved, each index that the cursor has passed is
either in the hands of exactly one thread or has exactly one finished attempt
(`Crew.Accounted.once`).  The cursor is ahead of the position by the threads that hold
its lock, of which there is at most one, and the objects counted as loaded are the
attempts that succeeded, as far as these have been recorded.

`Crew.Follows` is what no step changes: the plans, the reporter, the number of
objects, and every block that is in the arena already.
-/
import Windchest.Proofs.Crew.Steps

namespace Windchest

set_option autoImplicit false

/-- Whether the object was loaded. -/
def Attempt.succeeded {ε : Type} (a : Attempt ε) : Bool := a.result.isOk

variable {α : Type}

namespace Task

/-- The index of the object that a task has in its hands. -/
def index? : Task α → Option Nat
  | publishing i _ => some i
  | reserving i _ _ _ => some i
  | committing i _ _ _ => some i
  | dropping i _ _ _ => some i
  | _ => none

/-- One if the task has that object in its hands. -/
def claims (i : Nat) (task : Task α) : Nat := if task.index? = some i then 1 else 0

/-- One if the task holds the lock on the cursor. -/
def publishes : Task α → Nat
  | publishing _ _ => 1
  | _ => 0

/-- One if the task is about to count an object as loaded. -/
def unrecorded : Task α → Nat
  | recording (.loaded _) => 1
  | _ => 0

end Task

namespace Workbench

variable [Loadable α] {b b' : Workbench α} {task task' : Task α}

/-- An index stays accounted for when a task goes on; a claim adds the one at the cursor. -/
theorem Advance.once (advance : b.Advance task task' b') (i : Nat) :
    b'.attempts.countP (·.index == i) + task'.claims i + (if i < b.distributor.cursor then 1 else 0)
      = b.attempts.countP (·.index == i) + task.claims i
        + (if i < b'.distributor.cursor then 1 else 0) := by
  cases advance with
  | claim plan free left planned =>
      have next : i < b.distributor.cursor + 1 ↔ b.distributor.cursor = i ∨ i < b.distributor.cursor := by
        omega
      simp only [Task.claims, Task.index?, Option.some.injEq, reduceCtorEq, if_false, next]
      split_ifs <;> omega
  | install j make blocks =>
      simp only [Task.claims, Task.index?, List.countP_append, List.countP_singleton, beq_iff_eq,
        Option.some.injEq, reduceCtorEq, if_false]
      omega
  | giveUp j object why =>
      simp only [Task.claims, Task.index?, List.countP_append, List.countP_singleton, beq_iff_eq,
        Option.some.injEq, reduceCtorEq, if_false]
      omega
  | _ => rfl

/-- The cursor is ahead of the position by the tasks that hold its lock. -/
theorem Advance.lock (advance : b.Advance task task' b') :
    b'.distributor.cursor + b.distributor.pos + task.publishes
      = b.distributor.cursor + b'.distributor.pos + task'.publishes := by
  cases advance
  all_goals
    simp only [Task.publishes, Distributor.publish, Distributor.recordLoaded, Distributor.abort]
  all_goals
    omega

/-- Whoever takes the lock found it free. -/
theorem Advance.alone (advance : b.Advance task task' b') :
    task'.publishes = 0 ∨ b.distributor.Free ∧ task'.publishes = 1 := by
  cases advance with
  | claim plan free left planned => exact Or.inr ⟨free, rfl⟩
  | _ => exact Or.inl rfl

/-- A success is recorded once. -/
theorem Advance.loaded (advance : b.Advance task task' b') :
    b'.distributor.loaded + task'.unrecorded + b.attempts.countP (·.succeeded)
      = b.distributor.loaded + task.unrecorded + b'.attempts.countP (·.succeeded) := by
  cases advance with
  | install i make blocks =>
      rw [List.countP_append, List.countP_singleton]
      simp only [Task.unrecorded, Attempt.succeeded, Except.isOk, Except.toBool, if_true]
      omega
  | giveUp i object why =>
      rw [List.countP_append, List.countP_singleton]
      rfl
  | recordLoaded title =>
      simp only [Task.unrecorded, Distributor.recordLoaded]
  | _ => rfl

/-- The cursor only advances, and not beyond the last object. -/
theorem Advance.cursor (advance : b.Advance task task' b')
    (bound : b.distributor.cursor ≤ b.distributor.total) :
    b.distributor.cursor ≤ b'.distributor.cursor ∧
      b'.distributor.cursor ≤ b'.distributor.total := by
  cases advance with
  | claim plan free left planned => exact ⟨Nat.le_succ _, left⟩
  | _ => exact ⟨Nat.le_refl _, bound⟩

/-- What going on with a task does not change, or only adds to. -/
theorem Advance.keeps (advance : b.Advance task task' b') :
    b'.plans = b.plans ∧ b'.distributor.total = b.distributor.total ∧
      b'.objects.length = b.objects.length ∧ b.distributor.pos ≤ b'.distributor.pos ∧
        b.arena.Grows b'.arena := by
  cases advance with
  | install => exact ⟨rfl, rfl, List.length_set, Nat.le_refl _, .refl _⟩
  | giveUp => exact ⟨rfl, rfl, List.length_set, Nat.le_refl _, .refl _⟩
  | commit => exact ⟨rfl, rfl, rfl, Nat.le_refl _, Arena.grows_commit _ _⟩
  | giveBack => exact ⟨rfl, rfl, rfl, Nat.le_refl _, Arena.grows_drop _ _⟩
  | publish => exact ⟨rfl, rfl, rfl, Nat.le_succ _, .refl _⟩
  | _ => exact ⟨rfl, rfl, rfl, Nat.le_refl _, ⟨rfl, rfl, List.prefix_rfl⟩⟩

end Workbench

namespace Crew

/-- What no step of a crew changes, or only adds to. -/
structure Follows (s c : Crew α) : Prop where
  plans : c.plans = s.plans
  report : c.report = s.report
  total : c.distributor.total = s.distributor.total
  length : c.objects.length = s.objects.length
  ahead : s.distributor.pos ≤ c.distributor.pos
  grows : s.arena.Grows c.arena

theorem Follows.refl (c : Crew α) : c.Follows c := ⟨rfl, rfl, rfl, rfl, Nat.le_refl _, .refl _⟩

theorem Follows.trans {s c d : Crew α} (first : s.Follows c) (second : c.Follows d) :
    s.Follows d where
  plans := second.plans.trans first.plans
  report := second.report.trans first.report
  total := second.total.trans first.total
  length := second.length.trans first.length
  ahead := Nat.le_trans first.ahead second.ahead
  grows := first.grows.trans second.grows

/-- The books of a crew that started at the index `first`, when so many objects were loaded. -/
structure Accounted (first loaded : Nat) (c : Crew α) : Prop where
  /-- Every index that was handed out is in the hands of one thread or has one attempt. -/
  once : ∀ i, c.attempts.countP (·.index == i) + c.total (Task.claims i)
    = if first ≤ i ∧ i < c.distributor.cursor then 1 else 0
  started : first ≤ c.distributor.cursor
  bound : c.distributor.cursor ≤ c.distributor.total
  lock : c.distributor.cursor = c.distributor.pos + c.total Task.publishes
  alone : c.total Task.publishes ≤ 1
  loaded : c.distributor.loaded + c.total Task.unrecorded
    = loaded + c.attempts.countP (·.succeeded)

/-- The attempts and the cursor tell that nobody else has an object that a task has. -/
theorem Accounted.unattempted {first loaded : Nat} {c : Crew α} (books : c.Accounted first loaded)
    {task : Task α} (mem : task ∈ c.tasks) {i : Nat} (claims : task.index? = some i) :
    c.attempts.countP (·.index == i) = 0 := by
  have once := books.once i
  have counted : 1 ≤ c.total (Task.claims i) := by
    have := c.le_total mem (Task.claims i)
    simpa [Task.claims, claims] using this
  split at once <;> omega

variable [Loadable α]

theorem report_move {c d : Crew α} (moves : c.Moves d) : d.report = c.report := by
  obtain ⟨task, task', -, effect⟩ := moves_cases moves
  cases effect <;> simp

theorem follows_move {c d : Crew α} (moves : c.Moves d) : c.Follows d := by
  obtain ⟨task, task', -, bench⟩ := moves_bench moves
  have report := report_move moves
  rcases bench with advance | ⟨-, same | stopped⟩
  · obtain ⟨plans, total, length, ahead, grows⟩ := advance.keeps
    exact ⟨plans, report, total, length, ahead, grows⟩
  · constructor <;> simp [same, report, Arena.Grows.refl]
  · constructor <;> simp [stopped, report, Arena.Grows.refl]

/-- The cursor stays ahead of the position by the threads that hold its lock. -/
theorem lock_move {c d : Crew α}
    (lock : c.distributor.cursor = c.distributor.pos + c.total Task.publishes) (moves : c.Moves d) :
    d.distributor.cursor = d.distributor.pos + d.total Task.publishes := by
  obtain ⟨task, task', swap, bench⟩ := moves_bench moves
  have sum : d.total Task.publishes + task.publishes = c.total Task.publishes + task'.publishes :=
    swap.sum _
  rcases bench with advance | ⟨idle, bench⟩
  · have := advance.lock
    omega
  · have quiet : task'.publishes = task.publishes := by
      cases idle <;> rfl
    rcases bench with bench | bench <;> rw [bench]
    · omega
    · rw [Workbench.stop_cursor, Workbench.stop_pos]
      omega

theorem accounted_move {first loaded : Nat} {c d : Crew α} (books : c.Accounted first loaded)
    (moves : c.Moves d) : d.Accounted first loaded := by
  have lockAfter := lock_move books.lock moves
  obtain ⟨task, task', swap, bench⟩ := moves_bench moves
  have sum (f : Task α → Nat) : d.total f + f task = c.total f + f task' := swap.sum f
  obtain ⟨once, started, bound, lock, alone, loadedSum⟩ := books
  rcases bench with advance | ⟨idle, bench⟩
  · have ahead := advance.cursor bound
    refine ⟨?_, started.trans ahead.1, ahead.2, lockAfter, ?_, ?_⟩
    · intro i
      have step := advance.once i
      have before := once i
      have := sum (Task.claims i)
      by_cases below : first ≤ i
      · simp only [below, true_and] at before ⊢
        omega
      · have passed : i < c.distributor.cursor := by omega
        simp only [below, false_and, if_false, passed, passed.trans_le ahead.1, if_true]
          at before step ⊢
        omega
    · have := sum Task.publishes
      rcases advance.alone with none | ⟨free, one⟩
      · omega
      · have : c.distributor.cursor = c.distributor.pos := free
        omega
    · have := advance.loaded
      have := sum Task.unrecorded
      omega
  · -- The task loads nothing before and after, and no count changes.
    have same (f : Task α → Nat) (quiet : f task' = f task) : d.total f = c.total f := by
      have := sum f
      omega
    have claims (i : Nat) := same (Task.claims i) (by cases idle <;> rfl)
    have publishes := same Task.publishes (by cases idle <;> rfl)
    have unrecorded := same Task.unrecorded (by cases idle <;> rfl)
    rcases bench with bench | bench
    all_goals
      constructor
      · intro i
        rw [claims, bench]
        exact once i
      · rw [bench]
        exact started
      · rw [bench]
        exact bound
      · exact lockAfter
      · rw [publishes]
        exact alone
      · rw [unrecorded, bench]
        exact loadedSum

end Crew

end Windchest
