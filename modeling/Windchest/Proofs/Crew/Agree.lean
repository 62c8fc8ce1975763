/-
# Windchest.Proofs.Crew.Agree -- crews with enough room agree

In an arena with room for everything the objects may still ask for, no attempt is short
of it, and then each ends as the plan of its object promises.  So two crews for the same
objects end the same attempts, each in an order of its own (`Finished.attempts_perm`),
note the same failures, and leave behind objects that differ at most in where their
blocks lie (`Finished.twin`).
-/
import Windchest.Proofs.Crew.Finish

namespace Windchest

set_option autoImplicit false

variable {α : Type}

/-- How the attempt on an object ends if it is not short of room. -/
def Attempt.promised (plans : List (Plan α LoadError)) (i : Nat) : Attempt LoadError :=
  ⟨i, match plans[i]? with
    | some plan => plan.promised.map fun _ => ()
    | none => .ok ()⟩

namespace Crew.Fresh

variable {first : Nat} {s : Crew α}

/-- All that a fresh crew may reserve is what the plans of its objects ask for. -/
theorem demand_eq (fresh : s.Fresh first) :
    s.demand = ((s.plans.drop first).map Plan.bytes).sum := by
  rw [demand, fresh.total_eq rfl]
  rcases fresh.task_cases with ⟨is, rfl⟩ | ⟨plan, planned, is, next⟩
  · rw [is]
    exact Nat.zero_add _
  · obtain ⟨inside, rfl⟩ := List.getElem?_eq_some_iff.mp planned
    rw [is, ← next, List.drop_eq_getElem_cons inside, List.map_cons, List.sum_cons]
    rfl

theorem hasRoom (fresh : s.Fresh first)
    (room : s.arena.used + ((s.plans.drop first).map Plan.bytes).sum ≤ s.arena.capacity) :
    s.HasRoom := by
  constructor
  · rw [fresh.demand_eq]
    exact room
  · rw [fresh.total_eq rfl]
    rcases fresh.task_cases with ⟨is, -⟩ | ⟨plan, -, is, -⟩ <;> rw [is] <;> rfl
  · rw [fresh.attempts]
    rfl

end Crew.Fresh

variable [Loadable α]

/-- What is made of an object in two arenas is the same but for the handles of its blocks. -/
inductive Twin (a b : Arena) : α → α → Prop where
  | failed (message : String) (object : α) :
      Twin a b (Loadable.fail message object) (Loadable.fail message object)
  | fromFiles {store : Store} {before : α} {install : List BlockId → α} {ids ids' : List BlockId}
      (verdict : (Loadable.fromFiles store before).verdict = .ok install)
      (here : a.Resolves ids (Loadable.fromFiles store before).contents)
      (there : b.Resolves ids' (Loadable.fromFiles store before).contents) :
      Twin a b (install ids) (install ids')
  | fromRecord {record : Bytes} {before : α} {install : List BlockId → α} {ids ids' : List BlockId}
      (verdict : (Loadable.fromRecord record before).verdict = .ok install)
      (here : a.Resolves ids (Loadable.fromRecord record before).contents)
      (there : b.Resolves ids' (Loadable.fromRecord record before).contents) :
      Twin a b (install ids) (install ids')

namespace Crew

/-- In an arena with enough room, no attempt is short of it. -/
theorem served_of_reaches {first : Nat} {s c : Crew α} (fresh : s.Fresh first)
    (room : s.arena.used + ((s.plans.drop first).map Plan.bytes).sum ≤ s.arena.capacity)
    (reaches : s.Reaches c) : ∀ attempt ∈ c.attempts, attempt.isShort = false := by
  have hasRoom : c.HasRoom := by
    apply reaches_induction reaches (fresh.hasRoom room)
    intro c d hasRoom moves
    exact hasRoom_move hasRoom moves
  intro attempt mem
  exact Bool.eq_false_iff.mpr (List.countP_eq_zero.mp hasRoom.served attempt mem)

namespace Finished

variable {first loaded : Nat} {s t c d : Crew α}

/-- An attempt that is not short of room ends as promised. -/
theorem attempt_eq (finished : s.Finished first loaded c) {attempt : Attempt LoadError}
    (mem : attempt ∈ c.attempts) (served : attempt.isShort = false) :
    attempt = Attempt.promised c.plans attempt.index := by
  obtain ⟨plan, object, planned, ends, -⟩ := finished.settled attempt mem
  obtain ⟨i, result⟩ := attempt
  dsimp only at planned ends ⊢
  rw [Attempt.promised, planned]
  cases result with
  | ok done =>
      cases ends with
      | loaded install ids promised resolved =>
          dsimp only
          rw [promised]
          rfl
  | error why =>
      have enough : ∀ shortage, why ≠ .outOfMemory shortage := by
        rintro shortage rfl
        cases served
      dsimp only
      rw [ends.promised enough]
      rfl

/-- **The attempts of a crew with enough room are those its plans promise**, in some order. -/
theorem attempts_perm (finished : s.Finished first loaded c)
    (served : ∀ attempt ∈ c.attempts, attempt.isShort = false) :
    c.attempts.Perm
      ((List.range' first (c.distributor.pos - first)).map (Attempt.promised c.plans)) := by
  have each : c.attempts = (c.attempts.map (·.index)).map (Attempt.promised c.plans) := by
    rw [List.map_map]
    refine (List.map_id _).symm.trans (List.map_congr_left ?_)
    intro attempt mem
    exact finished.attempt_eq mem (served attempt mem)
  rw [each]
  exact finished.indices.map _

/-- **Two crews with enough room make the same of an object**, but for where its blocks lie. -/
theorem twin {store : Store} {objects : List α} {second : Nat} (finished : s.Finished first loaded c)
    (finished' : t.Finished first second d) (plans : s.plans = objects.map (Loadable.fromFiles store))
    (plans' : t.plans = s.plans) (served : ∀ attempt ∈ c.attempts, attempt.isShort = false)
    (served' : ∀ attempt ∈ d.attempts, attempt.isShort = false) {i : Nat} (started : first ≤ i)
    (reached : i < c.distributor.pos) (reached' : i < d.distributor.pos) :
    ∃ object other, c.objects[i]? = some object ∧ d.objects[i]? = some other ∧
      Twin c.arena d.arena object other := by
  obtain ⟨attempt, mem, rfl⟩ := List.mem_map.mp (finished.mem_indices.mpr ⟨started, reached⟩)
  obtain ⟨attempt', mem', same⟩ := List.mem_map.mp (finished'.mem_indices.mpr ⟨started, reached'⟩)
  have samePlans : d.plans = c.plans := by
    rw [finished.follows.plans, finished'.follows.plans, plans']
  obtain rfl : attempt' = attempt := by
    rw [finished.attempt_eq mem (served _ mem), finished'.attempt_eq mem' (served' _ mem'), same,
      samePlans]
  obtain ⟨plan, object, planned, ends, is⟩ := finished.settled attempt' mem
  obtain ⟨plan', other, planned', ends', is'⟩ := finished'.settled attempt' mem'
  rw [samePlans] at planned'
  obtain rfl := Option.some.inj (planned.symm.trans planned')
  rw [finished.follows.plans, plans, List.getElem?_map] at planned
  obtain ⟨before, -, rfl⟩ := Option.map_eq_some_iff.mp planned
  refine ⟨_, _, is, is', ?_⟩
  obtain ⟨i, result⟩ := attempt'
  cases result with
  | ok done =>
      cases ends with
      | loaded install ids promised resolved =>
          cases ends' with
          | loaded install' ids' promised' resolved' =>
              obtain rfl := Except.ok.inj (promised.symm.trans promised')
              exact .fromFiles (Plan.verdict_of_promised promised).2 resolved resolved'
  | error why =>
      rw [ends.started, ends'.started]
      exact .failed _ _

end Finished

end Crew

end Windchest
