/-
# Windchest.Proofs.Load.Room -- how much room a load may take

`Stage.appetite` is all that the objects of a stage may have in use at once: each has
the blocks of its record, or those of its files.  The object whose record could not be
used has had the one and has the other, but never both, for a plan that ends in an error
gives back what it has reserved.

In an arena with that much room the cache is read as far as it goes, and as much room is
left as the other objects ask for (`room_of_run`).
-/
import Windchest.Proofs.Load.Walk

namespace Windchest

set_option autoImplicit false

open Cache (Source)

variable {α : Type} [Loadable α]

/-- What objects ask for that are loaded from their files. -/
def filesAppetite (store : Store) (objects : List α) : Nat :=
  (objects.map fun object => (Loadable.fromFiles store object).bytes).sum

/-- What objects may have in use at once that are loaded from a cache as far as it goes, and from
their files behind that. -/
def CacheWalk.appetite (store : Store) : Source → List α → Nat
  | _, [] => 0
  | source, object :: rest =>
    let (record, next) := nextRecord source
    let plan := planFor object record
    match plan.promised with
    | .ok _ => plan.bytes + appetite store next rest
    | .error _ => max plan.bytes (Loadable.fromFiles store plan.started).bytes + filesAppetite store rest

/-- What the objects of a stage may have in use at once while they are loaded. -/
def Stage.appetite (store : Store) (target : CacheTarget) (stage : Stage α) : Nat :=
  let objects := stage.objects.map Loadable.reset
  match CacheWalk.source stage.files target with
  | .ok source => CacheWalk.appetite store source objects
  | .error _ => filesAppetite store objects

namespace CacheWalk

variable {store : Store} {source last : Source} {a b : Arena} {front read left : List α}

/-- Behind the objects that were read, there is room for the others. -/
theorem Reads.room (reads : Reads source a front read last b)
    (room : a.used + appetite store source (front ++ left) ≤ a.capacity) :
    b.used + appetite store last left ≤ b.capacity := by
  induction reads with
  | none => exact room
  | @more source next last a b object record rest read intact accepted others ih =>
      refine ih ?_
      obtain ⟨install, -, promised, -⟩ := (ends_of_accepted accepted).installs
      have kept : (planFor object (.ok record)).promised = .ok install := promised
      simp only [List.cons_append, appetite, intact, kept] at room
      exact (Loadable.fromRecord record object).room_carryOut room

/-- What the plan for the next object asks for is part of the appetite. -/
theorem bytes_le_appetite (object : α) (rest : List α) :
    (planFor object (nextRecord source).1).bytes ≤ appetite store source (object :: rest) := by
  simp only [appetite]
  split
  · exact Nat.le_add_right _ _
  · exact Nat.le_trans (Nat.le_max_left _ _) (Nat.le_add_right _ _)

/-- **With room for what its objects may have in use, a load that nobody cancels reads the cache as
far as it goes**, and has room for what the other objects ask for. -/
theorem room_of_run {files : FileSystem} {target : CacheTarget} {report : Reporter}
    (patient : ∀ trace, report trace = true) {objects : List α} {w : CacheWalk α}
    (room : a.used + (match CacheWalk.source files target with
      | .ok source => appetite store source objects
      | .error _ => filesAppetite store objects) ≤ a.capacity)
    (ran : run files target report objects a = .ok w) :
    w.outOfMemory = false ∧ w.cancelled = false ∧
      w.arena.used + filesAppetite store (w.objects.drop w.distributor.loaded) ≤ w.arena.capacity := by
  rcases run_cases ran with ⟨usage, none, rfl⟩ |
    ⟨records, last, b, front, read, left, found, rfl, reads, stop⟩
  · rw [none] at room
    exact ⟨rfl, rfl, room⟩
  · rw [found] at room
    have room := reads.room room
    cases stop with
    | full trace quiet =>
        refine ⟨rfl, rfl, ?_⟩
        rw [List.drop_length]
        exact room
    | cancelled left trace declined => exact absurd declined (not_declined_of_patient patient trace)
    | short object rest record why trace quiet intact result =>
        have asked := @bytes_le_appetite _ _ store last object rest
        rw [intact] at asked
        obtain ⟨enough, -⟩ := (planFor object (.ok record)).carryOut_room b (by omega)
        exact absurd result (enough why)
    | unusable object rest why trace quiet result =>
        refine ⟨rfl, rfl, ?_⟩
        obtain ⟨grows, ends⟩ := (planFor object (nextRecord last).1).carryOut_ends b
        rw [result] at ends
        have refused := ends.promised fun _ no => by cases no
        simp only [appetite, refused] at room
        have rest_is : (read ++ (planFor object (nextRecord last).1).started :: rest).drop read.length
            = (planFor object (nextRecord last).1).started :: rest := List.drop_left
        rw [rest_is, grows.capacity, (Plan.carryOut_error result (by simp)).1, filesAppetite, List.map_cons,
          List.sum_cons]
        change _ + (_ + filesAppetite store rest) ≤ _
        omega

end CacheWalk

end Windchest
