/-
# Windchest.Proofs.Load.Distributor -- objects are handed out once, to any number of threads

Threads ask one distributor for objects, and each call is several steps: a look at the
abort flag, the advance of the cursor under its lock, the count of the position under the
same lock, and the answer, which lets go of the lock.  Any thread may abort at any time,
and an object that was answered may be recorded as loaded, once.  The steps of the
threads are taken in any order (`Fetching.Run`).

`Fetching.Books` says where the indices are that the cursor has passed: answered, or with
the one thread that has the lock.  Every step keeps the books.  Behind an abort a thread
has an object ahead of it only if it had looked at the flag before (`ahead_of_run`).
Together these are `handed_out_once`.

A call that nobody disturbs answers what `Distributor.fetch` does (`exists_run_fetch`).
-/
import Windchest.Load.Distributor
import Windchest.Proofs.Crew.Steps

namespace Windchest

set_option autoImplicit false

namespace Distributor

variable {d after : Distributor}

/-- A claim takes the index at the cursor, moves the cursor past it and nothing else. -/
theorem claim_eq_some {i : Nat} (claim : d.claim = (some i, after)) :
    i = d.cursor ∧ d.cursor < d.total ∧ after = { d with cursor := d.cursor + 1 } := by
  unfold Distributor.claim at claim
  split at claim
  · rename_i left
    cases claim
    exact ⟨rfl, left, rfl⟩
  · cases claim

/-- A cursor at its end stays where it is. -/
theorem claim_eq_none (claim : d.claim = (none, after)) : after = d := by
  unfold Distributor.claim at claim
  split at claim
  · cases claim
  · cases claim
    rfl

end Distributor

namespace Fetching

open scoped List

/-! ## Threads that ask for objects -/

/-- How far a thread has come with its call for the next object. -/
inductive Call where
  /-- The thread is not in a call. -/
  | idle
  /-- It has not looked yet whether the load was aborted. -/
  | called
  /-- It has found that it was not, and wants the lock on the cursor. -/
  | cleared
  /-- It has the lock, and has taken an index from the cursor. -/
  | taken (index : Nat)
  /-- It has counted the object as handed out, and still has the lock. -/
  | counted (index : Nat)
deriving DecidableEq, Repr

namespace Call

/-- The index that a thread has taken, if it has the lock. -/
def index? : Call → Option Nat
  | taken i => some i
  | counted i => some i
  | _ => none

/-- One if the thread has taken an index that is not counted yet. -/
def uncounted : Call → Nat
  | taken _ => 1
  | _ => 0

/-- One if the call may answer an object without a look at the flag. -/
def ahead : Call → Nat
  | idle | called => 0
  | cleared | taken _ | counted _ => 1

end Call

/-- What can be noticed of a step.  Threads are told by their positions. -/
inductive Event where
  /-- A call starts. -/
  | called (thread : Nat)
  /-- The lock was taken, and this index from the cursor. -/
  | taken (thread index : Nat)
  /-- A call returns. -/
  | answered (thread : Nat) (answer : Option Nat)
  | recorded (thread index : Nat)
  | aborted (thread : Nat)
  | silent
deriving DecidableEq, Repr

/-- A distributor and the threads that share it. -/
structure State where
  distributor : Distributor
  calls : List Call
  /-- The objects that were answered and have not been recorded. -/
  unrecorded : List Nat := []

/-- Nobody has the lock on the cursor. -/
def State.Unlocked (s : State) : Prop := ∀ call ∈ s.calls, call.index? = none

instance (s : State) : Decidable s.Unlocked :=
  inferInstanceAs (Decidable (∀ call ∈ s.calls, call.index? = none))

/-- A new distributor over so many objects, and threads that have not called yet. -/
def State.start (objects threads : Nat) : State :=
  { distributor := { total := objects }, calls := List.replicate threads .idle }

/-- What any of the threads can do. -/
inductive Step (s : State) : Event → State → Prop where
  | call {t : Nat} (turn : s.calls[t]? = some .idle) :
      Step s (.called t) { s with calls := s.calls.set t .called }
  | turnAway {t : Nat} (turn : s.calls[t]? = some .called)
      (aborted : s.distributor.aborted = true) :
      Step s (.answered t none) { s with calls := s.calls.set t .idle }
  | clear {t : Nat} (turn : s.calls[t]? = some .called)
      (running : s.distributor.aborted = false) :
      Step s .silent { s with calls := s.calls.set t .cleared }
  | take {t i : Nat} {d : Distributor} (turn : s.calls[t]? = some .cleared)
      (unlocked : s.Unlocked) (claim : s.distributor.claim = (some i, d)) :
      Step s (.taken t i) { s with distributor := d, calls := s.calls.set t (.taken i) }
  | exhausted {t : Nat} {d : Distributor} (turn : s.calls[t]? = some .cleared)
      (unlocked : s.Unlocked) (claim : s.distributor.claim = (none, d)) :
      Step s (.answered t none) { s with distributor := d, calls := s.calls.set t .idle }
  | count {t i : Nat} (turn : s.calls[t]? = some (.taken i)) :
      Step s .silent
        { s with distributor := s.distributor.publish, calls := s.calls.set t (.counted i) }
  | answer {t i : Nat} (turn : s.calls[t]? = some (.counted i)) :
      Step s (.answered t (some i))
        { s with calls := s.calls.set t .idle, unrecorded := s.unrecorded ++ [i] }
  | record {t i : Nat} (turn : s.calls[t]? = some .idle) (answered : i ∈ s.unrecorded) :
      Step s (.recorded t i)
        { s with distributor := s.distributor.recordLoaded, unrecorded := s.unrecorded.erase i }
  | abort {t : Nat} (thread : t < s.calls.length) :
      Step s (.aborted t) { s with distributor := s.distributor.abort }

/-- Steps of the threads in some order, and their events, the latest last. -/
inductive Run (start : State) : List Event → State → Prop where
  | start : Run start [] start
  | step {trace : List Event} {event : Event} {s s' : State} (run : Run start trace s)
      (next : Step s event s') : Run start (trace ++ [event]) s'

/-- A run goes through a state between any two of its events. -/
theorem Run.split {s s' : State} {front back : List Event} (run : Run s (front ++ back) s') :
    ∃ between, Run s front between ∧ Run between back s' := by
  generalize is : front ++ back = trace at run
  induction run generalizing back with
  | start =>
      obtain ⟨rfl, rfl⟩ := List.append_eq_nil_iff.mp is
      exact ⟨s, .start, .start⟩
  | @step trace event _ last run next ih =>
      rcases List.eq_nil_or_concat back with rfl | ⟨init, latest, rfl⟩
      · rw [List.append_nil] at is
        exact ⟨last, is ▸ run.step next, .start⟩
      · rw [List.concat_eq_append, ← List.append_assoc] at is
        obtain ⟨earlier, same⟩ := List.append_inj' is rfl
        obtain ⟨between, first, second⟩ := ih earlier
        refine ⟨between, first, ?_⟩
        rw [List.concat_eq_append, same]
        exact second.step next

/-! ## What a run has handed out -/

namespace Event

def taken? : Event → Option Nat
  | taken _ i => some i
  | _ => none

def answer? : Event → Option Nat
  | answered _ answer => answer
  | _ => none

def recorded? : Event → Option Nat
  | recorded _ i => some i
  | _ => none

/-- The thread that an event is about. -/
def thread? : Event → Option Nat
  | called t | taken t _ | answered t _ | recorded t _ | aborted t => some t
  | silent => none

end Event

/-- The indices that were taken from the cursor, in the order in which the lock was. -/
def taken (trace : List Event) : List Nat := trace.filterMap Event.taken?

/-- The objects that the calls have returned, in that order. -/
def answers (trace : List Event) : List Nat := trace.filterMap Event.answer?

/-- The objects that were recorded as loaded. -/
def recorded (trace : List Event) : List Nat := trace.filterMap Event.recorded?

/-- The events that are about one thread. -/
def eventsOf (t : Nat) (trace : List Event) : List Event :=
  trace.filter fun event => event.thread? = some t

theorem filterMap_one {β γ : Type} (f : β → Option γ) (x : β) : [x].filterMap f = (f x).toList := by
  cases is : f x <;> simp [is]

@[simp] theorem taken_concat (trace : List Event) (event : Event) :
    taken (trace ++ [event]) = taken trace ++ event.taken?.toList := by
  rw [taken, List.filterMap_append, filterMap_one, taken]

@[simp] theorem answers_concat (trace : List Event) (event : Event) :
    answers (trace ++ [event]) = answers trace ++ event.answer?.toList := by
  rw [answers, List.filterMap_append, filterMap_one, answers]

@[simp] theorem recorded_concat (trace : List Event) (event : Event) :
    recorded (trace ++ [event]) = recorded trace ++ event.recorded?.toList := by
  rw [recorded, List.filterMap_append, filterMap_one, recorded]

/-! ## The books -/

/-- The indices that the threads have taken and not answered yet. -/
def State.held (s : State) : List Nat := s.calls.filterMap Call.index?

/-- How many of them are not counted. -/
def State.uncounted (s : State) : Nat := (s.calls.map Call.uncounted).sum

/-- Where the indices are that the cursor has passed. -/
structure Books (objects : Nat) (trace : List Event) (s : State) : Prop where
  total : s.distributor.total = objects
  bound : s.distributor.cursor ≤ objects
  taken : taken trace = List.range s.distributor.cursor
  /-- They were answered, or are with the thread that has the lock. -/
  answered : answers trace ++ s.held = List.range s.distributor.cursor
  alone : s.held.length ≤ 1
  pos : s.distributor.pos + s.uncounted = s.distributor.cursor
  recorded : (s.unrecorded ++ recorded trace).Perm (answers trace)
  loaded : s.distributor.loaded = (Fetching.recorded trace).length

/-- While nobody has the lock, no thread has an index. -/
theorem State.Unlocked.held {s : State} (unlocked : s.Unlocked) : s.held = [] :=
  List.filterMap_eq_nil_iff.mpr unlocked

theorem State.Unlocked.uncounted {s : State} (unlocked : s.Unlocked) : s.uncounted = 0 := by
  refine List.sum_eq_zero (List.forall_mem_map.mpr fun call mem => ?_)
  have none := unlocked call mem
  cases call <;> first | rfl | cases none

section Turn

variable {calls : List Call} {t : Nat} {old new : Call}

/-- The calls around that of one thread, before and after its step. -/
theorem exists_split (turn : calls[t]? = some old) (new : Call) :
    ∃ front back, calls = front ++ old :: back ∧ calls.set t new = front ++ new :: back := by
  obtain ⟨bound, rfl⟩ := List.getElem?_eq_some_iff.mp turn
  refine ⟨calls.take t, calls.drop (t + 1), ?_, ?_⟩
  · rw [← List.drop_eq_getElem_cons bound, List.take_append_drop]
  · rw [List.set_eq_take_append_cons_drop, if_pos bound]

/-- The indices that are held, when one thread goes on: those of the others around its own. -/
theorem exists_held (turn : calls[t]? = some old) (new : Call) :
    ∃ front back, calls.filterMap Call.index? = front ++ old.index?.toList ++ back ∧
      (calls.set t new).filterMap Call.index? = front ++ new.index?.toList ++ back := by
  obtain ⟨front, back, before, after⟩ := exists_split turn new
  refine ⟨front.filterMap Call.index?, back.filterMap Call.index?, ?_, ?_⟩
  · rw [before, List.append_cons, List.filterMap_append, List.filterMap_append,
      filterMap_one]
  · rw [after, List.append_cons, List.filterMap_append, List.filterMap_append,
      filterMap_one]

theorem held_of_same (turn : calls[t]? = some old) (same : new.index? = old.index?) :
    (calls.set t new).filterMap Call.index? = calls.filterMap Call.index? := by
  obtain ⟨front, back, before, after⟩ := exists_held turn new
  rw [before, after, same]

theorem sum_uncounted (turn : calls[t]? = some old) (new : Call) :
    ((calls.set t new).map Call.uncounted).sum + old.uncounted
      = (calls.map Call.uncounted).sum + new.uncounted :=
  Swap.sum ⟨t, turn, rfl⟩ Call.uncounted

end Turn

namespace Books

variable {objects : Nat} {trace : List Event} {s s' : State} {event : Event}

theorem start (objects threads : Nat) : Books objects [] (State.start objects threads) := by
  have unlocked : (State.start objects threads).Unlocked := fun call mem =>
    (List.eq_of_mem_replicate mem) ▸ rfl
  refine ⟨rfl, Nat.zero_le _, rfl, unlocked.held, ?_, ?_, .nil, rfl⟩
  · rw [unlocked.held]
    exact Nat.zero_le 1
  · rw [unlocked.uncounted]
    rfl

/-- The books are kept by a step that makes up for what its event adds. -/
theorem post (books : Books objects trace s) (total : s'.distributor.total = s.distributor.total)
    (bound : s'.distributor.cursor ≤ objects)
    (taken : List.range s.distributor.cursor ++ event.taken?.toList
      = List.range s'.distributor.cursor)
    (held : event.answer?.toList ++ s'.held = s.held ++ event.taken?.toList)
    (alone : s'.held.length ≤ 1)
    (pos : s'.distributor.pos + s'.uncounted = s'.distributor.cursor)
    (unrecorded : (s'.unrecorded ++ event.recorded?.toList).Perm
      (s.unrecorded ++ event.answer?.toList))
    (loaded : s'.distributor.loaded = s.distributor.loaded + event.recorded?.toList.length) :
    Books objects (trace ++ [event]) s' where
  total := total.trans books.total
  bound := bound
  taken := by rw [taken_concat, books.taken, taken]
  answered := by
    rw [answers_concat, List.append_assoc, held, ← List.append_assoc, books.answered, taken]
  alone := alone
  pos := pos
  recorded := by
    rw [recorded_concat, answers_concat]
    calc s'.unrecorded ++ (Fetching.recorded trace ++ event.recorded?.toList)
        ~ s'.unrecorded ++ event.recorded?.toList ++ Fetching.recorded trace := by
          rw [List.append_assoc]
          exact List.perm_append_comm.append_left _
      _ ~ s.unrecorded ++ event.answer?.toList ++ Fetching.recorded trace :=
          unrecorded.append_right _
      _ ~ s.unrecorded ++ Fetching.recorded trace ++ event.answer?.toList := by
          rw [List.append_assoc, List.append_assoc]
          exact List.perm_append_comm.append_left _
      _ ~ answers trace ++ event.answer?.toList := books.recorded.append_right _
  loaded := by rw [recorded_concat, List.length_append, loaded, books.loaded]

/-- A thread that goes on with what it has, and an event that tells nothing of it, leave the books
as they are. -/
theorem goOn (books : Books objects trace s) {t : Nat} {old new : Call}
    (turn : s.calls[t]? = some old) (same : new.index? = old.index?)
    (counted : new.uncounted = old.uncounted)
    (quiet : event.taken? = none ∧ event.answer? = none ∧ event.recorded? = none) :
    Books objects (trace ++ [event]) { s with calls := s.calls.set t new } := by
  obtain ⟨noTake, noAnswer, noRecord⟩ := quiet
  have held : State.held { s with calls := s.calls.set t new } = s.held := held_of_same turn same
  have uncounted : State.uncounted { s with calls := s.calls.set t new } = s.uncounted := by
    have sum := sum_uncounted turn new
    rw [counted] at sum
    exact Nat.add_right_cancel sum
  refine books.post rfl books.bound ?_ ?_ (held ▸ books.alone) (uncounted ▸ books.pos) ?_ ?_
  · rw [noTake, Option.toList_none, List.append_nil]
  · rw [noTake, noAnswer, held, Option.toList_none, List.nil_append, List.append_nil]
  · rw [noAnswer, noRecord]
  · rw [noRecord]
    rfl

/-- Whoever takes the next index from the cursor is the only one that has one. -/
theorem take (books : Books objects trace s) {t i : Nat} {d : Distributor}
    (turn : s.calls[t]? = some .cleared) (unlocked : s.Unlocked)
    (claim : s.distributor.claim = (some i, d)) :
    Books objects (trace ++ [.taken t i])
      { s with distributor := d, calls := s.calls.set t (.taken i) } := by
  obtain ⟨rfl, left, rfl⟩ := Distributor.claim_eq_some claim
  obtain ⟨front, back, before, after⟩ := exists_held turn (.taken s.distributor.cursor)
  have none : s.calls.filterMap Call.index? = [] := unlocked.held
  rw [before, List.append_eq_nil_iff, List.append_eq_nil_iff] at none
  have held : (s.calls.set t (.taken s.distributor.cursor)).filterMap Call.index?
      = [s.distributor.cursor] := by
    rw [after, none.1.1, none.2]
    rfl
  have sum := sum_uncounted turn (.taken s.distributor.cursor)
  refine books.post rfl (books.total ▸ left) List.range_succ.symm ?_ ?_ ?_ .rfl rfl
  · rw [State.held, held, unlocked.held]
    rfl
  · rw [State.held, held]
    exact Nat.le_refl 1
  · have pos := books.pos
    simp only [State.uncounted, Call.uncounted] at sum pos ⊢
    omega

/-- The object that a thread has taken is counted once. -/
theorem count (books : Books objects trace s) {t i : Nat} (turn : s.calls[t]? = some (.taken i)) :
    Books objects (trace ++ [.silent])
      { s with distributor := s.distributor.publish, calls := s.calls.set t (.counted i) } := by
  have held : State.held { s with calls := s.calls.set t (.counted i) } = s.held :=
    held_of_same turn rfl
  have sum := sum_uncounted turn (.counted i)
  refine books.post rfl books.bound (List.append_nil _) ?_ (held ▸ books.alone) ?_ .rfl rfl
  · exact held.trans (List.append_nil _).symm
  · have pos := books.pos
    simp only [State.uncounted, Call.uncounted, Distributor.publish] at sum pos ⊢
    omega

/-- The thread that has the lock answers the index that was taken last. -/
theorem answer (books : Books objects trace s) {t i : Nat}
    (turn : s.calls[t]? = some (.counted i)) :
    Books objects (trace ++ [.answered t (some i)])
      { s with calls := s.calls.set t .idle, unrecorded := s.unrecorded ++ [i] } := by
  obtain ⟨front, back, before, after⟩ := exists_held turn .idle
  have others : front = [] ∧ back = [] := by
    have alone := books.alone
    rw [State.held, before, List.length_append, List.length_append] at alone
    change front.length + 1 + back.length ≤ 1 at alone
    constructor <;> apply List.eq_nil_of_length_eq_zero <;> omega
  rw [others.1, others.2] at before after
  have sum := sum_uncounted turn .idle
  refine books.post rfl books.bound (List.append_nil _) ?_ ?_ ?_ ?_ rfl
  · rw [State.held, State.held, before, after]
    rfl
  · rw [State.held, after]
    exact Nat.zero_le 1
  · have pos := books.pos
    simp only [State.uncounted, Call.uncounted] at sum pos ⊢
    omega
  · exact .of_eq (List.append_nil _)

/-- An object that is recorded was answered, and is not recorded again. -/
theorem record (books : Books objects trace s) (t : Nat) {i : Nat} (answered : i ∈ s.unrecorded) :
    Books objects (trace ++ [.recorded t i])
      { s with distributor := s.distributor.recordLoaded, unrecorded := s.unrecorded.erase i } := by
  refine books.post rfl books.bound (List.append_nil _) (List.append_nil _).symm books.alone
    books.pos ?_ rfl
  calc s.unrecorded.erase i ++ [i] ~ i :: s.unrecorded.erase i := List.perm_append_comm
    _ ~ s.unrecorded := (List.perm_cons_erase answered).symm
    _ ~ s.unrecorded ++ [] := .of_eq (List.append_nil _).symm

/-- An abort is no matter of the books. -/
theorem abort (books : Books objects trace s) (t : Nat) :
    Books objects (trace ++ [.aborted t]) { s with distributor := s.distributor.abort } :=
  books.post rfl books.bound (List.append_nil _) (List.append_nil _).symm books.alone books.pos .rfl
    rfl

/-- Whatever a thread does keeps the books. -/
theorem step (books : Books objects trace s) (next : Step s event s') :
    Books objects (trace ++ [event]) s' := by
  cases next with
  | call turn => exact books.goOn turn rfl rfl ⟨rfl, rfl, rfl⟩
  | turnAway turn aborted => exact books.goOn turn rfl rfl ⟨rfl, rfl, rfl⟩
  | clear turn running => exact books.goOn turn rfl rfl ⟨rfl, rfl, rfl⟩
  | take turn unlocked claim => exact books.take turn unlocked claim
  | exhausted turn unlocked claim =>
      obtain rfl := Distributor.claim_eq_none claim
      exact books.goOn turn rfl rfl ⟨rfl, rfl, rfl⟩
  | count turn => exact books.count turn
  | answer turn => exact books.answer turn
  | record turn answered => exact books.record _ answered
  | abort thread => exact books.abort _

/-- While nobody has the lock, all indices that were taken are answered and counted. -/
theorem settled (books : Books objects trace s) (unlocked : s.Unlocked) :
    answers trace = List.range s.distributor.cursor ∧
      s.distributor.pos = s.distributor.cursor := by
  have answered := books.answered
  have pos := books.pos
  rw [unlocked.held, List.append_nil] at answered
  rw [unlocked.uncounted] at pos
  exact ⟨answered, pos⟩

theorem length_recorded_le (books : Books objects trace s) :
    (Fetching.recorded trace).length ≤ (answers trace).length ∧
      (answers trace).length ≤ s.distributor.cursor := by
  have all := books.recorded.length_eq
  have whole := congrArg List.length books.answered
  rw [List.length_append] at all whole
  rw [List.length_range] at whole
  omega

/-- When as many objects were recorded as there are, each was answered and recorded. -/
theorem complete (books : Books objects trace s) (all : s.distributor.isComplete = true) :
    answers trace = List.range objects ∧ (Fetching.recorded trace).Perm (List.range objects) := by
  have counts := books.length_recorded_le
  have bound := books.bound
  have loaded : (Fetching.recorded trace).length = objects := by
    rw [← books.loaded, ← books.total]
    exact beq_iff_eq.mp all
  have cursor : s.distributor.cursor = objects := by omega
  have whole := books.answered
  rw [cursor] at whole
  have held : s.held.length = 0 := by
    have := congrArg List.length whole
    rw [List.length_append, List.length_range] at this
    omega
  rw [List.eq_nil_of_length_eq_zero held, List.append_nil] at whole
  have left : s.unrecorded.length = 0 := by
    have := books.recorded.length_eq
    rw [List.length_append] at this
    omega
  have recorded := books.recorded
  rw [List.eq_nil_of_length_eq_zero left, List.nil_append, whole] at recorded
  exact ⟨whole, recorded⟩

end Books

theorem Run.books {objects threads : Nat} {trace : List Event} {s : State}
    (run : Run (State.start objects threads) trace s) : Books objects trace s := by
  induction run with
  | start => exact Books.start objects threads
  | step _ next ih => exact ih.step next

/-! ## What no step takes back -/

theorem Step.pos_le {s s' : State} {event : Event} (next : Step s event s') :
    s.distributor.pos ≤ s'.distributor.pos := by
  cases next with
  | take turn unlocked claim =>
      obtain ⟨-, -, rfl⟩ := Distributor.claim_eq_some claim
      exact Nat.le_refl _
  | exhausted turn unlocked claim =>
      obtain rfl := Distributor.claim_eq_none claim
      exact Nat.le_refl _
  | count turn => exact Nat.le_succ _
  | _ => exact Nat.le_refl _

theorem Run.pos_le {s s' : State} {trace : List Event} (run : Run s trace s') :
    s.distributor.pos ≤ s'.distributor.pos := by
  induction run with
  | start => exact Nat.le_refl _
  | step _ next ih => exact Nat.le_trans ih next.pos_le

theorem Step.aborted {s s' : State} {event : Event} (next : Step s event s')
    (aborted : s.distributor.aborted = true) : s'.distributor.aborted = true := by
  cases next with
  | take turn unlocked claim =>
      obtain ⟨-, -, rfl⟩ := Distributor.claim_eq_some claim
      exact aborted
  | exhausted turn unlocked claim =>
      obtain rfl := Distributor.claim_eq_none claim
      exact aborted
  | abort thread => rfl
  | _ => exact aborted

/-- One if the thread is in a call that may answer an object without a look at the flag. -/
def State.ahead (s : State) (t : Nat) : Nat := (s.calls[t]?.map Call.ahead).getD 0

/-- The objects that one thread has got. -/
def answersTo (t : Nat) (trace : List Event) : List Nat := answers (eventsOf t trace)

theorem answersTo_append (t : Nat) (front back : List Event) :
    answersTo t (front ++ back) = answersTo t front ++ answersTo t back := by
  rw [answersTo, answers, eventsOf, List.filter_append, List.filterMap_append]
  rfl

/-- Once the load was aborted, a step that answers an object uses up a call that is ahead. -/
theorem Step.ahead {s s' : State} {event : Event} (next : Step s event s')
    (aborted : s.distributor.aborted = true) (t : Nat) :
    (answersTo t [event]).length + s'.ahead t ≤ s.ahead t := by
  -- only the acting thread's call changes, and only its answer counts for it
  have acts {u : Nat} {old new : Call} {event : Event} (turn : s.calls[u]? = some old)
      (own : (answersTo u [event]).length + new.ahead ≤ old.ahead)
      (others : u ≠ t → answersTo t [event] = []) :
      (answersTo t [event]).length + (((s.calls.set u new)[t]?).map Call.ahead).getD 0
        ≤ (s.calls[t]?.map Call.ahead).getD 0 := by
    by_cases same : u = t
    · subst same
      obtain ⟨bound, -⟩ := List.getElem?_eq_some_iff.mp turn
      rw [turn, List.getElem?_set_self bound]
      exact own
    · rw [List.getElem?_set_ne same, others same]
      exact Nat.le_of_eq (Nat.zero_add _)
  have mute {event : Event} (none : event.answer? = none) (u : Nat) : answersTo u [event] = [] := by
    by_cases about : event.thread? = some u <;>
      simp [answersTo, answers, eventsOf, about, none]
  cases next with
  | call turn => exact acts turn (by rw [mute rfl]; exact Nat.le_refl _) fun _ => mute rfl t
  | turnAway turn aborted =>
      exact acts turn (by rw [mute rfl]; exact Nat.le_refl _) fun _ => mute rfl t
  | clear turn running =>
      rw [aborted] at running
      cases running
  | take turn unlocked claim =>
      exact acts turn (by rw [mute rfl]; exact Nat.le_refl _) fun _ => mute rfl t
  | exhausted turn unlocked claim =>
      exact acts turn (by rw [mute rfl]; exact Nat.zero_le _) fun _ => mute rfl t
  | count turn => exact acts turn (by rw [mute rfl]; exact Nat.le_refl _) fun _ => mute rfl t
  | @answer u i turn =>
      refine acts turn ?_ fun other => ?_
      · simp [answersTo, answers, eventsOf, Event.thread?, Event.answer?, Call.ahead]
      · simp [answersTo, answers, eventsOf, Event.thread?, other]
  | record turn answered => rw [mute rfl]; exact Nat.le_of_eq (Nat.zero_add _)
  | abort thread => rw [mute rfl]; exact Nat.le_of_eq (Nat.zero_add _)

/-- Behind an abort a thread gets no more objects than it was ahead of. -/
theorem ahead_of_run {s s' : State} {trace : List Event} (run : Run s trace s')
    (aborted : s.distributor.aborted = true) (t : Nat) :
    s'.distributor.aborted = true ∧ (answersTo t trace).length + s'.ahead t ≤ s.ahead t := by
  induction run with
  | start => exact ⟨aborted, Nat.le_of_eq (Nat.zero_add _)⟩
  | step _ next ih =>
      obtain ⟨still, few⟩ := ih
      have spent := next.ahead still t
      rw [answersTo_append, List.length_append]
      exact ⟨next.aborted still, by omega⟩

theorem State.ahead_le (s : State) (t : Nat) : s.ahead t ≤ 1 := by
  rw [State.ahead]
  cases s.calls[t]? with
  | none => exact Nat.zero_le 1
  | some call =>
      cases call <;> first | exact Nat.zero_le 1 | exact Nat.le_refl 1

/-- A run that has just seen an abort goes on from an aborted distributor. -/
theorem Run.aborted_of_event {s s' : State} {trace : List Event} {t : Nat}
    (run : Run s (trace ++ [.aborted t]) s') : s'.distributor.aborted = true := by
  generalize is : trace ++ [.aborted t] = all at run
  cases run with
  | start => simp at is
  | step run next =>
      obtain ⟨-, rfl⟩ := List.append_inj' is rfl |>.imp_right List.singleton_inj.mp
      cases next
      rfl

/-- A call that has just started has not looked at the flag. -/
theorem Run.called_of_event {s s' : State} {trace : List Event} {t : Nat}
    (run : Run s (trace ++ [.called t]) s') : s'.calls[t]? = some .called := by
  generalize is : trace ++ [.called t] = all at run
  cases run with
  | start => simp at is
  | step run next =>
      obtain ⟨-, rfl⟩ := List.append_inj' is rfl |>.imp_right List.singleton_inj.mp
      cases next with
      | call turn => exact List.getElem?_set_self (List.getElem?_eq_some_iff.mp turn).1

/-! ## Whole runs -/

/-- What a thread notices, in the order of its steps, is increasing if all of it is. -/
theorem increasing_of_range {f : Event → Option Nat} {trace : List Event} {n : Nat}
    (all : trace.filterMap f <+: List.range n) (t : Nat) :
    ((eventsOf t trace).filterMap f).Pairwise (· < ·) :=
  (List.pairwise_lt_range.sublist all.sublist).sublist (List.filter_sublist.filterMap f)

/-- **Objects are handed out once each and in order**, to any number of threads.  The indices that
were taken under the lock are those below some number, in this order, and those that were answered
are the first of them; while nobody has the lock, they are as many as the position tells.  So every
thread gets increasing indices.  The position never goes back.

No more objects are recorded as loaded than there are, and when the distributor is complete each of
them was handed out and recorded.

Behind an abort every thread gets one object at most, and a call that starts there gets none: its
look at the flag, which it can take at once, answers that there is none. -/
theorem handed_out_once {objects threads : Nat} {trace : List Event} {s : State}
    (run : Run (State.start objects threads) trace s) :
    (∃ k ≤ objects, taken trace = List.range k ∧ answers trace <+: List.range k ∧
      (s.Unlocked → answers trace = List.range k ∧ s.distributor.pos = k)) ∧
    (∀ t, (taken (eventsOf t trace)).Pairwise (· < ·) ∧ (answersTo t trace).Pairwise (· < ·)) ∧
    (∀ more s', Run s more s' → s.distributor.pos ≤ s'.distributor.pos) ∧
    (s.distributor.loaded ≤ objects ∧ (s.distributor.isComplete = true →
      answers trace = List.range objects ∧ (recorded trace).Perm (List.range objects))) ∧
    ∀ before after u, trace = before ++ .aborted u :: after → ∀ t,
      (answersTo t after).length ≤ 1 ∧
      (∀ between rest, after = between ++ .called t :: rest → answersTo t rest = []) ∧
      (s.calls[t]? = some .called →
        Step s (.answered t none) { s with calls := s.calls.set t .idle }) := by
  have books := run.books
  have prefixed : answers trace <+: List.range s.distributor.cursor := ⟨_, books.answered⟩
  have whole : taken trace <+: List.range s.distributor.cursor :=
    ⟨[], (List.append_nil _).trans books.taken⟩
  refine ⟨⟨s.distributor.cursor, books.bound, books.taken, prefixed, books.settled⟩,
    fun t => ⟨increasing_of_range whole t, increasing_of_range prefixed t⟩,
    fun more s' later => later.pos_le, ⟨?_, books.complete⟩,
    fun before after u split t => ?_⟩
  · have counts := books.length_recorded_le
    have bound := books.bound
    have loaded := books.loaded
    omega
  · rw [List.append_cons] at split
    obtain ⟨at_abort, first, later⟩ := (split ▸ run).split
    have aborted := first.aborted_of_event
    obtain ⟨still, few⟩ := ahead_of_run later aborted t
    refine ⟨?_, fun between rest is => ?_, fun turn => .turnAway turn still⟩
    · have := at_abort.ahead_le t
      omega
    · rw [is, List.append_cons] at later
      obtain ⟨at_call, second, last⟩ := later.split
      have none := (ahead_of_run last (ahead_of_run second aborted t).1 t).2
      have behind : at_call.ahead t = 0 := by
        rw [State.ahead, second.called_of_event]
        rfl
      apply List.eq_nil_of_length_eq_zero
      omega

/-- Two threads look at the flag, and one gets the first object and aborts the load before the other
has the lock. -/
def untilAbort : List Event :=
  [.called 0, .silent, .called 1, .silent, .taken 1 0, .silent, .answered 1 (some 0), .aborted 1]

/-- The other one gets the second object, records it, and asks once more. -/
def afterAbort : List Event :=
  [.taken 0 1, .silent, .answered 0 (some 1), .recorded 0 1, .called 0, .answered 0 none]

theorem late_run :
    Run (State.start 2 2) (untilAbort ++ afterAbort) ⟨⟨2, 2, 2, 1, true⟩, [.idle, .idle], [0]⟩ := by
  have first : Run (State.start 2 2) [.called 0, .silent]
      ⟨⟨2, 0, 0, 0, false⟩, [.cleared, .idle], []⟩ :=
    (Run.start.step (@Step.call _ 0 rfl)).step (@Step.clear _ 0 rfl rfl)
  have second : Run (State.start 2 2) [.called 0, .silent, .called 1, .silent]
      ⟨⟨2, 0, 0, 0, false⟩, [.cleared, .cleared], []⟩ :=
    (first.step (@Step.call _ 1 rfl)).step (@Step.clear _ 1 rfl rfl)
  have aborted : Run (State.start 2 2) untilAbort
      ⟨⟨2, 1, 1, 0, true⟩, [.cleared, .idle], [0]⟩ :=
    (((second.step (@Step.take _ 1 0 _ rfl (by decide) rfl)).step (@Step.count _ 1 0 rfl)).step
      (@Step.answer _ 1 0 rfl)).step (@Step.abort _ 1 (by decide))
  have late : Run (State.start 2 2)
      (untilAbort ++ [.taken 0 1, .silent, .answered 0 (some 1), .recorded 0 1])
      ⟨⟨2, 2, 2, 1, true⟩, [.idle, .idle], [0]⟩ :=
    (((aborted.step (@Step.take _ 0 1 _ rfl (by decide) rfl)).step (@Step.count _ 0 1 rfl)).step
      (@Step.answer _ 0 1 rfl)).step (@Step.record _ 0 1 rfl (by decide))
  exact (late.step (@Step.call _ 0 rfl)).step (@Step.turnAway _ 0 rfl rfl)

/-- Behind the abort the late thread gets one object, its next call none, and one of the two objects
is left to be recorded. -/
theorem late_thread_gets_one : ∃ s, Run (State.start 2 2) (untilAbort ++ afterAbort) s ∧
    answersTo 0 afterAbort = [1] ∧ (answersTo 0 afterAbort).length ≤ 1 ∧
      answersTo 0 [.answered 0 none] = [] ∧ s.distributor.pos = 2 ∧ s.distributor.loaded ≤ 2 ∧
        answers (untilAbort ++ afterAbort) = List.range 2 := by
  obtain ⟨⟨k, -, taken, -, settled⟩, -, -, ⟨loaded, -⟩, late⟩ := handed_out_once late_run
  have two : k = 2 := by
    rw [← List.length_range (n := k), ← taken]
    rfl
  obtain ⟨answered, pos⟩ := settled (by decide)
  obtain ⟨one, none, -⟩ := late (untilAbort.take 7) afterAbort 1 rfl 0
  exact ⟨_, late_run, rfl, one, none (afterAbort.take 4) _ rfl, two ▸ pos, loaded, two ▸ answered⟩

/-- A call that nobody disturbs answers what a fetch answers, and leaves what a fetch leaves. -/
theorem exists_run_fetch {s : State} {t : Nat} (unlocked : s.Unlocked)
    (turn : s.calls[t]? = some .idle) :
    ∃ trace s', Run s trace s' ∧ s'.distributor = s.distributor.fetch.2 ∧ s'.calls = s.calls ∧
      Event.answered t s.distributor.fetch.1 ∈ trace := by
  obtain ⟨bound, is⟩ := List.getElem?_eq_some_iff.mp turn
  have now (calls : List Call) (call : Call) (length : calls.length = s.calls.length) :
      (calls.set t call)[t]? = some call := List.getElem?_set_self (length ▸ bound)
  have back (call : Call) : (s.calls.set t call).set t .idle = s.calls := by
    rw [List.set_set, ← is, List.set_getElem_self]
  have called := Run.start.step (.call turn)
  cases aborted : s.distributor.aborted with
  | true =>
      have turnedAway := called.step (.turnAway (now _ _ rfl) aborted)
      refine ⟨_, _, turnedAway, ?_, back _, ?_⟩
      · simp [Distributor.fetch, aborted]
      · simp [Distributor.fetch, aborted]
  | false =>
      have cleared := called.step (.clear (now _ _ rfl) aborted)
      have others : ∀ call ∈ (s.calls.set t .called).set t .cleared, call.index? = none := by
        rw [List.set_set]
        intro call mem
        rcases List.mem_or_eq_of_mem_set mem with inside | rfl
        · exact unlocked call inside
        · rfl
      by_cases left : s.distributor.cursor < s.distributor.total
      · have taken := cleared.step (.take (now _ _ List.length_set) others (if_pos left))
        have counted := taken.step (.count (now _ _ (by simp)))
        have answered := counted.step (.answer (now _ _ (by simp)))
        refine ⟨_, _, answered, ?_, ?_, ?_⟩
        · simp [Distributor.fetch, Distributor.claim, aborted, left]
        · simpa using back .called
        · simp [Distributor.fetch, Distributor.claim, aborted, left]
      · have exhausted := cleared.step (.exhausted (now _ _ List.length_set) others (if_neg left))
        refine ⟨_, _, exhausted, ?_, ?_, ?_⟩
        · simp [Distributor.fetch, Distributor.claim, aborted, left]
        · simpa using back .called
        · simp [Distributor.fetch, Distributor.claim, aborted, left]

end Fetching

end Windchest
