/-
# Windchest.Proofs.Arena.Sharing -- what is in use of an arena that threads share

Any number of threads ask one arena for buffers, fill them, commit them or let go of
them, and hand them to each other, one atomic step after the other in whatever order
(`Sharing.Run`).  A commit takes the samples out of the buffer first, hands them over
to the arena next, and lets go of what is left of the buffer last; other threads may
act in between.  When no buffer is open the whole arena may be released.

Every grant has a ticket.  `Sharing.Books` says where the bytes of all the grants are:
held by a thread, committed, or returned.  An action on one buffer and a grant keep
the books whatever the other threads hold, so the books are right in every run
(`Sharing.accounts_of_run`).
-/
import Windchest.Proofs.Crew.Steps

namespace Windchest

set_option autoImplicit false

/-- A request of less than 2^61 samples is granted if it fits and refused if not. -/
theorem Arena.allocate_cases (a : Arena) (word : a.limit ≤ maxWord) {n : Nat} (small : n < 2 ^ 61) :
    (a.used + 4 * n ≤ a.limit ∧
      a.allocate n = (.granted ⟨List.replicate n .zero, 4 * n⟩, a.spend (4 * n))) ∨
    (a.limit < a.used + 4 * n ∧ a.allocate n = (.refused ⟨4 * n, a.used, a.limit⟩, a)) := by
  have bytes := bytesFor_of_lt small
  have capacity : a.capacity = a.limit := Nat.min_eq_left word
  rcases a.allocate_answers n with
    ⟨full, answer⟩ | ⟨room, -, answer⟩ | ⟨-, large, -⟩
  · rw [bytes, capacity] at full
    exact Or.inr ⟨full, bytes ▸ answer⟩
  · rw [bytes, capacity] at room
    exact Or.inl ⟨room, answer⟩
  · exact absurd small (Nat.not_lt_of_le large)

namespace Sharing

/-! ## Threads that share an arena -/

/-- How far a buffer has come. -/
inductive Stage where
  | filling (samples : List Sample)
  /-- A commit has taken the samples out and has not handed them over yet. -/
  | taken (samples : List Sample)
  /-- The arena has the samples. -/
  | spent

/-- A buffer in the hands of a thread.  It remembers its bytes when its samples are gone. -/
structure Handle where
  /-- The number of grants before its own. -/
  ticket : Nat
  bytes : Nat
  stage : Stage

namespace Handle

/-- The buffer, unless a commit has emptied it. -/
def buffer? (h : Handle) : Option Buffer :=
  match h.stage with
  | .filling samples => some ⟨samples, h.bytes⟩
  | .taken _ | .spent => none

/-- Letting go of a buffer gives its bytes back, but not if a commit has emptied it. -/
def drop (h : Handle) (a : Arena) : Arena :=
  match h.buffer? with
  | some buffer => a.drop buffer
  | none => a

/-- The samples that the arena does not have yet. -/
def samples (h : Handle) : List Sample :=
  match h.stage with
  | .filling samples | .taken samples => samples
  | .spent => []

/-- The number of them. -/
def length (h : Handle) : Nat := h.samples.length

/-- The grant that the thread holds with an open buffer, and its bytes. -/
def claim (h : Handle) : Multiset (Nat × Nat) :=
  match h.stage with
  | .filling _ | .taken _ => {(h.ticket, h.bytes)}
  | .spent => 0

/-- An open buffer has as many samples as its bytes have room for. -/
def Whole (h : Handle) : Prop := h.stage ≠ .spent → h.bytes = 4 * h.length

end Handle

/-- What can be noticed of a step. -/
inductive Event where
  | granted (ticket bytes : Nat)
  | refused (why : OutOfMemory)
  | committed (ticket bytes : Nat) (samples : List Sample)
  /-- The bytes of the ticket were given back. -/
  | returned (ticket bytes : Nat)
  /-- Everything was released while so many bytes were in use. -/
  | released (bytes : Nat)
  /-- The arena was not concerned. -/
  | silent

/-- An arena and what each of its threads holds of it. -/
structure State where
  arena : Arena
  threads : List (List Handle)
  /-- The number of grants so far. -/
  grants : Nat := 0

/-- Whether something is true of all that the threads hold. -/
def Everywhere (threads : List (List Handle)) (p : Handle → Prop) : Prop :=
  ∀ handles ∈ threads, ∀ h ∈ handles, p h

/-- A new arena, of which none of the threads holds anything. -/
def State.start (limit threads : Nat) : State := ⟨{ limit }, List.replicate threads [], 0⟩

/-- What a thread can do with one of its buffers, and what it holds of it then. -/
inductive Use (a : Arena) : Handle → Event → Arena → List Handle → Prop where
  | fill {ticket bytes : Nat} {old : List Sample} (new : List Sample) :
      Use a ⟨ticket, bytes, .filling old⟩ .silent a
        [⟨ticket, bytes, .filling (Buffer.fill ⟨old, bytes⟩ new).samples⟩]
  | take {ticket bytes : Nat} {samples : List Sample} :
      Use a ⟨ticket, bytes, .filling samples⟩ .silent a [⟨ticket, bytes, .taken samples⟩]
  | handOver {ticket bytes : Nat} {samples : List Sample} :
      Use a ⟨ticket, bytes, .taken samples⟩ (.committed ticket bytes samples)
        (a.commit ⟨samples, bytes⟩).2 [⟨ticket, bytes, .spent⟩]
  | giveUp {ticket bytes : Nat} {samples : List Sample} :
      Use a ⟨ticket, bytes, .filling samples⟩ (.returned ticket bytes)
        (Handle.drop ⟨ticket, bytes, .filling samples⟩ a) []
  | letGo {ticket bytes : Nat} :
      Use a ⟨ticket, bytes, .spent⟩ .silent (Handle.drop ⟨ticket, bytes, .spent⟩ a) []

/-- What any of the threads can do. -/
inductive Step (s : State) : Event → State → Prop where
  | grant {n : Nat} {buffer : Buffer} {arena : Arena} {handles : List Handle}
      {threads : List (List Handle)} (small : n < 2 ^ 61)
      (answer : s.arena.allocate n = (.granted buffer, arena))
      (turn : Swap s.threads threads handles
        (handles ++ [⟨s.grants, buffer.bytes, .filling buffer.samples⟩])) :
      Step s (.granted s.grants buffer.bytes) ⟨arena, threads, s.grants + 1⟩
  | refuse {n : Nat} {why : OutOfMemory} {arena : Arena} (small : n < 2 ^ 61)
      (answer : s.arena.allocate n = (.refused why, arena)) :
      Step s (.refused why) { s with arena := arena }
  | use {front back left : List Handle} {h : Handle} {event : Event} {arena : Arena}
      {threads : List (List Handle)} (use : Use s.arena h event arena left)
      (turn : Swap s.threads threads (front ++ h :: back) (front ++ left ++ back)) :
      Step s event { s with arena := arena, threads := threads }
  | pass {front back handles : List Handle} {h : Handle} {between threads : List (List Handle)}
      (give : Swap s.threads between (front ++ h :: back) (front ++ back))
      (receive : Swap between threads handles (handles ++ [h])) :
      Step s .silent { s with threads := threads }
  | release (closed : Everywhere s.threads fun h => h.stage = .spent) :
      Step s (.released s.arena.used) { s with arena := s.arena.releaseAll }

/-- Steps of the threads in some order, and their events, the latest last. -/
inductive Run (start : State) : List Event → State → Prop where
  | start : Run start [] start
  | step {trace : List Event} {event : Event} {s t : State} (run : Run start trace s)
      (next : Step s event t) : Run start (trace ++ [event]) t

/-! ## Sums over what is held and what happened -/

/-- The sum over all that the threads hold. -/
def total {M : Type} [AddCommMonoid M] (threads : List (List Handle)) (f : Handle → M) : M :=
  (threads.map fun handles => (handles.map f).sum).sum

/-- The sum over all events. -/
def tally {M : Type} [AddCommMonoid M] (f : Event → M) (trace : List Event) : M :=
  (trace.map f).sum

@[simp] theorem tally_concat {M : Type} [AddCommMonoid M] (f : Event → M) (trace : List Event)
    (event : Event) : tally f (trace ++ [event]) = tally f trace + f event := by
  rw [tally, List.map_append, List.sum_append, List.map_singleton, List.sum_singleton, tally]

namespace Event

def grants : Event → Multiset (Nat × Nat)
  | .granted ticket bytes => {(ticket, bytes)}
  | _ => 0

def commits : Event → Multiset (Nat × Nat)
  | .committed ticket bytes _ => {(ticket, bytes)}
  | _ => 0

def returns : Event → Multiset (Nat × Nat)
  | .returned ticket bytes => {(ticket, bytes)}
  | _ => 0

def releases : Event → Nat
  | .released bytes => bytes
  | _ => 0

/-- The blocks that are left after the event. -/
def keep (blocks : List (List Sample)) : Event → List (List Sample)
  | .committed _ _ samples => blocks ++ [samples]
  | .released _ => []
  | _ => blocks

end Event

/-- What was committed since everything was released last. -/
def committedSince (trace : List Event) : List (List Sample) := trace.foldl Event.keep []

@[simp] theorem committedSince_concat (trace : List Event) (event : Event) :
    committedSince (trace ++ [event]) = event.keep (committedSince trace) :=
  List.foldl_concat ..

/-- The bytes of all the grants of a list. -/
def bytesOf (grants : Multiset (Nat × Nat)) : Nat := (grants.map Prod.snd).sum

@[simp] theorem bytesOf_zero : bytesOf 0 = 0 := rfl

@[simp] theorem bytesOf_add (grants others : Multiset (Nat × Nat)) :
    bytesOf (grants + others) = bytesOf grants + bytesOf others := by
  rw [bytesOf, Multiset.map_add, Multiset.sum_add, bytesOf, bytesOf]

@[simp] theorem bytesOf_singleton (ticket bytes : Nat) : bytesOf {(ticket, bytes)} = bytes := by
  rw [bytesOf, Multiset.map_singleton, Multiset.sum_singleton]

/-! ## The books -/

/-- Where the bytes of an arena are, if its threads hold so many samples that it does not have yet
and have these grants to show for them. -/
structure Books (limit : Nat) (trace : List Event) (a : Arena) (held : Nat)
    (claims : Multiset (Nat × Nat)) : Prop where
  ceiling : a.limit = limit
  within : a.used ≤ limit
  used : a.used = 4 * (held + (a.blocks.map List.length).sum)
  blocks : a.blocks = committedSince trace
  ledger : tally Event.grants trace
    = claims + tally Event.commits trace + tally Event.returns trace
  bytes : bytesOf (tally Event.grants trace)
    = a.used + bytesOf (tally Event.returns trace) + tally Event.releases trace

namespace Books

variable {limit held : Nat} {trace : List Event} {a : Arena} {claims : Multiset (Nat × Nat)}

theorem start (limit : Nat) : Books limit [] { limit } 0 0 where
  ceiling := rfl
  within := Nat.zero_le _
  used := rfl
  blocks := rfl
  ledger := rfl
  bytes := rfl

/-- The books of what happened so far are kept by an event whose own changes balance. -/
theorem post (books : Books limit trace a held claims) {event : Event} {after : Arena} {left : Nat}
    {others : Multiset (Nat × Nat)} (ceiling : after.limit = a.limit) (within : after.used ≤ limit)
    (used : after.used = 4 * (left + (after.blocks.map List.length).sum))
    (blocks : after.blocks = event.keep a.blocks)
    (ledger : claims + event.grants = others + event.commits + event.returns)
    (bytes : a.used + bytesOf event.grants
      = after.used + bytesOf event.returns + event.releases) :
    Books limit (trace ++ [event]) after left others where
  ceiling := ceiling.trans books.ceiling
  within := within
  used := used
  blocks := by rw [committedSince_concat, ← books.blocks, blocks]
  ledger := by
    simp only [tally_concat, books.ledger]
    calc claims + tally Event.commits trace + tally Event.returns trace + event.grants
        = claims + event.grants + tally Event.commits trace + tally Event.returns trace := by abel
      _ = others + event.commits + event.returns + tally Event.commits trace
            + tally Event.returns trace := by rw [ledger]
      _ = others + (tally Event.commits trace + event.commits)
            + (tally Event.returns trace + event.returns) := by abel
  bytes := by
    have balance := books.bytes
    simp only [tally_concat, bytesOf_add]
    omega

/-- A grant is written into the books with its samples. -/
theorem grant (books : Books limit trace a held claims) (ticket : Nat) {n : Nat}
    (room : a.used + 4 * n ≤ limit) :
    Books limit (trace ++ [.granted ticket (4 * n)]) (a.spend (4 * n)) (held + n)
      (claims + {(ticket, 4 * n)}) := by
  refine books.post rfl room ?_ rfl ?_ ?_
  · have used := books.used
    simp only [Arena.spend]
    omega
  · simp only [Event.grants, Event.commits, Event.returns, add_zero]
  · simp only [Event.grants, Event.returns, Event.releases, bytesOf_singleton, bytesOf_zero,
      add_zero, Arena.spend]

/-- What leaves the arena as it is leaves the books as they are. -/
theorem quiet (books : Books limit trace a held claims) {event : Event}
    (nothing : event = .silent ∨ ∃ why, event = .refused why) :
    Books limit (trace ++ [event]) a held claims := by
  rcases nothing with rfl | ⟨why, rfl⟩ <;>
    exact books.post rfl books.within books.used rfl (add_zero _).symm rfl

/-- Releasing everything lets go of the bytes of all blocks, if there are no open buffers. -/
theorem release (books : Books limit trace a 0 0) :
    Books limit (trace ++ [.released a.used]) a.releaseAll 0 0 := by
  refine books.post rfl (Nat.zero_le _) rfl rfl rfl ?_
  simp only [Event.grants, Event.returns, Event.releases, bytesOf_zero, Arena.releaseAll, zero_add,
    add_zero]

/-- The arena takes the samples of a buffer over; no byte of it comes free. -/
theorem handOver {ticket bytes : Nat} {samples : List Sample}
    (books : Books limit trace a (held + samples.length) (claims + {(ticket, bytes)})) :
    Books limit (trace ++ [.committed ticket bytes samples]) (a.commit ⟨samples, bytes⟩).2 held
      claims := by
  refine books.post rfl books.within ?_ rfl ?_ rfl
  · have used := books.used
    simp only [Arena.commit, List.map_append, List.sum_append, List.map_singleton,
      List.sum_singleton] at used ⊢
    omega
  · simp only [Event.grants, Event.commits, Event.returns, add_zero]

/-- An open buffer is counted as used. -/
theorem bytes_le_used {samples : List Sample}
    (books : Books limit trace a (held + samples.length) claims) : 4 * samples.length ≤ a.used := by
  have used := books.used
  omega

/-- Giving a buffer up returns its bytes, and with them its grant. -/
theorem giveUp {ticket bytes : Nat} {samples : List Sample} (whole : bytes = 4 * samples.length)
    (books : Books limit trace a (held + samples.length) (claims + {(ticket, bytes)})) :
    Books limit (trace ++ [.returned ticket bytes]) (a.drop ⟨samples, bytes⟩) held claims := by
  refine books.post rfl (Nat.le_trans (Nat.sub_le _ _) books.within) ?_ rfl ?_ ?_
  · have used := books.used
    simp only [Arena.drop]
    omega
  · simp only [Event.grants, Event.commits, Event.returns, add_zero]
  · have inside := books.bytes_le_used
    simp only [Event.grants, Event.returns, Event.releases, bytesOf_singleton, bytesOf_zero,
      add_zero, Arena.drop]
    omega

/-- Whatever a thread does with a buffer, the books are kept for what it holds of it then. -/
theorem use {h : Handle} {event : Event} {arena : Arena} {left : List Handle}
    (use : Use a h event arena left) (whole : h.Whole)
    (books : Books limit trace a (held + h.length) (claims + h.claim)) :
    Books limit (trace ++ [event]) arena (held + (left.map Handle.length).sum)
      (claims + (left.map Handle.claim).sum) := by
  cases use with
  | @fill ticket bytes old new =>
      have length := Buffer.length_fill ⟨old, bytes⟩ new
      simp only [List.map_singleton, List.sum_singleton, Handle.length, Handle.samples, length] at books ⊢
      exact books.quiet (Or.inl rfl)
  | take => exact books.quiet (Or.inl rfl)
  | handOver =>
      simp only [List.map_singleton, List.sum_singleton, Handle.length, Handle.samples,
        Handle.claim, List.length_nil, add_zero] at books ⊢
      exact books.handOver
  | giveUp =>
      simp only [List.map_nil, List.sum_nil, Handle.length, Handle.samples, Handle.claim,
        add_zero] at books ⊢
      exact books.giveUp (whole Stage.noConfusion)
  | letGo => exact books.quiet (Or.inl rfl)

end Books

/-! ## One step -/

theorem Use.whole {a arena : Arena} {h : Handle} {event : Event} {left : List Handle}
    (use : Use a h event arena left) (whole : h.Whole) : ∀ h' ∈ left, h'.Whole := by
  cases use with
  | @fill ticket bytes old new =>
      rw [List.forall_mem_singleton]
      intro _
      have length := Buffer.length_fill ⟨old, bytes⟩ new
      have was : bytes = 4 * old.length := whole Stage.noConfusion
      exact was.trans (congrArg (4 * ·) length.symm)
  | take =>
      rw [List.forall_mem_singleton]
      intro _
      exact whole Stage.noConfusion
  | handOver =>
      rw [List.forall_mem_singleton]
      intro unspent
      exact absurd rfl unspent
  | giveUp => exact List.forall_mem_nil _
  | letGo => exact List.forall_mem_nil _

theorem Use.grants_eq_zero {a arena : Arena} {h : Handle} {event : Event} {left : List Handle}
    (use : Use a h event arena left) : event.grants = 0 := by
  cases use <;> rfl

section Totals

variable {M : Type} [AddCommMonoid M] {before after : List (List Handle)} {handles : List Handle}
  {h : Handle}

/-- A thread that gets a buffer holds that much more. -/
theorem total_receive (turn : Swap before after handles (handles ++ [h])) (f : Handle → M) :
    total after f = total before f + f h := by
  obtain ⟨rest, first, second⟩ := turn.rest fun handles => (handles.map f).sum
  rw [total, total, first, second, List.map_append, List.sum_append, List.map_singleton,
    List.sum_singleton, add_assoc]

/-- One buffer of a thread becomes others, and the rest of what the threads hold stays. -/
theorem total_use {front back left : List Handle}
    (turn : Swap before after (front ++ h :: back) (front ++ left ++ back)) (f : Handle → M) :
    ∃ rest, total before f = rest + f h ∧ total after f = rest + (left.map f).sum := by
  obtain ⟨rest, first, second⟩ := turn.rest fun handles => (handles.map f).sum
  refine ⟨rest + (front.map f).sum + (back.map f).sum, ?_, ?_⟩
  · rw [total, first, List.map_append, List.map_cons, List.sum_append, List.sum_cons]
    abel
  · rw [total, second, List.map_append, List.map_append, List.sum_append, List.sum_append]
    abel

end Totals

theorem Everywhere.of_swap {before after : List (List Handle)} {old new : List Handle}
    {p : Handle → Prop} (turn : Swap before after old new) (all : Everywhere before p)
    (these : ∀ h ∈ new, p h) : Everywhere after p := fun handles mem => by
  rcases turn.mem_after mem with rfl | mem
  · exact these
  · exact all handles mem

/-- The books are right, open buffers are whole, and the grants are numbered in order. -/
structure Accounts (limit : Nat) (trace : List Event) (s : State) : Prop where
  books : Books limit trace s.arena (total s.threads Handle.length) (total s.threads Handle.claim)
  whole : Everywhere s.threads Handle.Whole
  tickets : (tally Event.grants trace).map Prod.fst = Multiset.range s.grants

namespace Accounts

theorem start (limit threads : Nat) : Accounts limit [] (State.start limit threads) where
  books := by
    have none {M : Type} [AddCommMonoid M] (f : Handle → M) :
        total (State.start limit threads).threads f = 0 := by
      rw [total, State.start, List.map_replicate, List.map_nil, List.sum_nil]
      exact List.sum_eq_zero fun x mem => List.eq_of_mem_replicate mem
    rw [none, none]
    exact Books.start limit
  whole handles mem := by
    rw [List.eq_of_mem_replicate mem]
    exact List.forall_mem_nil _
  tickets := rfl

variable {limit : Nat} {trace : List Event} {s : State} {threads : List (List Handle)}

theorem quiet (accounts : Accounts limit trace s) {event : Event}
    (nothing : event = .silent ∨ ∃ why, event = .refused why) :
    Accounts limit (trace ++ [event]) s where
  books := accounts.books.quiet nothing
  whole := accounts.whole
  tickets := by
    have none : event.grants = 0 := by rcases nothing with rfl | ⟨why, rfl⟩ <;> rfl
    rw [tally_concat, none, add_zero, accounts.tickets]

theorem grant (accounts : Accounts limit trace s) {n : Nat} (room : s.arena.used + 4 * n ≤ limit)
    {handles : List Handle} {samples : List Sample} (length : samples.length = n)
    (turn : Swap s.threads threads handles (handles ++ [⟨s.grants, 4 * n, .filling samples⟩])) :
    Accounts limit (trace ++ [.granted s.grants (4 * n)])
      ⟨s.arena.spend (4 * n), threads, s.grants + 1⟩ where
  books := by
    rw [total_receive turn, total_receive turn]
    have books := accounts.books.grant s.grants room
    rw [← length] at books ⊢
    exact books
  whole := by
    refine accounts.whole.of_swap turn fun h inside => ?_
    rcases List.mem_append.mp inside with inside | inside
    · exact accounts.whole _ turn.old_mem h inside
    · rw [List.mem_singleton.mp inside]
      exact fun _ => congrArg (4 * ·) length.symm
  tickets := by
    rw [tally_concat, Multiset.map_add, accounts.tickets, Event.grants, Multiset.map_singleton,
      Multiset.range_succ, Multiset.add_comm, Multiset.singleton_add]

theorem use (accounts : Accounts limit trace s) {front back left : List Handle} {h : Handle}
    {event : Event} {arena : Arena} (use : Use s.arena h event arena left)
    (turn : Swap s.threads threads (front ++ h :: back) (front ++ left ++ back)) :
    Accounts limit (trace ++ [event]) { s with arena := arena, threads := threads } := by
  have all := List.forall_mem_append.mp (accounts.whole _ turn.old_mem)
  obtain ⟨inFront, whole, inBack⟩ := And.imp_right List.forall_mem_cons.mp all
  refine ⟨?_, accounts.whole.of_swap turn ?_, ?_⟩
  · -- By either measure the other buffers weigh as much before as after.
    obtain ⟨held, heldBefore, heldAfter⟩ := total_use turn Handle.length
    obtain ⟨claims, claimsBefore, claimsAfter⟩ := total_use turn Handle.claim
    have books := accounts.books
    rw [heldBefore, claimsBefore] at books
    rw [heldAfter, claimsAfter]
    exact books.use use whole
  · exact List.forall_mem_append.mpr
      ⟨List.forall_mem_append.mpr ⟨inFront, use.whole whole⟩, inBack⟩
  · rw [tally_concat, use.grants_eq_zero, add_zero, accounts.tickets]

/-- A buffer that goes from one thread to another is held as before. -/
theorem pass (accounts : Accounts limit trace s) {front back handles : List Handle} {h : Handle}
    {between : List (List Handle)}
    (give : Swap s.threads between (front ++ h :: back) (front ++ back))
    (receive : Swap between threads handles (handles ++ [h])) :
    Accounts limit trace { s with threads := threads } := by
  have away : Swap s.threads between (front ++ h :: back) (front ++ [] ++ back) := by
    rwa [List.append_nil]
  have same {M : Type} [AddCommMonoid M] (f : Handle → M) : total threads f = total s.threads f := by
    obtain ⟨rest, before, after⟩ := total_use away f
    rw [total_receive receive, before, after, List.map_nil, List.sum_nil, add_zero]
  have all := List.forall_mem_append.mp (accounts.whole _ give.old_mem)
  obtain ⟨inFront, whole, inBack⟩ := And.imp_right List.forall_mem_cons.mp all
  have left := accounts.whole.of_swap give (List.forall_mem_append.mpr ⟨inFront, inBack⟩)
  refine ⟨?_, left.of_swap receive (List.forall_mem_append.mpr
    ⟨left _ receive.old_mem, List.forall_mem_singleton.mpr whole⟩), accounts.tickets⟩
  rw [same, same]
  exact accounts.books

theorem release (accounts : Accounts limit trace s)
    (closed : Everywhere s.threads fun h => h.stage = .spent) :
    Accounts limit (trace ++ [.released s.arena.used]) { s with arena := s.arena.releaseAll } := by
  have none {M : Type} [AddCommMonoid M] {f : Handle → M}
      (spent : ∀ h : Handle, h.stage = .spent → f h = 0) : total s.threads f = 0 := by
    refine List.sum_eq_zero (List.forall_mem_map.mpr fun handles mem => ?_)
    exact List.sum_eq_zero (List.forall_mem_map.mpr fun h inside => spent h (closed _ mem h inside))
  have held : total s.threads Handle.length = 0 := none fun h spent => by
    rw [Handle.length, Handle.samples, spent]
    rfl
  have claims : total s.threads Handle.claim = 0 := none fun h spent => by
    rw [Handle.claim, spent]
  have books := accounts.books
  rw [held, claims] at books
  refine ⟨?_, accounts.whole, ?_⟩
  · rw [held, claims]
    exact books.release
  · rw [tally_concat, Event.grants, add_zero, accounts.tickets]
    intro _ _ same
    cases same

/-- Whatever a thread does keeps the accounts. -/
theorem step (word : limit ≤ maxWord) (accounts : Accounts limit trace s) {event : Event}
    {t : State} (next : Step s event t) : Accounts limit (trace ++ [event]) t := by
  have ceiling := accounts.books.ceiling
  cases next with
  | grant small answer turn =>
      rcases s.arena.allocate_cases (ceiling ▸ word) small with ⟨room, granted⟩ | ⟨-, refused⟩
      · cases granted.symm.trans answer
        exact accounts.grant (ceiling ▸ room) List.length_replicate turn
      · cases refused.symm.trans answer
  | refuse small answer =>
      rcases s.arena.allocate_cases (ceiling ▸ word) small with ⟨-, granted⟩ | ⟨-, refused⟩
      · cases granted.symm.trans answer
      · cases refused.symm.trans answer
        exact accounts.quiet (Or.inr ⟨_, rfl⟩)
  | use use turn => exact accounts.use use turn
  | pass give receive => exact (accounts.pass give receive).quiet (Or.inl rfl)
  | release closed => exact accounts.release closed

end Accounts

/-! ## Whole runs -/

theorem Run.accounts {limit threads : Nat} (word : limit ≤ maxWord) {trace : List Event} {s : State}
    (run : Run (State.start limit threads) trace s) : Accounts limit trace s := by
  induction run with
  | start => exact Accounts.start limit threads
  | step _ next ih => exact ih.step word next

/-- What one thread holds is part of what all of them hold. -/
theorem length_le_total {threads : List (List Handle)} {handles : List Handle}
    (mem : handles ∈ threads) {h : Handle} (inside : h ∈ handles) :
    h.length ≤ total threads Handle.length := by
  have inThread := List.le_sum_of_mem (List.mem_map_of_mem (f := Handle.length) inside)
  have inAll := List.le_sum_of_mem
    (List.mem_map_of_mem (f := fun handles : List Handle => (handles.map Handle.length).sum) mem)
  exact Nat.le_trans inThread inAll

/-- **The arena keeps account**, however many threads share it and whatever they do in whatever
order.  At every moment at most the limit is in use, and this is the room of all open buffers and
of the blocks that were committed since the last release.  A request is granted if it fits at that
moment; otherwise its refusal tells what was asked, what is in use and what the limit is, and the
arena is as before.

A grant is numbered once.  Its bytes are held by a thread, or committed, or were returned, and only
one of these and only once; and the bytes of all grants are in use, or were returned or released.
Whoever gives up a buffer gives up no more than is in use. -/
theorem accounts_of_run {limit threads : Nat} (word : limit ≤ maxWord) {trace : List Event}
    {s : State} (run : Run (State.start limit threads) trace s) :
    (s.arena.limit = limit ∧ s.arena.used ≤ limit ∧ s.arena.blocks = committedSince trace ∧
      s.arena.used = 4 * (total s.threads Handle.length
        + ((committedSince trace).map List.length).sum)) ∧
    (∀ n < 2 ^ 61,
      (s.arena.used + 4 * n ≤ limit ∧ s.arena.allocate n
        = (.granted ⟨List.replicate n .zero, 4 * n⟩, s.arena.spend (4 * n))) ∨
      (limit < s.arena.used + 4 * n ∧ s.arena.allocate n
        = (.refused ⟨4 * n, s.arena.used, limit⟩, s.arena))) ∧
    (((tally Event.grants trace).map Prod.fst).Nodup ∧
      tally Event.grants trace = total s.threads Handle.claim + tally Event.commits trace
        + tally Event.returns trace ∧
      bytesOf (tally Event.grants trace) = s.arena.used + bytesOf (tally Event.returns trace)
        + tally Event.releases trace) ∧
    Everywhere s.threads fun h =>
      h.stage ≠ .spent → h.bytes = 4 * h.length ∧ h.bytes ≤ s.arena.used := by
  obtain ⟨books, whole, tickets⟩ := run.accounts word
  have ceiling := books.ceiling
  refine ⟨⟨ceiling, books.within, books.blocks, ?_⟩, fun n small => ?_,
    ⟨?_, books.ledger, books.bytes⟩, fun handles mem h inside unspent => ?_⟩
  · rw [← books.blocks]
    exact books.used
  · have cases := s.arena.allocate_cases (ceiling ▸ word) small
    rwa [ceiling] at cases
  · rw [tickets]
    exact Multiset.nodup_range _
  · have bytes := whole handles mem h inside unspent
    have part := length_le_total mem inside
    have used := books.used
    exact ⟨bytes, by omega⟩

/-- What two threads do with an arena of 12 bytes: one gets a buffer of two samples and then asks
for another, the other gets one of a single sample and gives it up while the first is committed. -/
def rivals : List Event :=
  [.granted 0 8, .refused ⟨8, 8, 12⟩, .granted 1 4, .silent, .returned 1 4,
    .committed 0 8 [.zero, .zero], .silent]

theorem rivals_run :
    Run (State.start 12 2) rivals ⟨⟨12, 8, [[.zero, .zero]], 0⟩, [[], []], 2⟩ := by
  have grant : Step (State.start 12 2) (.granted 0 8)
      ⟨⟨12, 8, [], 0⟩, [[⟨0, 8, .filling [.zero, .zero]⟩], []], 1⟩ :=
    @Step.grant _ 2 ⟨[.zero, .zero], 8⟩ _ [] _ (by decide) rfl ⟨0, rfl, rfl⟩
  have refuse : Step ⟨⟨12, 8, [], 0⟩, [[⟨0, 8, .filling [.zero, .zero]⟩], []], 1⟩
      (.refused ⟨8, 8, 12⟩) ⟨⟨12, 8, [], 0⟩, [[⟨0, 8, .filling [.zero, .zero]⟩], []], 1⟩ :=
    @Step.refuse _ 2 _ _ (by decide) rfl
  have another : Step ⟨⟨12, 8, [], 0⟩, [[⟨0, 8, .filling [.zero, .zero]⟩], []], 1⟩ (.granted 1 4)
      ⟨⟨12, 12, [], 0⟩, [[⟨0, 8, .filling [.zero, .zero]⟩], [⟨1, 4, .filling [.zero]⟩]], 2⟩ :=
    @Step.grant _ 1 ⟨[.zero], 4⟩ _ [] _ (by decide) rfl ⟨1, rfl, rfl⟩
  have take : Step
      ⟨⟨12, 12, [], 0⟩, [[⟨0, 8, .filling [.zero, .zero]⟩], [⟨1, 4, .filling [.zero]⟩]], 2⟩ .silent
      ⟨⟨12, 12, [], 0⟩, [[⟨0, 8, .taken [.zero, .zero]⟩], [⟨1, 4, .filling [.zero]⟩]], 2⟩ :=
    @Step.use _ [] [] _ _ _ _ _ .take ⟨0, rfl, rfl⟩
  have giveUp : Step
      ⟨⟨12, 12, [], 0⟩, [[⟨0, 8, .taken [.zero, .zero]⟩], [⟨1, 4, .filling [.zero]⟩]], 2⟩
      (.returned 1 4) ⟨⟨12, 8, [], 0⟩, [[⟨0, 8, .taken [.zero, .zero]⟩], []], 2⟩ :=
    @Step.use _ [] [] _ _ _ _ _ .giveUp ⟨1, rfl, rfl⟩
  have handOver : Step ⟨⟨12, 8, [], 0⟩, [[⟨0, 8, .taken [.zero, .zero]⟩], []], 2⟩
      (.committed 0 8 [.zero, .zero])
      ⟨⟨12, 8, [[.zero, .zero]], 0⟩, [[⟨0, 8, .spent⟩], []], 2⟩ :=
    @Step.use _ [] [] _ _ _ _ _ .handOver ⟨0, rfl, rfl⟩
  have letGo : Step ⟨⟨12, 8, [[.zero, .zero]], 0⟩, [[⟨0, 8, .spent⟩], []], 2⟩ .silent
      ⟨⟨12, 8, [[.zero, .zero]], 0⟩, [[], []], 2⟩ :=
    @Step.use _ [] [] _ _ _ _ _ .letGo ⟨0, rfl, rfl⟩
  exact ((((((Run.start.step grant).step refuse).step another).step take).step giveUp).step
    handOver).step letGo

/-- Behind them the first buffer alone is in use, and another one of its size is refused. -/
theorem accounts_of_rivals :
    12 ≤ maxWord ∧ ∃ s, Run (State.start 12 2) rivals s ∧ s.arena.used = 8 ∧
      s.arena.allocate 2 = (.refused ⟨8, 8, 12⟩, s.arena) := by
  have word : 12 ≤ maxWord := by decide
  obtain ⟨⟨-, -, -, used⟩, request, -⟩ := accounts_of_run word rivals_run
  refine ⟨word, _, rivals_run, used, ?_⟩
  rcases request 2 (by decide) with ⟨room, -⟩ | ⟨-, refused⟩
  · exact absurd room (by decide)
  · exact refused

end Sharing

end Windchest
