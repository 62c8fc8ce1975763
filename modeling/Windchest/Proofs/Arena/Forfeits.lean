/-
# Windchest.Proofs.Arena.Forfeits -- what stays in use of a request that yields no buffer

The bytes of a request are reserved before there is a buffer for them.  A request that
does not fit next to what is in use is refused and reserves nothing, and one that is
granted has just its bytes in use.  But of 2^61 samples on there can be no buffer, and
such a request, if it fits below the limit, ends in a fault with its bytes reserved
(`vast_request_forfeits`): nobody holds a buffer that would give them back.

`Balanced` follows these bytes through a history.  What is in use beyond the open buffers
and the blocks is `forfeited` (`History.used_of_run`), and nothing but a release of everything
lets go of it.
The load of an object leaves nothing else behind when it fails (`Plan.carryOut_leaves`).
-/
import Windchest.Proofs.Arena.History

namespace Windchest

set_option autoImplicit false

namespace History.State

/-- The bytes that are in use for nothing, if those before an operation are given. -/
def forfeit (s : State) (op : Op) (lost : Nat) : Nat :=
  match op with
  | .allocate n =>
    match (s.arena.allocate n).1 with
    | .impossible => lost + Arena.bytesFor n
    | .granted _ | .refused _ => lost
  | .releaseAll => 0
  | .fill _ _ | .commit _ | .drop _ => lost

/-- The bytes that are in use for nothing behind a row of operations. -/
def forfeited (s : State) (lost : Nat) : List Op → Nat
  | [] => lost
  | op :: rest => (s.perform op).2.forfeited (s.forfeit op lost) rest

/-- The bytes of the open buffers. -/
def openBytes (s : State) : Nat := (s.buffers.map (·.bytes)).sum

/-- In use are the open buffers, the blocks and the bytes that are lost. -/
structure Balanced (s : State) (lost : Nat) : Prop where
  whole : s.buffers.map (·.bytes) = s.buffers.map (4 * ·.samples.length)
  used : s.arena.used = s.openBytes + 4 * (s.arena.blocks.map List.length).sum + lost

/-- Filling a buffer leaves its size as it is. -/
theorem map_modify_fill {α : Type} (f : Buffer → α) (samples : List Sample)
    (same : ∀ b : Buffer, f (b.fill samples) = f b) (buffers : List Buffer) (i : Nat) :
    (buffers.modify i (·.fill samples)).map f = buffers.map f := by
  refine List.ext_getElem? fun j => ?_
  rw [List.getElem?_map, List.getElem?_modify, List.getElem?_map]
  cases buffers[j]? with
  | none => rfl
  | some b =>
      simp only [Option.map_eq_map, Option.map_some]
      split
      · rw [same]
      · rfl

/-- An open buffer and the others make up all open buffers. -/
theorem sum_map_eraseIdx {buffers : List Buffer} {i : Nat} {b : Buffer} (f : Buffer → Nat)
    (isOpen : buffers[i]? = some b) :
    (buffers.map f).sum = f b + ((buffers.eraseIdx i).map f).sum := by
  obtain ⟨inside, rfl⟩ := List.getElem?_eq_some_iff.mp isOpen
  have split := List.add_sum_eraseIdx (l := buffers.map f) (i := i) (by rwa [List.length_map])
    fun _ _ => AddCommute.all _ _
  rw [← split, List.getElem_map, List.eraseIdx_map]

namespace Balanced

variable {s : State} {lost : Nat}

theorem start (limit : Nat) : Balanced ⟨{ limit }, []⟩ 0 := ⟨rfl, rfl⟩

theorem bytes_of_open (balanced : s.Balanced lost) {i : Nat} {b : Buffer}
    (isOpen : s.buffers[i]? = some b) : b.bytes = 4 * b.samples.length := by
  have same := congrArg (·[i]?) balanced.whole
  simpa only [List.getElem?_map, isOpen, Option.map_some, Option.some.injEq] using same

theorem whole_eraseIdx (balanced : s.Balanced lost) (i : Nat) :
    (s.buffers.eraseIdx i).map (·.bytes) = (s.buffers.eraseIdx i).map (4 * ·.samples.length) := by
  rw [← List.eraseIdx_map, ← List.eraseIdx_map, balanced.whole]

theorem allocate (balanced : s.Balanced lost) (n : Nat) :
    (s.perform (.allocate n)).2.Balanced (s.forfeit (.allocate n) lost) := by
  have used := balanced.used
  unfold perform forfeit
  rcases s.arena.allocate_answers n with
    ⟨-, answer⟩ | ⟨-, -, answer⟩ | ⟨-, -, answer⟩ <;> simp only [answer]
  · exact balanced
  · refine ⟨?_, ?_⟩
    · rw [List.map_append, List.map_append, balanced.whole, List.map_singleton, List.map_singleton,
        List.length_replicate]
    · simp only [openBytes, Arena.spend, List.map_append, List.sum_append, List.map_singleton,
        List.sum_singleton] at used ⊢
      omega
  · refine ⟨balanced.whole, ?_⟩
    simp only [openBytes, Arena.spend] at used ⊢
    omega

theorem fill (balanced : s.Balanced lost) (i : Nat) (samples : List Sample) :
    (s.perform (.fill i samples)).2.Balanced lost := by
  have bytes := map_modify_fill (·.bytes) samples (fun _ => rfl) s.buffers i
  have lengths := map_modify_fill (4 * ·.samples.length) samples
    (fun b => by rw [b.length_fill samples]) s.buffers i
  refine ⟨?_, ?_⟩
  · simp only [perform]
    rw [bytes, lengths, balanced.whole]
  · simp only [perform, openBytes, bytes]
    exact balanced.used

theorem commit (balanced : s.Balanced lost) (i : Nat) :
    (s.perform (.commit i)).2.Balanced lost := by
  cases isOpen : s.buffers[i]? with
  | none =>
      rw [perform, isOpen]
      exact balanced
  | some b =>
      have used := balanced.used
      have whole := balanced.bytes_of_open isOpen
      rw [perform_commit isOpen]
      refine ⟨balanced.whole_eraseIdx i, ?_⟩
      rw [openBytes, sum_map_eraseIdx _ isOpen] at used
      simp only [openBytes, Arena.commit, List.map_append, List.sum_append, List.map_singleton,
        List.sum_singleton]
      omega

theorem drop (balanced : s.Balanced lost) (i : Nat) : (s.perform (.drop i)).2.Balanced lost := by
  cases isOpen : s.buffers[i]? with
  | none =>
      rw [perform, isOpen]
      exact balanced
  | some b =>
      have used := balanced.used
      simp only [perform, isOpen]
      refine ⟨balanced.whole_eraseIdx i, ?_⟩
      rw [openBytes, sum_map_eraseIdx _ isOpen] at used
      simp only [openBytes, Arena.drop]
      omega

/-- An operation keeps the balance. -/
theorem perform (balanced : s.Balanced lost) (op : Op) :
    (s.perform op).2.Balanced (s.forfeit op lost) := by
  cases op with
  | allocate n => exact balanced.allocate n
  | fill i samples => exact balanced.fill i samples
  | commit i => exact balanced.commit i
  | drop i => exact balanced.drop i
  | releaseAll => exact ⟨rfl, rfl⟩

theorem run (balanced : s.Balanced lost) (ops : List Op) :
    (s.run ops).Balanced (s.forfeited lost ops) := by
  induction ops generalizing s lost with
  | nil => exact balanced
  | cons op rest ih => exact ih (balanced.perform op)

end Balanced

end History.State

/-- In every history of an arena there are in use the open buffers, the blocks, and what requests that
no buffer can hold have forfeited since everything was released last. -/
theorem History.used_of_run (limit : Nat) (ops : List History.Op) :
    let start : History.State := ⟨{ limit }, []⟩
    let now := start.run ops
    now.arena.used
      = now.openBytes + 4 * (now.arena.blocks.map List.length).sum + start.forfeited 0 ops :=
  ((History.State.Balanced.start limit).run ops).used

/-- **A request without a buffer has nothing reserved, unless no buffer can hold it.**  A grant has
exactly four bytes for each sample in use, and a refusal changes nothing.  A request of 2^61 samples
or more that fits below the limit ends in a fault, and its bytes are in use; so what is in use without
a buffer is as before if and only if the request is not one of these.

Hence a load that fails leaves nothing in use, or the bytes of the one demand that it was given up
on. -/
theorem reserved_by_requests (a : Arena) (n : Nat) :
    let answer := (a.allocate n).1
    let after := (a.allocate n).2
    (∀ b, answer = .granted b →
      b.samples = List.replicate n .zero ∧ after = a.spend (4 * n) ∧ after.used = a.used + 4 * n) ∧
    (∀ why, answer = .refused why → after = a) ∧
    (answer = .impossible → after = a.spend (Arena.bytesFor n) ∧ 2 ^ 63 ≤ Arena.bytesFor n) ∧
    (answer = .impossible ↔ 2 ^ 61 ≤ n ∧ a.used + Arena.bytesFor n ≤ a.capacity) ∧
    ((∀ b, answer ≠ .granted b) →
      (after.used = a.used ↔ ¬ (2 ^ 61 ≤ n ∧ a.used + Arena.bytesFor n ≤ a.capacity))) ∧
    (∀ {α ε : Type} (p : Plan α ε),
      let c := p.carryOut a
      (c.result = .ok () ∧ c.arena.used = a.used + p.bytes ∧
        c.arena.blocks.length = a.blocks.length + p.demands.length) ∨
      (c.result ≠ .ok () ∧ c.arena.used = a.used ∧ c.arena.blocks = a.blocks) ∨
      ∃ d ∈ p.demands, ¬ d.Fits ∧ c.result = .error (.fault .capacity) ∧
        c.arena.used = a.used + d.bytes) := by
  have loads {α ε : Type} (p : Plan α ε) := p.carryOut_leaves a
  rcases a.allocate_answers n with
    ⟨full, answer⟩ | ⟨-, small, answer⟩ | ⟨room, large, answer⟩ <;> rw [answer]
  · have regular : ¬ (2 ^ 61 ≤ n ∧ a.used + Arena.bytesFor n ≤ a.capacity) :=
      fun vast => Nat.not_le_of_lt full vast.2
    exact ⟨nofun, fun _ _ => rfl, nofun, ⟨nofun, fun vast => absurd vast regular⟩,
      fun _ => ⟨fun _ => regular, fun _ => rfl⟩, loads⟩
  · refine ⟨?_, nofun, nofun, ⟨nofun, fun vast => absurd vast.1 (Nat.not_le_of_lt small)⟩,
      fun none => absurd rfl (none _), loads⟩
    rintro b ⟨⟩
    exact ⟨rfl, rfl, rfl⟩
  · have lost : 2 ^ 63 ≤ Arena.bytesFor n := by
      unfold Arena.bytesFor maxWord
      omega
    refine ⟨nofun, nofun, fun _ => ⟨rfl, lost⟩, ⟨fun _ => ⟨large, room⟩, fun _ => rfl⟩,
      fun _ => ⟨fun same => ?_, fun regular => absurd ⟨large, room⟩ regular⟩, loads⟩
    change a.used + Arena.bytesFor n = a.used at same
    omega

/-- On an arena that has room for every word, a request of 2^61 samples yields no buffer, and its
2^63 bytes are in use. -/
theorem vast_request_forfeits :
    (Arena.unbounded.allocate (2 ^ 61)).1 = .impossible ∧ Arena.unbounded.used = 0 ∧
      (Arena.unbounded.allocate (2 ^ 61)).2.used = 2 ^ 63 := by
  have answer : Arena.unbounded.allocate (2 ^ 61)
      = (.impossible, Arena.unbounded.spend (Arena.bytesFor (2 ^ 61))) := by
    rcases Arena.unbounded.allocate_answers (2 ^ 61) with
      ⟨full, -⟩ | ⟨-, small, -⟩ | ⟨-, -, answer⟩
    · exact absurd full (by decide)
    · exact absurd small (Nat.lt_irrefl _)
    · exact answer
  rw [answer]
  exact ⟨rfl, rfl, by decide⟩

end Windchest
