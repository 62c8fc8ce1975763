/-
# Windchest.Proofs.Arena.Plans -- what becomes of a plan

Whether a plan succeeds depends on the arena in one way only: it may have no room.
`Plan.promised` is what a plan comes to otherwise, and `Plan.Ends` lists the three
ways in which carrying it out can end: as promised, with the blocks of its demands
behind the handles of the object, as promised with a failure, or short of room.

`carryOut_ends` says that these are all, and `carryOut_room` that with room for all
demands the last of them is none; then a plan loads what it promises (`loaded_of_room`).
A plan that succeeds has just its demands in use and one that fails nothing, unless it
ends in a fault (`carryOut_leaves`).  The handles that an object is loaded with are given out
one behind the other, so no two of them are alike (`carryOut_handles`).
-/
import Windchest.Proofs.Arena.Growth

namespace Windchest

set_option autoImplicit false

namespace Arena

theorem grows_commitAll (a : Arena) (held : List Buffer) : a.Grows (a.commitAll held).2 := by
  induction held generalizing a with
  | nil => exact .refl a
  | cons b rest ih => exact (grows_commit a b).trans (ih _)

theorem used_commitAll (a : Arena) (held : List Buffer) : (a.commitAll held).2.used = a.used := by
  induction held generalizing a with
  | nil => rfl
  | cons b rest ih => exact ih _

/-- The handles of committed buffers resolve to their samples. -/
theorem resolves_commitAll (a : Arena) (held : List Buffer) :
    (a.commitAll held).2.Resolves (a.commitAll held).1 (held.map (·.samples)) := by
  induction held generalizing a with
  | nil => rfl
  | cons b rest ih =>
      simp only [Resolves, commitAll, List.map_cons, List.cons.injEq]
      exact ⟨block?_of_grows (grows_commitAll _ rest) (block?_commit a b), ih _⟩

theorem blocks_commitAll (a : Arena) (held : List Buffer) :
    (a.commitAll held).2.blocks.length = a.blocks.length + held.length := by
  induction held generalizing a with
  | nil => rfl
  | cons b rest ih =>
      rw [commitAll]
      dsimp only
      rw [ih, commit, List.length_append, List.length_singleton, List.length_cons]
      omega

/-- Buffers that are committed in a row get handles in a row. -/
theorem handles_commitAll (a : Arena) (held : List Buffer) :
    (a.commitAll held).1
      = (List.range' a.blocks.length held.length).map fun index => ⟨index, a.generation⟩ := by
  induction held generalizing a with
  | nil => rfl
  | cons b rest ih =>
      have more : (a.commit b).2.blocks.length = a.blocks.length + 1 := by
        rw [commit, List.length_append, List.length_singleton]
      rw [commitAll, List.length_cons, List.range'_succ, List.map_cons]
      dsimp only
      rw [ih, more]
      rfl

theorem nodup_commitAll (a : Arena) (held : List Buffer) : (a.commitAll held).1.Nodup := by
  rw [handles_commitAll]
  refine List.Nodup.map ?_ List.nodup_range'
  intro i j same
  exact congrArg BlockId.index same

theorem grows_dropAll (a : Arena) (held : List Buffer) : a.Grows (a.dropAll held) := by
  induction held generalizing a with
  | nil => exact .refl a
  | cons b rest ih => exact (grows_drop a b).trans (ih _)

theorem used_dropAll (a : Arena) (held : List Buffer) :
    (a.dropAll held).used = a.used - (held.map (·.bytes)).sum := by
  induction held generalizing a with
  | nil => rfl
  | cons b rest ih =>
      rw [List.map_cons, List.sum_cons, ← Nat.sub_sub]
      exact ih (a.drop b)

theorem blocks_dropAll (a : Arena) (held : List Buffer) : (a.dropAll held).blocks = a.blocks := by
  induction held generalizing a with
  | nil => rfl
  | cons b rest ih => exact ih (a.drop b)

theorem dropAll_of_paid {a : Arena} {before : Nat} {held : List Buffer}
    (paid : a.used = before + (held.map (·.bytes)).sum) :
    (a.dropAll held).used = before ∧ (a.dropAll held).blocks = a.blocks := by
  rw [used_dropAll, paid, Nat.add_sub_cancel]
  exact ⟨rfl, a.blocks_dropAll held⟩

end Arena

namespace Plan

variable {α ε : Type}

/-- The bytes that a plan reserves if it gets to its end. -/
def bytes (p : Plan α ε) : Nat := (p.demands.map Demand.bytes).sum

/-- The contents of the blocks that a plan asks for. -/
def contents (p : Plan α ε) : List (List Sample) := p.demands.map (·.contents)

theorem bytes_eq (p : Plan α ε) :
    p.bytes = (p.contents.map fun samples => Arena.bytesFor samples.length).sum := by
  rw [contents, List.map_map]
  rfl

theorem fits_iff {p : Plan α ε} :
    (∀ d ∈ p.demands, d.Fits) ↔ ∀ samples ∈ p.contents, 4 * samples.length ≤ Arena.maxBuffer := by
  rw [contents, List.forall_mem_map]
  rfl

/-- What a plan comes to unless the arena is short of room. -/
def promised (p : Plan α ε) : Except (Setback ε) (List BlockId → α) :=
  if ∀ d ∈ p.demands, d.Fits then p.verdict.mapError Failure.toSetback
  else .error (.fault .capacity)

theorem promised_of_ok {p : Plan α ε} {install : List BlockId → α}
    (fits : ∀ d ∈ p.demands, d.Fits) (verdict : p.verdict = .ok install) :
    p.promised = .ok install := by
  rw [promised, if_pos fits, verdict]
  rfl

theorem promised_of_error {p : Plan α ε} {why : Failure ε} (fits : ∀ d ∈ p.demands, d.Fits)
    (verdict : p.verdict = .error why) : p.promised = .error why.toSetback := by
  rw [promised, if_pos fits, verdict]
  rfl

theorem promised_of_large {p : Plan α ε} {d : Demand} (mem : d ∈ p.demands) (large : ¬ d.Fits) :
    p.promised = .error (.fault .capacity) := by
  rw [promised, if_neg fun fits => large (fits d mem)]

theorem verdict_of_promised {p : Plan α ε} {install : List BlockId → α}
    (promised : p.promised = .ok install) :
    (∀ d ∈ p.demands, d.Fits) ∧ p.verdict = .ok install := by
  unfold Plan.promised at promised
  split at promised
  · rename_i fits
    cases verdict : p.verdict <;> rw [verdict] at promised
    · cases promised
    · exact ⟨fits, congrArg Except.ok (Except.ok.inj promised)⟩
  · cases promised

/-- The ways in which carrying out a plan ends: the object, before a failure is noted on it, and
the result.  In the arena the handles of a loaded object resolve to what the plan demanded. -/
inductive Ends (p : Plan α ε) (a : Arena) : α → Except (Setback ε) Unit → Prop where
  | loaded (install : List BlockId → α) (ids : List BlockId) (promised : p.promised = .ok install)
      (resolved : a.Resolves ids p.contents) :
      Ends p a (install ids) (.ok ())
  | short (why : OutOfMemory) : Ends p a p.started (.error (.outOfMemory why))
  | failed (why : Setback ε) (promised : p.promised = .error why) :
      Ends p a p.started (.error why)

theorem Ends.started {p : Plan α ε} {a : Arena} {object : α} {why : Setback ε}
    (ends : p.Ends a object (.error why)) : object = p.started := by
  cases ends <;> rfl

theorem Ends.installs {p : Plan α ε} {a : Arena} {object : α} (ends : p.Ends a object (.ok ())) :
    ∃ install ids, p.promised = .ok install ∧ object = install ids ∧ a.Resolves ids p.contents := by
  cases ends with
  | loaded install ids promised resolved => exact ⟨install, ids, promised, rfl, resolved⟩

theorem Ends.promised {p : Plan α ε} {a : Arena} {object : α} {why : Setback ε}
    (ends : p.Ends a object (.error why)) (enough : ∀ shortage, why ≠ .outOfMemory shortage) :
    p.promised = .error why := by
  cases ends with
  | short shortage => exact absurd rfl (enough shortage)
  | failed _ promised => exact promised

theorem Ends.of_grows {p : Plan α ε} {a b : Arena} {object : α} {result : Except (Setback ε) Unit}
    (ends : p.Ends a object result) (grows : a.Grows b) : p.Ends b object result := by
  cases ends with
  | loaded install ids promised resolved =>
      exact .loaded install ids promised (resolved.of_grows grows)
  | short why => exact .short why
  | failed why promised => exact .failed why promised

/-- A plan that is carried out ends in one of these ways, and no block of the arena changes. -/
theorem carryOn_ends (p : Plan α ε) (placed rest : List Demand)
    (demands : p.demands = placed ++ rest) (fits : ∀ d ∈ placed, d.Fits) (a : Arena) :
    let c := p.carryOn a (placed.map Demand.buffer) rest
    a.Grows c.arena ∧ p.Ends c.arena c.object c.result := by
  induction rest generalizing placed a with
  | nil =>
      rw [List.append_nil] at demands
      cases verdict : p.verdict with
      | error why =>
          simp only [carryOn, verdict]
          exact ⟨a.grows_dropAll _, .failed _ (promised_of_error (demands ▸ fits) verdict)⟩
      | ok install =>
          simp only [carryOn, verdict]
          have committed := a.resolves_commitAll (placed.map Demand.buffer)
          rw [List.map_map] at committed
          refine ⟨a.grows_commitAll _,
            .loaded install _ (promised_of_ok (demands ▸ fits) verdict) ?_⟩
          rw [contents, demands]
          exact committed
  | cons d rest ih =>
      rcases Arena.place_cases a d with
        ⟨full, placement⟩ | ⟨room, small, placement⟩ | ⟨room, large, placement⟩
      · simp only [carryOn, placement]
        exact ⟨a.grows_dropAll _, .short _⟩
      · have split : p.demands = (placed ++ [d]) ++ rest := by
          rw [demands, List.append_assoc, List.singleton_append]
        have allFit : ∀ e ∈ placed ++ [d], e.Fits := by
          intro e mem
          rcases List.mem_append.mp mem with old | new
          · exact fits e old
          · rw [List.mem_singleton.mp new]
            exact small
        obtain ⟨grows, ends⟩ := ih (placed ++ [d]) split allFit (a.spend d.bytes)
        simp only [List.map_append, List.map_cons, List.map_nil] at grows ends
        simp only [carryOn, placement]
        exact ⟨(a.grows_spend _).trans grows, ends⟩
      · have mem : d ∈ p.demands := by
          rw [demands]
          exact List.mem_append_right _ List.mem_cons_self
        simp only [carryOn, placement]
        exact ⟨(a.grows_spend _).trans (Arena.grows_dropAll _ _),
          .failed _ (promised_of_large mem large)⟩

theorem carryOut_ends (p : Plan α ε) (a : Arena) :
    a.Grows (p.carryOut a).arena ∧
      p.Ends (p.carryOut a).arena (p.carryOut a).object (p.carryOut a).result := by
  apply p.carryOn_ends [] p.demands rfl
  simp

/-- With room for all that is left to reserve, a plan is not short of it, and uses no more. -/
theorem carryOn_room (p : Plan α ε) (held : List Buffer) (rest : List Demand) (a : Arena)
    (room : a.used + (rest.map Demand.bytes).sum ≤ a.capacity) :
    let c := p.carryOn a held rest
    (∀ why, c.result ≠ .error (.outOfMemory why)) ∧
      c.arena.used ≤ a.used + (rest.map Demand.bytes).sum := by
  induction rest generalizing held a with
  | nil =>
      cases verdict : p.verdict with
      | error why =>
          simp only [carryOn, verdict]
          constructor
          · intro shortage
            cases why <;> simp [Failure.toSetback]
          · rw [Arena.used_dropAll]
            exact Nat.sub_le _ _
      | ok install =>
          simp only [carryOn, verdict]
          constructor
          · intro shortage
            simp
          · simp [Arena.used_commitAll]
  | cons d rest ih =>
      simp only [List.map_cons, List.sum_cons] at room ⊢
      rcases Arena.place_cases a d with
        ⟨full, placement⟩ | ⟨-, small, placement⟩ | ⟨-, large, placement⟩
      · omega
      · have left : (a.spend d.bytes).used + (rest.map Demand.bytes).sum
            ≤ (a.spend d.bytes).capacity := by
          simpa [Arena.capacity, Arena.spend, Nat.add_assoc] using room
        obtain ⟨enough, spent⟩ := ih (held ++ [d.buffer]) (a.spend d.bytes) left
        simp only [carryOn, placement]
        refine ⟨enough, ?_⟩
        simpa [Arena.spend, Nat.add_assoc] using spent
      · simp only [carryOn, placement]
        constructor
        · intro shortage
          simp
        · rw [Arena.used_dropAll]
          simp only [Arena.spend]
          omega

theorem carryOut_room (p : Plan α ε) (a : Arena) (room : a.used + p.bytes ≤ a.capacity) :
    (∀ why, (p.carryOut a).result ≠ .error (.outOfMemory why)) ∧
      (p.carryOut a).arena.used ≤ a.used + p.bytes :=
  p.carryOn_room [] p.demands a room

/-- Behind a plan that there is room for, there is room for what is left. -/
theorem room_carryOut (p : Plan α ε) {a : Arena} {rest : Nat}
    (room : a.used + (p.bytes + rest) ≤ a.capacity) :
    (p.carryOut a).arena.used + rest ≤ (p.carryOut a).arena.capacity := by
  obtain ⟨-, spent⟩ := p.carryOut_room a (by omega)
  rw [(p.carryOut_ends a).1.capacity]
  omega

/-- Everything a plan can leave behind in the arena: its demands in use and a block for each if it
succeeds, and nothing if it fails, unless it is given up on a demand that no buffer can hold.  Then
the bytes of that one demand stay in use. -/
theorem carryOn_leaves (p : Plan α ε) (held : List Buffer) (rest : List Demand) {a : Arena}
    {before : Nat} (paid : a.used = before + (held.map (·.bytes)).sum) :
    let c := p.carryOn a held rest
    (c.result = .ok () ∧ c.arena.used = a.used + (rest.map Demand.bytes).sum ∧
      c.arena.blocks.length = a.blocks.length + held.length + rest.length) ∨
    (c.result ≠ .ok () ∧ c.arena.used = before ∧ c.arena.blocks = a.blocks) ∨
    ∃ d ∈ rest, ¬ d.Fits ∧ c.result = .error (.fault .capacity) ∧
      c.arena.used = before + d.bytes := by
  -- a buffer moves from the demands to those held; what was in use before them all stays the same
  induction rest generalizing held a with
  | nil =>
      cases verdict : p.verdict with
      | error why =>
          simp only [carryOn, verdict]
          exact Or.inr (Or.inl ⟨nofun, Arena.dropAll_of_paid paid⟩)
      | ok install =>
          simp only [carryOn, verdict]
          exact Or.inl ⟨trivial, a.used_commitAll held, a.blocks_commitAll held⟩
  | cons d rest ih =>
      rcases a.place_cases d with
        ⟨-, placement⟩ | ⟨-, -, placement⟩ | ⟨-, large, placement⟩ <;>
        simp only [carryOn, placement]
      · exact Or.inr (Or.inl ⟨nofun, Arena.dropAll_of_paid paid⟩)
      · have next : (a.spend d.bytes).used = before + ((held ++ [d.buffer]).map (·.bytes)).sum := by
          rw [List.map_append, List.sum_append, List.map_singleton, List.sum_singleton,
            ← Nat.add_assoc, ← paid]
          rfl
        rcases ih (held ++ [d.buffer]) next with
          ⟨loaded, used, blocks⟩ | failed | ⟨e, mem, faulted⟩
        · refine Or.inl ⟨loaded, ?_, ?_⟩
          · rw [used, List.map_cons, List.sum_cons, ← Nat.add_assoc]
            rfl
          · rw [blocks, List.length_append, List.length_singleton, List.length_cons]
            change a.blocks.length + _ + _ = _
            omega
        · exact Or.inr (Or.inl failed)
        · exact Or.inr (Or.inr ⟨e, List.mem_cons_of_mem _ mem, faulted⟩)
      · refine Or.inr (Or.inr ⟨d, List.mem_cons_self, large, trivial, ?_⟩)
        rw [Arena.used_dropAll]
        change a.used + d.bytes - _ = _
        omega

theorem carryOut_leaves (p : Plan α ε) (a : Arena) :
    let c := p.carryOut a
    (c.result = .ok () ∧ c.arena.used = a.used + p.bytes ∧
      c.arena.blocks.length = a.blocks.length + p.demands.length) ∨
    (c.result ≠ .ok () ∧ c.arena.used = a.used ∧ c.arena.blocks = a.blocks) ∨
    ∃ d ∈ p.demands, ¬ d.Fits ∧ c.result = .error (.fault .capacity) ∧
      c.arena.used = a.used + d.bytes :=
  p.carryOn_leaves [] p.demands rfl

theorem carryOut_ok {p : Plan α ε} {a : Arena} (accepted : (p.carryOut a).result = .ok ()) :
    (p.carryOut a).arena.used = a.used + p.bytes ∧
      (p.carryOut a).arena.blocks.length = a.blocks.length + p.demands.length := by
  rcases p.carryOut_leaves a with ⟨-, left⟩ | ⟨failed, -⟩ | ⟨_, -, -, faulted, -⟩
  · exact left
  · exact absurd accepted failed
  · cases faulted.symm.trans accepted

theorem carryOut_error {p : Plan α ε} {a : Arena} {why : Setback ε}
    (failed : (p.carryOut a).result = .error why) (regular : ∀ fault, why ≠ .fault fault) :
    (p.carryOut a).arena.used = a.used ∧ (p.carryOut a).arena.blocks = a.blocks := by
  rcases p.carryOut_leaves a with ⟨accepted, -⟩ | ⟨-, left⟩ | ⟨_, -, -, faulted, -⟩
  · cases accepted.symm.trans failed
  · exact left
  · exact absurd (Except.error.inj (failed.symm.trans faulted)) (regular _)

/-- A plan that succeeds commits the buffers of all its demands at once, and installs their handles. -/
theorem carryOn_handles (p : Plan α ε) (held : List Buffer) (rest : List Demand) (a : Arena)
    (accepted : (p.carryOn a held rest).result = .ok ()) :
    ∃ (install : List BlockId → α) (b : Arena), p.verdict = .ok install ∧
      (p.carryOn a held rest).object = install (b.commitAll (held ++ rest.map Demand.buffer)).1 ∧
      (p.carryOn a held rest).arena = (b.commitAll (held ++ rest.map Demand.buffer)).2 := by
  induction rest generalizing held a with
  | nil =>
      cases verdict : p.verdict with
      | error why =>
          simp only [carryOn, verdict] at accepted
          cases accepted
      | ok install =>
          simp only [carryOn, verdict, List.map_nil, List.append_nil]
          exact ⟨install, a, rfl, rfl, rfl⟩
  | cons d rest ih =>
      rcases a.place_cases d with
        ⟨-, placement⟩ | ⟨-, -, placement⟩ | ⟨-, -, placement⟩ <;>
        simp only [carryOn, placement] at accepted ⊢
      · cases accepted
      · rw [List.map_cons, List.append_cons held d.buffer (rest.map _)]
        exact ih (held ++ [d.buffer]) (a.spend d.bytes) accepted
      · cases accepted

theorem carryOut_handles {p : Plan α ε} {a : Arena} (accepted : (p.carryOut a).result = .ok ()) :
    ∃ install ids, p.verdict = .ok install ∧ (p.carryOut a).object = install ids ∧
      (p.carryOut a).arena.Resolves ids p.contents ∧ ids.Nodup := by
  obtain ⟨install, b, verdict, object, arena⟩ := p.carryOn_handles [] p.demands a accepted
  refine ⟨install, _, verdict, object, ?_, b.nodup_commitAll _⟩
  have resolved := b.resolves_commitAll ([] ++ p.demands.map Demand.buffer)
  rw [← arena, List.nil_append, List.map_map] at resolved
  exact resolved

/-- A plan that the arena has room for comes to what it promises. -/
theorem loaded_of_room {p : Plan α ε} {install : List BlockId → α}
    (promised : p.promised = .ok install) {a : Arena} (room : a.used + p.bytes ≤ a.capacity) :
    (p.carryOut a).result = .ok () ∧ ∃ ids, (p.carryOut a).object = install ids ∧
      (p.carryOut a).arena.Resolves ids p.contents := by
  obtain ⟨enough, -⟩ := p.carryOut_room a room
  obtain ⟨-, ends⟩ := p.carryOut_ends a
  generalize p.carryOut a = c at *
  obtain ⟨object, arena, unread, result⟩ := c
  cases ends with
  | loaded install' ids promised' resolved =>
      cases promised.symm.trans promised'
      exact ⟨rfl, ids, rfl, resolved⟩
  | short why => exact absurd rfl (enough why)
  | failed why promised' => cases promised.symm.trans promised'

end Plan

end Windchest
