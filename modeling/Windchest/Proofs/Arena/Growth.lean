/-
# Windchest.Proofs.Arena.Growth -- blocks stay while an arena grows

Reserving, filling, committing and dropping buffers never touches a block that is
there already.  `Arena.Grows` is the order that this gives: the same limit, the same
generation, and more blocks behind the old ones.  A handle that resolves keeps
resolving to the same samples in every later arena (`block?_of_grows`).

`allocate_answers` says once what a request can come to, and `place_cases` what the
request of a demand can; whatever is proved about loads cites it and looks no further
into the arena.
-/
import Mathlib
import Windchest.Plan

namespace Windchest

set_option autoImplicit false

/-- The bytes that a demand reserves. -/
def Demand.bytes (d : Demand) : Nat := Arena.bytesFor d.contents.length

/-- Whether a buffer of the demanded size can exist. -/
def Demand.Fits (d : Demand) : Prop := 4 * d.contents.length ≤ Arena.maxBuffer

/-- The buffer that a demand is granted, filled. -/
def Demand.buffer (d : Demand) : Buffer := ⟨d.contents, d.bytes⟩

instance (d : Demand) : Decidable d.Fits := inferInstanceAs (Decidable (_ ≤ _))

theorem Buffer.length_fill (b : Buffer) (samples : List Sample) :
    (b.fill samples).samples.length = b.samples.length := by
  simp only [fill, List.length_append, List.length_take, List.length_drop]
  omega

namespace Arena

/-- The bytes that may be in use at most. -/
def capacity (a : Arena) : Nat := min a.limit maxWord

/-- The arena with so many bytes more in use. -/
def spend (a : Arena) (bytes : Nat) : Arena := { a with used := a.used + bytes }

/-- Every block of the first arena is a block of the second, under the same handle. -/
structure Grows (a b : Arena) : Prop where
  limit : b.limit = a.limit
  generation : b.generation = a.generation
  blocks : a.blocks <+: b.blocks

namespace Grows

theorem refl (a : Arena) : a.Grows a := ⟨rfl, rfl, List.prefix_rfl⟩

theorem trans {a b c : Arena} (first : a.Grows b) (second : b.Grows c) : a.Grows c where
  limit := second.limit.trans first.limit
  generation := second.generation.trans first.generation
  blocks := first.blocks.trans second.blocks

theorem capacity {a b : Arena} (grows : a.Grows b) : b.capacity = a.capacity := by
  rw [Arena.capacity, Arena.capacity, grows.limit]

end Grows

/-- A handle that resolves goes on resolving to the same samples. -/
theorem block?_of_grows {a b : Arena} (grows : a.Grows b) {id : BlockId} {samples : List Sample}
    (resolved : a.block? id = some samples) : b.block? id = some samples := by
  unfold block? at resolved ⊢
  rw [grows.generation]
  split at resolved
  · rename_i current
    obtain ⟨more, appended⟩ := grows.blocks
    have inside := (List.getElem?_eq_some_iff.mp resolved).1
    rw [if_pos current, ← appended, List.getElem?_append_left inside, resolved]
  · simp at resolved

/-- The handles resolve to these contents, one after the other. -/
def Resolves (a : Arena) (ids : List BlockId) (contents : List (List Sample)) : Prop :=
  ids.map a.block? = contents.map some

namespace Resolves

variable {a b : Arena} {ids : List BlockId} {contents : List (List Sample)}

theorem nil (a : Arena) : a.Resolves [] [] := rfl

theorem length (resolved : a.Resolves ids contents) : ids.length = contents.length := by
  have := congrArg List.length resolved
  rwa [List.length_map, List.length_map] at this

theorem of_grows (resolved : a.Resolves ids contents) (grows : a.Grows b) :
    b.Resolves ids contents := by
  unfold Resolves at resolved ⊢
  induction ids generalizing contents with
  | nil => simpa using resolved
  | cons id ids ih =>
      cases contents with
      | nil => simp at resolved
      | cons samples contents =>
          simp only [List.map_cons, List.cons.injEq] at resolved ⊢
          exact ⟨block?_of_grows grows resolved.1, ih resolved.2⟩

theorem append {id : BlockId} {samples : List Sample} (resolved : a.Resolves ids contents)
    (next : a.block? id = some samples) : a.Resolves (ids ++ [id]) (contents ++ [samples]) := by
  rw [Resolves, List.map_append, List.map_append, resolved, List.map_singleton, next]
  rfl

/-- The handles behind the first ones resolve to the contents behind the first ones. -/
theorem behind {front back : List (List Sample)} {n : Nat} (length : front.length = n)
    (resolved : a.Resolves ids (front ++ back)) : a.Resolves (ids.drop n) back := by
  rw [Resolves, List.map_drop, resolved, List.map_append]
  apply List.drop_left'
  rw [List.length_map, length]

end Resolves

/-- A silent buffer that is filled with as many samples holds just these. -/
theorem fill_replicate (contents : List Sample) (bytes : Nat) :
    Buffer.fill ⟨List.replicate contents.length .zero, bytes⟩ contents = ⟨contents, bytes⟩ := by
  simp [Buffer.fill]

theorem bytesFor_of_lt {n : Nat} (small : n < 2 ^ 61) : bytesFor n = 4 * n := by
  unfold bytesFor maxWord
  omega

theorem le_maxBuffer_iff {n : Nat} : 4 * n ≤ maxBuffer ↔ n < 2 ^ 61 := by
  unfold maxBuffer
  omega

/-- Everything a request can come to: it is refused for want of room, or granted, or its bytes are
reserved and no buffer can hold them. -/
theorem allocate_answers (a : Arena) (n : Nat) :
    (a.capacity < a.used + bytesFor n ∧
      a.allocate n = (.refused ⟨bytesFor n, a.used, a.limit⟩, a)) ∨
    (a.used + bytesFor n ≤ a.capacity ∧ n < 2 ^ 61 ∧
      a.allocate n = (.granted ⟨List.replicate n .zero, 4 * n⟩, a.spend (4 * n))) ∨
    (a.used + bytesFor n ≤ a.capacity ∧ 2 ^ 61 ≤ n ∧
      a.allocate n = (.impossible, a.spend (bytesFor n))) := by
  by_cases room : a.used + bytesFor n ≤ min a.limit maxWord
  · by_cases small : n < 2 ^ 61
    · refine Or.inr (Or.inl ⟨room, small, ?_⟩)
      simp only [allocate, reserve, room, le_maxBuffer_iff.mpr small, if_true, spend]
      rw [bytesFor_of_lt small]
    · refine Or.inr (Or.inr ⟨room, Nat.le_of_not_lt small, ?_⟩)
      simp only [allocate, reserve, room, le_maxBuffer_iff, small, if_true, if_false, spend]
  · refine Or.inl ⟨Nat.lt_of_not_le room, ?_⟩
    simp only [allocate, reserve, room, if_false]

/-- What the request of a demand can come to, and the buffer that is filled if it is granted. -/
theorem place_cases (a : Arena) (d : Demand) :
    (a.capacity < a.used + d.bytes ∧
      a.place d.contents = (.refused ⟨d.bytes, a.used, a.limit⟩, a)) ∨
    (a.used + d.bytes ≤ a.capacity ∧ d.Fits ∧
      a.place d.contents = (.granted d.buffer, a.spend d.bytes)) ∨
    (a.used + d.bytes ≤ a.capacity ∧ ¬ d.Fits ∧
      a.place d.contents = (.impossible, a.spend d.bytes)) := by
  rcases a.allocate_answers d.contents.length with
    ⟨full, answer⟩ | ⟨room, small, answer⟩ | ⟨room, large, answer⟩
  · refine Or.inl ⟨full, ?_⟩
    rw [place, answer]
    rfl
  · refine Or.inr (Or.inl ⟨room, le_maxBuffer_iff.mpr small, ?_⟩)
    rw [place, answer]
    dsimp only
    rw [fill_replicate, Demand.buffer, Demand.bytes, bytesFor_of_lt small]
  · refine Or.inr (Or.inr ⟨room, fun fits => ?_, ?_⟩)
    · exact Nat.not_lt_of_le large (le_maxBuffer_iff.mp fits)
    · rw [place, answer]
      rfl

theorem grows_spend (a : Arena) (bytes : Nat) : a.Grows (a.spend bytes) :=
  ⟨rfl, rfl, List.prefix_rfl⟩

theorem grows_allocate (a : Arena) (n : Nat) : a.Grows (a.allocate n).2 := by
  rcases a.allocate_answers n with ⟨-, answer⟩ | ⟨-, -, answer⟩ | ⟨-, -, answer⟩ <;> rw [answer]
  · exact .refl a
  · exact a.grows_spend _
  · exact a.grows_spend _

theorem grows_drop (a : Arena) (b : Buffer) : a.Grows (a.drop b) := ⟨rfl, rfl, List.prefix_rfl⟩

theorem grows_commit (a : Arena) (b : Buffer) : a.Grows (a.commit b).2 :=
  ⟨rfl, rfl, List.prefix_append _ _⟩

/-- The handle of a block that was just committed resolves to the samples of its buffer. -/
theorem block?_commit (a : Arena) (b : Buffer) :
    (a.commit b).2.block? (a.commit b).1 = some b.samples := by
  simp [block?, commit]

end Arena

end Windchest
