/-
# Windchest.Proofs.Audio.Rows -- where the values of a buffer end up

A buffer keeps its channels apart and a recording does not.  This module says where each
value belongs, in terms of the planes alone: behind all values of the buffers before, then
frame by frame, and in a frame in the order of the channels.

* `Interleaves`: samples that stand where they belong.  They are the samples of the buffers,
  one buffer behind the other, and no other row of samples is (`interleaves_iff`).
* `Planar.Deliver`: planes that deliver given frames, each value in its place.  They do if
  their values in a row are those of the frames (`deliver_iff`).
-/
import Windchest.Audio.Buffer
import Mathlib

namespace Windchest

set_option autoImplicit false

/-! ## Pieces in a row -/

section

variable {β γ : Type}

/-- The size of all pieces before the one at a position. -/
def sizeBefore (size : β → Nat) (pieces : List β) (k : Nat) : Nat := ((pieces.take k).map size).sum

@[simp] theorem sizeBefore_zero (size : β → Nat) (pieces : List β) :
    sizeBefore size pieces 0 = 0 := rfl

@[simp] theorem sizeBefore_cons_succ (size : β → Nat) (piece : β) (rest : List β) (k : Nat) :
    sizeBefore size (piece :: rest) (k + 1) = size piece + sizeBefore size rest k := rfl

/-- A row is made of pieces if every item of every piece is where it belongs, and no more is there. -/
theorem eq_flatMap_iff {pieces : List β} {content : β → List γ} {row : List γ} :
    row = pieces.flatMap content ↔
      row.length = (pieces.map fun piece => (content piece).length).sum ∧
        ∀ (k : Nat) (here : k < pieces.length) (i : Nat), i < (content pieces[k]).length →
          row[sizeBefore (fun piece => (content piece).length) pieces k + i]?
            = (content pieces[k])[i]? := by
  induction pieces generalizing row with
  | nil => simp
  | cons piece rest ih =>
    constructor
    · rintro rfl
      obtain ⟨length, items⟩ := (@ih (rest.flatMap content)).mp rfl
      refine ⟨by simp [length], ?_⟩
      intro k here i within
      cases k with
      | zero =>
        rw [sizeBefore_zero, Nat.zero_add, List.flatMap_cons]
        exact List.getElem?_append_left within
      | succ k =>
        rw [sizeBefore_cons_succ, List.flatMap_cons, Nat.add_assoc,
          List.getElem?_append_right (Nat.le_add_right ..), Nat.add_sub_cancel_left]
        exact items k (Nat.lt_of_succ_lt_succ here) i within
    · rintro ⟨length, items⟩
      rw [List.map_cons, List.sum_cons] at length
      have front : row.take (content piece).length = content piece := by
        apply List.ext_getElem?
        intro i
        by_cases within : i < (content piece).length
        · rw [List.getElem?_take_of_lt within]
          simpa using items 0 (Nat.zero_lt_succ _) i within
        · rw [List.getElem?_eq_none, List.getElem?_eq_none (Nat.le_of_not_lt within)]
          rw [List.length_take]
          omega
      have behind : row.drop (content piece).length = rest.flatMap content := by
        refine ih.mpr ⟨by rw [List.length_drop]; omega, ?_⟩
        intro k here i within
        rw [List.getElem?_drop, ← Nat.add_assoc]
        exact items (k + 1) (Nat.succ_lt_succ here) i within
      calc row = row.take (content piece).length ++ row.drop (content piece).length :=
            (List.take_append_drop ..).symm
        _ = (piece :: rest).flatMap content := by rw [front, behind, List.flatMap_cons]

end

/-- A position in a row of frames is that of a channel in a frame. -/
theorem exists_channel_frame {frames channels i : Nat} (within : i < frames * channels) :
    ∃ (channel : Fin channels) (frame : Fin frames), i = frame * channels + channel := by
  have some : 0 < channels := by
    rcases Nat.eq_zero_or_pos channels with none | some
    · rw [none] at within
      omega
    · exact some
  refine ⟨⟨i % channels, Nat.mod_lt _ some⟩, ⟨i / channels, ?_⟩, ?_⟩
  · exact (Nat.div_lt_iff_lt_mul some).mpr within
  · rw [Nat.mul_comm]
    exact (Nat.div_add_mod i channels).symm

/-! ## One buffer -/

namespace Planar

variable {α β : Type}

theorem length_interleaved (b : Planar α) (convert : α → β) :
    (b.interleaved convert).length = b.frames * b.channels := by
  simp [interleaved, List.length_flatMap, List.map_const']

theorem getElem?_interleaved (b : Planar α) (convert : α → β) (channel : Fin b.channels)
    (frame : Fin b.frames) :
    (b.interleaved convert)[frame * b.channels + channel]? = some (convert (b.value channel frame)) := by
  have uniform (k : Nat) (few : k ≤ b.frames) :
      sizeBefore (fun _ : Fin b.frames => b.channels) (List.finRange b.frames) k = k * b.channels := by
    rw [sizeBefore, List.map_const', List.length_take, List.length_finRange,
      List.sum_replicate_nat, Nat.min_eq_left few]
  have row : b.interleaved convert = (List.finRange b.frames).flatMap fun frame =>
      (List.finRange b.channels).map fun channel => convert (b.value channel frame) := rfl
  have item := (eq_flatMap_iff.mp row).2 frame (by simp) channel (by simp)
  simpa [uniform frame frame.isLt.le] using item

end Planar

namespace AudioBuffer

/-- The number of frames. -/
def frames : AudioBuffer → Nat
  | signed _ b => b.frames
  | unsigned _ b => b.frames
  | single b => b.frames
  | double b => b.frames

/-- The number of planes. -/
def planes : AudioBuffer → Nat
  | signed _ b => b.channels
  | unsigned _ b => b.channels
  | single b => b.channels
  | double b => b.channels

/-- The number of values in all planes. -/
def size (b : AudioBuffer) : Nat := b.frames * b.planes

/-- The sample that a value in a plane stands for. -/
def heard : (b : AudioBuffer) → Fin b.planes → Fin b.frames → Sample
  | signed depth b, channel, frame => .ofSigned depth (b.value channel frame)
  | unsigned depth b, channel, frame => .ofUnsigned depth (b.value channel frame)
  | single b, channel, frame => b.value channel frame
  | double b, channel, frame => .ofDouble (b.value channel frame)

theorem length_samples (b : AudioBuffer) : b.samples.length = b.size := by
  cases b with
  | signed depth b | unsigned depth b | single b | double b => exact b.length_interleaved _

theorem getElem?_samples (b : AudioBuffer) (channel : Fin b.planes) (frame : Fin b.frames) :
    b.samples[frame * b.planes + channel]? = some (b.heard channel frame) := by
  cases b with
  | signed depth b | unsigned depth b | single b | double b =>
    exact b.getElem?_interleaved _ channel frame

theorem samples_ne_nil_iff (b : AudioBuffer) : b.samples ≠ [] ↔ 0 < b.size := by
  rw [← length_samples, List.length_pos_iff]

/-- The channels of a buffer are few enough to be counted as they are. -/
theorem toNat_channels (b : AudioBuffer) : b.channels.toNat = b.planes := by
  have counted : ∀ n : Nat, n ≤ 32 → (UInt16.ofNat n).toNat = n := by
    intro n few
    rw [UInt16.toNat_ofNat']
    omega
  cases b with
  | signed depth b | unsigned depth b | single b | double b => exact counted _ b.few

end AudioBuffer

/-! ## Many buffers -/

/-- Samples that stand where those of the buffers belong. -/
structure Interleaves (samples : List Sample) (buffers : List AudioBuffer) : Prop where
  length : samples.length = (buffers.map AudioBuffer.size).sum
  heard : ∀ (k : Nat) (here : k < buffers.length) (channel : Fin buffers[k].planes)
    (frame : Fin buffers[k].frames),
    samples[sizeBefore AudioBuffer.size buffers k + (frame * buffers[k].planes + channel)]?
      = some (buffers[k].heard channel frame)

theorem interleaves_iff {samples : List Sample} {buffers : List AudioBuffer} :
    Interleaves samples buffers ↔ samples = buffers.flatMap AudioBuffer.samples := by
  rw [eq_flatMap_iff]
  simp only [AudioBuffer.length_samples]
  constructor
  · rintro ⟨length, heard⟩
    refine ⟨length, ?_⟩
    intro k here i within
    obtain ⟨channel, frame, rfl⟩ := exists_channel_frame within
    rw [AudioBuffer.getElem?_samples]
    exact heard k here channel frame
  · rintro ⟨length, items⟩
    refine ⟨length, ?_⟩
    intro k here channel frame
    rw [← AudioBuffer.getElem?_samples]
    refine items k here _ ?_
    exact (Planar.position channel frame).isLt

namespace Planar

variable {α : Type} {n : Nat}

/-- Planes that hold the frames, one buffer behind the other, each value in its place. -/
structure Deliver (buffers : List (Planar α)) (frames : List (Vector α n)) : Prop where
  channels : ∀ b ∈ buffers, b.channels = n
  length : frames.length = (buffers.map Planar.frames).sum
  value : ∀ (k : Nat) (here : k < buffers.length) (channel : Fin buffers[k].channels)
    (frame : Fin buffers[k].frames),
    (frames[sizeBefore Planar.frames buffers k + frame]?).bind (fun row => row[channel.val]?)
      = some (buffers[k].value channel frame)

/-- The value of a channel in a frame, in a row of frames. -/
theorem getElem?_flatMap_toList (frames : List (Vector α n)) (frame : Nat) {channel : Nat}
    (within : channel < n) :
    (frames.flatMap Vector.toList)[frame * n + channel]?
      = (frames[frame]?).bind fun row => row[channel]? := by
  induction frames generalizing frame with
  | nil => simp
  | cons row rest ih =>
    have length : row.toList.length = n := Vector.length_toList
    rw [List.flatMap_cons]
    cases frame with
    | zero =>
      rw [List.getElem?_append_left (by omega)]
      simp
    | succ frame =>
      have later : (frame + 1) * n + channel = row.toList.length + (frame * n + channel) := by
        rw [length, Nat.succ_mul]
        omega
      rw [later, List.getElem?_append_right (Nat.le_add_right ..), Nat.add_sub_cancel_left, ih]
      rfl

theorem length_flatMap_toList (frames : List (Vector α n)) :
    (frames.flatMap Vector.toList).length = frames.length * n := by
  induction frames with
  | nil => simp
  | cons frame rest ih =>
    rw [List.flatMap_cons, List.length_append, ih, Vector.length_toList, List.length_cons,
      Nat.succ_mul, Nat.add_comm]

/-- Where all buffers have so many channels, their values are counted by their frames. -/
theorem sum_map_size {buffers : List (Planar α)} (uniform : ∀ b ∈ buffers, b.channels = n) :
    (buffers.map fun b => (b.interleaved id).length).sum = (buffers.map Planar.frames).sum * n := by
  induction buffers with
  | nil => simp
  | cons b rest ih =>
    rw [List.map_cons, List.sum_cons, List.map_cons, List.sum_cons,
      ih fun c mem => uniform c (List.mem_cons_of_mem b mem), length_interleaved,
      uniform b List.mem_cons_self, Nat.add_mul]

theorem deliver_iff (some : 0 < n) {buffers : List (Planar α)} {frames : List (Vector α n)}
    (uniform : ∀ b ∈ buffers, b.channels = n) :
    Deliver buffers frames ↔ buffers.flatMap (·.interleaved id) = frames.flatMap Vector.toList := by
  have before (k : Nat) : sizeBefore (fun b : Planar α => (b.interleaved id).length) buffers k
      = sizeBefore Planar.frames buffers k * n :=
    sum_map_size fun b mem => uniform b (List.mem_of_mem_take mem)
  have place (k : Nat) (here : k < buffers.length) (channel : Fin buffers[k].channels)
      (frame : Fin buffers[k].frames) :
      (frames.flatMap Vector.toList)[sizeBefore Planar.frames buffers k * n
          + (frame * buffers[k].channels + channel)]?
        = (frames[sizeBefore Planar.frames buffers k + frame]?).bind fun row => row[channel.val]? := by
    have agreed : buffers[k].channels = n := uniform _ (List.getElem_mem here)
    have within : channel.val < n := agreed ▸ channel.isLt
    have same : frame.val * buffers[k].channels = frame.val * n := by rw [agreed]
    rw [same, ← Nat.add_assoc, ← Nat.add_mul]
    exact getElem?_flatMap_toList frames _ within
  rw [eq_comm, eq_flatMap_iff, sum_map_size uniform, length_flatMap_toList]
  constructor
  · rintro ⟨-, length, value⟩
    refine ⟨by rw [length], ?_⟩
    intro k here i within
    rw [length_interleaved] at within
    obtain ⟨channel, frame, rfl⟩ := exists_channel_frame within
    rw [before, place, value k here channel frame, getElem?_interleaved, id]
  · rintro ⟨length, items⟩
    refine ⟨uniform, Nat.eq_of_mul_eq_mul_right some length, ?_⟩
    intro k here channel frame
    have within : frame * buffers[k].channels + channel.val < (buffers[k].interleaved id).length := by
      rw [length_interleaved]
      exact (position channel frame).isLt
    rw [← place k here channel frame, ← before, items k here _ within, getElem?_interleaved, id]

end Planar

end Windchest
