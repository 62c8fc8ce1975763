/-
# Windchest.Proofs.Section.Sound -- sections whose numbers fit together

A shape is sound if its loops lie within its frames, its end points are those of its
loops, and its alignment table points at frames; a draft is sound if it also holds as
many samples as its shape says.  Whatever comes out of decoded audio is sound
(`sound_of_build?`); `build?_eq_ok` says when something does, and what.

The tails lie one behind the other behind the frames (`blockFrames_endPoints`), so
every number in a sound shape is bounded by the samples of the block.
-/
import Mathlib
import Windchest.Section.Basic

namespace Windchest

set_option autoImplicit false

/-- The numbers of a shape fit together. -/
structure Shape.Sound (s : Shape) : Prop where
  channels : s.channels ≠ 0
  frames : s.frames ≠ 0
  loops : firstMisfit? s.frames s.loops = none
  ends : s.ends = endPoints s.frames s.loops
  alignment : ∀ table ∈ s.alignment, table.positions.length = alignSlots ∧
    ∀ position ∈ table.positions, position.toNat < s.frames

/-- The shape of a draft is sound, and the samples are those of its block. -/
structure Draft.Sound (d : Draft) : Prop where
  shape : d.shape.Sound
  length : d.samples.length = d.shape.blockLength

theorem firstMisfit?_eq_none {frames : Nat} {loops : List Loop} :
    firstMisfit? frames loops = none ↔ ∀ l ∈ loops, l.Fits frames := by
  simp [firstMisfit?]

section EndPoints

/-- The tails of loops lie one behind the other. -/
theorem blockFrames_loopEnds (frames offset : Nat) (l : Loop) (rest : List Loop) :
    blockFrames frames (loopEnds offset (l :: rest))
      = offset + ((loopEnds offset (l :: rest)).map (·.tailFrames)).sum := by
  induction rest generalizing offset l with
  | nil => rfl
  | cons l' rest ih =>
      have next := ih (offset + l.tailFrames) l'
      simp only [loopEnds, blockFrames, List.getLast?_cons_cons, List.map_cons, List.sum_cons]
        at next ⊢
      rw [next, Nat.add_assoc]

theorem blockFrames_endPoints (frames : Nat) (loops : List Loop) :
    blockFrames frames (endPoints frames loops)
      = frames + ((endPoints frames loops).map (·.tailFrames)).sum := by
  cases loops with
  | nil => rfl
  | cons l rest => exact blockFrames_loopEnds frames frames l rest

theorem length_loopEnds (offset : Nat) (loops : List Loop) :
    (loopEnds offset loops).length = loops.length := by
  induction loops generalizing offset with
  | nil => rfl
  | cons l rest ih => rw [loopEnds, List.length_cons, ih, List.length_cons]

theorem length_endPoints (frames : Nat) (loops : List Loop) :
    (endPoints frames loops).length = max 1 loops.length := by
  cases loops with
  | nil => rfl
  | cons l rest =>
      simp only [endPoints, List.isEmpty_cons, Bool.false_eq_true, if_false, length_loopEnds,
        List.length_cons]
      omega

theorem mem_loopEnds {offset : Nat} {loops : List Loop} {e : EndPoint}
    (mem : e ∈ loopEnds offset loops) :
    (∃ l ∈ loops, e.frame = l.stop.toNat ∧ e.next = some l.start.toNat) ∧ offset ≤ e.tailOffset ∧
      e.tailOffset + e.tailFrames ≤ offset + ((loopEnds offset loops).map (·.tailFrames)).sum := by
  induction loops generalizing offset with
  | nil => exact absurd mem List.not_mem_nil
  | cons l rest ih =>
      simp only [loopEnds, List.map_cons, List.sum_cons]
      rcases List.mem_cons.mp mem with rfl | later
      · exact ⟨⟨l, List.mem_cons_self, rfl, rfl⟩, Nat.le_refl _, by dsimp only; omega⟩
      · obtain ⟨⟨l', inRest, frame, next⟩, lower, upper⟩ := ih later
        exact ⟨⟨l', List.mem_cons_of_mem _ inRest, frame, next⟩, by omega, by omega⟩

/-- An end point lies within the frames, goes on in front of itself, and has its tail in the
block. -/
theorem mem_endPoints {frames : Nat} {loops : List Loop} (fit : firstMisfit? frames loops = none)
    {e : EndPoint} (mem : e ∈ endPoints frames loops) :
    e.frame ≤ frames ∧ (∀ start ∈ e.next, start < e.frame) ∧
      e.tailOffset + e.tailFrames ≤ blockFrames frames (endPoints frames loops) := by
  rw [blockFrames_endPoints]
  cases loops with
  | nil =>
      obtain rfl := List.mem_singleton.mp mem
      exact ⟨Nat.le_refl _, fun _ no => (by cases no), Nat.le_refl _⟩
  | cons l rest =>
      obtain ⟨⟨l', inLoops, frame, next⟩, -, upper⟩ := mem_loopEnds mem
      obtain ⟨before, within⟩ := firstMisfit?_eq_none.mp fit l' inLoops
      refine ⟨frame ▸ within, ?_, upper⟩
      intro start is
      rw [next] at is
      obtain rfl := Option.some.inj is
      rw [frame]
      exact UInt32.lt_iff_toNat_lt.mp before

end EndPoints

namespace Shape.Sound

variable {s : Shape}

theorem frames_le (sound : s.Sound) : s.frames ≤ s.totalFrames := by
  rw [totalFrames, sound.ends, blockFrames_endPoints]
  exact Nat.le_add_right _ _

theorem totalFrames_le (sound : s.Sound) : s.totalFrames ≤ s.blockLength := by
  refine Nat.le_mul_of_pos_right _ (Nat.pos_of_ne_zero fun none => sound.channels ?_)
  exact UInt16.toNat_inj.mp none

/-- No number of an end point is larger than the block. -/
theorem le_totalFrames (sound : s.Sound) {e : EndPoint} (mem : e ∈ s.ends) :
    e.frame ≤ s.totalFrames ∧ e.next.getD 0 ≤ s.totalFrames ∧
      e.tailOffset ≤ s.totalFrames ∧ e.tailFrames ≤ s.totalFrames := by
  have within := sound.frames_le
  rw [sound.ends] at mem
  obtain ⟨frame, next, tail⟩ := mem_endPoints sound.loops mem
  rw [← sound.ends] at tail
  change _ ≤ s.totalFrames at tail
  refine ⟨by omega, ?_, by omega, by omega⟩
  cases goesOn : e.next with
  | none => exact Nat.zero_le _
  | some start =>
      have := next start goesOn
      simp only [Option.getD_some]
      omega

end Shape.Sound

section Audio

theorem length_cycle (n : Nat) {row : List Sample} (nonempty : 0 < row.length) :
    (cycle n row).length = n := by
  have enough : n < row.length * (n / row.length + 1) := Nat.lt_mul_div_succ n nonempty
  rw [cycle, List.length_take, List.length_flatten, List.map_replicate, List.sum_replicate_nat,
    Nat.mul_comm]
  omega

theorem EndPoint.length_tail {e : EndPoint} {channels : Nat} {main : List Sample}
    (some_channels : 0 < channels) (within : e.frame * channels ≤ main.length)
    (next : ∀ start ∈ e.next, start < e.frame) :
    (e.tail channels main).length = e.tailFrames * channels := by
  unfold EndPoint.tail
  split
  · rename_i start goesOn
    have before := next start goesOn
    have split : e.frame * channels = start * channels + (e.frame - start) * channels := by
      rw [← Nat.add_mul, Nat.add_sub_of_le (Nat.le_of_lt before)]
    have some_frames : 0 < (e.frame - start) * channels :=
      Nat.mul_pos (Nat.sub_pos_of_lt before) some_channels
    refine length_cycle _ ?_
    rw [List.length_take, List.length_drop]
    omega
  · exact List.length_replicate

theorem length_slots (peak previous : Float32) (values : List Float32) :
    (Alignment.slots peak previous values).length = values.length := by
  induction values generalizing previous with
  | nil => rfl
  | cons value rest ih => rw [Alignment.slots, List.length_cons, ih, List.length_cons]

/-- Each frame behind the first has at most one slot. -/
theorem length_found {samples : List Sample} {channels frames : Nat} (peak : Sample)
    (some_channels : 0 < channels) (some_frames : 0 < frames)
    (length : samples.length = frames * channels) :
    (Alignment.found samples channels peak).length < min alignWindow frames := by
  have values : (Alignment.firstChannel channels (samples.take (alignWindow * channels))).length
      = min alignWindow frames := by
    rw [Alignment.firstChannel, List.length_map, List.length_range, List.length_take, length,
      Nat.mul_min_mul_right, Nat.mul_div_cancel _ some_channels]
  have some_values : 0 < min alignWindow frames := Nat.lt_min.mpr ⟨by decide, some_frames⟩
  rw [← values] at some_values ⊢
  unfold Alignment.found
  split
  · exact some_values
  · rename_i first rest is
    rw [is, List.length_cons]
    split
    · rw [length_slots]
      exact Nat.lt_succ_self _
    · exact Nat.succ_pos _

/-- An alignment table points at frames. -/
theorem alignment_compute {samples : List Sample} {channels frames : Nat} (peak : Sample)
    (some_channels : 0 < channels) (some_frames : 0 < frames)
    (length : samples.length = frames * channels) :
    (Alignment.compute samples channels peak).positions.length = alignSlots ∧
      ∀ position ∈ (Alignment.compute samples channels peak).positions,
        position.toNat < frames := by
  have few := length_found peak some_channels some_frames length
  constructor
  · rw [Alignment.compute, List.length_map, List.length_range]
  · intro position mem
    obtain ⟨s, -, rfl⟩ := List.mem_map.mp mem
    unfold Alignment.frameOf
    split
    · -- the table counts frames from the second on
      rename_i i is
      have inFound : i < (Alignment.found samples channels peak).length :=
        (List.idxOf?_eq_some_iff.mp is).1
      have window : alignWindow = 4096 := rfl
      have size : UInt32.size = 4294967296 := rfl
      rw [UInt32.toNat_ofNat_of_lt' (by omega)]
      omega
    · exact some_frames

end Audio

theorem Recording.length_whole (audio : Recording) :
    (audio.samples.take (audio.frames * audio.channels.toNat)).length
      = audio.frames * audio.channels.toNat :=
  List.length_take_of_le (Nat.div_mul_le_self _ _)

/-- The draft of audio that has frames and whose loops fit. -/
def Recording.draft (audio : Recording) (loops : List Loop) (aligned : Bool) : Draft :=
  let channels := audio.channels.toNat
  let main := audio.samples.take (audio.frames * channels)
  let peak := Sample.peak main
  let ends := endPoints audio.frames loops
  { shape := {
      rate := audio.rate
      channels := audio.channels
      frames := audio.frames
      peak
      loops
      ends
      alignment := if aligned then some (Alignment.compute main channels peak) else none }
    samples := main ++ ends.flatMap fun e => e.tail channels main }

namespace Draft

variable {audio : Recording} {loops : List Loop} {aligned : Bool} {d : Draft}

theorem build?_of_fit (channels : audio.channels.toNat ≠ 0) (frames : audio.frames ≠ 0)
    (fit : ∀ l ∈ loops, l.Fits audio.frames) (aligned : Bool) :
    build? audio loops aligned = .ok (audio.draft loops aligned) := by
  rw [build?]
  dsimp only
  rw [if_neg (not_or.mpr ⟨channels, frames⟩), firstMisfit?_eq_none.mpr fit]
  rfl

/-- Audio is made into its draft just if it has frames and all loops fit. -/
theorem build?_eq_ok : build? audio loops aligned = .ok d ↔
    (audio.channels.toNat ≠ 0 ∧ audio.frames ≠ 0 ∧ ∀ l ∈ loops, l.Fits audio.frames) ∧
      d = audio.draft loops aligned := by
  constructor
  · intro built
    unfold build? at built
    dsimp only at built
    split at built
    · cases built
    · rename_i nonempty
      obtain ⟨channels, frames⟩ := not_or.mp nonempty
      split at built
      · cases built
      · rename_i fit
        exact ⟨⟨channels, frames, firstMisfit?_eq_none.mp fit⟩, (Except.ok.inj built).symm⟩
  · rintro ⟨⟨channels, frames, fit⟩, rfl⟩
    exact build?_of_fit channels frames fit aligned

/-- A draft has the channels of the audio and the given loops. -/
theorem shape_of_build? (built : build? audio loops aligned = .ok d) :
    d.shape.channels = audio.channels ∧ d.shape.loops = loops := by
  obtain ⟨-, rfl⟩ := build?_eq_ok.mp built
  exact ⟨rfl, rfl⟩

theorem frames_of_build? (built : build? audio loops aligned = .ok d) :
    d.shape.frames = audio.frames := by
  obtain ⟨-, rfl⟩ := build?_eq_ok.mp built
  rfl

/-- A draft has a table if one is asked for. -/
theorem alignment_of_build? (built : build? audio loops aligned = .ok d) :
    d.shape.alignment.isSome = aligned := by
  obtain ⟨-, rfl⟩ := build?_eq_ok.mp built
  cases aligned <;> rfl

/-- Drafts of decoded audio are sound. -/
theorem sound_of_build? (built : build? audio loops aligned = .ok d) : d.Sound := by
  obtain ⟨⟨channels, frames, fits⟩, rfl⟩ := build?_eq_ok.mp built
  have fit := firstMisfit?_eq_none.mpr fits
  have some_channels : 0 < audio.channels.toNat := Nat.pos_of_ne_zero channels
  have main := audio.length_whole
  refine ⟨⟨fun none => ?_, frames, fit, rfl, fun table is => ?_⟩, ?_⟩
  · exact channels (by rw [show audio.channels = 0 from none]; rfl)
  · dsimp only [Recording.draft] at is
    split at is
    · obtain rfl := Option.some.inj is
      exact alignment_compute _ some_channels (Nat.pos_of_ne_zero frames) main
    · cases is
  · have tails : ((endPoints audio.frames loops).flatMap fun e =>
        e.tail audio.channels.toNat
          (audio.samples.take (audio.frames * audio.channels.toNat))).length
        = ((endPoints audio.frames loops).map (·.tailFrames)).sum * audio.channels.toNat := by
      rw [List.length_flatMap, ← List.sum_map_mul_right]
      refine congrArg List.sum (List.map_congr_left ?_)
      intro e mem
      obtain ⟨frame, next, -⟩ := mem_endPoints fit mem
      refine EndPoint.length_tail some_channels ?_ next
      rw [main]
      exact Nat.mul_le_mul_right _ frame
    dsimp only [Recording.draft]
    rw [List.length_append, main, tails, ← Nat.add_mul, ← blockFrames_endPoints]
    rfl

end Draft

end Windchest
