/-
# Windchest.Proofs.Section.Alignment -- what an alignment table holds

A release is searched from its second frame on, for as many frames as it has or as are
searched at most.  Each of these frames falls into one slot: the bucket of its amplitude
relative to the peak, and whether the wave has risen since the frame before.  The table
holds the first frame of each slot, and frame 0 for a slot that no frame falls into
(`firsts_of_compute`).

So whoever asks for the slot of a frame gets a frame of the same slot that is no later, and
whoever asks for anything else stays within the release.  None of this needs to know how
numbers are divided or compared; all that counts is that building the table and looking
something up in it take the slot of the same number in the same way.
-/
import Windchest.Proofs.Section.Sound

namespace Windchest.Alignment

set_option autoImplicit false

/-! ## Slots -/

/-- The bucket of an amplitude relative to the peak.  All from the peak on share the last one. -/
def bucket (relative : Float32) : Nat := min (relative.abs * 16).toUInt64.toNat (alignBuckets - 1)

theorem bucket_lt (relative : Float32) : bucket relative < alignBuckets :=
  Nat.lt_of_le_of_lt (Nat.min_le_right _ _) (by decide)

theorem slot_eq (relative : Float32) (rising : Bool) :
    slot relative rising = bucket relative * 2 + rising.toNat := rfl

theorem slot_lt (relative : Float32) (rising : Bool) : slot relative rising < alignSlots := by
  have inside := bucket_lt relative
  have direction := rising.toNat_le
  rw [slot_eq, alignSlots]
  omega

/-- A slot is one bucket in one direction. -/
theorem slot_eq_iff {relative : Float32} {rising rising' : Bool} {b : Nat} :
    slot relative rising = b * 2 + rising'.toNat ↔ bucket relative = b ∧ rising = rising' := by
  rw [slot_eq]
  cases rising <;> cases rising' <;> simp <;> omega

/-! ## Frames -/

section Frames

variable (samples : List Sample) (channels : Nat)

/-- The first channel of a frame. -/
def amplitude (frame : Nat) : Float32 := (samples.getD (frame * channels) .zero).value

/-- Whether the wave is higher at a frame than at the one before. -/
def rises (frame : Nat) : Bool :=
  decide (amplitude samples channels (frame - 1) < amplitude samples channels frame)

/-- The number of frames that are looked at. -/
def searched : Nat := min (samples.length / channels) alignWindow

/-- A frame behind the first is looked at, and falls into this bucket in this direction. -/
structure FallsInto (peak : Sample) (b : Nat) (rising : Bool) (frame : Nat) : Prop where
  behind : 1 ≤ frame
  within : frame < searched samples channels
  bucket : bucket (amplitude samples channels frame / peak.value) = b
  rises : rises samples channels frame = rising

end Frames

variable {samples : List Sample} {channels : Nat} {peak : Sample}

theorem firstChannel_take (some_channels : 0 < channels) :
    firstChannel channels (samples.take (alignWindow * channels))
      = (List.range (searched samples channels)).map (amplitude samples channels) := by
  have count : (samples.take (alignWindow * channels)).length / channels
      = searched samples channels := by
    have monotone : Monotone fun n => n / channels := fun _ _ more => Nat.div_le_div_right more
    rw [List.length_take, monotone.map_min, Nat.mul_div_cancel _ some_channels, Nat.min_comm]
    rfl
  rw [firstChannel, count]
  refine List.map_congr_left fun frame mem => ?_
  have within : frame < alignWindow :=
    Nat.lt_of_lt_of_le (List.mem_range.mp mem) (Nat.min_le_right _ _)
  have inside : frame * channels < alignWindow * channels :=
    Nat.mul_lt_mul_of_pos_right within some_channels
  rw [amplitude, List.getD_eq_getElem?_getD, List.getD_eq_getElem?_getD, List.getElem?_take,
    if_pos inside]

/-- The slots behind a frame, read off the values of the frames. -/
theorem slots_range' (value : Nat → Float32) (peak : Float32) (frame n : Nat) :
    slots peak (value frame) ((List.range' (frame + 1) n).map value)
      = (List.range' (frame + 1) n).map fun f =>
          slot (value f / peak) (decide (value (f - 1) < value f)) := by
  induction n generalizing frame with
  | zero => rfl
  | succ n ih =>
      rw [List.range'_succ, List.map_cons, List.map_cons, slots, ih (frame + 1), Nat.add_sub_cancel]

/-- The search finds the slots of all frames behind the first. -/
theorem found_eq (some_channels : 0 < channels) (loud : 0 < peak.value) :
    found samples channels peak
      = (List.range' 1 (searched samples channels - 1)).map fun f =>
          slot (amplitude samples channels f / peak.value) (rises samples channels f) := by
  rw [found, firstChannel_take some_channels]
  cases searched samples channels with
  | zero => rfl
  | succ n =>
      rw [List.range_eq_range', List.range'_succ, List.map_cons]
      dsimp only
      rw [if_pos loud]
      exact slots_range' (amplitude samples channels) peak.value 0 n

/-- The frame of a slot is the first with it, or the first of all. -/
theorem frameOf_range' {n : Nat} (few : n < UInt32.size) (slotOf : Nat → Nat) (s : Nat) :
    let p := frameOf ((List.range' 1 n).map slotOf) s
    IsLeast {f | (1 ≤ f ∧ f < 1 + n) ∧ slotOf f = s} p.toNat ∨
      p = 0 ∧ ∀ f, 1 ≤ f ∧ f < 1 + n → slotOf f ≠ s := by
  dsimp only
  rw [frameOf]
  split
  · rename_i i is
    obtain ⟨inside, here, before⟩ := List.idxOf?_eq_some_iff.mp is
    rw [List.length_map, List.length_range'] at inside
    simp only [List.getElem_map, List.getElem_range', Nat.one_mul] at here before
    rw [UInt32.toNat_ofNat_of_lt' (by omega), Nat.add_comm i 1]
    refine Or.inl ⟨⟨⟨by omega, by omega⟩, here⟩, ?_⟩
    rintro f ⟨⟨lower, upper⟩, same⟩
    by_contra earlier
    have earlier : f - 1 < i := by omega
    have clash := before (f - 1) earlier
    rw [Nat.add_sub_of_le lower] at clash
    exact clash same
  · rename_i none
    refine Or.inr ⟨rfl, ?_⟩
    intro f inside same
    refine List.idxOf?_eq_none_iff.mp none (List.mem_map.mpr ⟨f, ?_, same⟩)
    exact List.mem_range'_1.mpr inside

/-- A slot of the table holds the first frame that falls into it, or frame 0 if none does. -/
theorem first_of_compute (some_channels : 0 < channels) (loud : 0 < peak.value) {b : Nat}
    (some_bucket : b < alignBuckets) (rising : Bool) :
    ∃ p, (compute samples channels peak).positions[b * 2 + rising.toNat]? = some p ∧
      (IsLeast {f | FallsInto samples channels peak b rising f} p.toNat ∨
        p = 0 ∧ ∀ f, ¬ FallsInto samples channels peak b rising f) := by
  have inside : b * 2 + rising.toNat < alignSlots := by
    have direction := rising.toNat_le
    rw [alignSlots]
    omega
  have few : searched samples channels - 1 < UInt32.size := by
    have most : searched samples channels ≤ alignWindow := Nat.min_le_right _ _
    have window : alignWindow = 4096 := rfl
    have size : UInt32.size = 4294967296 := rfl
    omega
  have falls (f : Nat) : ((1 ≤ f ∧ f < 1 + (searched samples channels - 1)) ∧
      slot (amplitude samples channels f / peak.value) (rises samples channels f)
        = b * 2 + rising.toNat) ↔ FallsInto samples channels peak b rising f := by
    rw [slot_eq_iff]
    constructor
    · rintro ⟨⟨behind, within⟩, same, direction⟩
      exact ⟨behind, by omega, same, direction⟩
    · rintro ⟨behind, within, same, direction⟩
      exact ⟨⟨behind, by omega⟩, same, direction⟩
  refine ⟨frameOf (found samples channels peak) (b * 2 + rising.toNat), ?_, ?_⟩
  · rw [compute, List.getElem?_map, List.getElem?_range inside]
    rfl
  · rw [found_eq some_channels loud]
    rcases frameOf_range' few _ (b * 2 + rising.toNat) with least | ⟨zero, none⟩
    · exact Or.inl ((Set.ext falls) ▸ least)
    · exact Or.inr ⟨zero, fun f fallen => none f ((falls f).mpr fallen).1 ((falls f).mpr fallen).2⟩

/-- Without a peak to compare with, all slots hold frame 0. -/
theorem compute_of_silent (silent : ¬ 0 < peak.value) :
    compute samples channels peak = ⟨List.replicate alignSlots 0⟩ := by
  have none : found samples channels peak = [] := by
    rw [found]
    split
    · rfl
    · rw [if_neg silent]
  rw [compute, none]
  rfl

theorem silent_zero : ¬ 0 < Sample.zero.value := by decide +kernel

/-- **A table holds the first frame of each slot.**  If there is a peak, each slot of the table holds
the first of the frames looked at that falls into it, or 0 if there is none; so the slot of a frame
leads to a frame of the same slot that is no later.  If there is no peak, all slots hold 0.
Whatever number is looked up, its slot is in the table and leads to a frame of the release, or to 0. -/
theorem firsts_of_compute (samples : List Sample) {channels : Nat} (some_channels : 0 < channels)
    (peak : Sample) :
    let table := compute samples channels peak
    table.positions.length = alignSlots ∧
    (0 < peak.value →
      (∀ b < alignBuckets, ∀ rising, ∃ p, table.positions[b * 2 + rising.toNat]? = some p ∧
        (IsLeast {f | FallsInto samples channels peak b rising f} p.toNat ∨
          p = 0 ∧ ∀ f, ¬ FallsInto samples channels peak b rising f)) ∧
      ∀ f, 1 ≤ f → f < searched samples channels →
        let relative := amplitude samples channels f / peak.value
        let rising := rises samples channels f
        let p := table.position relative rising
        1 ≤ p ∧ p ≤ f ∧ FallsInto samples channels peak (bucket relative) rising p) ∧
    (¬ 0 < peak.value → table = ⟨List.replicate alignSlots 0⟩) ∧
    compute samples channels .zero = ⟨List.replicate alignSlots 0⟩ ∧
    ∀ relative rising, slot relative rising < alignSlots ∧
      (table.position relative rising = 0 ∨
        table.position relative rising < samples.length / channels) := by
  have looked_up {relative : Float32} {rising : Bool} {p : UInt32}
      (is : (compute samples channels peak).positions[bucket relative * 2 + rising.toNat]? = some p) :
      (compute samples channels peak).position relative rising = p.toNat := by
    rw [position, slot_eq, List.getD_eq_getElem?_getD, is, Option.getD_some]
  refine ⟨by rw [compute, List.length_map, List.length_range], fun loud => ⟨?_, ?_⟩,
    compute_of_silent, compute_of_silent silent_zero, fun relative rising => ⟨slot_lt relative rising, ?_⟩⟩
  · intro b some_bucket rising
    exact first_of_compute some_channels loud some_bucket rising
  · intro f behind within relative rising p
    have itself : FallsInto samples channels peak (bucket relative) rising f :=
      ⟨behind, within, rfl, rfl⟩
    obtain ⟨first, is, ⟨fallen, least⟩ | ⟨-, none⟩⟩ :=
      @first_of_compute samples _ peak some_channels loud _ (bucket_lt relative) rising
    · have p_eq : p = first.toNat := looked_up is
      rw [p_eq]
      exact ⟨fallen.behind, least itself, fallen⟩
    · exact absurd itself (none f)
  · by_cases loud : 0 < peak.value
    · obtain ⟨first, is, ⟨fallen, -⟩ | ⟨zero, -⟩⟩ :=
        @first_of_compute samples _ peak some_channels loud _ (bucket_lt relative) rising
      · rw [looked_up is]
        exact Or.inr (Nat.lt_of_lt_of_le fallen.within (Nat.min_le_left _ _))
      · rw [looked_up is, zero]
        exact Or.inl rfl
    · rw [compute_of_silent loud, position, List.getD_eq_getElem?_getD,
        List.getElem?_replicate_of_lt (slot_lt relative rising)]
      exact Or.inl rfl

/-- Six frames of two channels, of which the first swells from silence to full scale twice, the second
time from the other side. -/
def swell : List Sample :=
  [⟨0⟩, ⟨7⟩, ⟨0x3f000000⟩, ⟨7⟩, ⟨0x3f800000⟩, ⟨7⟩, ⟨0x3f000000⟩, ⟨7⟩, ⟨0xbf800000⟩, ⟨7⟩, ⟨0x3f800000⟩, ⟨7⟩]

/-- Its last frame rises to the peak as the third one has done before, and leads there; what is no
number at all leads nowhere beyond the sixth. -/
theorem swell_leads_to_third :
    let peak : Sample := ⟨0x3f800000⟩
    let table := compute swell 2 peak
    let relative := amplitude swell 2 5 / peak.value
    0 < peak.value ∧ 5 < searched swell 2 ∧ rises swell 2 5 = true ∧
    table.position relative true = 2 ∧ FallsInto swell 2 peak (bucket relative) true 2 ∧
    (table.position (Float32.ofBits 0x7fc00000) true = 0 ∨
      table.position (Float32.ofBits 0x7fc00000) true < 6) := by
  intro peak table relative
  have loud : 0 < peak.value := by decide +kernel
  have within : 5 < searched swell 2 := by decide
  have rising : rises swell 2 5 = true := by decide +kernel
  have third : table.position relative true = 2 := by decide +kernel
  obtain ⟨-, firsts, -, -, anything⟩ := firsts_of_compute swell (by decide : 0 < 2) peak
  obtain ⟨-, -, falls⟩ := (firsts loud).2 5 (by decide) within
  rw [rising] at falls
  have falls : FallsInto swell 2 peak (bucket relative) true (table.position relative true) := falls
  rw [third] at falls
  exact ⟨loud, within, rising, third, falls, (anything (Float32.ofBits 0x7fc00000) true).2⟩

end Windchest.Alignment
