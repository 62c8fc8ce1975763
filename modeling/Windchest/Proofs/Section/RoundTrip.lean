/-
# Windchest.Proofs.Section.RoundTrip -- sections and their records are the same thing

The record of a section that was made of decoded audio restores it, whatever follows the
record, in every arena with room for the block.  And whatever bytes a section was
restored from, they are the ones that are written of it, but for eight bytes that count
for nothing if it has no loops (`sections_round_trip`).

`Section.carryOut_fromRecord` says once what becomes of a section that could be read.
-/
import Windchest.Proofs.Codec.Intake
import Windchest.Proofs.Object.Laws
import Windchest.Proofs.Section.Geometry

namespace Windchest

set_option autoImplicit false

/-! ## What the bytes of a record leave open -/

/-- The byte strings differ at most in the eight bytes from `i` on. -/
def Bytes.AgreeBut (i : Nat) (x y : Bytes) : Prop :=
  x.length = y.length ∧ x.take i = y.take i ∧ x.drop (i + 8) = y.drop (i + 8)

theorem Bytes.agreeBut_append (front back : Bytes) {gap gap' : Bytes} {i : Nat}
    (length : front.length = i) (eight : gap.length = 8) (eight' : gap'.length = 8) :
    AgreeBut i (front ++ gap ++ back) (front ++ gap' ++ back) := by
  subst length
  refine ⟨?_, ?_, ?_⟩
  · simp only [List.length_append, eight, eight']
  · rw [List.append_assoc, List.append_assoc, List.take_left, List.take_left]
  · rw [List.drop_left' (by rw [List.length_append, eight]),
      List.drop_left' (by rw [List.length_append, eight'])]

/-- Where playback goes on at every end point, the end points have one spelling. -/
theorem EndPoint.flatten_of_spelled {ends : List EndPoint} {spellings : List Bytes}
    (spelled : List.Forall₂ EndPoint.Spelled ends spellings) (goOn : ∀ e ∈ ends, e.next.isSome) :
    spellings.flatten = ends.flatMap fun e => Field.encodeAll e.fields := by
  induction spelled with
  | nil => rfl
  | cons first others ih =>
      rw [List.forall_mem_cons] at goOn
      rw [List.flatten_cons, List.flatMap_cons, first.eq_encode goOn.1, ih goOn.2]

/-- The place of the frame where playback would go on, in the record of a section without loops. -/
def Section.gapAt : Nat := 35

namespace Draft

variable {d : Draft} {bytes : Bytes}

theorem encodeAll_fields (d : Draft) :
    Field.encodeAll d.fields = Field.encodeAll d.shape.fields ++ (Field.samples d.samples).encode := by
  rw [fields, Field.encodeAll_append, Field.encodeAll_cons, Field.encodeAll_nil, List.append_nil]

/-- A section with loops has one spelling. -/
theorem Spelled.eq_encode (spelled : d.Spelled bytes) (sound : d.shape.Sound)
    (some_loops : d.shape.loops ≠ []) : bytes = Field.encodeAll d.fields := by
  obtain ⟨_, ⟨spellings, ends, rfl⟩, rfl⟩ := spelled
  have goOn : ∀ e ∈ d.shape.ends, e.next.isSome := by
    intro e mem
    rw [sound.ends, endPoints, if_neg (by simpa using some_loops)] at mem
    obtain ⟨⟨l, -, -, next⟩, -⟩ := mem_loopEnds mem
    rw [next]
    rfl
  rw [EndPoint.flatten_of_spelled ends goOn, ← Shape.encodeAll_fields, encodeAll_fields]

/-- The spellings of a section without loops differ in eight bytes. -/
theorem Spelled.agreeBut (spelled : d.Spelled bytes) (sound : d.shape.Sound)
    (no_loops : d.shape.loops = []) :
    Bytes.AgreeBut Section.gapAt bytes (Field.encodeAll d.fields) := by
  obtain ⟨_, ⟨spellings, each, rfl⟩, rfl⟩ := spelled
  have ends := sound.ends
  rw [no_loops] at ends
  change d.shape.ends = [⟨d.shape.frames, none, d.shape.frames, readAheadFrames⟩] at ends
  rw [encodeAll_fields, Shape.encodeAll_fields]
  simp only [Shape.spell, no_loops, ends, List.flatMap_nil, List.append_nil] at each ⊢
  cases each with
  | cons first none =>
      cases none
      obtain ⟨gap, eight, -, rfl⟩ := first
      have zero : (Field.u64 (.ofNat 0)).encode.length = 8 := Bytes.length_ofNat 8 _
      -- In front of the gap stand the numbers of the shape, two counts and half an end point.
      have agree := Bytes.agreeBut_append (i := Section.gapAt)
        (Field.encodeAll [.u32 d.shape.rate, .u16 d.shape.channels,
          .u64 (.ofNat d.shape.frames), .number d.shape.peak, .u32 (.ofNat 0), .u32 (.ofNat 1),
          .u64 (.ofNat d.shape.frames), .bool false])
        (Field.encodeAll [.u64 (.ofNat d.shape.frames), .u64 (.ofNat readAheadFrames)]
          ++ Field.encodeAll
            (.bool d.shape.alignment.isSome :: (d.shape.alignment.map Alignment.fields).getD [])
          ++ (Field.samples d.samples).encode)
        (by simp [Field.encodeAll, Field.encode, Sample.encode, Section.gapAt]) eight zero
      simpa only [EndPoint.fields, Field.encodeAll_cons, Field.encodeAll_nil, List.append_assoc,
        List.nil_append, List.append_nil, List.flatten_cons, List.flatten_nil, List.flatMap_cons,
        List.flatMap_nil, List.length_nil, List.length_cons, Option.isSome_none, Option.getD_none]
        using agree

/-- A section in the arena is written as its draft is. -/
theorem Committed.encode {a : Arena} {s : Section} (committed : d.Committed a s) :
    s.encode a = .ok (Field.encodeAll d.fields) := by
  obtain ⟨same, resident, -⟩ := committed.resident
  simp only [Section.encode, resident, same]

end Draft

/-! ## Restoring a section -/

namespace Section

theorem fromRecord_of_ok {d : Draft} {bytes rest : Bytes} (read : Draft.read bytes = .ok d rest) :
    fromRecord bytes
      = { started := none
          demands := [⟨d.samples, rest.length + 4 * d.samples.length⟩]
          unread := rest.length
          verdict := .ok fun blocks => blocks.head?.map d.commit } := by
  rw [fromRecord, Plan.ofRecord, Intake.draft, bind_of_ok (a := d) (t := ⟨rest, _⟩)]
  · rfl
  · rw [bind_of_ok (Intake.lift_of_ok read [])]
    rfl

/-- A section that was read becomes one in the arena, unless there is no room for its block or the
block is larger than any buffer. -/
theorem carryOut_fromRecord {d : Draft} {bytes rest : Bytes} (read : Draft.read bytes = .ok d rest)
    (a : Arena) :
    let c := (fromRecord bytes).carryOut a
    (c.result = .ok () ∧ c.unread = rest.length ∧
      ∃ s, c.object = some s ∧ d.Committed c.arena s) ∨
    (c.result ≠ .ok () ∧ (a.capacity < a.used + Arena.bytesFor d.samples.length ∨
      Arena.maxBuffer < 4 * d.samples.length)) := by
  rw [fromRecord_of_ok read]
  rcases Arena.place_cases a (⟨d.samples, rest.length + 4 * d.samples.length⟩ : Demand) with
    ⟨full, placed⟩ | ⟨-, -, placed⟩ | ⟨-, large, placed⟩
  · refine Or.inr ⟨?_, Or.inl full⟩
    simp [Plan.carryOut, Plan.carryOn, placed]
  · refine Or.inl ?_
    simp only [Plan.carryOut, Plan.carryOn, placed, List.nil_append]
    exact ⟨trivial, trivial, _, rfl, .commit placed (.refl _)⟩
  · refine Or.inr ⟨?_, Or.inr (Nat.lt_of_not_le large)⟩
    simp [Plan.carryOut, Plan.carryOn, placed]

theorem fromRecord_of_error {why : Failure CacheError} {bytes rest : Bytes}
    (failed : Draft.read bytes = .error why rest) :
    fromRecord bytes = ⟨none, [], rest.length, .error why⟩ := by
  simp [fromRecord, Plan.ofRecord, Intake.draft, Intake.lift, failed, bind, EStateM.bind]

/-- Whoever restores a section has read it. -/
theorem read_of_carryOut {bytes : Bytes} {a : Arena}
    (restored : ((fromRecord bytes).carryOut a).result = .ok ()) :
    ∃ d rest, Draft.read bytes = .ok d rest := by
  cases read : Draft.read bytes with
  | ok d rest => exact ⟨d, rest, rfl⟩
  | error why rest =>
      rw [fromRecord_of_error read] at restored
      cases restored

end Section

/-- **Restoring a section undoes writing it, and writing it undoes restoring it.**  The one thing
that is not written as it was read are the eight bytes at `Section.gapAt` of a section without
loops. -/
theorem sections_round_trip :
    (∀ {audio : Recording} {loops : List Loop} {aligned : Bool} {d : Draft} {a : Arena} {s : Section},
      Draft.build? audio loops aligned = .ok d → loops.length < 2 ^ 32 → d.Committed a s →
        ∃ record, s.encode a = .ok record ∧ ∀ (suffix : Bytes) (b : Arena),
          Draft.read (record ++ suffix) = .ok d suffix ∧
          (b.used + 4 * d.samples.length ≤ b.capacity →
            let c := (Section.fromRecord (record ++ suffix)).carryOut b
            c.result = .ok () ∧ c.unread = suffix.length ∧
              ∃ t, c.object = some t ∧ Section.Same a c.arena s t)) ∧
    ∀ (bytes : Bytes) (b : Arena),
      let c := (Section.fromRecord bytes).carryOut b
      c.result = .ok () → ∃ s record, c.object = some s ∧ s.encode c.arena = .ok record ∧
        (s.shape.loops ≠ [] → bytes.take (bytes.length - c.unread) = record) ∧
        (s.shape.loops = [] →
          Bytes.AgreeBut Section.gapAt (bytes.take (bytes.length - c.unread)) record) := by
  constructor
  · intro audio loops aligned d a s built few committed
    have sound := Draft.sound_of_build? built
    obtain ⟨same, resident, small⟩ := committed.resident
    have few : d.shape.loops.length < 2 ^ 32 := by rwa [(Draft.shape_of_build? built).2]
    refine ⟨_, committed.encode, ?_⟩
    intro suffix b
    have read := Draft.takes sound few (Nat.le_trans small (by decide)) suffix
    refine ⟨read, ?_⟩
    intro room
    rcases Section.carryOut_fromRecord read b with ⟨restored, left, t, is, again⟩ | ⟨-, full | large⟩
    · obtain ⟨same', resident', -⟩ := again.resident
      exact ⟨restored, left, t, is, same'.trans same.symm, d.samples, resident, resident'⟩
    · have : Arena.bytesFor d.samples.length ≤ 4 * d.samples.length := Nat.min_le_left _ _
      omega
    · omega
  · intro bytes b c restored
    obtain ⟨d, rest, read⟩ := Section.read_of_carryOut restored
    obtain ⟨sound, front, spelled, rfl⟩ := Draft.read_eq_ok read
    rcases Section.carryOut_fromRecord read b with ⟨-, left, s, is, committed⟩ | ⟨failed, -⟩
    · have taken : (front ++ rest).take ((front ++ rest).length - c.unread) = front := by
        rw [show c.unread = rest.length from left, List.length_append, Nat.add_sub_cancel]
        exact List.take_left
      rw [taken]
      refine ⟨s, _, is, committed.encode, ?_, ?_⟩
      · intro some_loops
        rw [committed.resident.1] at some_loops
        exact spelled.eq_encode sound.shape some_loops
      · intro no_loops
        rw [committed.resident.1] at no_loops
        exact spelled.agreeBut sound.shape no_loops
    · exact absurd restored failed

/-- Three frames in two channels with two loops, and a table to align them by. -/
def lilt : Except Unfit Draft :=
  Draft.build? ⟨[.zero, .zero, ⟨0x3f800000⟩, .zero, ⟨0x3f000000⟩, .zero], 2, 48000⟩
    [⟨1, 3⟩, ⟨0, 2⟩] true

/-- One silent frame and its silent tail. -/
def hush : Draft where
  shape :=
    { rate := 48000, channels := 1, frames := 1, peak := .zero, loops := []
      ends := [⟨1, none, 1, 16⟩], alignment := none }
  samples := List.replicate 17 .zero

/-- The record of the silent section, with something written where it cannot be heard. -/
def scribbledHush : Bytes :=
  let record := Field.encodeAll hush.fields
  record.take Section.gapAt ++ [1, 2, 3, 4, 5, 6, 7, 8] ++ record.drop (Section.gapAt + 8)

/-- Restoring a section in an arena that has just the room for the silent one. -/
def restoreHush (record : Bytes) : Carried (Option Section) CacheError :=
  (Section.fromRecord record).carryOut { limit := 68 }

/-- A section with loops and a table comes back from its record, with three bytes behind it, to an
arena that it fills.  The silent section comes back from the scribbled record, and is written
without the scribble. -/
theorem lilt_and_hush_round_trip :
    (∃ d s a record t, lilt = .ok d ∧ d.Committed a s ∧ s.encode a = .ok record ∧
      s.shape.loops = [⟨1, 3⟩, ⟨0, 2⟩] ∧ s.shape.alignment.isSome = true ∧
      let c := (Section.fromRecord (record ++ [1, 2, 3])).carryOut { limit := 33048 }
      c.unread = 3 ∧ c.object = some t ∧ Section.Same a c.arena s t) ∧
    ∃ s record, (restoreHush scribbledHush).object = some s ∧
      s.encode (restoreHush scribbledHush).arena = .ok record ∧
      Bytes.AgreeBut Section.gapAt scribbledHush record ∧ record ≠ scribbledHush := by
  obtain ⟨restores, respells⟩ := sections_round_trip
  constructor
  · have numbers : lilt.map (fun d => (d.shape.loops, d.shape.alignment.isSome, d.samples.length))
        = .ok ([⟨1, 3⟩, ⟨0, 2⟩], true, 8262) := by
      decide +kernel
    cases built : lilt with
    | error why =>
        rw [built] at numbers
        cases numbers
    | ok d =>
        rw [built] at numbers
        obtain ⟨loops, rest⟩ := Prod.mk.inj (Except.ok.inj numbers)
        obtain ⟨aligned, length⟩ := Prod.mk.inj rest
        obtain ⟨s, a, committed⟩ := Draft.exists_committed (d := d) (a := { limit := 33048 })
          (by rw [length]; decide) (by rw [length]; decide)
        obtain ⟨same, -⟩ := committed.resident
        obtain ⟨record, encoded, back⟩ := restores built (by decide) committed
        obtain ⟨-, left, t, is, equal⟩ :=
          (back [1, 2, 3] { limit := 33048 }).2 (by rw [length]; decide)
        exact ⟨d, s, a, record, t, rfl, committed, encoded, same ▸ loops, same ▸ aligned, left, is,
          equal⟩
  · obtain ⟨restored, left, is, unlike⟩ : (restoreHush scribbledHush).result = .ok () ∧
        (restoreHush scribbledHush).unread = 0 ∧
        (restoreHush scribbledHush).object = some (hush.commit ⟨0, 0⟩) ∧
        (hush.commit ⟨0, 0⟩).encode (restoreHush scribbledHush).arena ≠ .ok scribbledHush := by
      decide +kernel
    obtain ⟨t, record, is', encoded, -, agree⟩ := respells scribbledHush { limit := 68 } restored
    obtain rfl : hush.commit ⟨0, 0⟩ = t := Option.some.inj (is.symm.trans is')
    have agree := agree rfl
    rw [show ((Section.fromRecord scribbledHush).carryOut { limit := 68 }).unread = 0 from left,
      Nat.sub_zero, List.take_length] at agree
    refine ⟨_, record, is, encoded, agree, ?_⟩
    rintro rfl
    exact unlike encoded

end Windchest
