/-
# Windchest.Proofs.Section.Codec -- sections come back from records as they were written

Whatever is written of a sound section passes every check of the reader and comes back
bit for bit (`Draft.takes`).  Conversely, only sound sections come out of a record,
damaged or not, and the bytes that were read spell them (`Draft.read_eq_ok`), so the
samples of a cached section may be written again.

A section has one spelling, its encoding, if it has loops.  Without loops playback goes
on nowhere, and the record may hold any eight bytes where it would go on.
-/
import Windchest.Proofs.Codec.Spelling
import Windchest.Proofs.Section.Sound

namespace Windchest

set_option autoImplicit false

open Reader (Takes Exact Spells)

theorem Loop.length_encode (l : Loop) : (Field.encodeAll l.fields).length = 8 := by
  simp [Loop.fields, Field.encodeAll, Field.encode]

theorem Loop.takes (l : Loop) : Takes Loop.read (Field.encodeAll l.fields) l := by
  rw [Loop.fields, Field.encodeAll_cons, Field.encodeAll_cons]
  exact Reader.takes_bind (Reader.takes_u32 l.start)
    (Reader.takes_bind (Reader.takes_u32 l.stop) (Reader.takes_pure l))

theorem Loop.exact : Exact Loop.read fun l => Field.encodeAll l.fields := by
  intro bytes l rest done
  obtain ⟨start, u, first, done⟩ := bind_eq_ok.mp done
  obtain ⟨stop, v, second, done⟩ := bind_eq_ok.mp done
  obtain ⟨rfl, rfl⟩ := pure_eq_ok.mp done
  rw [Reader.exact_u32 first, Reader.exact_u32 second]
  rfl

theorem EndPoint.length_encode (e : EndPoint) :
    (Field.encodeAll e.fields).length = EndPoint.size := by
  simp [EndPoint.fields, Field.encodeAll, Field.encode, EndPoint.size]

/-- An end point comes back if its numbers fit into words. -/
theorem EndPoint.takes {e : EndPoint} (frame : e.frame ≤ maxWord) (next : e.next.getD 0 ≤ maxWord)
    (tailOffset : e.tailOffset ≤ maxWord) (tailFrames : e.tailFrames ≤ maxWord) :
    Takes EndPoint.read (Field.encodeAll e.fields) e := by
  have word {n : Nat} (fits : n ≤ maxWord) : (UInt64.ofNat n).toNat = n :=
    UInt64.toNat_ofNat_of_lt' (Nat.lt_of_le_of_lt fits (by decide))
  have same : (⟨(UInt64.ofNat e.frame).toNat,
      if e.next.isSome then some (UInt64.ofNat (e.next.getD 0)).toNat else none,
      (UInt64.ofNat e.tailOffset).toNat, (UInt64.ofNat e.tailFrames).toNat⟩ : EndPoint) = e := by
    rw [word frame, word next, word tailOffset, word tailFrames]
    obtain ⟨f, n, o, t⟩ := e
    cases n <;> rfl
  rw [EndPoint.fields, Field.encodeAll_cons, Field.encodeAll_cons, Field.encodeAll_cons,
    Field.encodeAll_cons, Field.encodeAll_cons]
  refine Reader.takes_bind (Reader.takes_u64 _) (Reader.takes_bind (Reader.takes_bool _)
    (Reader.takes_bind (Reader.takes_u64 _) (Reader.takes_bind (Reader.takes_u64 _)
      (Reader.takes_bind (Reader.takes_u64 _) ?_))))
  intro rest
  exact congrArg (EStateM.Result.ok · rest) same

/-- The bytes spell the end point.  Those for the frame where playback goes on count only if it
does. -/
def EndPoint.Spelled (e : EndPoint) (bytes : Bytes) : Prop :=
  ∃ gap : Bytes, gap.length = 8 ∧ (∀ start ∈ e.next, gap = (Field.u64 (.ofNat start)).encode) ∧
    bytes = Field.encodeAll [.u64 (.ofNat e.frame), .bool e.next.isSome] ++ gap
      ++ Field.encodeAll [.u64 (.ofNat e.tailOffset), .u64 (.ofNat e.tailFrames)]

theorem EndPoint.spells_read : Spells EndPoint.read EndPoint.Spelled := by
  intro bytes e rest done
  obtain ⟨frame, s₁, first, done⟩ := bind_eq_ok.mp done
  obtain ⟨goesOn, s₂, second, done⟩ := bind_eq_ok.mp done
  obtain ⟨next, s₃, third, done⟩ := bind_eq_ok.mp done
  obtain ⟨tailOffset, s₄, fourth, done⟩ := bind_eq_ok.mp done
  obtain ⟨tailFrames, s₅, fifth, done⟩ := bind_eq_ok.mp done
  obtain ⟨rfl, rfl⟩ := pure_eq_ok.mp done
  refine ⟨_, ⟨(Field.u64 next).encode, Bytes.length_ofNat 8 _, ?_, rfl⟩, ?_⟩
  · intro start is
    dsimp only at is
    split at is
    · obtain rfl := Option.some.inj is
      rw [UInt64.ofNat_toNat]
    · cases is
  · have same : (if goesOn then some next.toNat else none).isSome = goesOn := by cases goesOn <;> rfl
    rw [Reader.exact_u64 first, Reader.exact_bool second, Reader.exact_u64 third,
      Reader.exact_u64 fourth, Reader.exact_u64 fifth]
    simp only [same, UInt64.ofNat_toNat, Field.encodeAll_cons, Field.encodeAll_nil, List.append_assoc,
      List.nil_append]

/-- Where playback goes on, the end point has one spelling. -/
theorem EndPoint.Spelled.eq_encode {e : EndPoint} {bytes : Bytes} (spelled : e.Spelled bytes)
    (goesOn : e.next.isSome) : bytes = Field.encodeAll e.fields := by
  obtain ⟨gap, -, next, rfl⟩ := spelled
  obtain ⟨start, is⟩ := Option.isSome_iff_exists.mp goesOn
  rw [next start is, EndPoint.fields, is]
  simp only [Field.encodeAll_cons, Field.encodeAll_nil, List.append_assoc, List.nil_append,
    Option.getD_some]

/-- An alignment table of the right size comes back if it points at frames. -/
theorem Alignment.takes {t : Alignment} {frames : Nat} (length : t.positions.length = alignSlots)
    (within : ∀ position ∈ t.positions, position.toNat < frames) :
    Takes (Alignment.read frames) (Field.encodeAll t.fields) t := by
  have positions : Takes (Reader.times (readPosition frames) alignSlots)
      (t.positions.flatMap fun position => (Field.u32 position).encode) t.positions := by
    rw [← length]
    apply Reader.takes_times
    intro position mem rest
    rw [readPosition, bind_of_ok (Reader.takes_u32 position rest), if_pos (within position mem)]
    rfl
  have encoded : Field.encodeAll t.fields
      = t.positions.flatMap fun position => (Field.u32 position).encode :=
    List.flatMap_map _ _ t.positions
  rw [encoded, ← List.append_nil (t.positions.flatMap _)]
  exact Reader.takes_bind positions (Reader.takes_pure t)

/-- A table that was read is of the right size and points at frames, and is written as it was
read. -/
theorem Alignment.read_eq_ok {t : Alignment} {frames : Nat} {s rest : Bytes}
    (done : Alignment.read frames s = .ok t rest) :
    (t.positions.length = alignSlots ∧ ∀ position ∈ t.positions, position.toNat < frames) ∧
      s = Field.encodeAll t.fields ++ rest := by
  have single {u v : Bytes} {position : UInt32} (read : readPosition frames u = .ok position v) :
      position.toNat < frames ∧ u = (Field.u32 position).encode ++ v := by
    obtain ⟨value, w, found, checked⟩ := bind_eq_ok.mp read
    split at checked
    · rename_i within
      obtain ⟨rfl, rfl⟩ := pure_eq_ok.mp checked
      exact ⟨within, Reader.exact_u32 found⟩
    · exact absurd checked (Reader.malformed_ne_ok _ _ _ _)
  obtain ⟨positions, u, times, done⟩ := bind_eq_ok.mp done
  obtain ⟨rfl, rfl⟩ := pure_eq_ok.mp done
  obtain ⟨length, each⟩ := Reader.times_eq_ok times
  refine ⟨⟨length, ?_⟩, ?_⟩
  · intro position mem
    obtain ⟨_, _, read⟩ := each position mem
    exact (single read).1
  · have exact : Exact (readPosition frames) fun position => (Field.u32 position).encode :=
      fun _ _ _ read => (single read).2
    rw [Reader.exact_times exact _ times, Alignment.fields, Field.encodeAll, List.flatMap_map]

namespace Shape

/-- Reading a shape undoes writing it, if its block has a size that a word holds. -/
theorem takes {s : Shape} (sound : s.Sound) (few : s.loops.length < 2 ^ 32)
    (small : s.blockLength ≤ maxWord) : Takes Shape.read (Field.encodeAll s.fields) s := by
  intro rest
  have framesWord : s.totalFrames ≤ maxWord := Nat.le_trans sound.totalFrames_le small
  have frames : (UInt64.ofNat s.frames).toNat = s.frames := by
    have := sound.frames_le
    exact UInt64.toNat_ofNat_of_lt' (Nat.lt_of_le_of_lt (Nat.le_trans this framesWord) (by decide))
  have loops : Takes (Reader.times Loop.read s.loops.length)
      (s.loops.flatMap fun l => Field.encodeAll l.fields) s.loops :=
    Reader.takes_times fun l _ => l.takes
  have ends : Takes (Reader.times EndPoint.read s.ends.length)
      (s.ends.flatMap fun e => Field.encodeAll e.fields) s.ends := by
    apply Reader.takes_times
    intro e mem
    obtain ⟨frame, next, tailOffset, tailFrames⟩ := sound.le_totalFrames mem
    apply EndPoint.takes <;> omega
  have fewEnds : s.ends.length < 2 ^ 32 := by
    rw [sound.ends, length_endPoints]
    omega
  have fitting : blockFrames s.frames (endPoints s.frames s.loops) ≤ maxWord := by
    rw [← sound.ends]
    exact framesWord
  have nonempty : ¬ (s.channels = 0 ∨ s.frames = 0) := not_or.mpr ⟨sound.channels, sound.frames⟩
  simp only [fields, Field.encodeAll_append, Field.encodeAll_cons, Field.encodeAll_nil,
    Field.encodeAll_flatMap, List.append_assoc, List.nil_append]
  rw [read, bind_of_ok (Reader.takes_u32 s.rate _), bind_of_ok (Reader.takes_u16 s.channels _),
    bind_of_ok (Reader.takes_u64 (.ofNat s.frames) _), bind_of_ok (Reader.takes_sample s.peak _)]
  dsimp only
  rw [frames, if_neg nonempty, bind_of_ok (Reader.count_of_room few ?_), bind_of_ok (loops _)]
  · rw [sound.loops]
    dsimp only
    rw [bind_of_ok (Reader.count_of_room fewEnds ?_), bind_of_ok (ends _),
      Reader.unless_of_ok (Reader.inWord_eq_ok.mpr ⟨fitting, rfl⟩), if_neg (not_not.mpr sound.ends),
      bind_of_ok (Reader.takes_bool _ _)]
    · cases table : s.alignment with
      | none =>
        have same : ({ s with alignment := none } : Shape) = s := by rw [← table]
        exact congrArg (EStateM.Result.ok · rest) same
      | some t =>
        have same : ({ s with alignment := some t } : Shape) = s := by rw [← table]
        obtain ⟨length, within⟩ := sound.alignment t table
        rw [Option.isSome_some, if_pos rfl, Option.map_some, Option.getD_some,
          bind_of_ok (Reader.takes_map (Alignment.takes length within) _)]
        exact congrArg (EStateM.Result.ok · rest) same
    · rw [List.length_append, length_flatMap_of_length EndPoint.length_encode]
      exact Nat.le_add_right _ _
  · rw [List.length_append, length_flatMap_of_length Loop.length_encode]
    exact Nat.le_add_right _ _

/-- The bytes of a shape whose end points are spelled like this. -/
def spell (s : Shape) (ends : Bytes) : Bytes :=
  Field.encodeAll [.u32 s.rate, .u16 s.channels, .u64 (.ofNat s.frames), .number s.peak,
      .u32 (.ofNat s.loops.length)]
    ++ s.loops.flatMap (fun l => Field.encodeAll l.fields)
    ++ (Field.u32 (.ofNat s.ends.length)).encode ++ ends
    ++ Field.encodeAll (.bool s.alignment.isSome :: (s.alignment.map Alignment.fields).getD [])

theorem encodeAll_fields (s : Shape) :
    Field.encodeAll s.fields = s.spell (s.ends.flatMap fun e => Field.encodeAll e.fields) := by
  simp only [fields, spell, Field.encodeAll_append, Field.encodeAll_cons, Field.encodeAll_nil,
    Field.encodeAll_flatMap, List.append_assoc, List.nil_append]

/-- The bytes spell the shape. -/
def Spelled (s : Shape) (bytes : Bytes) : Prop :=
  ∃ ends : List Bytes, List.Forall₂ EndPoint.Spelled s.ends ends ∧ bytes = s.spell ends.flatten

/-- Only sound shapes are read, with as many loops as a count can tell, and the bytes that were read
spell them. -/
theorem read_eq_ok {s : Shape} {bytes rest : Bytes} (done : Shape.read bytes = .ok s rest) :
    s.Sound ∧ s.loops.length < 2 ^ 32 ∧ ∃ front, s.Spelled front ∧ bytes = front ++ rest := by
  rw [read] at done
  obtain ⟨rate, s₁, first, done⟩ := bind_eq_ok.mp done
  obtain ⟨channels, s₂, second, done⟩ := bind_eq_ok.mp done
  obtain ⟨frames, s₃, third, done⟩ := bind_eq_ok.mp done
  obtain ⟨peak, s₄, fourth, done⟩ := bind_eq_ok.mp done
  obtain ⟨nonempty, done⟩ := (checked_eq_ok (Reader.malformed_ne_ok _)).mp done
  obtain ⟨fewLoops, s₅, fifth, done⟩ := bind_eq_ok.mp done
  obtain ⟨loops, s₆, sixth, done⟩ := bind_eq_ok.mp done
  dsimp only at nonempty done
  have loopCount := (Reader.times_eq_ok sixth).1
  cases fit : firstMisfit? frames.toNat loops with
  | some why =>
      rw [fit] at done
      exact absurd done (Reader.malformed_ne_ok _ _ _ _)
  | none =>
      rw [fit] at done
      obtain ⟨fewEnds, s₇, seventh, done⟩ := bind_eq_ok.mp done
      obtain ⟨ends, s₈, eighth, done⟩ := bind_eq_ok.mp done
      have endCount := (Reader.times_eq_ok eighth).1
      obtain ⟨_, ⟨spellings, spelled, rfl⟩, eighth⟩ :=
        Reader.spells_times EndPoint.spells_read _ eighth
      have done := Reader.of_unless_inWord done
      obtain ⟨same, done⟩ := (checked_eq_ok (Reader.malformed_ne_ok _)).mp done
      obtain ⟨aligned, s₉, ninth, done⟩ := bind_eq_ok.mp done
      rw [not_or] at nonempty
      -- The table is the one thing that is not always there.
      obtain ⟨table, rfl, within, alignment⟩ : ∃ table : Option Alignment,
          s = ⟨rate, channels, frames.toNat, peak, loops, ends, table⟩ ∧
          (∀ t ∈ table, t.positions.length = alignSlots ∧
            ∀ position ∈ t.positions, position.toNat < frames.toNat) ∧
          (Field.bool aligned).encode ++ s₉
            = Field.encodeAll (.bool table.isSome :: (table.map Alignment.fields).getD []) ++ rest := by
        split at done
        · rename_i there
          obtain ⟨table, s₁₀, tenth, done⟩ := bind_eq_ok.mp done
          obtain ⟨rfl, rfl⟩ := pure_eq_ok.mp done
          obtain ⟨t, read, rfl⟩ := map_eq_ok.mp tenth
          obtain ⟨within, content⟩ := Alignment.read_eq_ok read
          refine ⟨some t, rfl, ?_, ?_⟩
          · intro other is
            obtain rfl := Option.some.inj is
            exact within
          · rw [there, content, Field.encodeAll_cons, List.append_assoc]
            rfl
        · rename_i absent
          obtain ⟨table, s₁₀, tenth, done⟩ := bind_eq_ok.mp done
          obtain ⟨rfl, rfl⟩ := pure_eq_ok.mp done
          obtain ⟨rfl, rfl⟩ := pure_eq_ok.mp tenth
          refine ⟨none, rfl, ?_, ?_⟩
          · intro other no
            cases no
          · rw [eq_false_of_ne_true absent, Field.encodeAll_cons]
            rfl
      refine ⟨⟨nonempty.1, nonempty.2, fit, not_not.mp same, within⟩,
        loopCount ▸ Reader.count_lt fifth, _, ⟨spellings, spelled, rfl⟩, ?_⟩
      rw [Reader.exact_u32 first, Reader.exact_u16 second, Reader.exact_u64 third,
        Reader.exact_sample fourth, Reader.exact_count 8 fifth, Reader.exact_times Loop.exact _ sixth,
        Reader.exact_count _ seventh, eighth, Reader.exact_bool ninth, alignment]
      simp only [spell, loopCount, endCount, UInt64.ofNat_toNat, Field.encodeAll_cons,
        Field.encodeAll_nil, List.append_assoc, List.nil_append]

end Shape

namespace Draft

/-- **Reading a section undoes writing it**, bit for bit, if the section is sound and its block has a
size that a word holds. -/
theorem takes {d : Draft} (sound : d.Sound) (few : d.shape.loops.length < 2 ^ 32)
    (small : 4 * d.samples.length ≤ maxWord) : Takes Draft.read (Field.encodeAll d.fields) d := by
  intro rest
  obtain ⟨shape, length⟩ := sound
  have word : maxWord = 2 ^ 64 - 1 := rfl
  have block : d.shape.blockLength ≤ maxWord := by omega
  have total : d.shape.totalFrames ≤ maxWord := Nat.le_trans shape.totalFrames_le block
  simp only [fields, Field.encodeAll_append, Field.encodeAll_cons, Field.encodeAll_nil,
    Field.encode, List.append_assoc, List.append_nil]
  have room : 4 * d.samples.length ≤ (d.samples.flatMap Sample.encode ++ rest).length := by
    rw [List.length_append, Sample.length_flatMap]
    exact Nat.le_add_right _ _
  have stored := Reader.samplesLength_of_room (show d.samples.length < 2 ^ 64 by omega) room
  rw [Field.encode, UInt64.toNat_ofNat_of_lt' (show d.samples.length < 2 ^ 64 by omega)] at stored
  rw [read, bind_of_ok (Shape.takes shape few block _), bind_of_ok stored,
    bind_of_ok (Reader.inWord_eq_ok.mpr ⟨total, rfl⟩), bind_of_ok (Reader.inWord_eq_ok.mpr ⟨block, rfl⟩)]
  dsimp only
  rw [if_neg (not_not.mpr length), bind_of_ok (Reader.takes_samples _ _)]
  rfl

/-- The bytes spell the section. -/
def Spelled (d : Draft) (bytes : Bytes) : Prop :=
  ∃ shape, d.shape.Spelled shape ∧ bytes = shape ++ (Field.samples d.samples).encode

/-- Only sound sections are read, whatever the bytes are, and the bytes that were read spell them. -/
theorem read_eq_ok {d : Draft} {bytes rest : Bytes} (done : Draft.read bytes = .ok d rest) :
    d.Sound ∧ ∃ front, d.Spelled front ∧ bytes = front ++ rest := by
  obtain ⟨shape, s₁, found, done⟩ := bind_eq_ok.mp done
  obtain ⟨stored, s₂, counted, done⟩ := bind_eq_ok.mp done
  obtain ⟨_, s₃, summed, done⟩ := bind_eq_ok.mp done
  obtain ⟨-, rfl⟩ := Reader.inWord_eq_ok.mp summed
  obtain ⟨_, s₄, multiplied, done⟩ := bind_eq_ok.mp done
  obtain ⟨-, rfl⟩ := Reader.inWord_eq_ok.mp multiplied
  obtain ⟨same, done⟩ := (checked_eq_ok (Reader.malformed_ne_ok _)).mp done
  obtain ⟨samples, s₅, taken, done⟩ := bind_eq_ok.mp done
  obtain ⟨rfl, rfl⟩ := pure_eq_ok.mp done
  obtain ⟨sound, -, front, spelled, content⟩ := Shape.read_eq_ok found
  have length : samples.length = stored := by
    obtain ⟨raw, _, front, done⟩ := bind_eq_ok.mp taken
    obtain ⟨rfl, rfl⟩ := pure_eq_ok.mp done
    exact Sample.length_decodeAll (Reader.take_eq_ok front).1
  refine ⟨⟨sound, length.trans (not_not.mp same)⟩, _, ⟨front, spelled, rfl⟩, ?_⟩
  rw [content, Reader.exact_samplesLength counted, Reader.exact_samples _ taken]
  simp only [Field.encode, length, List.append_assoc]

/-- A section that was read has as many loops as a count can tell. -/
theorem loops_of_read {d : Draft} {bytes rest : Bytes} (done : Draft.read bytes = .ok d rest) :
    d.shape.loops.length < 2 ^ 32 := by
  obtain ⟨shape, _, found, done⟩ := bind_eq_ok.mp done
  obtain ⟨stored, _, -, done⟩ := bind_eq_ok.mp done
  obtain ⟨_, _, -, done⟩ := bind_eq_ok.mp done
  obtain ⟨_, _, -, done⟩ := bind_eq_ok.mp done
  obtain ⟨-, done⟩ := (checked_eq_ok (Reader.malformed_ne_ok _)).mp done
  obtain ⟨samples, _, -, done⟩ := bind_eq_ok.mp done
  obtain ⟨rfl, -⟩ := pure_eq_ok.mp done
  exact (Shape.read_eq_ok found).2.1

end Draft

end Windchest
