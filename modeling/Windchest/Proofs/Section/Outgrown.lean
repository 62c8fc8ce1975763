/-
# Windchest.Proofs.Section.Outgrown -- records whose numbers outgrow a word

The number of frames in a record is any word.  It is added to the tails and multiplied
with the channels before the samples of the block are counted, and neither the sums nor
the product need fit into a word.  `Draft.Outgrown` lists the three ways out, and
`faults_of_outgrown` says that restoring a section gives up without an answer in just
these: everything else in a record, however damaged, is answered.

All three take a number of frames that no recording has (`Draft.Outgrown.large`), and one
of them needs no more than 68 bytes (`brimmingRecord_faults`).
-/
import Windchest.Proofs.Codec.Regular
import Windchest.Proofs.Section.RoundTrip

namespace Windchest

set_option autoImplicit false

/-! ## Checks of sizes -/

namespace Reader

variable {α β : Type}

theorem inWord_eq_error {n : Nat} {why : Fault} {s t : Bytes} {e : Failure CacheError} :
    inWord n why s = .error e t ↔ maxWord < n ∧ .fault why = e ∧ s = t := by
  unfold inWord
  split
  · rename_i fits
    simp [pure, EStateM.pure, Nat.not_lt_of_le fits]
  · rename_i large
    simp [throw, throwThe, MonadExceptOf.throw, EStateM.throw, Nat.lt_of_not_le large]

/-- A check of a size fails with its fault, or what is read behind it fails. -/
theorem inWord_bind_eq_fault {n : Nat} {why f : Fault} {next : Unit → Reader α} {s t : Bytes} :
    (inWord n why >>= next) s = .error (.fault f) t ↔
      (maxWord < n ∧ why = f ∧ s = t) ∨ (n ≤ maxWord ∧ next () s = .error (.fault f) t) := by
  rw [bind_eq_error, inWord_eq_error, Failure.fault.injEq]
  refine or_congr_right ⟨?_, ?_⟩
  · rintro ⟨_, u, passed, failed⟩
    obtain ⟨fits, rfl⟩ := inWord_eq_ok.mp passed
    exact ⟨fits, failed⟩
  · rintro ⟨fits, failed⟩
    exact ⟨(), s, inWord_eq_ok.mpr ⟨fits, rfl⟩, failed⟩

/-- A list of elements that take at least `size` bytes each is read, its count first. -/
def Listed (size : Nat) (read : Reader α) (s : Bytes) (values : List α) (t : Bytes) : Prop :=
  ∃ n u, count size s = .ok n u ∧ times read n u = .ok values t

end Reader

/-! ## Sums and products that outgrow a word -/

namespace Shape

/-- The front of a shape in a record, up to its end points. -/
def readFront : Reader Shape := do
  let rate ← Reader.u32
  let channels ← Reader.u16
  let frames := (← Reader.u64).toNat
  let peak ← Reader.sample
  if channels = 0 ∨ frames = 0 then Reader.malformed .emptySection
  let loops ← Reader.times Loop.read (← Reader.count 8)
  match firstMisfit? frames loops with
  | some why => Reader.malformed (.loop why)
  | none =>
    let ends ← Reader.times EndPoint.read (← Reader.count EndPoint.size)
    return { rate, channels, frames, peak, loops, ends, alignment := none }

/-- What follows the front, behind the checks of the end points. -/
def readBack (s : Shape) : Reader Shape := do
  unless s.loops.isEmpty do
    Reader.inWord (blockFrames s.frames (endPoints s.frames s.loops)) .sumOverflow
  if s.ends ≠ endPoints s.frames s.loops then Reader.malformed .endPoints
  let alignment ← if ← Reader.bool then some <$> Alignment.read s.frames else pure none
  return { s with alignment }

/-- Reading a shape is reading its front and then its back. -/
theorem read_eq_front_back : read = readFront >>= readBack := by
  unfold read readFront
  simp only [bind_assoc]
  refine bind_congr fun rate => bind_congr fun channels => bind_congr fun frames =>
    bind_congr fun peak => ?_
  split
  · rfl
  · simp only [bind_assoc]
    refine bind_congr fun loopCount => bind_congr fun loops => ?_
    cases firstMisfit? frames.toNat loops with
    | some why => rfl
    | none =>
        simp only [bind_assoc]
        rfl

/-- The front of a shape was read: its numbers stand for something, its loops fit into its frames,
and there are end points, whatever they are. -/
structure Begun (s : Shape) (bytes rest : Bytes) : Prop where
  channels : s.channels ≠ 0
  frames : s.frames ≠ 0
  word : s.frames ≤ maxWord
  loops : firstMisfit? s.frames s.loops = none
  alignment : s.alignment = none
  read : ∃ behind left,
    bytes = Field.encodeAll [.u32 s.rate, .u16 s.channels, .u64 (.ofNat s.frames), .number s.peak]
      ++ behind ∧
    Reader.Listed 8 Loop.read behind s.loops left ∧
    Reader.Listed EndPoint.size EndPoint.read left s.ends rest

theorem readFront_eq_ok {s : Shape} {bytes rest : Bytes} :
    readFront bytes = .ok s rest ↔ s.Begun bytes rest := by
  constructor
  · intro done
    obtain ⟨rate, s₁, first, done⟩ := bind_eq_ok.mp done
    obtain ⟨channels, s₂, second, done⟩ := bind_eq_ok.mp done
    obtain ⟨frames, s₃, third, done⟩ := bind_eq_ok.mp done
    obtain ⟨peak, s₄, fourth, done⟩ := bind_eq_ok.mp done
    obtain ⟨nonempty, done⟩ := (checked_eq_ok (Reader.malformed_ne_ok _)).mp done
    obtain ⟨loopCount, s₅, counted, done⟩ := bind_eq_ok.mp done
    obtain ⟨loops, s₆, listed, done⟩ := bind_eq_ok.mp done
    rw [not_or] at nonempty
    cases fit : firstMisfit? frames.toNat loops with
    | some why =>
        rw [fit] at done
        exact absurd done (Reader.malformed_ne_ok _ _ _ _)
    | none =>
        rw [fit] at done
        obtain ⟨endCount, s₇, counted', done⟩ := bind_eq_ok.mp done
        obtain ⟨ends, s₈, listed', done⟩ := bind_eq_ok.mp done
        obtain ⟨rfl, rfl⟩ := pure_eq_ok.mp done
        refine ⟨nonempty.1, nonempty.2, Nat.le_of_lt_succ frames.toNat_lt, fit, rfl, s₄, s₆, ?_,
          ⟨loopCount, s₅, counted, listed⟩, ⟨endCount, s₇, counted', listed'⟩⟩
        rw [Reader.exact_u32 first, Reader.exact_u16 second, Reader.exact_u64 third,
          Reader.exact_sample fourth]
        simp only [Field.encodeAll_cons, Field.encodeAll_nil, UInt64.ofNat_toNat, List.append_assoc,
          List.nil_append]
  · rintro ⟨channels, frames, word, fit, unaligned, behind, left, rfl,
      ⟨loopCount, s₅, counted, listed⟩, ⟨endCount, s₇, counted', listed'⟩⟩
    have same : (UInt64.ofNat s.frames).toNat = s.frames :=
      UInt64.toNat_ofNat_of_lt' (Nat.lt_succ_of_le word)
    simp only [Field.encodeAll_cons, Field.encodeAll_nil, List.append_assoc, List.nil_append]
    rw [readFront, bind_of_ok (Reader.takes_u32 s.rate _), bind_of_ok (Reader.takes_u16 s.channels _),
      bind_of_ok (Reader.takes_u64 (.ofNat s.frames) _), bind_of_ok (Reader.takes_sample s.peak _)]
    dsimp only
    rw [same, if_neg (not_or.mpr ⟨channels, frames⟩), bind_of_ok counted, bind_of_ok listed, fit]
    dsimp only
    rw [bind_of_ok counted', bind_of_ok listed', ← unaligned]
    rfl

theorem regular_readFront : Reader.Regular readFront := by
  refine keeps_bind Reader.regular_u32 fun rate => ?_
  refine keeps_bind Reader.regular_u16 fun channels => ?_
  refine keeps_bind Reader.regular_u64 fun frames => ?_
  refine keeps_bind Reader.regular_sample fun peak => Reader.regular_checked ?_
  refine keeps_bind (Reader.regular_count 8) fun loopCount => ?_
  refine keeps_bind (Reader.regular_times Loop.regular_read _) fun loops => ?_
  split
  · exact Reader.regular_malformed _
  · exact keeps_bind (Reader.regular_count _) fun _ =>
      keeps_bind (Reader.regular_times EndPoint.regular_read _) fun _ =>
        keeps_pure _

/-- Behind the front, nothing but the tails of the loops can outgrow a word. -/
theorem readBack_eq_fault {s : Shape} {bytes rest : Bytes} {f : Fault} :
    readBack s bytes = .error (.fault f) rest ↔
      s.loops ≠ [] ∧ maxWord < blockFrames s.frames (endPoints s.frames s.loops) ∧
        .sumOverflow = f ∧ bytes = rest := by
  have regular : Reader.Regular (do
      if s.ends ≠ endPoints s.frames s.loops then Reader.malformed .endPoints
      let alignment ← if ← Reader.bool then some <$> Alignment.read s.frames else pure none
      return { s with alignment }) := by
    refine Reader.regular_checked (keeps_bind Reader.regular_bool fun aligned => ?_)
    refine keeps_ite ?_ ?_
    · exact keeps_bind ((Alignment.regular_read _).map) fun _ =>
        keeps_pure _
    · exact keeps_bind (keeps_pure _) fun _ => keeps_pure _
  rw [readBack]
  split
  · rename_i empty
    constructor
    · intro no
      exact absurd no regular.ne_fault
    · rintro ⟨some_loops, -⟩
      exact absurd (List.isEmpty_iff.mp empty) some_loops
  · rename_i some_loops
    rw [Reader.inWord_bind_eq_fault]
    constructor
    · rintro (outgrown | ⟨-, no⟩)
      · exact ⟨fun none => some_loops (List.isEmpty_iff.mpr none), outgrown⟩
      · exact absurd no regular.ne_fault
    · rintro ⟨-, outgrown⟩
      exact Or.inl outgrown

/-- The back of a shape is its alignment table. -/
theorem readBack_eq_ok {s t : Shape} {bytes rest : Bytes} (done : readBack s bytes = .ok t rest) :
    t = { s with alignment := t.alignment } := by
  have done := Reader.of_unless_inWord done
  obtain ⟨-, done⟩ := (checked_eq_ok (Reader.malformed_ne_ok _)).mp done
  obtain ⟨aligned, _, -, done⟩ := bind_eq_ok.mp done
  split at done
  all_goals
    obtain ⟨table, _, -, done⟩ := bind_eq_ok.mp done
    obtain ⟨rfl, -⟩ := pure_eq_ok.mp done
    rfl

/-- A shape that was read was begun. -/
theorem begun_of_read {s : Shape} {bytes rest : Bytes} (done : Shape.read bytes = .ok s rest) :
    ∃ left, Begun { s with alignment := none } bytes left := by
  rw [read_eq_front_back] at done
  obtain ⟨front, left, begun, done⟩ := bind_eq_ok.mp done
  have begun := readFront_eq_ok.mp begun
  have same := readBack_eq_ok done
  refine ⟨left, ?_⟩
  rw [same, ← begun.alignment]
  exact begun

theorem read_eq_fault {bytes rest : Bytes} {f : Fault} :
    Shape.read bytes = .error (.fault f) rest ↔
      ∃ s : Shape, s.Begun bytes rest ∧ s.loops ≠ [] ∧
        maxWord < blockFrames s.frames (endPoints s.frames s.loops) ∧ .sumOverflow = f := by
  rw [read_eq_front_back, regular_readFront.bind_eq_fault]
  simp only [readFront_eq_ok, readBack_eq_fault]
  constructor
  · rintro ⟨s, _, begun, some_loops, large, is, rfl⟩
    exact ⟨s, begun, some_loops, large, is⟩
  · rintro ⟨s, begun, some_loops, large, is⟩
    exact ⟨s, rest, begun, some_loops, large, is, rfl⟩

end Shape

namespace Draft

/-- The ways in which the numbers of a section's record outgrow a word, and the faults that they end
in. -/
inductive Outgrown (bytes : Bytes) : Fault → Prop where
  /-- The loops fit into the frames, but their tails end past the largest word. -/
  | tails {s : Shape} {rest : Bytes} (begun : s.Begun bytes rest) (some_loops : s.loops ≠ [])
      (large : maxWord < blockFrames s.frames (endPoints s.frames s.loops)) :
      Outgrown bytes .sumOverflow
  /-- The shape is as it should be, but its frames and tails are more than a word counts. -/
  | frames {s : Shape} {rest left : Bytes} {stored : Nat} (read : Shape.read bytes = .ok s rest)
      (counted : Reader.samplesLength rest = .ok stored left) (large : maxWord < s.totalFrames) :
      Outgrown bytes .sumOverflow
  /-- The frames of the block can be counted, but not its samples. -/
  | samples {s : Shape} {rest left : Bytes} {stored : Nat} (read : Shape.read bytes = .ok s rest)
      (counted : Reader.samplesLength rest = .ok stored left) (fits : s.totalFrames ≤ maxWord)
      (large : maxWord < s.blockLength) : Outgrown bytes .productOverflow

theorem read_eq_fault {bytes : Bytes} {f : Fault} :
    (∃ rest, Draft.read bytes = .error (.fault f) rest) ↔ Outgrown bytes f := by
  constructor
  · rintro ⟨rest, failed⟩
    rcases bind_eq_error.mp failed with failed | ⟨s, behind, shape, failed⟩
    · obtain ⟨s, begun, some_loops, large, rfl⟩ := Shape.read_eq_fault.mp failed
      exact .tails begun some_loops large
    · obtain ⟨stored, left, counted, failed⟩ := Reader.regular_samplesLength.bind_eq_fault.mp failed
      rcases Reader.inWord_bind_eq_fault.mp failed with ⟨large, rfl, -⟩ | ⟨fits, failed⟩
      · exact .frames shape counted large
      · rcases Reader.inWord_bind_eq_fault.mp failed with ⟨large, rfl, -⟩ | ⟨-, failed⟩
        · exact .samples shape counted fits large
        · have regular := keeps_bind (Reader.regular_samples stored) fun samples =>
            keeps_pure (Draft.mk s samples)
          exact absurd failed (Reader.regular_checked regular).ne_fault
  · intro outgrown
    cases outgrown with
    | tails begun some_loops large =>
        have failed := Shape.read_eq_fault.mpr ⟨_, begun, some_loops, large, rfl⟩
        exact ⟨_, bind_of_error failed⟩
    | @frames s rest left stored shape counted large =>
        refine ⟨left, ?_⟩
        rw [Draft.read, bind_of_ok shape, bind_of_ok counted]
        exact Reader.inWord_bind_eq_fault.mpr (Or.inl ⟨large, rfl, rfl⟩)
    | @samples s rest left stored shape counted fits large =>
        refine ⟨left, ?_⟩
        rw [Draft.read, bind_of_ok shape, bind_of_ok counted,
          bind_of_ok (Reader.inWord_eq_ok.mpr ⟨fits, rfl⟩)]
        exact Reader.inWord_bind_eq_fault.mpr (Or.inl ⟨large, rfl, rfl⟩)

end Draft

namespace Section

/-- Giving up on a section is giving up on reading it: no byte string is so long that its samples
would not fit into a buffer. -/
theorem carryOut_eq_fault {bytes : Bytes} (real : bytes.length ≤ Arena.maxBuffer) {a : Arena}
    {f : Fault} : ((fromRecord bytes).carryOut a).result = .error (.fault f) ↔
      ∃ rest, Draft.read bytes = .error (.fault f) rest := by
  cases read : Draft.read bytes with
  | error why rest =>
      rw [fromRecord_of_error read]
      change Except.error why.toSetback = _ ↔ _
      cases why <;> simp [Failure.toSetback]
  | ok d rest =>
      obtain ⟨-, _, ⟨shape, -, rfl⟩, rfl⟩ := Draft.read_eq_ok read
      have short : 4 * d.samples.length ≤ Arena.maxBuffer := by
        simp only [Field.encode, List.length_append, Bytes.length_ofNat, Sample.length_flatMap] at real
        omega
      rw [fromRecord_of_ok read]
      rcases Arena.place_cases a (⟨d.samples, rest.length + 4 * d.samples.length⟩ : Demand) with
        ⟨full, placed⟩ | ⟨-, -, placed⟩ | ⟨-, large, placed⟩
      · simp [Plan.carryOut, Plan.carryOn, placed]
      · simp [Plan.carryOut, Plan.carryOn, placed]
      · exact absurd short large

/-- The number of frames in the record of a section, as it is written there. -/
def framesOf (record : Bytes) : Nat := Bytes.toNat ((record.drop 6).take 8)

end Section

/-! ## How large the numbers have to be -/

theorem sum_tailFrames_le (offset : Nat) (loops : List Loop) :
    ((loopEnds offset loops).map (·.tailFrames)).sum ≤ 2064 * loops.length := by
  induction loops generalizing offset with
  | nil => exact Nat.le_refl 0
  | cons l rest ih =>
      have longest : l.tailFrames ≤ 2064 := by
        rw [Loop.tailFrames]
        split <;> decide
      have := ih (offset + l.tailFrames)
      rw [loopEnds, List.map_cons, List.sum_cons, List.length_cons]
      dsimp only
      omega

namespace Shape.Begun

variable {s : Shape} {bytes rest : Bytes}

theorem framesOf_eq (begun : s.Begun bytes rest) : Section.framesOf bytes = s.frames := by
  obtain ⟨behind, left, rfl, -⟩ := begun.read
  have word : s.frames < 2 ^ 64 := Nat.lt_succ_of_le begun.word
  have before : (Field.encodeAll [.u32 s.rate, .u16 s.channels]).length = 6 := by
    simp [Field.encodeAll, Field.encode]
  have same : (UInt64.ofNat s.frames).toNat = s.frames := UInt64.toNat_ofNat_of_lt' word
  have split : Field.encodeAll [.u32 s.rate, .u16 s.channels, .u64 (.ofNat s.frames), .number s.peak]
        ++ behind
      = Field.encodeAll [.u32 s.rate, .u16 s.channels]
        ++ (Bytes.ofNat 8 s.frames ++ (s.peak.encode ++ behind)) := by
    simp [Field.encodeAll, Field.encode, same]
  rw [split, Section.framesOf, List.drop_left' before,
    List.take_left' (Bytes.length_ofNat 8 s.frames), Bytes.toNat_ofNat word]

/-- The tails are few for every byte of the record. -/
theorem blockFrames_le (begun : s.Begun bytes rest) :
    blockFrames s.frames (endPoints s.frames s.loops) ≤ Section.framesOf bytes + 258 * bytes.length := by
  have frames := begun.framesOf_eq
  obtain ⟨behind, left, rfl, ⟨n, u, counted, listed⟩, -⟩ := begun.read
  have length : behind.length = 4 + (8 * s.loops.length + left.length) := by
    rw [Reader.exact_count 8 counted, Reader.exact_times Loop.exact _ listed, List.length_append,
      List.length_append, length_flatMap_of_length Loop.length_encode, Nat.mul_comm]
    rfl
  rw [blockFrames_endPoints, frames, List.length_append, length]
  refine Nat.add_le_add_left ?_ _
  cases some_loops : s.loops with
  | nil =>
      change 16 ≤ _
      omega
  | cons l rest =>
      have := sum_tailFrames_le s.frames (l :: rest)
      change ((loopEnds s.frames (l :: rest)).map (·.tailFrames)).sum ≤ _
      omega

end Shape.Begun

/-- Only a number of frames that no recording has outgrows a word. -/
theorem Draft.Outgrown.large {bytes : Bytes} {f : Fault} (outgrown : Outgrown bytes f) :
    maxWord < (Section.framesOf bytes + 258 * bytes.length) * 65535 := by
  have total {s : Shape} {rest : Bytes} (read : Shape.read bytes = .ok s rest) :
      s.totalFrames ≤ Section.framesOf bytes + 258 * bytes.length := by
    obtain ⟨left, begun⟩ := Shape.begun_of_read read
    rw [Shape.totalFrames, (Shape.read_eq_ok read).1.ends]
    exact begun.blockFrames_le
  cases outgrown with
  | tails begun some_loops large =>
      have := begun.blockFrames_le
      omega
  | frames read counted large =>
      have := total read
      omega
  | @samples s rest left stored read counted fits large =>
      have channels : s.channels.toNat ≤ 65535 := Nat.le_of_lt_succ s.channels.toNat_lt
      exact Nat.lt_of_lt_of_le large (Nat.mul_le_mul (total read) channels)

/-- **Restoring a section is answered unless its numbers outgrow a word**, and for that the frames in
its record have to be more than any recording has. -/
theorem faults_of_outgrown {bytes : Bytes} (real : bytes.length ≤ Arena.maxBuffer) (a : Arena)
    (f : Fault) :
    (((Section.fromRecord bytes).carryOut a).result = .error (.fault f) ↔ Draft.Outgrown bytes f) ∧
      (Draft.Outgrown bytes f →
        maxWord < (Section.framesOf bytes + 258 * bytes.length) * 65535) :=
  ⟨(Section.carryOut_eq_fault real).trans Draft.read_eq_fault, Draft.Outgrown.large⟩

/-- The record of a section that is said to have as many frames as a word can count, and has not one
sample. -/
def brimmingRecord : Bytes :=
  Field.encodeAll (Draft.fields
    { shape := { hush.shape with frames := maxWord, ends := endPoints maxWord [] }, samples := [] })

/-- The brimming record outgrows a word, and restoring it is given up. -/
theorem brimmingRecord_outgrows :
    brimmingRecord.length ≤ Arena.maxBuffer ∧ Draft.Outgrown brimmingRecord .sumOverflow ∧
      ((Section.fromRecord brimmingRecord).carryOut { limit := 68 }).result
        = .error (.fault .sumOverflow) := by
  have real : brimmingRecord.length ≤ Arena.maxBuffer := by decide
  have outgrown : Draft.Outgrown brimmingRecord .sumOverflow :=
    .frames (s := { hush.shape with frames := maxWord, ends := endPoints maxWord [] }) rfl rfl (by decide)
  exact ⟨real, outgrown, (faults_of_outgrown real _ _).1.mpr outgrown⟩

/-- No section is restored from the brimming record, and no error says why. -/
theorem brimmingRecord_faults :
    ((Section.fromRecord brimmingRecord).carryOut { limit := 4096 }).result
      = .error (.fault .sumOverflow) := by
  decide +kernel

end Windchest
