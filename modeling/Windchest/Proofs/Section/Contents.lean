/-
# Windchest.Proofs.Section.Contents -- what the block of a section holds

The block of a section that is built of decoded audio holds the whole frames of the audio,
as they are, and behind them a tail for each loop, in their order: the frames that playback
would come to if it went on at the end of the loop, jumping back to its start each time it
gets there.  A section without loops has a silent tail.  Whether a section can be built
depends on its loops alone, if the arena has room (`contents_of_build`).

`getElem?_cycle` says what a row of samples repeated for ever is made of, and
`getElem?_tail` that a tail is such a row, channel by channel.
-/
import Windchest.Proofs.Arena.Plans
import Windchest.Proofs.Section.Sound

namespace Windchest

set_option autoImplicit false

/-! ## Sections with their blocks reserved -/

/-- A section whose block is reserved and filled, and not committed yet. -/
structure Pending where
  shape : Shape
  buffer : Buffer

/-- Builds a section of decoded audio and reserves its block. -/
def Section.build (a : Arena) (audio : Recording) (loops : List Loop) (aligned : Bool) :
    Except (Setback LoadError) Pending × Arena :=
  match Draft.build? audio loops aligned with
  | .error why => (.error (.error (.unfit why)), a)
  | .ok d =>
    match a.place d.samples with
    | (.granted b, a) => (.ok ⟨d.shape, b⟩, a)
    | (.refused why, a) => (.error (.outOfMemory why), a)
    | (.impossible, a) => (.error (.fault .capacity), a)

/-- The frames behind those of the audio: a tail for each loop, or a silent one. -/
def readAhead (loops : List Loop) : Nat :=
  if loops = [] then 16 else (loops.map Loop.tailFrames).sum

/-- The samples of the block of a section with these loops. -/
def Recording.blockLength (audio : Recording) (loops : List Loop) : Nat :=
  (audio.frames + readAhead loops) * audio.channels.toNat

/-! ## Playback within a loop -/

namespace Loop

/-- The frame that is played behind a frame of the loop. -/
def advance (l : Loop) (frame : Nat) : Nat :=
  if frame + 1 = l.stop.toNat then l.start.toNat else frame + 1

theorem advance_last {l : Loop} (valid : l.start < l.stop) :
    l.advance (l.stop.toNat - 1) = l.start.toNat := by
  have before := UInt32.lt_iff_toNat_lt.mp valid
  rw [advance, if_pos (by omega)]

/-- Playback from the start of a loop goes round and round in it. -/
theorem iterate_advance {l : Loop} (valid : l.start < l.stop) (n : Nat) :
    l.advance^[n] l.start.toNat = l.start.toNat + n % l.length := by
  have before := UInt32.lt_iff_toNat_lt.mp valid
  have length : l.length = l.stop.toNat - l.start.toNat := rfl
  induction n with
  | zero => rw [Nat.zero_mod]; rfl
  | succ n ih =>
      have inside := Nat.mod_lt n (show 0 < l.length by omega)
      rw [Function.iterate_succ_apply', ih, advance, Nat.add_mod_eq_ite]
      -- the loop may have a single frame, which is played again and again
      by_cases single : l.length = 1
      · rw [single] at length ⊢
        split_ifs <;> omega
      · rw [Nat.mod_eq_of_lt (a := 1) (by omega)]
        split_ifs <;> omega

/-- Behind its last frame, a loop is played from its start on. -/
theorem iterate_advance_last {l : Loop} (valid : l.start < l.stop) (n : Nat) :
    l.advance^[n + 1] (l.stop.toNat - 1) = l.start.toNat + n % l.length := by
  rw [Function.iterate_succ_apply, advance_last valid, iterate_advance valid]

end Loop

/-! ## Tails -/

/-- A sample of a frame lies in front of the frames behind it. -/
theorem sample_lt {frame frames channel channels : Nat} (ahead : frame < frames)
    (inside : channel < channels) : frame * channels + channel < frames * channels := by
  have whole := Nat.mul_le_mul_right channels (Nat.succ_le_of_lt ahead)
  rw [Nat.succ_mul] at whole
  omega

theorem getElem?_flatten_replicate (row : List Sample) {copies i : Nat}
    (inside : i < copies * row.length) :
    (List.replicate copies row).flatten[i]? = row[i % row.length]? := by
  induction copies generalizing i with
  | zero => omega
  | succ copies ih =>
      rw [List.replicate_succ, List.flatten_cons]
      by_cases first : i < row.length
      · rw [List.getElem?_append_left first, Nat.mod_eq_of_lt first]
      · have later := Nat.le_of_not_lt first
        rw [Nat.succ_mul] at inside
        rw [List.getElem?_append_right later, ih (by omega), Nat.mod_eq_sub_mod later]

theorem getElem?_cycle {row : List Sample} (nonempty : 0 < row.length) {n i : Nat} (inside : i < n) :
    (cycle n row)[i]? = row[i % row.length]? := by
  have enough : n < row.length * (n / row.length + 1) := Nat.lt_mul_div_succ n nonempty
  rw [cycle, List.getElem?_take_of_lt inside]
  exact getElem?_flatten_replicate row (by rw [Nat.mul_comm]; omega)

/-- A sample of a channel, in a row of whole frames that is repeated. -/
theorem frame_mod {frame channel channels frames : Nat} (inside : channel < channels) :
    (frame * channels + channel) % (frames * channels) = frame % frames * channels + channel := by
  rw [Nat.mul_comm frames, Nat.mod_mul, Nat.mul_comm frame, Nat.mul_add_mod,
    Nat.mod_eq_of_lt inside, Nat.mul_add_div (by omega), Nat.div_eq_of_lt inside, Nat.add_zero]
  ring

/-- The tail of a loop repeats the frames of the loop. -/
theorem getElem?_tail {l : Loop} {frames channels : Nat} {main : List Sample} (fit : l.Fits frames)
    (length : main.length = frames * channels) (offset : Nat) {frame channel : Nat}
    (ahead : frame < l.tailFrames) (inside : channel < channels) :
    (EndPoint.tail ⟨l.stop.toNat, some l.start.toNat, offset, l.tailFrames⟩ channels
        main)[frame * channels + channel]?
      = main[(l.start.toNat + frame % l.length) * channels + channel]? := by
  have before := UInt32.lt_iff_toNat_lt.mp fit.1
  have some_frames : 0 < l.length := Nat.sub_pos_of_lt before
  have within : l.start.toNat * channels + l.length * channels ≤ main.length := by
    rw [length, ← Nat.add_mul, Loop.length, Nat.add_sub_of_le (Nat.le_of_lt before)]
    exact Nat.mul_le_mul_right _ fit.2
  have row : ((main.drop (l.start.toNat * channels)).take (l.length * channels)).length
      = l.length * channels := by
    rw [List.length_take, List.length_drop]
    omega
  have turn := sample_lt (Nat.mod_lt frame some_frames) inside
  change (cycle (l.tailFrames * channels)
    ((main.drop (l.start.toNat * channels)).take (l.length * channels)))[_]? = _
  rw [getElem?_cycle (by rw [row]; exact Nat.zero_lt_of_lt turn) (sample_lt ahead inside), row,
    frame_mod inside, List.getElem?_take_of_lt turn, List.getElem?_drop]
  congr 1
  ring

theorem loopEnds_append (offset : Nat) (front back : List Loop) :
    loopEnds offset (front ++ back)
      = loopEnds offset front ++ loopEnds (offset + (front.map Loop.tailFrames).sum) back := by
  induction front generalizing offset with
  | nil => rfl
  | cons l rest ih =>
      rw [List.cons_append, loopEnds, ih, loopEnds, List.map_cons, List.sum_cons, Nat.add_assoc]
      rfl

theorem sum_tailFrames (frames : Nat) (loops : List Loop) :
    ((endPoints frames loops).map (·.tailFrames)).sum = readAhead loops := by
  have looped (offset : Nat) (loops : List Loop) :
      (loopEnds offset loops).map (·.tailFrames) = loops.map Loop.tailFrames := by
    induction loops generalizing offset with
    | nil => rfl
    | cons l rest ih => rw [loopEnds, List.map_cons, ih, List.map_cons]
  cases loops with
  | nil => rfl
  | cons l rest => exact congrArg List.sum (looped frames (l :: rest))

/-- The tail of a loop that fits is as long as it is meant to be. -/
theorem length_tail {l : Loop} {frames channels : Nat} {main : List Sample} (fit : l.Fits frames)
    (some_channels : 0 < channels) (length : main.length = frames * channels) (offset : Nat) :
    (EndPoint.tail ⟨l.stop.toNat, some l.start.toNat, offset, l.tailFrames⟩ channels main).length
      = l.tailFrames * channels := by
  refine EndPoint.length_tail some_channels (length ▸ Nat.mul_le_mul_right channels fit.2) ?_
  rintro start ⟨⟩
  exact UInt32.lt_iff_toNat_lt.mp fit.1

theorem length_tails {frames channels : Nat} {main : List Sample} {loops : List Loop}
    (fit : ∀ l ∈ loops, l.Fits frames) (some_channels : 0 < channels)
    (length : main.length = frames * channels) (offset : Nat) :
    ((loopEnds offset loops).flatMap fun e => e.tail channels main).length
      = (loops.map Loop.tailFrames).sum * channels := by
  induction loops generalizing offset with
  | nil => exact (Nat.zero_mul _).symm
  | cons l rest ih =>
      obtain ⟨first, others⟩ := List.forall_mem_cons.mp fit
      rw [loopEnds, List.flatMap_cons, List.length_append, length_tail first some_channels length,
        ih others, List.map_cons, List.sum_cons, Nat.add_mul]

/-- Behind the frames of the audio and the tails in front of it, there is the tail of a loop. -/
theorem getElem?_tails {front back : List Loop} {l : Loop} {frames channels : Nat}
    {main : List Sample} (fit : ∀ l' ∈ front ++ l :: back, l'.Fits frames)
    (length : main.length = frames * channels) {frame channel : Nat} (ahead : frame < l.tailFrames)
    (inside : channel < channels) :
    (main ++ (loopEnds frames (front ++ l :: back)).flatMap fun e => e.tail channels
        main)[(frames + (front.map Loop.tailFrames).sum + frame) * channels + channel]?
      = main[(l.start.toNat + frame % l.length) * channels + channel]? := by
  obtain ⟨fitFront, fitBack⟩ := List.forall_mem_append.mp fit
  have fitting := fitBack l List.mem_cons_self
  have some_channels := Nat.zero_lt_of_lt inside
  have tails := length_tails fitFront some_channels length frames
  have tail := length_tail fitting some_channels length (frames + (front.map Loop.tailFrames).sum)
  have place : (frames + (front.map Loop.tailFrames).sum + frame) * channels + channel
      = frames * channels + ((front.map Loop.tailFrames).sum * channels
        + (frame * channels + channel)) := by ring
  rw [place, List.getElem?_append_right (by rw [length]; exact Nat.le_add_right _ _), length,
    Nat.add_sub_cancel_left, loopEnds_append, List.flatMap_append,
    List.getElem?_append_right (by rw [tails]; exact Nat.le_add_right _ _), tails,
    Nat.add_sub_cancel_left, loopEnds, List.flatMap_cons,
    List.getElem?_append_left (by rw [tail]; exact sample_lt ahead inside)]
  exact getElem?_tail fitting length _ ahead inside

/-! ## Blocks -/

/-- What the block of a section of decoded audio holds, and where its end points lead. -/
structure Unrolled (audio : Recording) (loops : List Loop) (ends : List EndPoint)
    (block : List Sample) : Prop where
  length : block.length = audio.blockLength loops
  /-- Samples that do not fill a frame are left out. -/
  main : block.take (audio.frames * audio.channels.toNat)
    = audio.samples.take (audio.frames * audio.channels.toNat)
  silent : loops = [] → block.drop (audio.frames * audio.channels.toNat)
    = List.replicate (16 * audio.channels.toNat) .zero
  /-- The tails lie in the order of their loops. -/
  ends : ∀ front l back, loops = front ++ l :: back → ends[front.length]?
    = some ⟨l.stop.toNat, some l.start.toNat, audio.frames + (front.map Loop.tailFrames).sum,
        l.tailFrames⟩
  /-- A frame of a tail is, in each channel, the frame that playback within the loop comes to as many
  frames behind the last one of the loop. -/
  tail : ∀ front l back, loops = front ++ l :: back →
    ∀ frame < l.tailFrames, ∀ channel < audio.channels.toNat, ∃ s,
      block[(audio.frames + (front.map Loop.tailFrames).sum + frame) * audio.channels.toNat
        + channel]? = some s ∧
      audio.samples[(l.start.toNat + frame % l.length) * audio.channels.toNat + channel]? = some s ∧
      audio.samples[l.advance^[frame + 1] (l.stop.toNat - 1) * audio.channels.toNat + channel]?
        = some s

namespace Draft

variable {audio : Recording} {loops : List Loop} {aligned : Bool}

/-- Audio with a loop that does not fit makes no draft. -/
theorem build?_of_misfit (channels : audio.channels.toNat ≠ 0) (frames : audio.frames ≠ 0)
    {why : Misfit} (misfit : firstMisfit? audio.frames loops = some why) :
    build? audio loops aligned = .error (.loop why) := by
  rw [build?]
  dsimp only
  rw [if_neg (not_or.mpr ⟨channels, frames⟩), misfit]

theorem length_of_build? {d : Draft} (built : build? audio loops aligned = .ok d) :
    d.samples.length = audio.blockLength loops := by
  obtain ⟨channelsIs, loopsIs⟩ := shape_of_build? built
  have sound := sound_of_build? built
  rw [sound.length, Shape.blockLength, channelsIs, Shape.totalFrames, sound.shape.ends,
    blockFrames_endPoints, sum_tailFrames, frames_of_build? built, loopsIs]
  rfl

/-- A frame of the tail of a loop is the frame that playback within the loop comes to. -/
theorem tail_of_fit {front back : List Loop} {l : Loop}
    (fit : ∀ l' ∈ front ++ l :: back, l'.Fits audio.frames) {frame channel : Nat}
    (ahead : frame < l.tailFrames) (inside : channel < audio.channels.toNat) : ∃ s,
      (audio.draft (front ++ l :: back) aligned).samples[(audio.frames
        + (front.map Loop.tailFrames).sum + frame) * audio.channels.toNat + channel]? = some s ∧
      audio.samples[(l.start.toNat + frame % l.length) * audio.channels.toNat + channel]? = some s ∧
      audio.samples[l.advance^[frame + 1] (l.stop.toNat - 1) * audio.channels.toNat + channel]?
        = some s := by
  obtain ⟨valid, within⟩ := fit l (List.mem_append_right _ List.mem_cons_self)
  have before := UInt32.lt_iff_toNat_lt.mp valid
  have length : l.length = l.stop.toNat - l.start.toNat := rfl
  have turn := Nat.mod_lt frame (show 0 < l.length by omega)
  have played : l.start.toNat + frame % l.length < audio.frames := by omega
  have index := sample_lt played inside
  have enough := Nat.lt_of_lt_of_le index (Nat.div_mul_le_self audio.samples.length _)
  refine ⟨audio.samples.get ⟨_, enough⟩, ?_, List.getElem?_eq_getElem enough, ?_⟩
  · dsimp only [Recording.draft]
    rw [endPoints, if_neg (by simp), getElem?_tails fit audio.length_whole ahead inside,
      List.getElem?_take_of_lt index]
    exact List.getElem?_eq_getElem enough
  · rw [Loop.iterate_advance_last valid]
    exact List.getElem?_eq_getElem enough

/-- The samples of a draft are its frames and its unrolled loops. -/
theorem unrolled_of_build? {d : Draft} (built : build? audio loops aligned = .ok d) :
    Unrolled audio loops d.shape.ends d.samples := by
  have total := length_of_build? built
  obtain ⟨⟨-, -, fit⟩, rfl⟩ := build?_eq_ok.mp built
  refine ⟨total, ?_, fun none => ?_, fun front l back is => ?_,
    fun front l back is frame ahead channel inside => ?_⟩
  · exact List.take_left' audio.length_whole
  · rw [none]
    exact (List.drop_left' audio.length_whole).trans (List.append_nil _)
  · change (endPoints audio.frames loops)[_]? = _
    rw [is, endPoints, if_neg (by simp), loopEnds_append,
      List.getElem?_append_right (Nat.le_of_eq (length_loopEnds _ _)), length_loopEnds, Nat.sub_self]
    rfl
  · subst is
    exact tail_of_fit fit ahead inside

end Draft

/-! ## Building a section -/

section Build

variable {audio : Recording} {loops : List Loop}

/-- Everything that building a section can come to: its audio or its loops are unfit, there is no
room for its block, or the block is reserved and filled. -/
theorem Section.build_cases (small : audio.blockLength loops < 2 ^ 61) (aligned : Bool) (a : Arena) :
    (∃ why, Draft.build? audio loops aligned = .error why ∧
      Section.build a audio loops aligned = (.error (.error (.unfit why)), a)) ∨
    (a.capacity < a.used + 4 * audio.blockLength loops ∧
      Section.build a audio loops aligned
        = (.error (.outOfMemory ⟨4 * audio.blockLength loops, a.used, a.limit⟩), a)) ∨
    (∃ d, Draft.build? audio loops aligned = .ok d ∧
      a.used + 4 * audio.blockLength loops ≤ a.capacity ∧
      Section.build a audio loops aligned
        = (.ok ⟨d.shape, ⟨d.samples, 4 * audio.blockLength loops⟩⟩,
          a.spend (4 * audio.blockLength loops))) := by
  unfold Section.build
  cases built : Draft.build? audio loops aligned with
  | error why => exact Or.inl ⟨why, rfl, rfl⟩
  | ok d =>
      refine Or.inr ?_
      have length := Draft.length_of_build? built
      have bytes : (⟨d.samples, 0⟩ : Demand).bytes = 4 * audio.blockLength loops := by
        rw [← length] at small ⊢
        exact Arena.bytesFor_of_lt small
      have fits : (⟨d.samples, 0⟩ : Demand).Fits := Arena.le_maxBuffer_iff.mpr (length ▸ small)
      have cases := a.place_cases ⟨d.samples, 0⟩
      rw [Demand.buffer, bytes] at cases
      rcases cases with ⟨full, placed⟩ | ⟨room, -, placed⟩ | ⟨-, large, -⟩
      · exact Or.inl ⟨full, by simp only [placed]⟩
      · exact Or.inr ⟨d, rfl, room, by simp only [placed]⟩
      · exact absurd fits large

/-- **The block of a section holds its audio and its unrolled loops.**  With room for the block a
section is built exactly if every loop lies in the frames of the audio and is not empty.  Its block
is then the whole frames of the audio, as they are, and a tail for each loop that goes on just as
playback does; and just this block is reserved.  Where no section is built, the arena is as before. -/
theorem contents_of_build (channels : 0 < audio.channels.toNat) (frames : 0 < audio.frames)
    (small : audio.blockLength loops < 2 ^ 61) (aligned : Bool) (a : Arena) :
    let built := Section.build a audio loops aligned
    (a.used + 4 * audio.blockLength loops ≤ a.capacity →
      ((∃ pending, built.1 = .ok pending) ↔
        ∀ l ∈ loops, l.start < l.stop ∧ l.stop.toNat ≤ audio.frames)) ∧
    (∀ pending, built.1 = .ok pending →
      pending.shape.channels = audio.channels ∧ pending.shape.frames = audio.frames ∧
      pending.shape.loops = loops ∧
      Unrolled audio loops pending.shape.ends pending.buffer.samples ∧
      built.2 = a.spend (4 * audio.blockLength loops)) ∧
    (∀ why, built.1 = .error why → built.2 = a) := by
  intro built
  rcases Section.build_cases small aligned a with
    ⟨why, unfit, is⟩ | ⟨full, is⟩ | ⟨d, made, room, is⟩ <;> rw [show built = _ from is]
  · refine ⟨fun _ => ⟨nofun, fun fit => ?_⟩, nofun, fun _ _ => rfl⟩
    cases unfit.symm.trans
      (Draft.build?_of_fit (Nat.ne_of_gt channels) (Nat.ne_of_gt frames) fit aligned)
  · exact ⟨fun room => absurd room (Nat.not_le_of_lt full), nofun, fun _ _ => rfl⟩
  · refine ⟨fun _ => ⟨fun _ => (Draft.build?_eq_ok.mp made).1.2.2, fun _ => ⟨_, rfl⟩⟩, ?_, nofun⟩
    rintro pending ⟨⟩
    obtain ⟨channelsIs, loopsIs⟩ := Draft.shape_of_build? made
    exact ⟨channelsIs, Draft.frames_of_build? made, loopsIs, Draft.unrolled_of_build? made, rfl⟩

end Build

/-- Three frames of two channels, and a sample that fills no fourth one. -/
def strayed : Recording := ⟨[⟨1⟩, ⟨2⟩, ⟨3⟩, ⟨4⟩, ⟨5⟩, ⟨6⟩, ⟨7⟩], 2, 48000⟩

/-- With a loop over the last two frames they are built into a section.  Its tail begins with the
second frame and has the third one in turn. -/
theorem contents_of_strayed :
    0 < strayed.channels.toNat ∧ 0 < strayed.frames ∧ strayed.blockLength [⟨1, 3⟩] < 2 ^ 61 ∧
      ∃ pending, (Section.build { limit := 16536 } strayed [⟨1, 3⟩] false).1 = .ok pending ∧
        pending.buffer.samples.take 6 = [⟨1⟩, ⟨2⟩, ⟨3⟩, ⟨4⟩, ⟨5⟩, ⟨6⟩] ∧
        pending.buffer.samples[(3 + 2062) * 2 + 1]? = some ⟨4⟩ ∧
        pending.buffer.samples[(3 + 2063) * 2 + 1]? = some ⟨6⟩ := by
  have channels : 0 < strayed.channels.toNat := by decide
  have frames : 0 < strayed.frames := by decide
  have small : strayed.blockLength [⟨1, 3⟩] < 2 ^ 61 := by decide
  obtain ⟨builds, contents, -⟩ := contents_of_build channels frames small false { limit := 16536 }
  obtain ⟨pending, built⟩ := (builds (by decide)).mpr (by decide)
  obtain ⟨-, -, -, unrolled, -⟩ := contents pending built
  obtain ⟨s, here, even, -⟩ := unrolled.tail [] ⟨1, 3⟩ [] rfl 2062 (by decide) 1 (by decide)
  obtain ⟨t, there, odd, -⟩ := unrolled.tail [] ⟨1, 3⟩ [] rfl 2063 (by decide) 1 (by decide)
  exact ⟨channels, frames, small, pending, built, unrolled.main, here.trans even.symm,
    there.trans odd.symm⟩

end Windchest
