/-
# Windchest.Proofs.Section.Geometry -- where the frames and the tails of a section lie

Whatever a section was made of, decoded audio or the bytes of a record, once it has its
block in the arena it has end points just where its loops say, and the tails behind
them fill the block from the last frame to the end (`geometry_of_committed`).  This is
what lets a renderer read past an end point and look at no bound.

`Draft.Committed` says how a section comes to its block: room for its draft is
reserved, at some later time the buffer is committed, and the block has stayed since.
What other threads do to the arena in between is left open.
-/
import Windchest.Proofs.Arena.Plans
import Windchest.Proofs.Section.Codec

namespace Windchest

set_option autoImplicit false

namespace Draft

/-- The draft was made of decoded audio, or of the front of a record. -/
inductive Made (d : Draft) : Prop where
  | built (audio : Recording) (loops : List Loop) (aligned : Bool)
      (built : build? audio loops aligned = .ok d)
  | read (bytes rest : Bytes) (read : Draft.read bytes = .ok d rest)

theorem Made.sound {d : Draft} (made : d.Made) : d.Sound := by
  cases made with
  | built _ _ _ built => exact sound_of_build? built
  | read _ _ read => exact (read_eq_ok read).1

/-- The section that a draft has become by committing the buffer that was reserved for it.  The
arena still has its block. -/
inductive Committed (d : Draft) (a : Arena) : Section → Prop where
  | commit {before reserved later : Arena} {b : Buffer}
      (granted : before.place d.samples = (.granted b, reserved))
      (kept : (later.commit b).2.Grows a) : Committed d a (d.commit (later.commit b).1)

/-- The block of the section holds the samples of the draft, and is no larger than a buffer. -/
theorem Committed.resident {d : Draft} {a : Arena} {s : Section} (committed : d.Committed a s) :
    s.shape = d.shape ∧ s.samples? a = some d.samples ∧ 4 * d.samples.length ≤ Arena.maxBuffer := by
  obtain ⟨granted, kept⟩ := committed
  rcases Arena.place_cases _ (⟨d.samples, 0⟩ : Demand) with
    ⟨-, placed⟩ | ⟨-, fits, placed⟩ | ⟨-, -, placed⟩
  · cases placed.symm.trans granted
  · cases placed.symm.trans granted
    exact ⟨rfl, Arena.block?_of_grows kept (Arena.block?_commit _ _), fits⟩
  · cases placed.symm.trans granted

/-- With room for its samples, a draft becomes a section. -/
theorem exists_committed {d : Draft} {a : Arena} (small : 4 * d.samples.length ≤ Arena.maxBuffer)
    (room : a.used + Arena.bytesFor d.samples.length ≤ a.capacity) :
    ∃ s b, d.Committed b s := by
  rcases Arena.place_cases a (⟨d.samples, 0⟩ : Demand) with
    ⟨full, -⟩ | ⟨-, -, placed⟩ | ⟨-, large, -⟩
  · exact absurd room (Nat.not_le_of_lt full)
  · exact ⟨_, _, .commit placed (.refl (a.commit _).2)⟩
  · exact absurd small large

end Draft

/-! ## Tails -/

/-- The tails of the end points lie one behind the other from `start` to `stop`. -/
def Tiles : Nat → List EndPoint → Nat → Prop
  | start, [], stop => start = stop
  | start, e :: rest, stop => e.tailOffset = start ∧ Tiles (start + e.tailFrames) rest stop

theorem tiles_loopEnds (offset : Nat) (loops : List Loop) :
    Tiles offset (loopEnds offset loops)
      (offset + ((loopEnds offset loops).map (·.tailFrames)).sum) := by
  induction loops generalizing offset with
  | nil => rfl
  | cons l rest ih =>
      refine ⟨rfl, ?_⟩
      rw [loopEnds, List.map_cons, List.sum_cons, ← Nat.add_assoc]
      exact ih _

theorem tiles_endPoints (frames : Nat) (loops : List Loop) :
    Tiles frames (endPoints frames loops)
      (frames + ((endPoints frames loops).map (·.tailFrames)).sum) := by
  cases loops with
  | nil => exact ⟨rfl, rfl⟩
  | cons l rest => exact tiles_loopEnds frames (l :: rest)

/-- The end point is that of the loop: playback goes from its end back to its start, within the
frames, and a short loop has a longer tail. -/
structure Loop.EndsAt (frames : Nat) (l : Loop) (e : EndPoint) : Prop where
  frame : e.frame = l.stop.toNat
  next : e.next = some l.start.toNat
  before : l.start.toNat < e.frame
  within : e.frame ≤ frames
  tail : e.tailFrames = if l.stop.toNat - l.start.toNat < 2048 then 2064 else 16

theorem endsAt_loopEnds {frames : Nat} {loops : List Loop} (fit : ∀ l ∈ loops, l.Fits frames)
    (offset : Nat) : List.Forall₂ (Loop.EndsAt frames) loops (loopEnds offset loops) := by
  induction loops generalizing offset with
  | nil => exact .nil
  | cons l rest ih =>
      rw [List.forall_mem_cons] at fit
      obtain ⟨⟨before, within⟩, others⟩ := fit
      exact .cons ⟨rfl, rfl, UInt32.lt_iff_toNat_lt.mp before, within, rfl⟩ (ih others _)

/-! ## Sections -/

/-- The numbers of a section and the size of its block in the arena fit together. -/
structure Section.Geometry (s : Section) (a : Arena) : Prop where
  channels : 0 < s.shape.channels.toNat
  frames : 0 < s.shape.frames
  /-- There is one end point for each loop, in their order. -/
  looped : s.shape.loops ≠ [] →
    List.Forall₂ (Loop.EndsAt s.shape.frames) s.shape.loops s.shape.ends
  /-- Without loops there is a single end point, from which playback goes on nowhere. -/
  unlooped : s.shape.loops = [] →
    ∃ tailOffset, s.shape.ends = [⟨s.shape.frames, none, tailOffset, 16⟩]
  /-- The block holds the frames and, one behind the other up to its end, the tails. -/
  block : ∃ samples total, s.samples? a = some samples ∧
    samples.length = total * s.shape.channels.toNat ∧
    total = s.shape.frames + (s.shape.ends.map (·.tailFrames)).sum ∧
    Tiles s.shape.frames s.shape.ends total
  alignment : ∀ table ∈ s.shape.alignment, ∀ position ∈ table.positions,
    position.toNat < s.shape.frames

/-- **Every section in the arena has its tails where its loops say, and they fill its block.** -/
theorem geometry_of_committed {d : Draft} {a : Arena} {s : Section} (made : d.Made)
    (committed : d.Committed a s) : s.Geometry a := by
  obtain ⟨shape, length⟩ := made.sound
  obtain ⟨same, resident, -⟩ := committed.resident
  rw [← same] at shape length
  have some_channels : 0 < s.shape.channels.toNat :=
    Nat.pos_of_ne_zero fun none => shape.channels (UInt16.toNat_inj.mp none)
  have total : s.shape.totalFrames = s.shape.frames + (s.shape.ends.map (·.tailFrames)).sum := by
    rw [Shape.totalFrames, shape.ends, blockFrames_endPoints]
  refine ⟨some_channels, Nat.pos_of_ne_zero shape.frames, ?_, ?_,
    ⟨d.samples, s.shape.totalFrames, resident, length, total, ?_⟩, ?_⟩
  · intro some_loops
    rw [shape.ends, endPoints, if_neg (by simpa using some_loops)]
    exact endsAt_loopEnds (firstMisfit?_eq_none.mp shape.loops) _
  · intro no_loops
    refine ⟨s.shape.frames, ?_⟩
    rw [shape.ends, no_loops]
    rfl
  · rw [total, shape.ends]
    exact tiles_endPoints _ _
  · intro table is
    exact (shape.alignment table is).2

/-- Two frames that swing from silence to full scale, and a loop over both. -/
def swing : Except Unfit Draft :=
  Draft.build? ⟨[.zero, ⟨0x3f800000⟩], 1, 48000⟩ [⟨0, 2⟩] false

/-- The swinging section has a long tail behind its two frames, and nothing else. -/
theorem geometry_of_swing : ∃ d s a, swing = .ok d ∧ d.Committed a s ∧
    s.shape.ends = [⟨2, some 0, 2, 2064⟩] ∧ s.Geometry a := by
  have numbers : swing.map (fun d => (d.shape.ends, d.samples.length))
      = .ok ([⟨2, some 0, 2, 2064⟩], 2066) := by
    decide +kernel
  cases built : swing with
  | error why =>
      rw [built] at numbers
      cases numbers
  | ok d =>
      rw [built] at numbers
      obtain ⟨ends, length⟩ := Prod.mk.inj (Except.ok.inj numbers)
      obtain ⟨s, a, committed⟩ := Draft.exists_committed (d := d) (a := { limit := 8264 })
        (by rw [length]; decide) (by rw [length]; decide)
      exact ⟨d, s, a, rfl, committed, by rw [committed.resident.1, ends],
        geometry_of_committed (.built _ _ _ built) committed⟩

end Windchest
