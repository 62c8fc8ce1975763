/-
# Windchest.Proofs.Object.Waves -- the frames of a synthesized wave and its loop

The attack of a tremulant ramps the modulation in over whole periods and goes on for one
period, which is its loop; the release fades it out over whole periods.  How many of them
there are is the least number that the rates ask for (`transitionFrames_isLeast`).

A loop is kept in 32 bits, and the ramp of a slow wave at a high rate need not fit.  If the
frames of the attack can be counted in 32 bits, the wave loops on its last period.  If not,
the ends of the loop are cut down: the wave is refused for it, or it is loaded and loops
somewhere else (`waves_of_accepted`, `slowWave_refused`).
-/
import Windchest.Proofs.Object.Tremulant
import Windchest.Proofs.Section.Contents

namespace Windchest

set_option autoImplicit false

namespace WaveParams

variable {w : WaveParams}

theorem fault?_eq_none : w.fault? = none ↔
    w.depth ≤ 100 ∧ w.startRate ≠ 0 ∧ w.stopRate ≠ 0 ∧ 2 ≤ w.periodFrames := by
  unfold fault?
  split_ifs with deep stands short
  · simp [UInt32.not_le.mpr deep]
  · rcases stands with stands | stands <;> simp [stands]
  · simp [Nat.not_le_of_lt short]
  · rw [not_or] at stands
    simp [UInt32.not_lt.mp deep, stands, Nat.le_of_not_lt short]

/-! ## Whole periods -/

theorem ceilDiv_le_iff {a b n : Nat} (pos : 0 < b) : ceilDiv a b ≤ n ↔ a ≤ b * n := by
  rw [ceilDiv, ← Nat.ceilDiv_eq_add_pred_div, ceilDiv_le_iff_le_mul pos]

theorem ceil_div {a b : Nat} (pos : 0 < b) : ⌈(a : ℚ) / b⌉₊ = ceilDiv a b := by
  refine eq_of_forall_ge_iff fun n => ?_
  rw [Nat.ceil_le, ceilDiv_le_iff pos, div_le_iff₀ (Nat.cast_pos.mpr pos), ← Nat.cast_mul,
    Nat.cast_le, Nat.mul_comm]

/-- A transition takes as few whole periods as its rate and the least number of them allow. -/
theorem transitionFrames_isLeast (period : 0 < w.periodFrames) {rate : UInt32} (moves : rate ≠ 0)
    (atLeast : Nat) :
    IsLeast {n : ℕ | w.periodFrames ∣ n ∧ atLeast * w.periodFrames ≤ n ∧
      ⌈(w.sampleRate.toNat : ℚ) / rate.toNat⌉₊ ≤ n} (w.transitionFrames rate atLeast) := by
  have pos : 0 < rate.toNat := Nat.pos_of_ne_zero fun none => moves (UInt32.toNat_inj.mp none)
  -- rounding up twice, to frames and to periods, is least at each step
  rw [ceil_div pos]
  refine ⟨⟨Nat.dvd_mul_left _ _, Nat.mul_le_mul_right _ (Nat.le_max_right _ _), ?_⟩, ?_⟩
  · rw [transitionFrames, Nat.mul_comm, ← ceilDiv_le_iff period]
    exact Nat.le_max_left _ _
  · rintro _ ⟨⟨k, rfl⟩, least, frames⟩
    rw [Nat.mul_comm] at least
    rw [transitionFrames, Nat.mul_comm]
    refine Nat.mul_le_mul_left _ (Nat.max_le.mpr ⟨(ceilDiv_le_iff period).mpr frames, ?_⟩)
    exact Nat.le_of_mul_le_mul_left least period

/-- The ramp takes the least whole periods that its rate allows, but not none. -/
theorem rampFrames_isLeast (accepted : w.fault? = none) :
    IsLeast {n : ℕ | 0 < n ∧ w.periodFrames ∣ n ∧
      ⌈(w.sampleRate.toNat : ℚ) / w.startRate.toNat⌉₊ ≤ n} w.rampFrames := by
  obtain ⟨-, starts, -, period⟩ := fault?_eq_none.mp accepted
  obtain ⟨⟨whole, least, frames⟩, below⟩ :=
    transitionFrames_isLeast (Nat.zero_lt_of_lt period) starts 1
  rw [Nat.one_mul] at least
  refine ⟨⟨Nat.lt_of_lt_of_le (Nat.zero_lt_of_lt period) least, whole, frames⟩, ?_⟩
  rintro n ⟨some_frames, whole, frames⟩
  exact below ⟨whole, (Nat.one_mul _).symm ▸ Nat.le_of_dvd some_frames whole, frames⟩

theorem fadeFrames_isLeast (accepted : w.fault? = none) :
    IsLeast {n : ℕ | w.periodFrames ∣ n ∧ 2 * w.periodFrames ≤ n ∧
      ⌈(w.sampleRate.toNat : ℚ) / w.stopRate.toNat⌉₊ ≤ n} w.fadeFrames := by
  obtain ⟨-, -, stops, period⟩ := fault?_eq_none.mp accepted
  exact transitionFrames_isLeast (Nat.zero_lt_of_lt period) stops releasePeriods

/-- A transition takes hardly more than the frames of a second and the least number of periods. -/
theorem transitionFrames_le (period : 0 < w.periodFrames) {rate : UInt32} (moves : rate ≠ 0)
    (atLeast : Nat) :
    w.transitionFrames rate atLeast ≤ w.sampleRate.toNat + (atLeast + 1) * w.periodFrames := by
  have pos : 0 < rate.toNat := Nat.pos_of_ne_zero fun none => moves (UInt32.toNat_inj.mp none)
  have second : ceilDiv w.sampleRate.toNat rate.toNat ≤ w.sampleRate.toNat :=
    (ceilDiv_le_iff pos).mpr (Nat.le_mul_of_pos_left _ pos)
  have periods := Nat.div_mul_le_self
    (ceilDiv w.sampleRate.toNat rate.toNat + w.periodFrames - 1) w.periodFrames
  rw [transitionFrames, ← Nat.mul_max_mul_right, Nat.add_mul, Nat.one_mul]
  refine Nat.max_le.mpr ⟨?_, by omega⟩
  rw [ceilDiv]
  omega

theorem periodFrames_lt (w : WaveParams) : w.periodFrames < 2 ^ 55 := by
  have rate := w.sampleRate.toNat_lt
  have period := w.period.toNat_lt
  have product : w.sampleRate.toNat * w.period.toNat ≤ 2 ^ 32 * 2 ^ 32 :=
    Nat.mul_le_mul (Nat.le_of_lt rate) (Nat.le_of_lt period)
  rw [periodFrames]
  omega

/-! ## Waves -/

theorem frames_wave (w : WaveParams) (frames : Nat) (gainAt : Nat → Float32) :
    (w.wave frames gainAt).frames = frames := by
  rw [Recording.frames, wave, List.length_map, List.length_range]
  exact Nat.div_one frames

theorem frames_attack (w : WaveParams) : w.attack.frames = w.rampFrames + w.periodFrames :=
  w.frames_wave _ _

theorem frames_release (w : WaveParams) : w.release.frames = w.fadeFrames := w.frames_wave _ _

theorem attackLoop_start (w : WaveParams) : w.attackLoop.start.toNat = w.rampFrames % 2 ^ 32 :=
  UInt32.toNat_ofNat'

theorem attackLoop_stop (w : WaveParams) :
    w.attackLoop.stop.toNat = (w.rampFrames + w.periodFrames) % 2 ^ 32 :=
  UInt32.toNat_ofNat'

/-- A loop that is cut down lies in the frames of the wave, if it is a loop. -/
theorem attackLoop_fits (forward : w.attackLoop.start < w.attackLoop.stop) :
    ∀ l ∈ [w.attackLoop], l.Fits w.attack.frames := by
  rw [List.forall_mem_singleton, frames_attack]
  exact ⟨forward, w.attackLoop_stop ▸ Nat.mod_le _ _⟩

theorem misfit_of_attackLoop (backward : ¬ w.attackLoop.start < w.attackLoop.stop) :
    firstMisfit? w.attack.frames [w.attackLoop] = some ⟨w.attackLoop, w.attack.frames⟩ := by
  have unfit : ¬ w.attackLoop.Fits w.attack.frames := fun fit => backward fit.1
  rw [firstMisfit?, List.find?_cons_of_pos (by simpa using unfit)]
  rfl

variable {d : Draft}

theorem length_of_attack (built : Draft.build? w.attack [w.attackLoop] false = .ok d) :
    d.samples.length = w.rampFrames + w.periodFrames + w.attackLoop.tailFrames := by
  rw [Draft.length_of_build? built, Recording.blockLength, frames_attack]
  exact Nat.mul_one _

theorem length_of_release (built : Draft.build? w.release [] false = .ok d) :
    d.samples.length = w.fadeFrames + 16 := by
  rw [Draft.length_of_build? built, Recording.blockLength, frames_release]
  exact Nat.mul_one _

/-- No wave is so long that a buffer could not hold it. -/
theorem attack_small (accepted : w.fault? = none) :
    w.rampFrames + w.periodFrames + w.attackLoop.tailFrames < 2 ^ 61 := by
  obtain ⟨-, starts, -, period⟩ := fault?_eq_none.mp accepted
  have ramp : w.rampFrames ≤ _ := transitionFrames_le (Nat.zero_lt_of_lt period) starts 1
  have whole := w.periodFrames_lt
  have rate := w.sampleRate.toNat_lt
  have tail : w.attackLoop.tailFrames ≤ shortLoopFrames + readAheadFrames := by
    unfold Loop.tailFrames
    split <;> omega
  unfold shortLoopFrames readAheadFrames at tail
  omega

theorem release_small (accepted : w.fault? = none) : w.fadeFrames + 16 < 2 ^ 61 := by
  obtain ⟨-, -, stops, period⟩ := fault?_eq_none.mp accepted
  have fade : w.fadeFrames ≤ w.sampleRate.toNat + (2 + 1) * w.periodFrames :=
    transitionFrames_le (Nat.zero_lt_of_lt period) stops releasePeriods
  have whole := w.periodFrames_lt
  have rate := w.sampleRate.toNat_lt
  omega

end WaveParams

namespace Tremulant

variable {t : Tremulant}

/-- A wave whose loop does not fit is refused as it would be if it were made first. -/
theorem fromFiles_eq_synthesis (accepted : t.params.fault? = none) : t.fromFiles = t.synthesis := by
  obtain ⟨-, -, -, period⟩ := WaveParams.fault?_eq_none.mp accepted
  rw [fromFiles, accepted]
  dsimp only
  rw [← t.params.frames_attack]
  cases misfit : firstMisfit? t.params.attack.frames [t.params.attackLoop] with
  | none => rfl
  | some why =>
      have frames : t.params.attack.frames ≠ 0 := by
        rw [t.params.frames_attack]
        omega
      rw [synthesis, Draft.build?_of_misfit (show (1 : UInt16).toNat ≠ 0 by decide) frames misfit]

/-- The tremulant is ready, and this is what its waves are like. -/
structure Waves (t : Tremulant) (a : Arena) (attackFrames releaseFrames : Nat) (l : Loop) :
    Prop where
  ready : t.readiness.ready = true
  attack : ∃ s samples, t.attack = some s ∧ s.shape.frames = attackFrames ∧ s.shape.loops = [l] ∧
    s.samples? a = some samples ∧ samples.length = attackFrames + l.tailFrames
  release : ∃ s samples, t.release = some s ∧ s.shape.frames = releaseFrames ∧ s.shape.loops = [] ∧
    s.samples? a = some samples ∧ samples.length = releaseFrames + 16

/-- A wave with a loop in front of its end is made into two drafts, which are what its plan asks for. -/
theorem drafts_of_forward (accepted : t.params.fault? = none)
    (forward : t.params.attackLoop.start < t.params.attackLoop.stop) :
    ∃ attack release, Draft.build? t.params.attack [t.params.attackLoop] false = .ok attack ∧
      Draft.build? t.params.release [] false = .ok release ∧
      t.fromFiles = ⟨t.starting, [⟨attack.samples, 0⟩, ⟨release.samples, 0⟩], 0,
        .ok (t.starting.install attack release)⟩ := by
  obtain ⟨-, -, -, period⟩ := WaveParams.fault?_eq_none.mp accepted
  have mono : (1 : UInt16).toNat ≠ 0 := by decide
  have frames : t.params.attack.frames ≠ 0 := by
    rw [t.params.frames_attack]
    omega
  have fade : t.params.release.frames ≠ 0 := by
    obtain ⟨-, least, -⟩ := (WaveParams.fadeFrames_isLeast accepted).1
    rw [t.params.frames_release]
    omega
  have first := Draft.build?_of_fit mono frames (WaveParams.attackLoop_fits forward) false
  have second := Draft.build?_of_fit mono fade (List.forall_mem_nil _) false
  refine ⟨_, _, first, second, ?_⟩
  rw [fromFiles_eq_synthesis accepted, synthesis, first]
  dsimp only
  rw [second]

/-- A wave with a loop in front of its end is loaded, with all its frames. -/
theorem waves_of_forward (accepted : t.params.fault? = none)
    (forward : t.params.attackLoop.start < t.params.attackLoop.stop) {a : Arena}
    (room : a.used + 4 * (t.params.rampFrames + t.params.periodFrames
      + t.params.attackLoop.tailFrames + (t.params.fadeFrames + 16)) ≤ a.capacity) :
    let c := t.fromFiles.carryOut a
    c.result = .ok () ∧ c.object.Waves c.arena (t.params.rampFrames + t.params.periodFrames)
      t.params.fadeFrames t.params.attackLoop := by
  obtain ⟨attack, release, first, second, plan⟩ := drafts_of_forward accepted forward
  have attackLength := WaveParams.length_of_attack first
  have releaseLength := WaveParams.length_of_release second
  have attackSmall := WaveParams.attack_small accepted
  have releaseSmall := WaveParams.release_small accepted
  have fits : ∀ d ∈ t.fromFiles.demands, d.Fits := by
    rw [plan]
    intro d mem
    rcases List.mem_pair.mp mem with rfl | rfl
    · exact Arena.le_maxBuffer_iff.mpr (attackLength ▸ attackSmall)
    · exact Arena.le_maxBuffer_iff.mpr (releaseLength ▸ releaseSmall)
  have verdict : t.fromFiles.verdict = .ok (t.starting.install attack release) := by rw [plan]
  have bytes : t.fromFiles.bytes ≤ 4 * (attack.samples.length + release.samples.length) := by
    rw [plan]
    change [min (4 * attack.samples.length) maxWord, min (4 * release.samples.length) maxWord].sum ≤ _
    rw [List.sum_pair]
    omega
  obtain ⟨loaded, ids, object, resolved⟩ :=
    Plan.loaded_of_room (Plan.promised_of_ok fits verdict) (a := a) (by omega)
  have contents : t.fromFiles.contents = [attack.samples, release.samples] := by rw [plan]; rfl
  rw [contents] at resolved
  obtain ⟨front, back, rfl⟩ := List.length_eq_two.mp resolved.length
  obtain ⟨attackIs, releaseIs⟩ : _ ∧ _ := by
    simpa [Arena.Resolves] using resolved
  refine ⟨loaded, ?_⟩
  rw [object]
  exact {
    ready := rfl
    attack := ⟨attack.commit front, attack.samples, rfl,
      (Draft.frames_of_build? first).trans t.params.frames_attack, (Draft.shape_of_build? first).2,
      attackIs, attackLength⟩
    release := ⟨release.commit back, release.samples, rfl,
      (Draft.frames_of_build? second).trans t.params.frames_release,
      (Draft.shape_of_build? second).2, releaseIs, releaseLength⟩ }

/-- A wave whose loop is not in front of its end is refused. -/
theorem refused_of_backward (accepted : t.params.fault? = none)
    (backward : ¬ t.params.attackLoop.start < t.params.attackLoop.stop) :
    t.fromFiles = .failing t.starting (.error (.unfit (.loop ⟨t.params.attackLoop,
      t.params.rampFrames + t.params.periodFrames⟩))) := by
  have misfit := WaveParams.misfit_of_attackLoop backward
  rw [t.params.frames_attack] at misfit
  rw [fromFiles, accepted]
  dsimp only
  rw [misfit]

/-- **The waves of a tremulant and their loop.**  A tremulant with possible parameters has an attack
that ramps in over the least whole periods that its rate allows, and goes on for one period, and a
release that fades out over the least whole periods, at least two.  The ends of the loop are cut down
to 32 bits.  With room in the arena the tremulant is loaded, unless this puts the end of the loop in
front of its start; then it is refused and the arena is as before.  So it is loaded and loops on the
last period of the attack if and only if the frames of the attack can be counted in 32 bits. -/
theorem waves_of_accepted (t : Tremulant) (accepted : t.params.fault? = none) :
    let period := t.params.sampleRate.toNat * t.params.period.toNat / 1000
    ∃ (ramp fade : ℕ) (l : Loop),
      IsLeast {n : ℕ | 0 < n ∧ period ∣ n ∧
        ⌈(t.params.sampleRate.toNat : ℚ) / t.params.startRate.toNat⌉₊ ≤ n} ramp ∧
      IsLeast {n : ℕ | period ∣ n ∧ 2 * period ≤ n ∧
        ⌈(t.params.sampleRate.toNat : ℚ) / t.params.stopRate.toNat⌉₊ ≤ n} fade ∧
      l.start.toNat = ramp % 2 ^ 32 ∧ l.stop.toNat = (ramp + period) % 2 ^ 32 ∧
      ∀ a : Arena, a.used + 4 * (ramp + period + l.tailFrames + (fade + 16)) ≤ a.capacity →
        let c := t.fromFiles.carryOut a
        (l.start < l.stop → c.result = .ok () ∧ c.object.Waves c.arena (ramp + period) fade l) ∧
        (¬ l.start < l.stop →
          c.result = .error (.error (.unfit (.loop ⟨l, ramp + period⟩))) ∧ c.arena = a) ∧
        (c.result = .ok () ∧ l.start.toNat = ramp ∧ l.stop.toNat = ramp + period ↔
          ramp + period < 2 ^ 32) := by
  refine ⟨t.params.rampFrames, t.params.fadeFrames, t.params.attackLoop,
    WaveParams.rampFrames_isLeast accepted, WaveParams.fadeFrames_isLeast accepted,
    t.params.attackLoop_start, t.params.attackLoop_stop, fun a room => ?_⟩
  have loads := fun forward => waves_of_forward accepted forward room
  refine ⟨loads, fun backward => ?_, fun ⟨_, _, stop⟩ => ?_, fun small => ?_⟩
  · rw [refused_of_backward accepted backward]
    exact ⟨rfl, rfl⟩
  · exact stop ▸ t.params.attackLoop.stop.toNat_lt
  · change t.params.rampFrames + t.params.periodFrames < _ at small
    obtain ⟨-, -, -, period⟩ := WaveParams.fault?_eq_none.mp accepted
    have start := t.params.attackLoop_start
    have stop := t.params.attackLoop_stop
    rw [Nat.mod_eq_of_lt (by omega)] at start
    rw [Nat.mod_eq_of_lt small] at stop
    have forward : t.params.attackLoop.start < t.params.attackLoop.stop := by
      rw [UInt32.lt_iff_toNat_lt]
      omega
    exact ⟨(loads forward).1, start, stop⟩

end Tremulant

/-- A wave with a period of 1280 frames, which ramps in over one period and fades out over two. -/
def gentle : Tremulant := ⟨"Gentle", ⟨160, 18, 8, 8, 8000⟩, none, none, {}⟩

/-- It is loaded into an arena of just its size, and loops on its last period. -/
theorem waves_of_gentle : gentle.params.fault? = none ∧
    let c := gentle.fromFiles.carryOut { limit := 28800 }
    c.result = .ok () ∧ c.object.Waves c.arena 2560 2560 ⟨1280, 2560⟩ := by
  have accepted : gentle.params.fault? = none := by decide
  obtain ⟨ramp, fade, ⟨start, stop⟩, rampIs, fadeIs, startIs, stopIs, outcome⟩ :=
    Tremulant.waves_of_accepted gentle accepted
  obtain rfl : ramp = 1280 := rampIs.unique (WaveParams.rampFrames_isLeast accepted)
  obtain rfl : fade = 2560 := fadeIs.unique (WaveParams.fadeFrames_isLeast accepted)
  obtain rfl : start = 1280 := UInt32.toNat_inj.mp startIs
  obtain rfl : stop = 2560 := UInt32.toNat_inj.mp stopIs
  exact ⟨accepted, (outcome { limit := 28800 } (by decide)).1 (by decide)⟩

/-- A wave with a period of 2^31 frames, which ramps in over one period. -/
def slowWave : Tremulant := ⟨"Slow", ⟨1000, 0, 1, 1, 2147483648⟩, none, none, {}⟩

/-- With one more period the frames of its attack are 2^32, and the end of the loop becomes 0.  The
wave is refused for that, although its parameters are possible and there is room for it. -/
theorem slowWave_refused :
    slowWave.params.fault? = none ∧ slowWave.params.periodFrames = 2147483648 ∧
      slowWave.params.rampFrames = 2147483648 ∧
      4 * (slowWave.params.rampFrames + slowWave.params.periodFrames + readAheadFrames
        + (slowWave.params.fadeFrames + readAheadFrames)) ≤ Arena.unbounded.capacity ∧
      (slowWave.fromFiles.carryOut .unbounded).result
        = .error (.error (.unfit (.loop ⟨⟨2147483648, 0⟩, 4294967296⟩))) := by
  decide +kernel

end Windchest
