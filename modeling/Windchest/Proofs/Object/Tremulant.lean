/-
# Windchest.Proofs.Object.Tremulant -- what a loaded tremulant is made of

A tremulant is loaded from two sound drafts with one channel (`Tremulant.Mono`), whether
they are synthesized or come from a record.  Its record depends on the drafts only, and
makes the same plan again.
-/
import Windchest.Object.Tremulant
import Windchest.Proofs.Codec.Intake

namespace Windchest

set_option autoImplicit false

namespace Tremulant

/-- The drafts from which a tremulant can be loaded. -/
structure Mono (attack release : Draft) : Prop where
  attackSound : attack.Sound
  releaseSound : release.Sound
  attackChannels : attack.shape.channels = 1
  releaseChannels : release.shape.channels = 1

/-- Loading a tremulant starts from the same tremulant, whatever its waves are. -/
theorem started_fromFiles (t : Tremulant) : t.fromFiles.started = t.starting := by
  unfold fromFiles synthesis
  split
  · rfl
  · split
    · rfl
    · split
      · rfl
      · split <;> rfl

/-- A tremulant whose waves can be synthesized is loaded from the sections built of them. -/
theorem built_of_fromFiles {t : Tremulant} {install : List BlockId → Tremulant}
    (verdict : t.fromFiles.verdict = .ok install) :
    ∃ attack release, Draft.build? t.params.attack [t.params.attackLoop] false = .ok attack ∧
      Draft.build? t.params.release [] false = .ok release ∧
      install = t.starting.install attack release ∧
      t.fromFiles.contents = [attack, release].map (·.samples) := by
  unfold fromFiles synthesis at verdict ⊢
  cases faulty : t.params.fault? with
  | some why =>
      rw [faulty] at verdict
      cases verdict
  | none =>
      rw [faulty] at verdict
      dsimp only at verdict ⊢
      split at verdict
      · cases verdict
      · cases first : Draft.build? t.params.attack [t.params.attackLoop] false with
        | error why =>
            rw [first] at verdict
            cases verdict
        | ok attack =>
            rw [first] at verdict
            dsimp only at verdict ⊢
            cases second : Draft.build? t.params.release [] false with
            | error why =>
                rw [second] at verdict
                cases verdict
            | ok release =>
                rw [second] at verdict
                cases verdict
                exact ⟨attack, release, rfl, rfl, rfl, rfl⟩

/-- A tremulant whose waves can be synthesized is loaded from drafts with one channel. -/
theorem drafts_of_fromFiles {t : Tremulant} {install : List BlockId → Tremulant}
    (verdict : t.fromFiles.verdict = .ok install) :
    ∃ attack release, Mono attack release ∧ install = t.starting.install attack release ∧
      t.fromFiles.contents = [attack, release].map (·.samples) := by
  obtain ⟨attack, release, first, second, loaded⟩ := built_of_fromFiles verdict
  exact ⟨attack, release, ⟨Draft.sound_of_build? first, Draft.sound_of_build? second,
    (Draft.shape_of_build? first).1, (Draft.shape_of_build? second).1⟩, loaded⟩

/-- A tremulant that can be loaded from a record is loaded from drafts with one channel. -/
theorem drafts_of_fromRecord {record : Bytes} {t : Tremulant} {install : List BlockId → Tremulant}
    (verdict : (Plan.ofRecord t.starting t.read record).verdict = .ok install) :
    ∃ attack release, Mono attack release ∧ install = t.starting.install attack release ∧
      (Plan.ofRecord t.starting t.read record).contents = [attack, release].map (·.samples) := by
  unfold Plan.ofRecord at verdict ⊢
  split at verdict
  · rename_i install' i done
    cases verdict
    obtain ⟨attack, i₁, first, done⟩ := bind_eq_ok.mp done
    obtain ⟨release, i₂, second, done⟩ := bind_eq_ok.mp done
    obtain ⟨_, i₃, third, done⟩ := bind_eq_ok.mp done
    obtain ⟨mono, done⟩ := (checked_eq_ok (Intake.malformed_ne_ok _)).mp done
    obtain ⟨rfl, rfl⟩ := pure_eq_ok.mp done
    obtain ⟨sound, asked⟩ := Intake.draft_eq_ok first
    obtain ⟨sound', asked'⟩ := Intake.draft_eq_ok second
    rw [not_or, not_not, not_not] at mono
    refine ⟨attack, release, ⟨sound, sound', mono.1, mono.2⟩, rfl, ?_⟩
    change i₃.demands.map _ = _
    rw [(Intake.lift_eq_ok third).2, asked', asked]
    rfl
  · cases verdict

/-- The record of a tremulant depends on its drafts only. -/
theorem save_install {a : Arena} {t : Tremulant} {attack release : Draft} {ids : List BlockId}
    (resolved : a.Resolves ids ([attack, release].map (·.samples))) :
    (t.starting.install attack release ids).save a
      = .ok ([attack, release].flatMap fun d => Field.encodeAll d.fields) := by
  obtain ⟨first, second, rfl⟩ := List.length_eq_two.mp resolved.length
  rw [← List.append_nil ([attack, release].map _)] at resolved
  exact encodeSections_zipWith resolved

/-- The record of drafts with one channel makes the plan to load a tremulant from them. -/
theorem fromRecord_record {t : Tremulant} {attack release : Draft} (mono : Mono attack release)
    (small : ∀ d ∈ [attack, release], d.Small) :
    let plan := Plan.ofRecord t.starting t.read
      ([attack, release].flatMap fun d => Field.encodeAll d.fields)
    plan.verdict = .ok (t.starting.install attack release) ∧
      plan.contents = [attack, release].map (·.samples) := by
  obtain ⟨first, firstIs, attackRead⟩ := Intake.takes_draft mono.attackSound
    (small attack List.mem_cons_self) (Field.encodeAll release.fields ++ []) []
  obtain ⟨second, secondIs, releaseRead⟩ := Intake.takes_draft mono.releaseSound
    (small release (List.mem_cons_of_mem _ List.mem_cons_self)) [] ([] ++ first)
  have done : t.read ⟨[attack, release].flatMap fun d => Field.encodeAll d.fields, []⟩
      = .ok (t.starting.install attack release) ⟨[], [] ++ first ++ second⟩ := by
    have mono : ¬ (attack.shape.channels ≠ 1 ∨ release.shape.channels ≠ 1) := by
      rw [not_or, not_not, not_not]
      exact ⟨mono.attackChannels, mono.releaseChannels⟩
    rw [List.flatMap_cons, List.flatMap_cons, List.flatMap_nil, read, bind_of_ok attackRead,
      bind_of_ok releaseRead, bind_of_ok (Intake.lift_of_ok Reader.finish_nil _)]
    dsimp only
    rw [if_neg mono]
    rfl
  dsimp only
  rw [Plan.ofRecord, done]
  refine ⟨rfl, ?_⟩
  simp [Plan.contents, firstIs, secondIs]

end Tremulant

end Windchest
