/-
# Windchest.Proofs.Object.Reloads -- a pipe that is ready is whole, whatever came before

A pipe is loaded from files or from a record, fails, is reset and is loaded again, any
number of times and in any order, while other objects are loaded into the same arena
(`Pipe.Step`).  A load that fails leaves the sections of an earlier one in place, so that
a pipe may hold sections and not be ready; but it is not ready then.

`Pipe.Furnished` says what a pipe is once it is ready: it has a section for each of its
files, all of them with one number of channels, each in a block of its own that holds the
frames and the tails.  A load that succeeds furnishes the pipe (`furnished_install`),
nothing that happens to the arena afterwards takes anything away (`Furnished.of_grows`),
and everything else makes the pipe unready (`Step.keeps`).
-/
import Windchest.Audio.Known
import Windchest.Proofs.Object.Counts
import Windchest.Proofs.Object.Volume
import Windchest.Proofs.Section.RoundTrip

namespace Windchest

set_option autoImplicit false

/-- Without a clash, all drafts have the channels of the first. -/
theorem channels_of_firstClash? {title : String} {ds : List Draft}
    (alike : firstClash? title ds = none) :
    ∀ d ∈ ds, ∀ e ∈ ds, e.shape.channels = d.shape.channels := by
  cases ds with
  | nil => simp
  | cons first rest =>
      rw [firstClash?, Option.map_eq_none_iff, List.find?_eq_none] at alike
      have asFirst : ∀ d ∈ first :: rest, d.shape.channels = first.shape.channels := by
        rw [List.forall_mem_cons]
        exact ⟨rfl, fun d mem => by simpa using alike d mem⟩
      intro d inside e inside'
      rw [asFirst e inside', asFirst d inside]

/-- Drafts are committed under the handles that they are given. -/
theorem blocks_zipWith (ds : List Draft) (ids : List BlockId) :
    (List.zipWith Draft.commit ds ids).map (·.block) = ids.take ds.length := by
  induction ds generalizing ids with
  | nil => rfl
  | cons d rest ih =>
      cases ids with
      | nil => rfl
      | cons id ids => exact congrArg (id :: ·) (ih ids)

/-- Sections that are resident can be written. -/
theorem encodeSections_of_resident {a : Arena} {sections : List Section}
    (resident : ∀ s ∈ sections, ∃ samples, s.samples? a = some samples) :
    ∃ bytes, encodeSections a sections = .ok bytes := by
  induction sections with
  | nil => exact ⟨[], rfl⟩
  | cons s rest ih =>
      rw [List.forall_mem_cons] at resident
      obtain ⟨⟨samples, here⟩, others⟩ := resident
      obtain ⟨more, there⟩ := ih others
      refine ⟨Field.encodeAll (Draft.fields ⟨s.shape, samples⟩) ++ more, ?_⟩
      simp only [encodeSections, Section.encode, here, there, bind, Except.bind, pure, Except.pure]

namespace Pipe

/-- The sections of a pipe, the attacks in front of the releases. -/
def sections (p : Pipe) : List Section := p.attacks ++ p.releases

/-- The pipe has all that it is made of in the arena. -/
structure Furnished (p : Pipe) (a : Arena) : Prop where
  perAttack : p.attacks.length = p.attackFiles.length
  perRelease : p.releases.length = p.releaseFiles.length
  channels : ∀ s ∈ p.sections, ∀ t ∈ p.sections, t.shape.channels = s.shape.channels
  /-- No two sections share a block. -/
  blocks : (p.sections.map (·.block)).Nodup
  /-- The block of a section holds its frames and its tails. -/
  resident : ∀ s ∈ p.sections, ∃ samples, a.block? s.block = some samples ∧
    samples.length
      = (s.shape.frames + (s.shape.ends.map (·.tailFrames)).sum) * s.shape.channels.toNat

/-- What is in the arena stays there while it grows. -/
theorem Furnished.of_grows {p : Pipe} {a b : Arena} (furnished : p.Furnished a)
    (grows : a.Grows b) : p.Furnished b where
  perAttack := furnished.perAttack
  perRelease := furnished.perRelease
  channels := furnished.channels
  blocks := furnished.blocks
  resident := by
    intro s mem
    obtain ⟨samples, is, length⟩ := furnished.resident s mem
    exact ⟨samples, Arena.block?_of_grows grows is, length⟩

/-- A pipe that is ready and furnished can be saved. -/
theorem Furnished.exists_record {p : Pipe} {a : Arena} (furnished : p.Furnished a)
    (ready : Loadable.isReady p = true) : ∃ record, Loadable.save a p = .ok record := by
  have resident : ∀ s ∈ p.attacks ++ p.releases, ∃ samples, s.samples? a = some samples := by
    intro s mem
    obtain ⟨samples, is, -⟩ := furnished.resident s mem
    exact ⟨samples, is⟩
  rw [List.forall_mem_append] at resident
  obtain ⟨attacks, first⟩ := encodeSections_of_resident resident.1
  obtain ⟨releases, second⟩ := encodeSections_of_resident resident.2
  have saved : p.save a = .ok (Field.encode (.u32 (.ofNat p.attacks.length)) ++ attacks
      ++ (Field.encode (.u32 (.ofNat p.releases.length)) ++ releases)) := by
    change p.readiness.ready = true at ready
    simp only [save, ready, if_true, first, second, bind, Except.bind, pure, Except.pure]
  exact ⟨_, saved⟩

/-- Installing drafts that match the pipe furnishes it, if the handles are those of their blocks and
all different. -/
theorem furnished_install {p : Pipe} {attacks releases : List Draft} {a : Arena}
    {ids : List BlockId} (fit : p.Matches attacks releases)
    (resolved : a.Resolves ids ((attacks ++ releases).map (·.samples))) (distinct : ids.Nodup) :
    (p.starting.install attacks releases ids).Furnished a := by
  have enough := resolved.length
  rw [List.length_map, List.length_append] at enough
  have drafted := Object.Drafted.pipe fit
  obtain ⟨front, back⟩ := drafted.draft?_install resolved
  have made : (p.starting.install attacks releases ids).sections.map (Section.draft? a)
      = (attacks ++ releases).map some := by
    rw [sections, List.map_append, List.map_append]
    exact congrArg₂ _ front back
  have shaped := shape_of_mem_install p.starting attacks releases ids
  refine ⟨?_, ?_, ?_, ?_, ?_⟩
  · change (List.zipWith Draft.commit attacks ids).length = p.attackFiles.length
    rw [List.length_zipWith, ← fit.perAttack]
    omega
  · change (List.zipWith Draft.commit releases (ids.drop attacks.length)).length
      = p.releaseFiles.length
    rw [List.length_zipWith, List.length_drop, ← fit.perRelease]
    omega
  · intro s mem t mem'
    obtain ⟨d, inside, same⟩ := shaped s mem
    obtain ⟨e, inside', same'⟩ := shaped t mem'
    rw [same, same']
    exact channels_of_firstClash? fit.channels d inside e inside'
  · change ((List.zipWith Draft.commit attacks ids
      ++ List.zipWith Draft.commit releases (ids.drop attacks.length)).map (·.block)).Nodup
    rw [List.map_append, blocks_zipWith, blocks_zipWith, ← List.take_add]
    exact distinct.sublist (List.take_sublist _ _)
  · intro s mem
    obtain ⟨samples, is, length⟩ := (Section.resident_of_draft? made fit.sound).2 s mem
    obtain ⟨d, inside, same⟩ := shaped s mem
    have sound := (fit.sound d inside).shape
    refine ⟨samples, is, ?_⟩
    rw [length, same, Shape.blockLength, Shape.totalFrames, sound.ends, blockFrames_endPoints]

/-! ## One load -/

/-- A load of the pipe: it starts from the pipe, no longer ready, and ends, if all goes well, with
drafts that match it. -/
structure Honest {ε : Type} (p : Pipe) (plan : Plan Pipe ε) : Prop where
  started : plan.started = p.starting
  drafts : ∀ {install}, plan.verdict = .ok install → ∃ attacks releases,
    p.Matches attacks releases ∧ install = p.starting.install attacks releases ∧
      plan.contents = (attacks ++ releases).map (·.samples)

theorem honest_fromFiles (store : Store) (p : Pipe) : p.Honest (Loadable.fromFiles store p) where
  started := p.started_fromFiles store
  drafts := drafts_of_fromFiles

theorem honest_fromRecord (record : Bytes) (p : Pipe) :
    p.Honest (Loadable.fromRecord record p) where
  started := Plan.started_ofRecord _ _ record
  drafts := drafts_of_fromRecord

/-- A load makes the pipe ready if and only if it succeeds.  Then the pipe is furnished. -/
theorem Honest.carryOut {ε : Type} {p : Pipe} {plan : Plan Pipe ε} (honest : p.Honest plan)
    (a : Arena) :
    let c := plan.carryOut a
    (Loadable.isReady c.object = true ↔ c.result = .ok ()) ∧ c.object.cleared {} = p.cleared {} ∧
      (c.result = .ok () → c.object.Furnished c.arena ∧ Loadable.error? c.object = none) := by
  intro c
  obtain ⟨-, ends⟩ := plan.carryOut_ends a
  cases result : c.result with
  | error why =>
      rw [show (plan.carryOut a).result = _ from result] at ends
      -- the sections of an earlier load are still there, but nobody is told that they are good
      have started : c.object = p.starting := ends.started.trans honest.started
      rw [started]
      exact ⟨iff_of_false Bool.false_ne_true nofun, rfl, nofun⟩
  | ok _ =>
      obtain ⟨install, ids, verdict, object, resolved, distinct⟩ := Plan.carryOut_handles result
      obtain ⟨attacks, releases, fit, rfl, contents⟩ := honest.drafts verdict
      rw [contents] at resolved
      have object : c.object = p.starting.install attacks releases ids := object
      rw [object]
      exact ⟨iff_of_true rfl rfl, rfl, fun _ => ⟨furnished_install fit resolved distinct, rfl⟩⟩

/-! ## Any number of them -/

/-- What can happen to a pipe and to the arena of its organ, as long as the arena is not released. -/
inductive Step : Pipe × Arena → Pipe × Arena → Prop where
  /-- A load from the files of any store.  The library of the store may give up in the middle of it. -/
  | files (store : Store) (p : Pipe) (a : Arena) :
      Step (p, a) (((Loadable.fromFiles store p).carryOut a).object,
        ((Loadable.fromFiles store p).carryOut a).arena)
  | record (record : Bytes) (p : Pipe) (a : Arena) :
      Step (p, a) (((Loadable.fromRecord record p).carryOut a).object,
        ((Loadable.fromRecord record p).carryOut a).arena)
  | fail (message : String) (p : Pipe) (a : Arena) : Step (p, a) (Loadable.fail message p, a)
  | reset (p : Pipe) (a : Arena) : Step (p, a) (Loadable.reset p, a)
  /-- Other objects use the arena. -/
  | elsewhere (p : Pipe) {a b : Arena} (grows : a.Grows b) : Step (p, a) (p, b)

/-- The pipe has the files that were listed for it, and if it is ready it is furnished. -/
structure Kept (listed : Pipe) (s : Pipe × Arena) : Prop where
  files : s.1.cleared {} = listed.cleared {}
  whole : Loadable.isReady s.1 = true → s.1.Furnished s.2 ∧ Loadable.error? s.1 = none

theorem kept_of_unready {listed p : Pipe} {a : Arena} (files : p.cleared {} = listed.cleared {})
    (unready : Loadable.isReady p = false) : Kept listed (p, a) where
  files := files
  whole ready := absurd ready (Bool.eq_false_iff.mp unready)

theorem Honest.kept {ε : Type} {listed p : Pipe} {plan : Plan Pipe ε} (honest : p.Honest plan)
    (files : p.cleared {} = listed.cleared {}) (a : Arena) :
    Kept listed ((plan.carryOut a).object, (plan.carryOut a).arena) := by
  obtain ⟨ready, same, whole⟩ := honest.carryOut a
  exact ⟨same.trans files, fun isReady => whole (ready.mp isReady)⟩

theorem Step.keeps {listed : Pipe} {s t : Pipe × Arena} (step : Step s t) (kept : Kept listed s) :
    Kept listed t := by
  cases step with
  | files store p a => exact (honest_fromFiles store p).kept kept.files a
  | record record p a => exact (honest_fromRecord record p).kept kept.files a
  | fail message p a => exact kept_of_unready kept.files rfl
  | reset p a => exact kept_of_unready kept.files rfl
  | elsewhere p grows =>
      refine ⟨kept.files, fun ready => ?_⟩
      obtain ⟨furnished, untroubled⟩ := kept.whole ready
      exact ⟨furnished.of_grows grows, untroubled⟩

theorem kept_of_run {listed : Pipe} {s t : Pipe × Arena} (run : Relation.ReflTransGen Step s t)
    (kept : Kept listed s) : Kept listed t := by
  induction run with
  | refl => exact kept
  | tail _ step ih => exact step.keeps ih

theorem files_of_cleared {p q : Pipe} (files : q.cleared {} = p.cleared {}) :
    q.title = p.title ∧ q.attackFiles = p.attackFiles ∧ q.releaseFiles = p.releaseFiles := by
  simp only [cleared, mk.injEq, and_true] at files
  exact files

/-- **A pipe that is ready is whole, whatever it has been through.**  However often it was loaded,
well or badly, failed and was reset before: as long as it is ready it has a section for each of its
files, with one number of channels and a block of its own each, and it can be saved.  A load makes
it ready if and only if it succeeds.  Once it is failed or reset it has no sections and is not
saved. -/
theorem furnished_of_run {p q : Pipe} {a b : Arena} (unready : Loadable.isReady p = false)
    (run : Relation.ReflTransGen Step (p, a) (q, b)) :
    q.attackFiles = p.attackFiles ∧ q.releaseFiles = p.releaseFiles ∧
    (Loadable.isReady q = true → q.Furnished b ∧ Loadable.error? q = none ∧
      ∃ record, Loadable.save b q = .ok record) ∧
    (∀ store, let c := (Loadable.fromFiles store q).carryOut b
      Loadable.isReady c.object = true ↔ c.result = .ok ()) ∧
    (∀ record, let c := (Loadable.fromRecord record q).carryOut b
      Loadable.isReady c.object = true ↔ c.result = .ok ()) ∧
    ∀ r, (r = Loadable.reset q ∨ ∃ message, r = Loadable.fail message q) →
      Loadable.isReady r = false ∧ r.sections = [] ∧
        ∀ c, Loadable.save c r = .error (.notReady p.title) := by
  obtain ⟨files, whole⟩ := kept_of_run run (kept_of_unready rfl unready)
  obtain ⟨title, attackFiles, releaseFiles⟩ := files_of_cleared files
  refine ⟨attackFiles, releaseFiles, ?_, ?_, ?_, ?_⟩
  · intro ready
    obtain ⟨furnished, untroubled⟩ := whole ready
    exact ⟨furnished, untroubled, furnished.exists_record ready⟩
  · intro store
    exact ((honest_fromFiles store q).carryOut b).1
  · intro record
    exact ((honest_fromRecord record q).carryOut b).1
  · rintro r (rfl | ⟨message, rfl⟩)
    · exact ⟨rfl, rfl, fun c => title ▸ rfl⟩
    · exact ⟨rfl, rfl, fun c => title ▸ rfl⟩

/-- A pipe with an attack and a release, in an arena with room for four silent sections. -/
def paired : Pipe × Arena := (⟨"C", [⟨"c.wav", []⟩], [⟨"r.wav", []⟩], [], [], {}⟩, { limit := 272 })

/-- Restores the pipe from the record of two silent sections. -/
def hushed (s : Pipe × Arena) : Pipe × Arena :=
  let c := (Loadable.fromRecord (record [hush] [hush]) s.1).carryOut s.2
  (c.object, c.arena)

/-- Loads the pipe where its files are missing. -/
def missed (s : Pipe × Arena) : Pipe × Arena :=
  let c := (Loadable.fromFiles ⟨.memory [], .known⟩ s.1).carryOut s.2
  (c.object, c.arena)

/-- A pipe that was restored and then missed its files still has its sections, but is not ready.
Restored again, it has two new blocks and can be saved. -/
theorem furnished_again :
    (Loadable.isReady (missed (hushed paired)).1 = false ∧
      (missed (hushed paired)).1.sections.map (·.block) = [⟨0, 0⟩, ⟨1, 0⟩]) ∧
    let s := hushed (missed (hushed paired))
    Loadable.isReady s.1 = true ∧ s.1.Furnished s.2 ∧
      s.1.sections.map (·.block) = [⟨2, 0⟩, ⟨3, 0⟩] ∧ ∃ record, Loadable.save s.2 s.1 = .ok record := by
  have restoring (s : Pipe × Arena) : Step s (hushed s) := .record _ s.1 s.2
  have missing (s : Pipe × Arena) : Step s (missed s) := .files _ s.1 s.2
  have run : Relation.ReflTransGen Step paired (hushed (missed (hushed paired))) :=
    ((Relation.ReflTransGen.single (restoring _)).tail (missing _)).tail (restoring _)
  obtain ⟨left, ready, blocks⟩ :
      (Loadable.isReady (missed (hushed paired)).1 = false ∧
        (missed (hushed paired)).1.sections.map (·.block) = [⟨0, 0⟩, ⟨1, 0⟩]) ∧
      Loadable.isReady (hushed (missed (hushed paired))).1 = true ∧
      (hushed (missed (hushed paired))).1.sections.map (·.block) = [⟨2, 0⟩, ⟨3, 0⟩] := by
    decide +kernel
  generalize hushed (missed (hushed paired)) = s at run ready blocks ⊢
  obtain ⟨q, b⟩ := s
  obtain ⟨-, -, whole, -⟩ := furnished_of_run (p := paired.1) rfl run
  obtain ⟨furnished, -, saved⟩ := whole ready
  exact ⟨left, ready, furnished, blocks, saved⟩

end Pipe

end Windchest
