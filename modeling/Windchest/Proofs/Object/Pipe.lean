/-
# Windchest.Proofs.Object.Pipe -- what a loaded pipe is made of

A pipe is loaded from drafts that match it (`Pipe.Matches`): one for each of its files,
all of them sound, with one number of channels.  Its plan asks for their blocks and
installs them, whether they come from sample files or from a record
(`drafts_of_fromFiles`, `drafts_of_fromRecord`).  The record of a loaded pipe depends on
its drafts only, and makes the same plan again (`save_install`, `fromRecord_record`).
-/
import Windchest.Object.Pipe
import Windchest.Proofs.Codec.Intake

namespace Windchest

set_option autoImplicit false

/-- The draft of a sample file is sound, has the loops that are listed for the file, and has a table
if one is asked for. -/
theorem built_of_draft {store : Store} {aligned : Bool} {f : SampleFile} {d : Draft}
    (drafted : f.draft store aligned = .ok d) :
    d.Sound ∧ d.shape.loops = f.loops ∧ d.shape.alignment.isSome = aligned := by
  unfold SampleFile.draft at drafted
  split at drafted
  · cases drafted
  · split at drafted
    · cases drafted
    · rename_i built
      cases drafted
      exact ⟨Draft.sound_of_build? built, (Draft.shape_of_build? built).2,
        Draft.alignment_of_build? built⟩

/-- If each of the files has a draft, the drafts are theirs. -/
theorem drafted_of_draftFiles {store : Store} {aligned : Bool} {files : List SampleFile}
    {drafts : List Draft} (drafted : draftFiles store aligned files = (drafts, none)) :
    List.Forall₂ (fun f d => f.draft store aligned = .ok d) files drafts := by
  induction files generalizing drafts with
  | nil =>
      cases drafted
      exact .nil
  | cons f rest ih =>
      unfold draftFiles at drafted
      split at drafted
      · cases drafted
      · rename_i d is
        cases others : draftFiles store aligned rest with
        | mk more why =>
            rw [others] at drafted
            cases drafted
            exact .cons is (ih others)

/-- The drafts of sample files are sound and have the loops that are listed for the files. -/
theorem built_of_draftFiles {store : Store} {aligned : Bool} {files : List SampleFile}
    {drafts : List Draft} (drafted : draftFiles store aligned files = (drafts, none)) :
    (∀ d ∈ drafts, d.Sound ∧ d.shape.alignment.isSome = aligned) ∧
      drafts.map (·.shape.loops) = files.map (·.loops) := by
  have each := drafted_of_draftFiles drafted
  clear drafted
  induction each with
  | nil => simp
  | cons first _ ih =>
      obtain ⟨sound, loops, tabled⟩ := built_of_draft first
      obtain ⟨each, lists⟩ := ih
      constructor
      · rw [List.forall_mem_cons]
        exact ⟨⟨sound, tabled⟩, each⟩
      · rw [List.map_cons, List.map_cons, loops, lists]

namespace Pipe

/-- The drafts from which a pipe can be loaded. -/
structure Matches (p : Pipe) (attacks releases : List Draft) : Prop where
  perAttack : attacks.length = p.attackFiles.length
  perRelease : releases.length = p.releaseFiles.length
  sound : ∀ d ∈ attacks ++ releases, d.Sound
  channels : firstClash? p.title (attacks ++ releases) = none

/-- Loading a pipe starts from the same pipe, whatever its files are. -/
theorem started_fromFiles (store : Store) (p : Pipe) : (p.fromFiles store).started = p.starting := by
  unfold fromFiles
  split
  · rfl
  · dsimp only
    split <;> rfl

/-- The bytes of the record of a pipe with these drafts. -/
def record (attacks releases : List Draft) : Bytes :=
  Field.encode (.u32 (.ofNat attacks.length)) ++ attacks.flatMap (fun d => Field.encodeAll d.fields)
    ++ (Field.encode (.u32 (.ofNat releases.length))
      ++ releases.flatMap fun d => Field.encodeAll d.fields)

/-- A pipe that can be loaded from its files has an attack among them, and is loaded from their
drafts, which match it. -/
theorem built_of_fromFiles {store : Store} {p : Pipe} {install : List BlockId → Pipe}
    (verdict : (p.fromFiles store).verdict = .ok install) :
    p.attackFiles ≠ [] ∧ ∃ attacks releases, draftFiles store false p.attackFiles = (attacks, none) ∧
      draftFiles store true p.releaseFiles = (releases, none) ∧ p.Matches attacks releases ∧
      install = p.starting.install attacks releases ∧
      (p.fromFiles store).contents = (attacks ++ releases).map (·.samples) := by
  unfold fromFiles at verdict ⊢
  split at verdict
  · cases verdict
  · rename_i some_files
    rw [if_neg some_files]
    refine ⟨fun none => some_files (by rw [none]; rfl), ?_⟩
    cases first : draftFiles store false p.attackFiles with
    | mk attacks why =>
        rw [first] at verdict
        cases why with
        | some why => cases verdict
        | none =>
            cases second : draftFiles store true p.releaseFiles with
            | mk releases why =>
                rw [second] at verdict
                dsimp only at verdict ⊢
                split at verdict
                · cases verdict
                · cases verdict
                · rename_i clash
                  cases verdict
                  obtain ⟨attacksBuilt, attackLoops⟩ := built_of_draftFiles first
                  obtain ⟨releasesBuilt, releaseLoops⟩ := built_of_draftFiles second
                  have sound : ∀ d ∈ attacks ++ releases, d.Sound :=
                    List.forall_mem_append.mpr
                      ⟨fun d mem => (attacksBuilt d mem).1, fun d mem => (releasesBuilt d mem).1⟩
                  have perAttack := congrArg List.length attackLoops
                  have perRelease := congrArg List.length releaseLoops
                  rw [List.length_map, List.length_map] at perAttack perRelease
                  refine ⟨attacks, releases, rfl, rfl, ⟨perAttack, perRelease, sound, clash⟩, rfl, ?_⟩
                  rw [Plan.contents, List.map_map]
                  rfl

/-- A pipe that can be loaded from its files is loaded from drafts that match it. -/
theorem drafts_of_fromFiles {store : Store} {p : Pipe} {install : List BlockId → Pipe}
    (verdict : (p.fromFiles store).verdict = .ok install) :
    ∃ attacks releases, p.Matches attacks releases ∧ install = p.starting.install attacks releases ∧
      (p.fromFiles store).contents = (attacks ++ releases).map (·.samples) := by
  obtain ⟨-, attacks, releases, -, -, loaded⟩ := built_of_fromFiles verdict
  exact ⟨attacks, releases, loaded⟩

/-- The record spells these sections of a pipe. -/
def Spelled (attacks releases : List Draft) (record : Bytes) : Prop :=
  ∃ front back : List Bytes, List.Forall₂ Draft.Spelled attacks front ∧
    List.Forall₂ Draft.Spelled releases back ∧
    record = Field.encode (.u32 (.ofNat attacks.length)) ++ front.flatten
      ++ (Field.encode (.u32 (.ofNat releases.length)) ++ back.flatten)

/-- A pipe that can be loaded from a record is loaded from the drafts that the record spells, which
match the pipe. -/
theorem spelled_of_fromRecord {record : Bytes} {p : Pipe} {install : List BlockId → Pipe}
    (verdict : (Plan.ofRecord p.starting p.read record).verdict = .ok install) :
    ∃ attacks releases, Spelled attacks releases record ∧ p.Matches attacks releases ∧
      install = p.starting.install attacks releases ∧
      (Plan.ofRecord p.starting p.read record).contents = (attacks ++ releases).map (·.samples) := by
  unfold Plan.ofRecord at verdict ⊢
  split at verdict
  · rename_i install' i done
    cases verdict
    obtain ⟨n, i₁, first, done⟩ := bind_eq_ok.mp done
    obtain ⟨all, done⟩ := (checked_eq_ok (Intake.malformed_ne_ok _)).mp done
    obtain ⟨attacks, i₂, second, done⟩ := bind_eq_ok.mp done
    obtain ⟨m, i₃, third, done⟩ := bind_eq_ok.mp done
    obtain ⟨allMore, done⟩ := (checked_eq_ok (Intake.malformed_ne_ok _)).mp done
    obtain ⟨releases, i₄, fourth, done⟩ := bind_eq_ok.mp done
    obtain ⟨_, i₅, fifth, done⟩ := bind_eq_ok.mp done
    obtain ⟨length, sound, asked⟩ := Intake.drafts_eq_ok second
    obtain ⟨length', sound', asked'⟩ := Intake.drafts_eq_ok fourth
    cases clash : firstClash? p.title (attacks ++ releases) with
    | some clash' =>
        rw [clash] at done
        exact absurd done (Intake.malformed_ne_ok _ _ _ _)
    | none =>
        rw [clash] at done
        obtain ⟨rfl, rfl⟩ := pure_eq_ok.mp done
        rw [ne_eq, not_not] at all allMore
        have bothSound := List.forall_mem_append.mpr ⟨sound, sound'⟩
        obtain ⟨counted, -⟩ := Intake.lift_eq_ok first
        obtain ⟨countedMore, -⟩ := Intake.lift_eq_ok third
        obtain ⟨front, attacksSpelled, attacksRead⟩ := Intake.drafts_spelled second
        obtain ⟨back, releasesSpelled, releasesRead⟩ := Intake.drafts_spelled fourth
        have atEnd := Reader.finish_eq_ok (Intake.lift_eq_ok fifth).1
        refine ⟨attacks, releases, ⟨front, back, attacksSpelled, releasesSpelled, ?_⟩,
          ⟨length.trans all, length'.trans allMore, bothSound, clash⟩, rfl, ?_⟩
        · have whole := Reader.exact_count 1 counted
          rw [attacksRead, Reader.exact_count 1 countedMore, releasesRead, atEnd, List.append_nil]
            at whole
          rw [length, length', List.append_assoc]
          exact whole
        · change i₅.demands.map _ = _
          rw [(Intake.lift_eq_ok fifth).2, asked', (Intake.lift_eq_ok third).2, asked,
            (Intake.lift_eq_ok first).2, List.map_append]
          rfl
  · cases verdict

/-- A pipe that can be loaded from a record is loaded from drafts that match it. -/
theorem drafts_of_fromRecord {record : Bytes} {p : Pipe} {install : List BlockId → Pipe}
    (verdict : (Plan.ofRecord p.starting p.read record).verdict = .ok install) :
    ∃ attacks releases, p.Matches attacks releases ∧ install = p.starting.install attacks releases ∧
      (Plan.ofRecord p.starting p.read record).contents = (attacks ++ releases).map (·.samples) := by
  obtain ⟨attacks, releases, -, loaded⟩ := spelled_of_fromRecord verdict
  exact ⟨attacks, releases, loaded⟩

/-- The record of a pipe depends on its drafts only. -/
theorem save_install {a : Arena} {p : Pipe} {attacks releases : List Draft} {ids : List BlockId}
    (resolved : a.Resolves ids ((attacks ++ releases).map (·.samples))) :
    (p.starting.install attacks releases ids).save a = .ok (record attacks releases) := by
  have all := resolved.length
  rw [List.length_map, List.length_append] at all
  rw [List.map_append] at resolved
  have behind := resolved.behind (List.length_map _)
  rw [← List.append_nil (releases.map _)] at behind
  have length {ds : List Draft} {blocks : List BlockId} (enough : ds.length ≤ blocks.length) :
      (List.zipWith Draft.commit ds blocks).length = ds.length := by
    rw [List.length_zipWith, Nat.min_eq_left enough]
  simp only [save, install, if_true, encodeSections_zipWith resolved, encodeSections_zipWith behind,
    bind, Except.bind, pure, Except.pure, record]
  rw [length (by omega), length (by rw [List.length_drop]; omega)]

/-- The record of drafts that match a pipe makes the plan to load it from them. -/
theorem fromRecord_record {p : Pipe} {attacks releases : List Draft}
    (fit : p.Matches attacks releases) (fewAttacks : attacks.length < 2 ^ 32)
    (fewReleases : releases.length < 2 ^ 32) (small : ∀ d ∈ attacks ++ releases, d.Small) :
    let plan := Plan.ofRecord p.starting p.read (record attacks releases)
    plan.verdict = .ok (p.starting.install attacks releases) ∧
      plan.contents = (attacks ++ releases).map (·.samples) := by
  obtain ⟨attacksSound, releasesSound⟩ := List.forall_mem_append.mp fit.sound
  obtain ⟨attacksSmall, releasesSmall⟩ := List.forall_mem_append.mp small
  have front := Intake.takes_drafts attacksSound attacksSmall
  have back := Intake.takes_drafts releasesSound releasesSmall
  obtain ⟨first, firstIs, attacksRead⟩ := front (Field.encode (.u32 (.ofNat releases.length))
    ++ releases.flatMap fun d => Field.encodeAll d.fields) []
  obtain ⟨second, secondIs, releasesRead⟩ := back [] ([] ++ first)
  have done : p.read ⟨record attacks releases, []⟩
      = .ok (p.starting.install attacks releases) ⟨[], [] ++ first ++ second⟩ := by
    rw [List.append_nil] at releasesRead
    rw [read, record, List.append_assoc, bind_of_ok (Intake.count_of_room fewAttacks [] ?_)]
    · dsimp only
      rw [if_neg (not_not.mpr fit.perAttack), bind_of_ok attacksRead,
        bind_of_ok (Intake.count_of_room fewReleases _ ?_)]
      · rw [if_neg (not_not.mpr fit.perRelease), bind_of_ok releasesRead,
          bind_of_ok (Intake.lift_of_ok Reader.finish_nil _), fit.channels]
        rfl
      · exact Nat.le_trans (Nat.le_of_eq (Nat.mul_one _)) (length_le_flatMap_encode releases)
    · rw [List.length_append]
      exact Nat.le_trans (Nat.le_of_eq (Nat.mul_one _))
        (Nat.le_trans (length_le_flatMap_encode attacks) (Nat.le_add_right _ _))
  dsimp only
  rw [Plan.ofRecord, done]
  refine ⟨rfl, ?_⟩
  simp [Plan.contents, firstIs, secondIs]

end Pipe

end Windchest
