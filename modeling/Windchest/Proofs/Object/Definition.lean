/-
# Windchest.Proofs.Object.Definition -- a loaded pipe and its definition

A pipe is defined by the files of its attacks, with the loops in them, and by those of its
releases, which have none.  `Pipe.Defines` says which sections that makes: some attacks, with
the loops of their files and without tables, and releases with tables and without loops.

Whoever loads a pipe from its files gets these sections.  A record is asked for less.  It has
to hold as many sections as there are files, all of one number of channels; any such sections
are installed, and the pipe is as it is defined if and only if the record is.  The records that
loading from files and saving make are, so only a record from elsewhere can put other sections
into a pipe.
-/
import Windchest.Proofs.Load.RoundTrip

namespace Windchest

set_option autoImplicit false

theorem shape_zipWith_commit {ds : List Draft} {ids : List BlockId} (enough : ds.length ≤ ids.length) :
    (List.zipWith Draft.commit ds ids).map (·.shape) = ds.map (·.shape) := by
  induction ds generalizing ids with
  | nil => rfl
  | cons d rest ih =>
      cases ids with
      | nil => simp at enough
      | cons id ids =>
          rw [List.zipWith_cons_cons, List.map_cons, List.map_cons,
            ih (Nat.le_of_succ_le_succ enough)]
          rfl

namespace Pipe

/-- Sections of these shapes are what the definition of the pipe asks for. -/
structure Defines (p : Pipe) (attacks releases : List Shape) : Prop where
  someAttack : attacks ≠ []
  attackLoops : attacks.map (·.loops) = p.attackFiles.map (·.loops)
  attackTables : ∀ s ∈ attacks, s.alignment = none
  releaseLoops : ∀ s ∈ releases, s.loops = []
  releaseTables : ∀ s ∈ releases, s.alignment.isSome

instance (p : Pipe) (attacks releases : List Shape) : Decidable (p.Defines attacks releases) :=
  decidable_of_iff (attacks ≠ [] ∧ attacks.map (·.loops) = p.attackFiles.map (·.loops) ∧
      (∀ s ∈ attacks, s.alignment = none) ∧ (∀ s ∈ releases, s.loops = []) ∧
      ∀ s ∈ releases, s.alignment.isSome)
    ⟨fun ⟨there, loops, untabled, unlooped, tabled⟩ => ⟨there, loops, untabled, unlooped, tabled⟩,
      fun ⟨there, loops, untabled, unlooped, tabled⟩ => ⟨there, loops, untabled, unlooped, tabled⟩⟩

/-- The sections of the pipe are what its definition asks for. -/
def AsDefined (p : Pipe) : Prop := p.Defines (p.attacks.map (·.shape)) (p.releases.map (·.shape))

instance (p : Pipe) : Decidable p.AsDefined := inferInstanceAs (Decidable (p.Defines _ _))

/-- The counts in the definition of a pipe fit into the fields of a record. -/
structure Listable (p : Pipe) : Prop where
  attacks : p.attackFiles.length < 2 ^ 32
  releases : p.releaseFiles.length < 2 ^ 32
  loops : ∀ f ∈ p.attackFiles ++ p.releaseFiles, f.loops.length < 2 ^ 32

variable {p : Pipe} {attacks releases : List Draft}

/-- The files of a pipe make the sections that its definition asks for. -/
theorem defines_of_files {store : Store} (some_files : p.attackFiles ≠ [])
    (unlooped : ∀ f ∈ p.releaseFiles, f.loops = [])
    (first : draftFiles store false p.attackFiles = (attacks, none))
    (second : draftFiles store true p.releaseFiles = (releases, none)) :
    p.Defines (attacks.map (·.shape)) (releases.map (·.shape)) := by
  obtain ⟨attacksBuilt, attackLoops⟩ := built_of_draftFiles first
  obtain ⟨releasesBuilt, releaseLoops⟩ := built_of_draftFiles second
  constructor
  · intro none
    rw [List.map_eq_nil_iff.mp none] at attackLoops
    exact some_files (List.map_eq_nil_iff.mp attackLoops.symm)
  · rw [List.map_map]
    exact attackLoops
  · rw [List.forall_mem_map]
    intro d mem
    exact Option.isNone_iff_eq_none.mp (Option.isSome_eq_false_iff.mp (attacksBuilt d mem).2)
  · rw [List.forall_mem_map]
    intro d mem
    have listed : d.shape.loops ∈ p.releaseFiles.map (·.loops) :=
      releaseLoops ▸ List.mem_map_of_mem mem
    obtain ⟨f, is, same⟩ := List.mem_map.mp listed
    rw [← same, unlooped f is]
  · rw [List.forall_mem_map]
    intro d mem
    exact (releasesBuilt d mem).2

/-- A pipe with the sections of drafts is as defined if the drafts are. -/
theorem asDefined_install {ids : List BlockId} (enough : (attacks ++ releases).length ≤ ids.length) :
    (p.starting.install attacks releases ids).AsDefined
      ↔ p.Defines (attacks.map (·.shape)) (releases.map (·.shape)) := by
  rw [List.length_append] at enough
  unfold AsDefined
  simp only [install]
  rw [shape_zipWith_commit (by omega), shape_zipWith_commit (by rw [List.length_drop]; omega)]
  constructor
  · rintro ⟨there, loops, untabled, unlooped, tabled⟩
    exact ⟨there, loops, untabled, unlooped, tabled⟩
  · rintro ⟨there, loops, untabled, unlooped, tabled⟩
    exact ⟨there, loops, untabled, unlooped, tabled⟩

/-- The loops of listable files can be counted. -/
theorem loops_of_files {store : Store} (listable : p.Listable)
    (first : draftFiles store false p.attackFiles = (attacks, none))
    (second : draftFiles store true p.releaseFiles = (releases, none)) :
    ∀ d ∈ attacks ++ releases, d.shape.loops.length < 2 ^ 32 := by
  have lists : (attacks ++ releases).map (·.shape.loops)
      = (p.attackFiles ++ p.releaseFiles).map (·.loops) := by
    rw [List.map_append, List.map_append, (built_of_draftFiles first).2, (built_of_draftFiles second).2]
  intro d mem
  have listed : d.shape.loops ∈ (p.attackFiles ++ p.releaseFiles).map (·.loops) :=
    lists ▸ List.mem_map_of_mem mem
  obtain ⟨f, is, same⟩ := List.mem_map.mp listed
  rw [← same]
  exact listable.loops f is

/-- The drafts of listable files are small enough for a record. -/
theorem small_of_files {store : Store} (listable : p.Listable)
    (first : draftFiles store false p.attackFiles = (attacks, none))
    (second : draftFiles store true p.releaseFiles = (releases, none))
    (fits : ∀ samples ∈ (attacks ++ releases).map (·.samples), 4 * samples.length ≤ Arena.maxBuffer) :
    ∀ d ∈ attacks ++ releases, d.Small := by
  intro d mem
  exact ⟨loops_of_files listable first second d mem,
    Nat.le_trans (fits _ (List.mem_map_of_mem mem)) (by decide)⟩

/-- The record of drafts that match a pipe is accepted wherever there is room. -/
theorem accepted_of_matches (fit : p.Matches attacks releases) (fewAttacks : attacks.length < 2 ^ 32)
    (fewReleases : releases.length < 2 ^ 32) (small : ∀ d ∈ attacks ++ releases, d.Small)
    (fits : ∀ samples ∈ (attacks ++ releases).map (·.samples), 4 * samples.length ≤ Arena.maxBuffer)
    {b : Arena} {r : Pipe} {result : Except (Setback CacheError) Unit}
    (ends : (Plan.ofRecord p.starting p.read (record attacks releases)).Ends b r result)
    (enough : ∀ why, result ≠ .error (.outOfMemory why)) :
    result = .ok () ∧ ∃ ids, r = p.starting.install attacks releases ids ∧
      b.Resolves ids ((attacks ++ releases).map (·.samples)) := by
  obtain ⟨verdict, contents⟩ := fromRecord_record fit fewAttacks fewReleases small
  rw [← contents] at fits
  have promise := Plan.promised_of_ok (Plan.fits_iff.mpr fits) verdict
  cases ends with
  | loaded install ids promised resolved =>
      obtain rfl := Except.ok.inj (promise.symm.trans promised)
      rw [contents] at resolved
      exact ⟨rfl, ids, rfl, resolved⟩
  | short why => exact absurd rfl (enough why)
  | failed why promised =>
      rw [promise] at promised
      cases promised

/-- **What a loaded pipe has to do with its definition.**  Loaded from its files, it is as defined.
Loaded from a record, it has the sections that the record spells, as many as it is defined with and
with channels that agree; it is as defined if and only if these sections are.  Any sections that match
the pipe in this way are accepted, and the ones saved after loading from the files are as defined. -/
theorem loaded_as_recorded (p : Pipe) :
    (∀ {store : Store} {a : Arena} {q : Pipe}, (p.fromFiles store).Ends a q (.ok ()) →
      (∀ f ∈ p.releaseFiles, f.loops = []) →
        q.cleared {} = p.cleared {} ∧ q.readiness.ready = true ∧ q.AsDefined) ∧
    (∀ {record : Bytes} {a : Arena} {q : Pipe},
      (Plan.ofRecord p.starting p.read record).Ends a q (.ok ()) →
        q.cleared {} = p.cleared {} ∧ q.readiness.ready = true ∧
        ∃ attacks releases : List Draft, Spelled attacks releases record ∧ p.Matches attacks releases ∧
          q.attacks.map (Section.draft? a) = attacks.map some ∧
          q.releases.map (Section.draft? a) = releases.map some ∧
          (q.AsDefined ↔ p.Defines (attacks.map (·.shape)) (releases.map (·.shape)))) ∧
    (∀ {attacks releases : List Draft}, p.Matches attacks releases → attacks.length < 2 ^ 32 →
      releases.length < 2 ^ 32 → (∀ d ∈ attacks ++ releases, d.Small) →
      (∀ d ∈ attacks ++ releases, 4 * d.samples.length ≤ Arena.maxBuffer) →
        ∀ {b : Arena} {r : Pipe} {result : Except (Setback CacheError) Unit},
          (Plan.ofRecord p.starting p.read (record attacks releases)).Ends b r result →
          (∀ why, result ≠ .error (.outOfMemory why)) → result = .ok () ∧
            (r.AsDefined ↔ p.Defines (attacks.map (·.shape)) (releases.map (·.shape)))) ∧
    (∀ {store : Store} {a : Arena} {q : Pipe} {record : Bytes},
      (p.fromFiles store).Ends a q (.ok ()) → (∀ f ∈ p.releaseFiles, f.loops = []) → p.Listable →
      q.save a = .ok record →
        ∀ {b : Arena} {r : Pipe} {result : Except (Setback CacheError) Unit},
          (Plan.ofRecord p.starting p.read record).Ends b r result →
          (∀ why, result ≠ .error (.outOfMemory why)) → result = .ok () ∧ r.AsDefined) := by
  have enough {a : Arena} {ids : List BlockId} {drafts : List Draft}
      (resolved : a.Resolves ids (drafts.map (·.samples))) : drafts.length ≤ ids.length := by
    rw [resolved.length, List.length_map]
  refine ⟨?_, ?_, ?_, ?_⟩
  · intro store a q ends unlooped
    obtain ⟨install, ids, promised, rfl, resolved⟩ := ends.installs
    obtain ⟨some_files, attacks, releases, first, second, -, rfl, contents⟩ :=
      built_of_fromFiles (Plan.verdict_of_promised promised).2
    rw [contents] at resolved
    exact ⟨rfl, rfl, (asDefined_install (enough resolved)).mpr
      (defines_of_files some_files unlooped first second)⟩
  · intro record a q ends
    obtain ⟨install, ids, promised, rfl, resolved⟩ := ends.installs
    obtain ⟨attacks, releases, spelled, fit, rfl, contents⟩ :=
      spelled_of_fromRecord (Plan.verdict_of_promised promised).2
    rw [contents] at resolved
    obtain ⟨attacksAre, releasesAre⟩ := (Object.Drafted.pipe fit).draft?_install resolved
    exact ⟨rfl, rfl, attacks, releases, spelled, fit, attacksAre, releasesAre,
      asDefined_install (enough resolved)⟩
  · intro attacks releases fit fewAttacks fewReleases small fits b r result ends room
    obtain ⟨accepted, ids, rfl, resolved⟩ := accepted_of_matches fit fewAttacks fewReleases small
      (List.forall_mem_map.mpr fits) ends room
    exact ⟨accepted, asDefined_install (enough resolved)⟩
  · intro store a q saved loaded unlooped listable is b r result ends room
    obtain ⟨install, ids, promised, rfl, resolved⟩ := loaded.installs
    obtain ⟨fits, verdict⟩ := Plan.verdict_of_promised promised
    obtain ⟨some_files, attacks, releases, first, second, fit, rfl, contents⟩ :=
      built_of_fromFiles verdict
    rw [Plan.fits_iff, contents] at fits
    rw [contents] at resolved
    obtain rfl := Except.ok.inj ((save_install resolved).symm.trans is)
    obtain ⟨accepted, ids', rfl, resolved'⟩ := accepted_of_matches fit
      (fit.perAttack ▸ listable.attacks) (fit.perRelease ▸ listable.releases)
      (small_of_files listable first second fits) fits ends room
    exact ⟨accepted, (asDefined_install (enough resolved')).mpr
      (defines_of_files some_files unlooped first second)⟩

/-- A pipe with the one sample file of the small store. -/
def plain : Pipe := { title := "D", attackFiles := [⟨"d.wav", []⟩], releaseFiles := [] }

/-- The plain pipe, loaded from its file. -/
def plainLoaded : Carried Pipe LoadError := (plain.fromFiles smallStore).carryOut { limit := 68 }

/-- A pipe with an attack that loops, and a release. -/
def stray : Pipe :=
  { title := "C", attackFiles := [⟨"c.wav", [⟨0, 1⟩]⟩], releaseFiles := [⟨"r.wav", []⟩] }

/-- The stray pipe, loaded from a record where its attack has a table and no loop, and its release has
no table. -/
def strayLoaded : Carried Pipe CacheError :=
  (Plan.ofRecord stray.starting stray.read (record [hum true] [hum false])).carryOut { limit := 136 }

/-- A pipe without any files, loaded from a record without sections. -/
def bareLoaded : Carried Pipe CacheError :=
  let bare : Pipe := { title := "C", attackFiles := [], releaseFiles := [] }
  (Plan.ofRecord bare.starting bare.read (record [] [])).carryOut { limit := 0 }

/-- The plain pipe and its record are as they are defined; the stray pipe is as its record says. -/
theorem plain_and_stray_as_recorded :
    plainLoaded.object.AsDefined ∧
    (∃ record, plainLoaded.object.save plainLoaded.arena = .ok record ∧
      let restored := (Plan.ofRecord plain.starting plain.read record).carryOut { limit := 68 }
      restored.result = .ok () ∧ restored.object.AsDefined) ∧
    (∃ attacks releases, Spelled attacks releases (record [hum true] [hum false]) ∧
      strayLoaded.object.attacks.map (Section.draft? strayLoaded.arena) = attacks.map some ∧
      strayLoaded.object.releases.map (Section.draft? strayLoaded.arena) = releases.map some) ∧
    (strayLoaded.object.AsDefined ↔ stray.Defines [(hum true).shape] [(hum false).shape]) := by
  have loaded : (plain.fromFiles smallStore).Ends plainLoaded.arena plainLoaded.object (.ok ()) := by
    have accepted : plainLoaded.result = .ok () := by decide +kernel
    rw [← accepted]
    exact ((plain.fromFiles smallStore).carryOut_ends _).2
  have unlooped : ∀ f ∈ plain.releaseFiles, f.loops = [] := by decide
  obtain ⟨fromFiles, -, -, fromSaved⟩ := loaded_as_recorded plain
  obtain ⟨-, fromRecord, fromMatching, -⟩ := loaded_as_recorded stray
  refine ⟨(fromFiles loaded unlooped).2.2, ?_, ?_⟩
  · obtain ⟨saved, is, accepted⟩ : ∃ saved ∈ (plainLoaded.object.save plainLoaded.arena).toOption,
        ((Plan.ofRecord plain.starting plain.read saved).carryOut { limit := 68 }).result = .ok () := by
      decide +kernel
    have is := eq_ok_of_mem_toOption is
    refine ⟨saved, is, fromSaved loaded unlooped ⟨by decide, by decide, by decide⟩ is
      (Plan.carryOut_ends _ { limit := 68 }).2 ?_⟩
    rw [accepted]
    simp
  · have loaded : (Plan.ofRecord stray.starting stray.read (record [hum true] [hum false])).Ends
        strayLoaded.arena strayLoaded.object (.ok ()) := by
      have accepted : strayLoaded.result = .ok () := by decide +kernel
      rw [← accepted]
      exact (Plan.carryOut_ends _ _).2
    have sound : ∀ d ∈ [hum true] ++ [hum false], d.Sound := by
      simp [sound_hum]
    have small : ∀ d ∈ [hum true] ++ [hum false], d.Small := by
      simp only [List.cons_append, List.nil_append, List.forall_mem_cons]
      exact ⟨⟨by decide, by decide⟩, ⟨by decide, by decide⟩, by simp⟩
    obtain ⟨-, same⟩ := fromMatching ⟨rfl, rfl, sound, by decide⟩ (by decide) (by decide) small
      (by decide) loaded (by simp)
    obtain ⟨-, -, attacks, releases, spelled, -, attacksAre, releasesAre, -⟩ := fromRecord loaded
    exact ⟨⟨attacks, releases, spelled, attacksAre, releasesAre⟩, same⟩

/-- **Sections that no definition asks for.**  The stray pipe and the bare one are ready, but not as they
are defined; from its files, which are none, the bare pipe could not have been loaded. -/
theorem stray_accepted :
    (strayLoaded.result = .ok () ∧ strayLoaded.object.readiness.ready = true ∧
      ¬ strayLoaded.object.AsDefined) ∧
    bareLoaded.result = .ok () ∧ bareLoaded.object.readiness.ready = true ∧
      ¬ bareLoaded.object.AsDefined := by
  decide +kernel

end Pipe

end Windchest
