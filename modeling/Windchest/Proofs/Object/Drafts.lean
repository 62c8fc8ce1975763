/-
# Windchest.Proofs.Object.Drafts -- pipes and tremulants, loaded from drafts

Whatever an object is loaded from, it is drafts that fit it (`Object.Drafted`), and the
object is these drafts with the handles of their blocks.  So the objects of an organ
obey the laws of loading, it makes no difference to them where their blocks lie, and
their records make the same objects again (`Drafted.exists_record`).
-/
import Windchest.Object.Basic
import Windchest.Proofs.Object.Laws
import Windchest.Proofs.Object.Pipe
import Windchest.Proofs.Object.Tremulant

namespace Windchest

set_option autoImplicit false

namespace Section

/-- The draft that a section was made of, unless its samples were released. -/
def draft? (a : Arena) (s : Section) : Option Draft := (s.samples? a).map fun samples => ⟨s.shape, samples⟩

variable {a b : Arena} {ds : List Draft} {ids ids' : List BlockId} {more more' : List (List Sample)}

/-- The drafts that sections were made of are found again by their handles. -/
theorem draft?_zipWith (resolved : a.Resolves ids (ds.map (·.samples) ++ more)) :
    (List.zipWith Draft.commit ds ids).map (draft? a) = ds.map some := by
  induction ds generalizing ids with
  | nil => rfl
  | cons d rest ih =>
      cases ids with
      | nil => cases resolved
      | cons id ids =>
          obtain ⟨here, later⟩ := List.cons.inj resolved
          rw [List.zipWith_cons_cons, List.map_cons, List.map_cons, ih later, draft?, samples?,
            Draft.commit, here]
          rfl

/-- Sections that were made of the same drafts are the same. -/
theorem same_of_draft? {sections sections' : List Section}
    (here : sections.map (draft? a) = ds.map some) (there : sections'.map (draft? b) = ds.map some) :
    List.Forall₂ (Same a b) sections sections' := by
  induction ds generalizing sections sections' with
  | nil =>
      rw [List.map_eq_nil_iff.mp here, List.map_eq_nil_iff.mp there]
      exact .nil
  | cons d rest ih =>
      obtain ⟨s, others, rfl, first, tail⟩ := List.map_eq_cons_iff.mp here
      obtain ⟨s', others', rfl, first', tail'⟩ := List.map_eq_cons_iff.mp there
      obtain ⟨samples, is, rfl⟩ := Option.map_eq_some_iff.mp first
      obtain ⟨samples', is', same⟩ := Option.map_eq_some_iff.mp first'
      obtain ⟨shape, rfl⟩ := Draft.mk.inj same
      exact .cons ⟨shape, samples', is, is'⟩ (ih tail tail')

end Section

namespace Object

/-- The drafts from which an object can be loaded, those of its attacks and those of its releases,
and what it becomes with the handles of their blocks. -/
inductive Drafted : Object → List Draft → List Draft → (List BlockId → Object) → Prop where
  | pipe {p : Pipe} {attacks releases : List Draft} (fit : p.Matches attacks releases) :
      Drafted (.pipe p) attacks releases fun ids => .pipe (p.starting.install attacks releases ids)
  | tremulant {t : Tremulant} {attack release : Draft} (mono : Tremulant.Mono attack release) :
      Drafted (.tremulant t) [attack] [release]
        fun ids => .tremulant (t.starting.install attack release ids)

/-- The object while it is being loaded: not ready, and its last error forgotten. -/
def starting : Object → Object
  | pipe p => pipe p.starting
  | tremulant t => tremulant t.starting

theorem started_fromFiles (store : Store) (object : Object) :
    (Loadable.fromFiles store object).started = object.starting := by
  cases object with
  | pipe p => exact congrArg pipe (p.started_fromFiles store)
  | tremulant t => exact congrArg tremulant t.started_fromFiles

theorem started_fromRecord (record : Bytes) (object : Object) :
    (Loadable.fromRecord record object).started = object.starting := by
  cases object with
  | pipe p => exact congrArg pipe (Plan.started_ofRecord _ _ record)
  | tremulant t => exact congrArg tremulant (Plan.started_ofRecord _ _ record)

theorem verdict_of_map {α β ε : Type} {f : α → β} {p : Plan α ε} {install : List BlockId → β}
    (verdict : (p.map f).verdict = .ok install) :
    ∃ inner, p.verdict = .ok inner ∧ install = fun ids => f (inner ids) := by
  unfold Plan.map at verdict
  dsimp only at verdict
  cases is : p.verdict with
  | error why =>
      rw [is] at verdict
      cases verdict
  | ok inner =>
      rw [is] at verdict
      cases verdict
      exact ⟨inner, rfl, rfl⟩

/-- An object that can be loaded from its files is loaded from drafts. -/
theorem drafted_of_fromFiles {store : Store} {object : Object} {install : List BlockId → Object}
    (verdict : (Loadable.fromFiles store object).verdict = .ok install) :
    ∃ attacks releases, object.Drafted attacks releases install ∧
      (Loadable.fromFiles store object).contents = (attacks ++ releases).map (·.samples) := by
  cases object with
  | pipe p =>
      obtain ⟨inner, is, rfl⟩ := verdict_of_map verdict
      obtain ⟨attacks, releases, fit, rfl, contents⟩ := Pipe.drafts_of_fromFiles is
      exact ⟨_, _, .pipe fit, contents⟩
  | tremulant t =>
      obtain ⟨inner, is, rfl⟩ := verdict_of_map verdict
      obtain ⟨attack, release, mono, rfl, contents⟩ := Tremulant.drafts_of_fromFiles is
      exact ⟨_, _, .tremulant mono, contents⟩

/-- An object that can be loaded from a record is loaded from drafts. -/
theorem drafted_of_fromRecord {record : Bytes} {object : Object} {install : List BlockId → Object}
    (verdict : (Loadable.fromRecord record object).verdict = .ok install) :
    ∃ attacks releases, object.Drafted attacks releases install ∧
      (Loadable.fromRecord record object).contents = (attacks ++ releases).map (·.samples) := by
  cases object with
  | pipe p =>
      obtain ⟨inner, is, rfl⟩ := verdict_of_map verdict
      obtain ⟨attacks, releases, fit, rfl, contents⟩ := Pipe.drafts_of_fromRecord is
      exact ⟨_, _, .pipe fit, contents⟩
  | tremulant t =>
      obtain ⟨inner, is, rfl⟩ := verdict_of_map verdict
      obtain ⟨attack, release, mono, rfl, contents⟩ := Tremulant.drafts_of_fromRecord is
      exact ⟨_, _, .tremulant mono, contents⟩

/-- The counts of an object fit into the fields of a record. -/
structure Countable (object : Object) : Prop where
  attacks : object.attacks.length < 2 ^ 32
  releases : object.releases.length < 2 ^ 32
  loops : ∀ s ∈ object.attacks ++ object.releases, s.shape.loops.length < 2 ^ 32

namespace Drafted

variable {object : Object} {attacks releases : List Draft} {install : List BlockId → Object}

theorem isReady (drafted : object.Drafted attacks releases install) (ids : List BlockId) :
    Loadable.isReady (install ids) = true := by
  cases drafted <;> rfl

theorem error? (drafted : object.Drafted attacks releases install) (ids : List BlockId) :
    Loadable.error? (install ids) = none := by
  cases drafted <;> rfl

theorem attacks_install (drafted : object.Drafted attacks releases install) (ids : List BlockId) :
    (install ids).attacks = List.zipWith Draft.commit attacks ids := by
  cases drafted with
  | pipe fit => rfl
  | tremulant mono =>
      match ids with
      | [] => rfl
      | first :: rest => rfl

theorem releases_install (drafted : object.Drafted attacks releases install) (ids : List BlockId) :
    (install ids).releases = List.zipWith Draft.commit releases (ids.drop attacks.length) := by
  cases drafted with
  | pipe fit => rfl
  | tremulant mono =>
      match ids with
      | [] => rfl
      | [first] => rfl
      | first :: second :: rest => rfl

/-- The sections of a loaded object are those of its drafts. -/
theorem draft?_install (drafted : object.Drafted attacks releases install) {a : Arena}
    {ids : List BlockId} (resolved : a.Resolves ids ((attacks ++ releases).map (·.samples))) :
    (install ids).attacks.map (Section.draft? a) = attacks.map some ∧
      (install ids).releases.map (Section.draft? a) = releases.map some := by
  rw [List.map_append] at resolved
  have behind := resolved.behind (List.length_map _)
  rw [← List.append_nil (releases.map _)] at behind
  rw [drafted.attacks_install, drafted.releases_install]
  exact ⟨Section.draft?_zipWith resolved, Section.draft?_zipWith behind⟩

/-- The sections are the same wherever the blocks lie. -/
theorem same (drafted : object.Drafted attacks releases install) {a b : Arena}
    {ids ids' : List BlockId} (here : a.Resolves ids ((attacks ++ releases).map (·.samples)))
    (there : b.Resolves ids' ((attacks ++ releases).map (·.samples))) :
    List.Forall₂ (Section.Same a b) (install ids).attacks (install ids').attacks ∧
      List.Forall₂ (Section.Same a b) (install ids).releases (install ids').releases := by
  obtain ⟨attacksHere, releasesHere⟩ := drafted.draft?_install here
  obtain ⟨attacksThere, releasesThere⟩ := drafted.draft?_install there
  constructor
  · exact Section.same_of_draft? attacksHere attacksThere
  · exact Section.same_of_draft? releasesHere releasesThere

/-- Resetting an object changes nothing about the drafts that fit it. -/
theorem reset (drafted : object.Drafted attacks releases install) :
    (Loadable.reset object).Drafted attacks releases install := by
  cases drafted with
  | pipe fit => exact .pipe ⟨fit.perAttack, fit.perRelease, fit.sound, fit.channels⟩
  | tremulant mono => exact .tremulant mono

/-- An object keeps its title, its files and its parameters when it is loaded. -/
theorem reset_install (drafted : object.Drafted attacks releases install) (ids : List BlockId) :
    Loadable.reset (install ids) = Loadable.reset object := by
  cases drafted <;> rfl

/-- **The record of a loaded object makes the plan to load it from the same drafts.** -/
theorem exists_record (drafted : object.Drafted attacks releases install) :
    ∃ record, (∀ (a : Arena) (ids : List BlockId),
        a.Resolves ids ((attacks ++ releases).map (·.samples)) →
          Loadable.save a (install ids) = .ok record) ∧
      (attacks.length < 2 ^ 32 → releases.length < 2 ^ 32 →
        (∀ d ∈ attacks ++ releases, d.Small) →
          (Loadable.fromRecord record object).verdict = .ok install ∧
            (Loadable.fromRecord record object).contents = (attacks ++ releases).map (·.samples)) := by
  cases drafted with
  | @pipe p attacks releases fit =>
      refine ⟨Pipe.record attacks releases, ?_, ?_⟩
      · intro a ids resolved
        exact Pipe.save_install resolved
      · intro fewAttacks fewReleases small
        obtain ⟨verdict, contents⟩ := Pipe.fromRecord_record fit fewAttacks fewReleases small
        have wider (record : Bytes) : Loadable.fromRecord record (Object.pipe p)
            = (Plan.ofRecord p.starting p.read record).map Object.pipe := rfl
        rw [wider, Plan.map, verdict]
        exact ⟨rfl, contents⟩
  | @tremulant t attack release mono =>
      refine ⟨[attack, release].flatMap fun d => Field.encodeAll d.fields, ?_, ?_⟩
      · intro a ids resolved
        exact Tremulant.save_install resolved
      · intro _ _ small
        obtain ⟨verdict, contents⟩ := Tremulant.fromRecord_record mono small
        have wider (record : Bytes) : Loadable.fromRecord record (Object.tremulant t)
            = (Plan.ofRecord t.starting t.read record).map Object.tremulant := rfl
        rw [wider, Plan.map, verdict]
        exact ⟨rfl, contents⟩

/-- It makes no difference to an object where the blocks of its drafts lie. -/
theorem installs (drafted : object.Drafted attacks releases install) :
    Installs (fun object : Object => object.attacks ++ object.releases) install
      ((attacks ++ releases).map (·.samples)) where
  error? := drafted.error?
  sections here there :=
    List.rel_append (drafted.same here there).1 (drafted.same here there).2
  save here there := by
    obtain ⟨record, saved, -⟩ := drafted.exists_record
    rw [saved _ _ here, saved _ _ there]

end Drafted

instance : Relocatable Object where
  isReady_reset object := by cases object <;> rfl
  error?_reset object := by cases object <;> rfl
  isReady_fail message object := by cases object <;> rfl
  error?_fail message object := by cases object <;> rfl
  isReady_fromFiles verdict ids := by
    obtain ⟨attacks, releases, drafted, -⟩ := drafted_of_fromFiles verdict
    exact drafted.isReady ids
  isReady_fromRecord verdict ids := by
    obtain ⟨attacks, releases, drafted, -⟩ := drafted_of_fromRecord verdict
    exact drafted.isReady ids
  sections object := object.attacks ++ object.releases
  sections_reset object := by cases object <;> rfl
  sections_fail message object := by cases object <;> rfl
  installs_fromFiles verdict := by
    obtain ⟨attacks, releases, drafted, contents⟩ := drafted_of_fromFiles verdict
    rw [contents]
    exact drafted.installs
  installs_fromRecord verdict := by
    obtain ⟨attacks, releases, drafted, contents⟩ := drafted_of_fromRecord verdict
    rw [contents]
    exact drafted.installs

end Object

end Windchest
