/-
# Windchest.Proofs.Object.Volume -- how much of the arena an object takes

The blocks of a loaded object are those of its sections, and every section has as many
samples as its shape says.  So the bytes that the plan of an object reserves can be read
off the sections of the object that it makes (`Object.exact_of_fromFiles`,
`Object.exact_of_fromRecord`).

What an object asks for depends on what it was given to load and not on what was loaded
before (`Object.contents_fromFiles`).
-/
import Windchest.Proofs.Object.Drafts

namespace Windchest

set_option autoImplicit false

/-- The section has its samples in the arena, as many as its shape says. -/
def Section.Resident (a : Arena) (s : Section) : Prop :=
  ∃ samples, s.samples? a = some samples ∧ samples.length = s.shape.blockLength

/-- Sections made of sound drafts have their samples. -/
theorem Section.resident_of_draft? {a : Arena} {sections : List Section} {ds : List Draft}
    (made : sections.map (draft? a) = ds.map some) (sound : ∀ d ∈ ds, d.Sound) :
    sections.map (·.shape.blockLength) = ds.map (·.samples.length) ∧
      ∀ s ∈ sections, s.Resident a := by
  induction sections generalizing ds with
  | nil =>
      obtain rfl : ds = [] := List.map_eq_nil_iff.mp made.symm
      exact ⟨rfl, fun s mem => absurd mem List.not_mem_nil⟩
  | cons s rest ih =>
      obtain ⟨d, others, rfl, first, tail⟩ := List.map_eq_cons_iff.mp made.symm
      rw [List.forall_mem_cons] at sound
      obtain ⟨lengths, resident⟩ := ih tail.symm sound.2
      obtain ⟨samples, is, rfl⟩ := Option.map_eq_some_iff.mp first.symm
      have length : samples.length = s.shape.blockLength := sound.1.length
      refine ⟨?_, List.forall_mem_cons.mpr ⟨⟨samples, is, length⟩, resident⟩⟩
      rw [List.map_cons, List.map_cons, lengths, length]

/-- Requests that buffers can hold take four bytes a sample. -/
theorem Plan.bytes_of_fits {α ε : Type} {p : Plan α ε} (fit : ∀ d ∈ p.demands, d.Fits) :
    p.bytes = 4 * (p.contents.map (·.length)).sum := by
  have each (samples : List Sample) (mem : samples ∈ p.contents) :
      Arena.bytesFor samples.length = 4 * samples.length :=
    Arena.bytesFor_of_lt (Arena.le_maxBuffer_iff.mp (fits_iff.mp fit samples mem))
  rw [bytes_eq, List.map_congr_left each, List.sum_map_mul_left]

namespace Object

/-- The sections of an object in the arena. -/
def sections (object : Object) : List Section := object.attacks ++ object.releases

/-- The samples of all sections of an object. -/
def volume (object : Object) : Nat := (object.sections.map (·.shape.blockLength)).sum

/-- The object has just those blocks in the arena that the plan has asked for. -/
structure Exact {ε : Type} (p : Plan Object ε) (a : Arena) (object : Object) : Prop where
  bytes : p.bytes = 4 * object.volume
  blocks : p.demands.length = object.sections.length
  resident : ∀ s ∈ object.sections, s.Resident a

theorem Drafted.sound {object : Object} {attacks releases : List Draft}
    {install : List BlockId → Object} (drafted : object.Drafted attacks releases install) :
    ∀ d ∈ attacks ++ releases, d.Sound := by
  cases drafted with
  | pipe fit => exact fit.sound
  | tremulant mono =>
      intro d mem
      rcases List.mem_pair.mp mem with rfl | rfl
      · exact mono.attackSound
      · exact mono.releaseSound

/-- An object that was loaded from drafts takes just what its plan has asked for. -/
theorem Drafted.exact {ε : Type} {p : Plan Object ε} {object : Object}
    {attacks releases : List Draft} {install : List BlockId → Object} {a : Arena}
    {ids : List BlockId} (drafted : object.Drafted attacks releases install)
    (contents : p.contents = (attacks ++ releases).map (·.samples))
    (fit : ∀ d ∈ p.demands, d.Fits) (resolved : a.Resolves ids p.contents) :
    Exact p a (install ids) := by
  rw [contents] at resolved
  obtain ⟨front, back⟩ := drafted.draft?_install resolved
  have made : (install ids).sections.map (Section.draft? a) = (attacks ++ releases).map some := by
    rw [sections, List.map_append, List.map_append, front, back]
  obtain ⟨lengths, resident⟩ := Section.resident_of_draft? made drafted.sound
  refine ⟨?_, ?_, resident⟩
  · rw [Plan.bytes_of_fits fit, volume, lengths, contents, List.map_map]
    rfl
  · have asked := congrArg List.length contents
    rw [Plan.contents, List.length_map, List.length_map] at asked
    rw [asked, ← List.length_map some, ← made, List.length_map]

/-- A plan that makes its objects of the drafts it has asked for makes them exact. -/
theorem exact_of_ends {ε : Type} {p : Plan Object ε} {before object : Object} {a : Arena}
    (drafts : ∀ {install}, p.verdict = .ok install → ∃ attacks releases,
      before.Drafted attacks releases install ∧ p.contents = (attacks ++ releases).map (·.samples))
    (ends : p.Ends a object (.ok ())) : Exact p a object := by
  obtain ⟨install, ids, promised, rfl, resolved⟩ := ends.installs
  obtain ⟨fit, verdict⟩ := Plan.verdict_of_promised promised
  obtain ⟨attacks, releases, drafted, contents⟩ := drafts verdict
  exact drafted.exact contents fit resolved

theorem exact_of_fromFiles {store : Store} {before object : Object} {a : Arena}
    (ends : (Loadable.fromFiles store before).Ends a object (.ok ())) :
    Exact (Loadable.fromFiles store before) a object :=
  exact_of_ends drafted_of_fromFiles ends

theorem exact_of_fromRecord {record : Bytes} {before object : Object} {a : Arena}
    (ends : (Loadable.fromRecord record before).Ends a object (.ok ())) :
    Exact (Loadable.fromRecord record before) a object :=
  exact_of_ends drafted_of_fromRecord ends

/-! ## What an object was given to load -/

theorem reset_reset (object : Object) :
    Loadable.reset (Loadable.reset object) = Loadable.reset object := by
  cases object <;> rfl

theorem map_reset_reset (objects : List Object) :
    (objects.map Loadable.reset).map Loadable.reset = objects.map Loadable.reset := by
  rw [List.map_map]
  exact List.map_congr_left fun object _ => reset_reset object

theorem reset_fail (message : String) (object : Object) :
    Loadable.reset (Loadable.fail message object) = Loadable.reset object := by
  cases object <;> rfl

theorem reset_starting (object : Object) :
    Loadable.reset object.starting = Loadable.reset object := by
  cases object <;> rfl

theorem reset_started (record : Bytes) (object : Object) :
    Loadable.reset (Loadable.fromRecord record object).started = Loadable.reset object := by
  rw [started_fromRecord, reset_starting]

theorem reset_of_fromRecord {record : Bytes} {before object : Object} {a : Arena}
    (ends : (Loadable.fromRecord record before).Ends a object (.ok ())) :
    Loadable.reset object = Loadable.reset before := by
  obtain ⟨install, ids, promised, rfl, -⟩ := ends.installs
  obtain ⟨attacks, releases, drafted, -⟩ :=
    drafted_of_fromRecord (Plan.verdict_of_promised promised).2
  exact drafted.reset_install ids

theorem reset_fromFiles_started (store : Store) (object : Object) :
    Loadable.reset (Loadable.fromFiles store object).started = Loadable.reset object := by
  rw [started_fromFiles, reset_starting]

/-- What an object asks for does not depend on what was loaded before. -/
theorem contents_fromFiles (store : Store) (object : Object) :
    (Loadable.fromFiles store (Loadable.reset object)).contents
      = (Loadable.fromFiles store object).contents := by
  cases object with
  | pipe p =>
      change (Pipe.fromFiles store (p.cleared {})).contents = (Pipe.fromFiles store p).contents
      unfold Pipe.fromFiles Pipe.cleared
      dsimp only
      split_ifs
      · rfl
      · split <;> rfl
  | tremulant t =>
      change (t.cleared {}).fromFiles.contents = t.fromFiles.contents
      unfold Tremulant.fromFiles Tremulant.synthesis Tremulant.cleared
      dsimp only
      split
      · rfl
      · split
        · rfl
        · split
          · rfl
          · split <;> rfl

end Object

end Windchest
