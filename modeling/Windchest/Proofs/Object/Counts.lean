/-
# Windchest.Proofs.Object.Counts -- the counts of loaded objects

The fields of a record that hold counts have 32 bits.  What is loaded from files has as many
sections and loops as the definition lists (`Object.Listable`), and what is loaded from a
record was counted in such fields.  So an object that is listable has a record, wherever its
sections came from (`LoadedIn.countable`).
-/
import Windchest.Proofs.Object.Definition

namespace Windchest

set_option autoImplicit false

/-- The sections of drafts have the shapes of the drafts. -/
theorem shape_of_mem_zipWith {ds : List Draft} {ids : List BlockId} {s : Section}
    (mem : s ∈ List.zipWith Draft.commit ds ids) : ∃ d ∈ ds, s.shape = d.shape := by
  obtain ⟨i, inside, rfl⟩ := List.getElem_of_mem mem
  rw [List.length_zipWith] at inside
  rw [List.getElem_zipWith]
  exact ⟨_, List.getElem_mem (Nat.lt_of_lt_of_le inside (Nat.min_le_left _ _)), rfl⟩

/-- The loops of a section can be counted in a record. -/
def Shape.Counted (s : Shape) : Prop := s.loops.length < 2 ^ 32

namespace Pipe

/-- The sections of a pipe have the shapes of its drafts. -/
theorem shape_of_mem_install (p : Pipe) (attacks releases : List Draft) (ids : List BlockId) :
    ∀ s ∈ (p.install attacks releases ids).attacks ++ (p.install attacks releases ids).releases,
      ∃ d ∈ attacks ++ releases, s.shape = d.shape := by
  rw [List.forall_mem_append]
  constructor
  · intro s mem
    obtain ⟨d, inAttacks, same⟩ := shape_of_mem_zipWith mem
    exact ⟨d, List.mem_append_left _ inAttacks, same⟩
  · intro s mem
    obtain ⟨d, inReleases, same⟩ := shape_of_mem_zipWith mem
    exact ⟨d, List.mem_append_right _ inReleases, same⟩

theorem counted_install {p : Pipe} {attacks releases : List Draft}
    (counted : ∀ d ∈ attacks ++ releases, d.shape.Counted) (ids : List BlockId) :
    ∀ s ∈ (p.install attacks releases ids).attacks ++ (p.install attacks releases ids).releases,
      s.shape.Counted := by
  intro s mem
  obtain ⟨d, inside, same⟩ := shape_of_mem_install p attacks releases ids s mem
  exact same ▸ counted d inside

/-- An object that was loaded from a record has as many loops in each section as a count tells. -/
theorem counted_of_fromRecord {record : Bytes} {p : Pipe} {install : List BlockId → Pipe}
    (verdict : (Plan.ofRecord p.starting p.read record).verdict = .ok install) (ids : List BlockId) :
    ∀ s ∈ (install ids).attacks ++ (install ids).releases, s.shape.Counted := by
  unfold Plan.ofRecord at verdict
  split at verdict
  · rename_i install' i done
    cases verdict
    obtain ⟨n, _, -, done⟩ := bind_eq_ok.mp done
    obtain ⟨-, done⟩ := (checked_eq_ok (Intake.malformed_ne_ok _)).mp done
    obtain ⟨attacks, _, front, done⟩ := bind_eq_ok.mp done
    obtain ⟨m, _, -, done⟩ := bind_eq_ok.mp done
    obtain ⟨-, done⟩ := (checked_eq_ok (Intake.malformed_ne_ok _)).mp done
    obtain ⟨releases, _, back, done⟩ := bind_eq_ok.mp done
    obtain ⟨_, _, -, done⟩ := bind_eq_ok.mp done
    cases clash : firstClash? p.title (attacks ++ releases) with
    | some clash' =>
        rw [clash] at done
        exact absurd done (Intake.malformed_ne_ok _ _ _ _)
    | none =>
        rw [clash] at done
        obtain ⟨rfl, -⟩ := pure_eq_ok.mp done
        exact counted_install (List.forall_mem_append.mpr
          ⟨Intake.loops_of_drafts front, Intake.loops_of_drafts back⟩) ids
  · cases verdict

end Pipe

namespace Tremulant

variable {t : Tremulant} {install : List BlockId → Tremulant}

/-- The sections of a tremulant have the shapes of its drafts. -/
theorem counted_install {attack release : Draft} (first : attack.shape.Counted)
    (second : release.shape.Counted) (ids : List BlockId) :
    ∀ s ∈ (t.install attack release ids).attack.toList ++ (t.install attack release ids).release.toList,
      s.shape.Counted := by
  rw [List.forall_mem_append]
  constructor
  · intro s mem
    obtain ⟨id, -, rfl⟩ := Option.map_eq_some_iff.mp (Option.mem_toList.mp mem)
    exact first
  · intro s mem
    obtain ⟨id, -, rfl⟩ := Option.map_eq_some_iff.mp (Option.mem_toList.mp mem)
    exact second

@[inherit_doc Pipe.counted_of_fromRecord]
theorem counted_of_fromRecord {record : Bytes}
    (verdict : (Plan.ofRecord t.starting t.read record).verdict = .ok install) (ids : List BlockId) :
    ∀ s ∈ (install ids).attack.toList ++ (install ids).release.toList, s.shape.Counted := by
  unfold Plan.ofRecord at verdict
  split at verdict
  · rename_i install' i done
    cases verdict
    obtain ⟨attack, _, first, done⟩ := bind_eq_ok.mp done
    obtain ⟨release, _, second, done⟩ := bind_eq_ok.mp done
    obtain ⟨_, _, -, done⟩ := bind_eq_ok.mp done
    obtain ⟨-, done⟩ := (checked_eq_ok (Intake.malformed_ne_ok _)).mp done
    obtain ⟨rfl, -⟩ := pure_eq_ok.mp done
    exact counted_install (Intake.loops_of_draft first) (Intake.loops_of_draft second) ids
  · cases verdict

/-- The wave of a tremulant has one loop at most. -/
theorem counted_of_fromFiles (verdict : t.fromFiles.verdict = .ok install) (ids : List BlockId) :
    ∀ s ∈ (install ids).attack.toList ++ (install ids).release.toList, s.shape.Counted := by
  obtain ⟨attack, release, first, second, rfl, -⟩ := built_of_fromFiles verdict
  refine counted_install ?_ ?_ ids
  · rw [Shape.Counted, (Draft.shape_of_build? first).2]
    exact Nat.one_lt_two_pow (by decide)
  · rw [Shape.Counted, (Draft.shape_of_build? second).2]
    exact Nat.two_pow_pos 32

end Tremulant

namespace Object

/-- The counts in the definition of an object fit into the fields of a record. -/
def Listable : Object → Prop
  | pipe p => p.Listable
  | tremulant _ => True

theorem listable_reset {object : Object} : (Loadable.reset object).Listable ↔ object.Listable := by
  cases object with
  | pipe p => exact ⟨fun ⟨attacks, releases, loops⟩ => ⟨attacks, releases, loops⟩,
      fun ⟨attacks, releases, loops⟩ => ⟨attacks, releases, loops⟩⟩
  | tremulant t => exact Iff.rfl

/-- Whatever was given the same to load is listable alike. -/
theorem listable_congr {object other : Object}
    (same : Loadable.reset object = Loadable.reset other) : object.Listable ↔ other.Listable := by
  rw [← listable_reset, same, listable_reset]

/-- The drafts of a listable object can be counted. -/
theorem Drafted.length_lt {object : Object} {attacks releases : List Draft}
    {install : List BlockId → Object} (drafted : object.Drafted attacks releases install)
    (listable : object.Listable) : attacks.length < 2 ^ 32 ∧ releases.length < 2 ^ 32 := by
  cases drafted with
  | pipe fit => exact ⟨fit.perAttack ▸ listable.attacks, fit.perRelease ▸ listable.releases⟩
  | tremulant mono =>
      have one : 1 < 2 ^ 32 := by decide
      exact ⟨one, one⟩

theorem counted_of_fromFiles {store : Store} {object : Object} {install : List BlockId → Object}
    (listable : object.Listable) (verdict : (Loadable.fromFiles store object).verdict = .ok install)
    (ids : List BlockId) : ∀ s ∈ (install ids).attacks ++ (install ids).releases, s.shape.Counted := by
  cases object with
  | pipe p =>
      obtain ⟨inner, is, rfl⟩ := verdict_of_map verdict
      obtain ⟨-, attacks, releases, first, second, -, rfl, -⟩ := Pipe.built_of_fromFiles is
      exact Pipe.counted_install (Pipe.loops_of_files listable first second) ids
  | tremulant t =>
      obtain ⟨inner, is, rfl⟩ := verdict_of_map verdict
      exact Tremulant.counted_of_fromFiles is ids

theorem counted_of_fromRecord {record : Bytes} {object : Object} {install : List BlockId → Object}
    (verdict : (Loadable.fromRecord record object).verdict = .ok install) (ids : List BlockId) :
    ∀ s ∈ (install ids).attacks ++ (install ids).releases, s.shape.Counted := by
  cases object with
  | pipe p =>
      obtain ⟨inner, is, rfl⟩ := verdict_of_map verdict
      exact Pipe.counted_of_fromRecord is ids
  | tremulant t =>
      obtain ⟨inner, is, rfl⟩ := verdict_of_map verdict
      exact Tremulant.counted_of_fromRecord is ids

/-- **The counts of a listable object that was loaded fit into a record**, whatever it was loaded
from. -/
theorem LoadedIn.countable {a : Arena} {object : Object} (loaded : object.LoadedIn a)
    (listable : object.Listable) : object.Countable := by
  obtain ⟨before, attacks, releases, install, ids, drafted, rfl, counted⟩ :
      ∃ (before : Object) (attacks releases : List Draft) (install : List BlockId → Object)
        (ids : List BlockId), before.Drafted attacks releases install ∧ object = install ids ∧
          ∀ s ∈ object.attacks ++ object.releases, s.shape.Counted := by
    obtain ⟨before, ⟨store, ends⟩ | ⟨record, ends⟩⟩ := loaded
    · obtain ⟨install, ids, promised, rfl, -⟩ := ends.installs
      have verdict := (Plan.verdict_of_promised promised).2
      obtain ⟨attacks, releases, drafted, -⟩ := drafted_of_fromFiles verdict
      have listable := (listable_congr (drafted.reset_install ids)).mp listable
      exact ⟨before, attacks, releases, install, ids, drafted, rfl,
        counted_of_fromFiles listable verdict ids⟩
    · obtain ⟨install, ids, promised, rfl, -⟩ := ends.installs
      have verdict := (Plan.verdict_of_promised promised).2
      obtain ⟨attacks, releases, drafted, -⟩ := drafted_of_fromRecord verdict
      exact ⟨before, attacks, releases, install, ids, drafted, rfl, counted_of_fromRecord verdict ids⟩
  obtain ⟨fewAttacks, fewReleases⟩ :=
    drafted.length_lt ((listable_congr (drafted.reset_install ids)).mp listable)
  refine ⟨?_, ?_, counted⟩
  · rw [drafted.attacks_install, List.length_zipWith]
    exact Nat.lt_of_le_of_lt (Nat.min_le_left _ _) fewAttacks
  · rw [drafted.releases_install, List.length_zipWith]
    exact Nat.lt_of_le_of_lt (Nat.min_le_left _ _) fewReleases

end Object

end Windchest
