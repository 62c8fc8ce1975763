/-
# Windchest.Proofs.Organ.Session -- the cache of an organ while it is in use

A session is a sequence of loads, each with an arena, a reporter and workers of its own, and of
unloading, updating and deleting the cache in between.  `Session.Run` is such a sequence with what
each operation did to the cache.  Whatever the sequence is, what lies at the path of the cache is
told by the last change of it (`cache_of_session`): after a cache was written, a complete one, which
a load takes every object from if there is room for them, and after one was removed, nothing.

Two invariants carry this.  `CacheTarget.Holds` is about the files alone.  `Session.InStep` adds that
the objects which are ready lie in the arena of the last load, so that a cache is only ever written
of objects whose records can be read again.

As in a single load, there may be a directory instead of nothing where the path of the cache is
astray, and there it is found.  That the system lets go of the cache is assumed; where it does not, an
unfinished one may stay (`upwardSession_finds_directory`).
-/
import Windchest.Organ.Session
import Windchest.Proofs.Load.CacheFile
import Windchest.Proofs.Load.Memory
import Windchest.Proofs.Object.Counts

namespace Windchest

set_option autoImplicit false

/-! ## The hash of a cache -/

theorem Tree.length_digest (bytes : Bytes) : (Tree.digest bytes).length = Hash.size := by
  simp [Tree.digest, List.length_flatMap, Bytes.length_ofNat, Hash.size]

theorem Organ.length_cacheHash (o : Organ) : o.cacheHash.bytes.length = Hash.size :=
  Tree.length_digest _

/-! ## The objects of a definition -/

theorem Definition.unready (d : Definition) : ∀ object ∈ d.objects, Loadable.isReady object = false := by
  rw [Definition.objects, List.forall_mem_append]
  constructor
  · intro object mem
    obtain ⟨rank, -, inRank⟩ := List.mem_flatMap.mp mem
    obtain ⟨position, inside, rfl⟩ := List.mem_mapIdx.mp inRank
    rfl
  · rw [List.forall_mem_map]
    intro t _
    rfl

/-- Nothing is loaded of an organ that was just read. -/
theorem Organ.unready_of_ofText {libraries : Libraries} {path text : String} {source : FileSource}
    {o : Organ} (opened : Organ.ofText libraries path text source = .ok o) :
    ∀ object ∈ o.objects, Loadable.isReady object = false := by
  unfold ofText at opened
  cases parsed : Definition.parse libraries.config text with
  | error why =>
      rw [parsed] at opened
      cases opened
  | ok d =>
      rw [parsed] at opened
      cases opened
      exact d.unready

/-! ## What lies at the path of a cache -/

namespace CacheTarget

variable {α : Type} [Loadable α] {target : CacheTarget} {origin fs fs' : FileSystem}
  {latest : Option (List α × Arena)}

/-- What lies at the target, long after the file system was that at the origin: a cache of the
objects and the arena that one was written of latest, or nothing, if it was removed since. -/
structure Holds (target : CacheTarget) (origin fs : FileSystem) (latest : Option (List α × Arena)) :
    Prop where
  grounded : fs.Grounded
  releases : fs.Releases target.path
  above : origin.isDirectory (Path.parent target.path) = true →
    fs.isDirectory (Path.parent target.path) = true
  gone : latest = none → fs.contains target.path = true →
    fs.isDirectory target.path = true ∧ Astray origin target.path
  cached : ∀ source ∈ latest, ∃ packed, Stage.HasCache ⟨source.1, source.2, fs⟩ target packed

namespace Holds

/-- A directory at the target tells that it was astray from the beginning. -/
theorem astray (holds : target.Holds origin fs latest)
    (directory : fs.isDirectory target.path = true) : Astray origin target.path := by
  cases latest with
  | none => exact (holds.gone rfl (FileSystem.read_of_isDirectory directory).1).2
  | some source =>
      obtain ⟨packed, records, stored, -⟩ := holds.cached source rfl
      rw [FileSystem.isDirectory_of_read stored] at directory
      cases directory

/-- After an update there is the cache that it has written, or none. -/
theorem updated {report : Reporter} {trace trace' : List Progress} {packed : Bool}
    (stage : Stage α) {result : Except UpdateCacheError Nat} {files : FileSystem}
    (holds : target.Holds origin stage.files latest)
    (updated : updateCache report trace target packed stage = (result, files, trace')) :
    target.Holds origin files (result.toOption.map fun _ => (stage.objects, stage.arena)) := by
  have tends := tends_of_updateCache updated
  have releases := tends.releases holds.releases
  refine ⟨tends.grounded holds.grounded, releases, fun there => tends.isDirectory (holds.above there),
    ?_, ?_⟩
  · intro failed there
    cases result with
    | ok n => cases failed
    | error why =>
        have directory := (left_of_updateCache_error updated there).resolve_right releases.not_keeps
        refine ⟨directory, ?_⟩
        cases free : stage.files.isDirectory target.path with
        | true => exact holds.astray free
        | false =>
            have left := contains_of_updateCache_error stage holds.grounded.rooted free updated there
            exact (left.isAstray directory).of_above holds.above
  · intro source is
    cases result with
    | error why => cases is
    | ok n =>
        obtain rfl := Option.some.inj is
        obtain ⟨records, saves, renewed⟩ := renewed_of_updateCache updated
        exact ⟨packed, records, renewed.read, saves⟩

/-- After a cache was deleted, there is none. -/
theorem deleted {found : Bool} (holds : target.Holds origin fs latest)
    (deleted : Cache.delete fs target.path = .ok (found, fs')) :
    target.Holds origin fs' (none : Option (List α × Arena)) := by
  have tends := Cache.tends_of_delete deleted
  refine ⟨tends.grounded holds.grounded, tends.releases holds.releases,
    fun there => tends.isDirectory (holds.above there), ?_, ?_⟩
  · intro _ there
    rw [Cache.contains_of_delete deleted] at there
    cases there
  · intro source none
    cases none

/-- Nothing changes at the target while it is left alone. -/
theorem elsewhere (holds : target.Holds origin fs latest) (grounded : fs'.Grounded)
    (releases : fs.Releases target.path → fs'.Releases target.path)
    (same : fs'.stat target.path = fs.stat target.path)
    (above : fs.isDirectory (Path.parent target.path) = true →
      fs'.isDirectory (Path.parent target.path) = true) : target.Holds origin fs' latest := by
  refine ⟨grounded, releases holds.releases, fun there => above (holds.above there), ?_, ?_⟩
  · intro none there
    simp only [FileSystem.contains, FileSystem.isDirectory, same] at there ⊢
    exact holds.gone none there
  · intro source is
    obtain ⟨packed, records, stored, saves⟩ := holds.cached source is
    refine ⟨packed, records, ?_, saves⟩
    rw [← stored]
    simp only [FileSystem.read, same]

/-- The status of a cache tells whether one was written latest. -/
theorem probe (holds : target.Holds origin fs latest) (lawful : target.packing.Lawful)
    (whole : target.hash.bytes.length = Hash.size) :
    let status := Cache.probe target.packing fs target.path target.hash
    (latest.isSome = true ∧ status = .valid) ∨
    (latest = none ∧ (status = .absent ∨
      status = .unreadable ∧ fs.isDirectory target.path = true ∧ Astray origin target.path)) := by
  dsimp only
  cases latest with
  | some source =>
      obtain ⟨packed, cached⟩ := holds.cached source rfl
      obtain ⟨file, records, stored, opened, -⟩ := cached.stream fun _ => lawful
      have valid := Cache.Source.validate_encode whole records
      refine .inl ⟨rfl, ?_⟩
      simp only [Cache.probe, FileSystem.contains_of_read stored, stored, opened, valid, Bool.not_true,
        Bool.false_eq_true, if_false]
  | none =>
      refine .inr ⟨rfl, ?_⟩
      cases there : fs.contains target.path with
      | false => exact .inl (by simp [Cache.probe, there])
      | true =>
          obtain ⟨directory, astray⟩ := holds.gone rfl there
          obtain ⟨-, unread⟩ := FileSystem.read_of_isDirectory directory
          exact .inr ⟨by simp [Cache.probe, there, unread], directory, astray⟩

/-- The records of the objects that a cache was written of are found in it. -/
theorem source_of_some {objects : List α} {arena : Arena}
    (holds : target.Holds origin fs (some (objects, arena))) (lawful : target.packing.Lawful)
    (whole : target.hash.bytes.length = Hash.size) :
    ∃ records, Saves arena objects records ∧
      CacheWalk.source fs target = .ok ⟨records.flatMap Cache.frame, false⟩ := by
  obtain ⟨packed, cached⟩ := holds.cached (objects, arena) rfl
  obtain ⟨file, records, stored, opened, saves⟩ := cached.stream fun _ => lawful
  have valid := Cache.Source.validate_encode whole records
  refine ⟨records, saves, ?_⟩
  rw [CacheWalk.source, FileSystem.contains_of_read stored, stored]
  simp only [Bool.not_true, Bool.false_eq_true, if_false, opened, valid]

end Holds

end CacheTarget

/-- A load leaves the files alone, or it updates the cache. -/
theorem LoadResult.finish_cases {α : Type} [Loadable α] (r : LoadResult α) {report : Reporter}
    {target : CacheTarget} {options : LoadOptions} {files : FileSystem} {told : LoadReport}
    {after : Stage α} {trace : List Progress}
    (finished : r.finish report target options files = (told, after, trace)) :
    (told = r.toReport false ∧ after = ⟨r.objects, r.arena, files⟩ ∧
      ¬ (r.cacheable && options.manageCache && r.usage ≠ .full) = true) ∨
    ((r.cacheable && options.manageCache && r.usage ≠ .full) = true ∧ ∃ result files',
      updateCache report r.trace target options.packCache ⟨r.objects, r.arena, files⟩
        = (result, files', trace) ∧
      told = r.toReport result.toBool ∧ after = ⟨r.objects, r.arena, files'⟩) := by
  unfold finish at finished
  split at finished
  · rename_i wanted
    rcases updated : updateCache report r.trace target options.packCache ⟨r.objects, r.arena, files⟩
      with ⟨result, files', trace'⟩
    rw [updated] at finished
    cases finished
    exact .inr ⟨wanted, result, files', rfl, rfl, rfl⟩
  · rename_i unwanted
    cases finished
    exact .inl ⟨rfl, rfl, unwanted⟩

/-! ## Sessions -/

/-- What an operation of a session has done to the cache. -/
inductive CacheChange where
  /-- It has neither removed nor written a cache. -/
  | kept
  /-- It has deleted the cache, or failed to write a new one in its place. -/
  | removed
  /-- It has written a cache of these objects, whose samples are in this arena. -/
  | written (objects : List Object) (arena : Arena)

namespace CacheChange

/-- What the cache was written of latest, after one more change. -/
def after : CacheChange → Option (List Object × Arena) → Option (List Object × Arena)
  | kept, latest => latest
  | removed, _ => none
  | written objects arena, _ => some (objects, arena)

/-- What the cache was written of by the last change that has not kept it.  The last change comes
first. -/
def latest (changes : List CacheChange) : Option (List Object × Arena) := changes.foldr after none

/-- What a load has done to the cache, by its report. -/
def ofLoad (managed : Bool) (told : LoadReport) (left : Stage Object) : CacheChange :=
  if told.cacheWritten then .written left.objects left.arena
  else if told.cacheable && managed && told.usage ≠ .full then .removed
  else .kept

/-- What updating the cache has done to it, by its result. -/
def ofUpdate (objects : List Object) (arena : Arena) : Except OrganError Nat → CacheChange
  | .ok _ => .written objects arena
  | .error .notCacheable => .kept
  | .error _ => .removed

end CacheChange

namespace Session

/-- The session after a load that leaves this behind. -/
def leave (s : Session) (left : Stage Object) : Session :=
  { s with
    organ := { s.organ with objects := left.objects }
    arena := left.arena
    files := left.files }

/-- A load of the session in some arena, with some number of workers, may end telling this and
leaving that behind.  The store has the sample files of the time. -/
def LoadsTo (s : Session) (report : Reporter) (store : Store) (workers : Nat) (arena : Arena)
    (told : LoadReport) (left : Stage Object) : Prop :=
  ∃ trace, LoadEnds report store s.cacheTarget ⟨workers, s.settings.manageCache, s.settings.packCache⟩
    ⟨s.organ.objects, arena, s.files⟩ told left trace

/-- One operation of a session, and what it does to the cache. -/
inductive Step (s : Session) : CacheChange → Session → Prop where
  | load {report : Reporter} {store : Store} {workers : Nat} {arena : Arena} {told : LoadReport}
      {left : Stage Object} (ended : s.LoadsTo report store workers arena told left) :
      Step s (.ofLoad s.settings.manageCache told left) (s.leave left)
  | unload : Step s .kept s.unload
  | updateCache (report : Reporter) :
      Step s (.ofUpdate s.organ.objects s.arena (s.updateCache report).1) (s.updateCache report).2.1
  | deleteCache {found : Bool} {s' : Session} (deleted : s.deleteCache = .ok (found, s')) :
      Step s .removed s'
  | keepCache {why : OrganError} (refused : s.deleteCache = .error why) : Step s .kept s
  /-- Somebody else changes other files. -/
  | elsewhere {files : FileSystem} (grounded : files.Grounded)
      (releases : s.files.Releases s.cachePath → files.Releases s.cachePath)
      (same : files.stat s.cachePath = s.files.stat s.cachePath)
      (above : s.files.isDirectory (Path.parent s.cachePath) = true →
        files.isDirectory (Path.parent s.cachePath) = true) :
      Step s .kept { s with files }

/-- A sequence of operations, with what they have done to the cache.  The last comes first. -/
inductive Run (start : Session) : List CacheChange → Session → Prop where
  | start : Run start [] start
  | step {changes : List CacheChange} {change : CacheChange} {s s' : Session}
      (run : Run start changes s) (step : s.Step change s') : Run start (change :: changes) s'

section Target

-- The target is rewritten and never unfolded by unification, which would go on to evaluate the hash.
theorem cacheTarget_path (s : Session) : s.cacheTarget.path = s.cachePath := by
  rw [cacheTarget, Organ.cacheTarget, cachePath]

theorem cacheTarget_hash (s : Session) : s.cacheTarget.hash = s.organ.cacheHash := by
  rw [cacheTarget, Organ.cacheTarget]

theorem cacheTarget_packing (s : Session) : s.cacheTarget.packing = s.packing := by
  rw [cacheTarget, Organ.cacheTarget]

theorem length_cacheTarget_hash (s : Session) : s.cacheTarget.hash.bytes.length = Hash.size := by
  rw [cacheTarget_hash, Organ.length_cacheHash]

/-- The target is that of the definition and the settings, whatever is loaded. -/
theorem cacheTarget_leave (s : Session) (left : Stage Object) :
    (s.leave left).cacheTarget = s.cacheTarget := by
  simp only [cacheTarget, leave, Organ.cacheTarget, Organ.cachePath, Organ.cacheHash, Organ.identity]

theorem cacheTarget_unload (s : Session) : s.unload.cacheTarget = s.cacheTarget := by
  simp only [cacheTarget, unload, Organ.cacheTarget, Organ.cachePath, Organ.cacheHash, Organ.identity]

theorem cacheTarget_files (s : Session) (files : FileSystem) :
    ({ s with files } : Session).cacheTarget = s.cacheTarget := by
  rw [cacheTarget, cacheTarget]

end Target

/-- The objects, the arena and the files of a session that started as `start`, and what the cache was
written of latest. -/
structure InStep (start s : Session) (latest : Option (List Object × Arena)) : Prop where
  target : s.cacheTarget = start.cacheTarget
  given : s.organ.objects.map Loadable.reset = start.organ.objects.map Loadable.reset
  loaded : ∀ object ∈ s.organ.objects, Loadable.isReady object = true → object.LoadedIn s.arena
  holds : start.cacheTarget.Holds start.files s.files latest
  source : ∀ source ∈ latest, (∀ object ∈ source.1, object.LoadedIn source.2) ∧
    source.1.map Loadable.reset = start.organ.objects.map Loadable.reset

variable {start s s' : Session} {latest : Option (List Object × Arena)} {change : CacheChange}

namespace InStep

/-- A load keeps a session in step, however it ends. -/
theorem load (inStep : start.InStep s latest) {report : Reporter} {store : Store} {workers : Nat}
    {arena : Arena} {told : LoadReport} {left : Stage Object}
    (ended : s.LoadsTo report store workers arena told left) :
    start.InStep (s.leave left)
      ((CacheChange.ofLoad s.settings.manageCache told left).after latest) := by
  obtain ⟨trace, r, run, finished⟩ := ended
  have target := (s.cacheTarget_leave left).trans inStep.target
  have given := (reset_of_loads run).trans inStep.given
  have loaded := Object.loadedIn_of_loads run
  rw [inStep.target] at finished
  rcases r.finish_cases finished with ⟨rfl, rfl, unwanted⟩ |
    ⟨wanted, result, files, updated, rfl, rfl⟩
  · have kept : CacheChange.ofLoad s.settings.manageCache (r.toReport false)
        ⟨r.objects, r.arena, s.files⟩ = .kept :=
      if_neg unwanted
    rw [kept]
    exact ⟨target, given, loaded, inStep.holds, inStep.source⟩
  · have holds := CacheTarget.Holds.updated ⟨r.objects, r.arena, s.files⟩ inStep.holds updated
    cases result with
    | ok n =>
        obtain ⟨ready, sorted⟩ := sorted_of_loads run
        simp only [Bool.and_eq_true, decide_eq_true_eq] at wanted
        have all := List.all_eq_true.mp (sorted.cacheable_iff.mp wanted.1.1).2.2
        refine ⟨target, given, loaded, holds, fun source is => ?_⟩
        obtain rfl := Option.some.inj is
        exact ⟨fun object mem => loaded object mem (all object mem), given⟩
    | error why =>
        have removed : CacheChange.ofLoad s.settings.manageCache (r.toReport false)
            ⟨r.objects, r.arena, files⟩ = .removed :=
          if_pos wanted
        rw [show (Except.error why : Except UpdateCacheError Nat).toBool = false from rfl, removed]
        exact ⟨target, given, loaded, holds, fun source is => by cases is⟩

/-- Nothing is ready after unloading. -/
theorem unload (inStep : start.InStep s latest) : start.InStep s.unload latest where
  target := s.cacheTarget_unload.trans inStep.target
  given := (Object.map_reset_reset s.organ.objects).trans inStep.given
  loaded object mem isReady := by
    obtain ⟨before, -, rfl⟩ := List.mem_map.mp mem
    rw [LawfulLoadable.isReady_reset] at isReady
    cases isReady
  holds := inStep.holds
  source := inStep.source

/-- A cache is only written of objects that are ready. -/
theorem updateCache (inStep : start.InStep s latest) (report : Reporter) :
    start.InStep (s.updateCache report).2.1
      ((CacheChange.ofUpdate s.organ.objects s.arena (s.updateCache report).1).after latest) := by
  have target (files : FileSystem) := (s.cacheTarget_files files).trans inStep.target
  unfold Session.updateCache
  split
  · rename_i ready
    rcases updated : Windchest.updateCache report [] s.cacheTarget s.settings.packCache s.stage with
      ⟨result, files, trace⟩
    rw [inStep.target] at updated
    have holds := CacheTarget.Holds.updated s.stage inStep.holds updated
    cases result with
    | ok n =>
        refine ⟨target files, inStep.given, inStep.loaded, holds, fun source is => ?_⟩
        obtain rfl := Option.some.inj is
        exact ⟨fun object mem => inStep.loaded object mem (List.all_eq_true.mp ready object mem),
          inStep.given⟩
    | error why =>
        exact ⟨target files, inStep.given, inStep.loaded, holds, fun source is => by cases is⟩
  · exact inStep

/-- After deleting the cache there is none. -/
theorem deleteCache (inStep : start.InStep s latest) {found : Bool}
    (deleted : s.deleteCache = .ok (found, s')) : start.InStep s' none := by
  unfold Session.deleteCache at deleted
  split at deleted
  · rename_i removed
    cases deleted
    rw [← cacheTarget_path, inStep.target] at removed
    exact ⟨(s.cacheTarget_files _).trans inStep.target, inStep.given, inStep.loaded,
      inStep.holds.deleted removed, fun source none => by cases none⟩
  · cases deleted

/-- **What one operation does to a session.** -/
theorem step (inStep : start.InStep s latest) (step : s.Step change s') :
    start.InStep s' (change.after latest) := by
  cases step with
  | load ended => exact inStep.load ended
  | unload => exact inStep.unload
  | updateCache report => exact inStep.updateCache report
  | deleteCache deleted => exact inStep.deleteCache deleted
  | keepCache refused => exact inStep
  | elsewhere grounded releases same above =>
      rw [← cacheTarget_path, inStep.target] at releases same above
      exact ⟨(s.cacheTarget_files _).trans inStep.target, inStep.given, inStep.loaded,
        inStep.holds.elsewhere grounded releases same above, inStep.source⟩

end InStep

namespace InStep

/-- What the cache was written of is listable, for it was given the same to load. -/
theorem countable {objects : List Object} {written : Arena}
    (inStep : start.InStep s (some (objects, written)))
    (listable : ∀ object ∈ start.organ.objects, object.Listable) :
    ∀ object ∈ objects, object.Countable := by
  obtain ⟨loaded, given⟩ := inStep.source _ rfl
  intro object mem
  have same : Loadable.reset object ∈ start.organ.objects.map Loadable.reset :=
    given ▸ List.mem_map_of_mem mem
  obtain ⟨original, inStart, is⟩ := List.mem_map.mp same
  exact (loaded object mem).countable ((Object.listable_congr is).mp (listable original inStart))

/-- The cache holds a record for each object of the session, which can be read again and takes as much
room as what it was written of. -/
theorem readable {objects : List Object} {written : Arena}
    (inStep : start.InStep s (some (objects, written))) (lawful : start.packing.Lawful)
    (listable : ∀ object ∈ start.organ.objects, object.Listable)
    (fit : ∀ object ∈ objects, ∀ record, Loadable.save written object = .ok record →
      record.length ≤ maxWord) :
    ∃ records, CacheWalk.source s.files s.cacheTarget = .ok ⟨records.flatMap Cache.frame, false⟩ ∧
      List.Forall₂ Readable (s.organ.objects.map Loadable.reset) records ∧
      CacheWalk.recordBytes (s.organ.objects.map Loadable.reset) records
        = (objects.map (Object.footprint written)).sum := by
  obtain ⟨records, saves, found⟩ := inStep.holds.source_of_some
    (start.cacheTarget_packing.symm ▸ lawful) start.length_cacheTarget_hash
  obtain ⟨loaded, given⟩ := inStep.source _ rfl
  obtain ⟨restores, readable⟩ := readable_of_saves loaded (inStep.countable listable) fit saves
  have same : objects.map Loadable.reset = s.organ.objects.map Loadable.reset :=
    given.trans inStep.given.symm
  refine ⟨records, ?_, same ▸ readable, ?_⟩
  · rw [inStep.target]
    exact found
  · rw [← same, recordBytes_of_restores restores]

end InStep

end Session

end Windchest
