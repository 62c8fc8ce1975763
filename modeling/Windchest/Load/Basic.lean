/-
# Windchest.Load.Basic -- loading all objects of an organ

A load first takes what the cache provides; a crew loads the rest from sample files.
If every object is loaded by then, and the cache did not provide all of them, a new
cache is written, provided that caches are managed.

Writing a cache replaces whatever was there, unless that cannot be removed.  If it cannot be
finished, what has been written is removed again as far as the system allows it.
-/
import Windchest.Cache.Status
import Windchest.Load.Crew
import Windchest.Load.FromCache

namespace Windchest

set_option autoImplicit false

/-- The objects of an organ and the world around them. -/
structure Stage (α : Type) where
  objects : List α
  arena : Arena
  files : FileSystem

/-- How to load. -/
structure LoadOptions where
  /-- The number of workers beside the driver. -/
  concurrency : Nat
  /-- Whether to write a new cache after a complete load. -/
  manageCache : Bool := true
  /-- Whether caches are packed. -/
  packCache : Bool := false
deriving DecidableEq, Repr

variable {α : Type} [Loadable α]

/-- The records of objects, in order, appended to a cache; objects before them are `done`.  Gives
also what has been written when it breaks off. -/
def writeRecords (report : Reporter) (arena : Arena) (total done : Nat) (trace : List Progress)
    (writer : Cache.Writer) : List α → Except UpdateCacheError Unit × Cache.Writer × List Progress
  | [] => (.ok (), writer, trace)
  | object :: rest =>
    match Loadable.save arena object with
    | .error why => (.error (.cache why), writer, trace)
    | .ok record =>
      let writer := writer.record record
      let trace := trace ++ [.update (done + 1) total (Loadable.title object)]
      if report trace then writeRecords report arena total (done + 1) trace writer rest
      else (.error .cancelled, writer, trace)

/-- Writes the cache of loaded objects.  Gives the number of records, the files afterwards and
what the reporter has been told. -/
def updateCache (report : Reporter) (trace : List Progress) (target : CacheTarget) (packed : Bool)
    (stage : Stage α) : Except UpdateCacheError Nat × FileSystem × List Progress :=
  let fileError : UpdateCacheError := .cache .file
  match Cache.delete stage.files target.path with
  | .error _ => (.error fileError, stage.files, trace)
  | .ok (_, files) =>
    match files.makeDirectories (Path.parent target.path) with
    | .error _ => (.error fileError, files, trace)
    | .ok files =>
      let total := stage.objects.length
      let trace := trace ++ [.setup total .writingCache]
      -- Whatever happens from here on, an unfinished file is removed if that is possible.
      let removed (files : FileSystem) : FileSystem :=
        match Cache.delete files target.path with
        | .ok (_, files) => files
        | .error _ => files
      match files.write target.path [] with
      | .error _ => (.error fileError, removed files, trace)
      | .ok files =>
        let writer := ({} : Cache.Writer).write (Cache.header ++ target.hash.bytes)
        match writeRecords report stage.arena total 0 trace writer stage.objects with
        | (.error why, writer, trace) =>
          match files.write target.path (writer.abandon target.packing packed) with
          | .error _ => (.error why, removed files, trace)
          | .ok files => (.error why, removed files, trace)
        | (.ok (), writer, trace) =>
          match files.write target.path (writer.close target.packing packed) with
          | .error _ => (.error fileError, removed files, trace)
          | .ok files => (.ok writer.records, files, trace)

/-- What is known once all objects have been tried. -/
structure LoadResult (α : Type) where
  objects : List α
  arena : Arena
  distributor : Distributor
  trace : List Progress
  usage : CacheUsage
  failures : List LoadFailure
  outOfMemory : Bool
  cancelled : Bool
  /-- The attempts to load an object from its record, in order. -/
  fromCache : List (Attempt CacheError)
  /-- The attempts to load an object from its files, in the order in which they ended. -/
  fromFiles : List (Attempt LoadError) := []

namespace LoadResult

/-- How the load ended. -/
def outcome (r : LoadResult α) : LoadOutcome :=
  if r.outOfMemory then .outOfMemory
  else if r.cancelled then .cancelled
  else if ! r.failures.isEmpty ∨ r.distributor.loaded < r.objects.length then .partiallyFailed
  else .complete

/-- Whether what is loaded may be written to the cache. -/
def cacheable (r : LoadResult α) : Bool :=
  r.distributor.isComplete && r.failures.isEmpty && ! r.cancelled && ! r.outOfMemory

/-- The report of the load. -/
def toReport (r : LoadResult α) (cacheWritten : Bool) : LoadReport where
  outcome := r.outcome
  usage := r.usage
  cacheable := r.cacheable
  cacheWritten := cacheWritten
  failures := r.failures
  loaded := r.distributor.loaded
  total := r.objects.length

/-- Writes a new cache, if that is wanted and makes sense.  Gives the report, what there is
afterwards, and what the reporter has been told. -/
def finish (r : LoadResult α) (report : Reporter) (target : CacheTarget) (options : LoadOptions)
    (files : FileSystem) : LoadReport × Stage α × List Progress :=
  if r.cacheable && options.manageCache && r.usage ≠ .full then
    let (result, files, trace) :=
      updateCache report r.trace target options.packCache ⟨r.objects, r.arena, files⟩
    (r.toReport result.toBool, ⟨r.objects, r.arena, files⟩, trace)
  else (r.toReport false, ⟨r.objects, r.arena, files⟩, r.trace)

end LoadResult

namespace CacheWalk

/-- The crew for the objects that the walk has not loaded, if there are any and the load is not
over. -/
def crew? (walk : CacheWalk α) (report : Reporter) (store : Store) (workers : Nat) :
    Option (Crew α) :=
  let total := walk.distributor.total
  if (walk.pending.isSome || walk.distributor.pos < total) && ! walk.outOfMemory
      && ! walk.cancelled then
    some (Crew.start report store workers walk.objects walk.arena walk.distributor
      (walk.trace ++ [.setup total .loadingSamples]) walk.pending)
  else none

/-- The result of a load that needs no crew. -/
def result (walk : CacheWalk α) : LoadResult α where
  objects := walk.objects
  arena := walk.arena
  distributor := walk.distributor
  trace := walk.trace
  usage := walk.usage
  failures := walk.failures
  outOfMemory := walk.outOfMemory
  cancelled := walk.cancelled
  fromCache := walk.attempts

/-- The result of a load whose crew has finished. -/
def resultWith (walk : CacheWalk α) (crew : Crew α) : LoadResult α where
  objects := crew.objects
  arena := crew.arena
  distributor := crew.distributor
  trace := crew.trace
  usage := walk.usage
  failures := walk.failures ++ crew.failures.mergeSort fun a b => a.index ≤ b.index
  outOfMemory := crew.outOfMemory
  cancelled := crew.cancelled
  fromCache := walk.attempts
  fromFiles := crew.attempts

end CacheWalk

/-- Loads objects, from the cache as far as it goes and then from the store, without writing
anything.  A fault in reading a record ends it without an answer. -/
def loadAll (report : Reporter) (store : Store) (target : CacheTarget) (concurrency : Nat)
    (stage : Stage α) : Except Fault (LoadResult α) := do
  let objects := stage.objects.map Loadable.reset
  let walk ← CacheWalk.run stage.files target report objects stage.arena
  match walk.crew? report store concurrency with
  | some crew => return walk.resultWith crew.run
  | none => return walk.result

/-- Loads all objects and, if that is wanted and makes sense, writes a new cache.  Gives the
report, what there is afterwards, and what the reporter has been told. -/
def load (report : Reporter) (store : Store) (target : CacheTarget) (options : LoadOptions)
    (stage : Stage α) : Except Fault (LoadReport × Stage α × List Progress) := do
  let r ← loadAll report store target options.concurrency stage
  return r.finish report target options stage.files

end Windchest
