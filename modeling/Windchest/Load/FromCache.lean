/-
# Windchest.Load.FromCache -- feeding the records of a cache to the objects

Records have no index: the first record is that of the first object, and so on.  The
walk goes on until a record cannot be used.  Objects read by then stay loaded; the
one whose record failed is pending, for it was handed out already, and it and all
others come from their sample files.  If the arena has no room for an object, or the
reporter cancels, the load as a whole is over.
-/
import Windchest.Cache.Stream
import Windchest.Load.Distributor
import Windchest.Load.Report
import Windchest.Object.Loadable

namespace Windchest

set_option autoImplicit false

/-- The state of an organ after its cache has been read. -/
structure CacheWalk (α : Type) where
  objects : List α
  arena : Arena
  distributor : Distributor
  trace : List Progress
  usage : CacheUsage
  /-- The object whose record could not be used. -/
  pending : Option Nat := none
  failures : List LoadFailure := []
  outOfMemory : Bool := false
  cancelled : Bool := false
  /-- What became of the objects that were given a record, in order. -/
  attempts : List (Attempt CacheError) := []

/-- Where the cache of an organ lies, the hash that it must carry, and how it is packed if it is. -/
structure CacheTarget where
  path : String
  hash : Hash
  packing : Packing

namespace CacheWalk

variable {α : Type} [Loadable α]

/-- The next record of a cache, or why there is none for the next object, and the cache behind it. -/
def nextRecord (source : Cache.Source) : Except CacheError Bytes × Cache.Source :=
  match source.next with
  | (.ok (some record), source) => (.ok record, source)
  | (.ok none, source) => (.error .tooShort, source)
  | (.error why, source) => (.error why, source)

/-- The plan of an object for what the cache has for it. -/
def planFor (object : α) : Except CacheError Bytes → Plan α CacheError
  | .ok record => Loadable.fromRecord record object
  | .error why => .failing object (.error why)

/-- The usage of a cancelled walk. -/
def usageOf (records total : Nat) : CacheUsage :=
  if records < total then .partially records else .full

/-- Reads the records of the objects behind those that are done, of which there are `records`. -/
def go (report : Reporter) (done : List α) (records : Nat) (arena : Arena)
    (distributor : Distributor) (trace : List Progress) (attempts : List (Attempt CacheError))
    (source : Cache.Source) : List α → Except Fault (CacheWalk α)
  | [] => .ok ⟨done, arena, distributor, trace, .full, none, [], false, false, attempts⟩
  | object :: rest =>
    let index := done.length
    let distributor := distributor.fetch.2
    let (record, source) := nextRecord source
    let carried := (planFor object record).carryOut arena
    -- Without a record there is nothing to attempt.
    let attempts := attempts ++ if record.isOk then [⟨index, carried.result⟩] else []
    match carried.result with
    | .ok () =>
      let distributor := distributor.recordLoaded
      let trace := trace ++ [.update distributor.pos distributor.total (Loadable.title carried.object)]
      if report trace then
        go report (done ++ [carried.object]) (records + 1) carried.arena distributor trace attempts
          source rest
      else
        .ok ⟨done ++ carried.object :: rest, carried.arena, distributor.abort, trace,
          usageOf (records + 1) distributor.total, none, [], false, true, attempts⟩
    | .error (.outOfMemory why) =>
      let object := Loadable.fail why.message carried.object
      let failure : LoadFailure := ⟨index, Loadable.title carried.object, why.message⟩
      .ok ⟨done ++ object :: rest, carried.arena, distributor.abort, trace,
        .partially records, none, [failure], true, false, attempts⟩
    | .error (.error _) =>
      .ok ⟨done ++ carried.object :: rest, carried.arena, distributor, trace,
        .partially records, some index, [], false, false, attempts⟩
    | .error (.fault why) => .error why

/-- The walk that does not take place. -/
def bypassed (objects : List α) (arena : Arena) (usage : CacheUsage) : CacheWalk α :=
  { objects, arena, distributor := { total := objects.length }, trace := [], usage }

/-- The records of the cache at a target, or the usage of a cache that is not read. -/
def source (files : FileSystem) (target : CacheTarget) : Except CacheUsage Cache.Source :=
  if ! files.contains target.path then .error .absent
  else
    match files.read target.path with
    | .error _ => .error .rejected
    | .ok file =>
      match (Cache.Source.ofFile target.packing file).validate target.hash with
      | (.error _, _) => .error .rejected
      | (.ok (), source) => .ok source

/-- Reads as many objects as the cache at the target provides. -/
def run (files : FileSystem) (target : CacheTarget) (report : Reporter) (objects : List α)
    (arena : Arena) : Except Fault (CacheWalk α) :=
  match source files target with
  | .error usage => .ok (bypassed objects arena usage)
  | .ok source =>
    go report [] 0 arena { total := objects.length } [.setup objects.length .readingCache] []
      source objects

end CacheWalk

end Windchest
