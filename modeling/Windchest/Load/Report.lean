/-
# Windchest.Load.Report -- what a load tells while it runs and when it ends
-/
import Windchest.Cache.Error

namespace Windchest

set_option autoImplicit false

/-- What a load is doing. -/
inductive Phase where
  | readingCache
  | loadingSamples
  | writingCache
deriving DecidableEq, Repr

/-- What the user reads about a phase. -/
def Phase.text : Phase → String
  | readingCache => "Reading sample cache"
  | loadingSamples => "Loading samples"
  | writingCache => "Writing sample cache"

/-- One thing that the load tells its reporter. -/
inductive Progress where
  /-- A phase over so many objects starts. -/
  | setup (total : Nat) (phase : Phase)
  /-- An object is done. -/
  | update (pos total : Nat) (title : String)
deriving DecidableEq, Repr

/-- Whether a load goes on, after all that it has told so far.  Only the answers to updates count. -/
abbrev Reporter := List Progress → Bool

/-- The reporter that never cancels. -/
def Reporter.patient : Reporter := fun _ => true

/-- How a load ended. -/
inductive LoadOutcome where
  | complete
  /-- Some objects failed to load. -/
  | partiallyFailed
  /-- The arena ran out of memory and the load stopped. -/
  | outOfMemory
  /-- The user cancelled the load. -/
  | cancelled
deriving DecidableEq, Repr

/-- The word for an outcome. -/
def LoadOutcome.word : LoadOutcome → String
  | complete => "Complete"
  | partiallyFailed => "PartiallyFailed"
  | outOfMemory => "OutOfMemory"
  | cancelled => "Cancelled"

/-- How much of the cache was used. -/
inductive CacheUsage where
  /-- There was no cache. -/
  | absent
  /-- The cache was rejected as a whole. -/
  | rejected
  /-- The first objects were read from the cache. -/
  | partially (records : Nat)
  /-- Every object was read from the cache. -/
  | full
deriving DecidableEq, Repr

/-- The words for a usage. -/
def CacheUsage.words : CacheUsage → String
  | absent => "Absent"
  | rejected => "Rejected"
  | partially records => s!"Partial \x7b records: {records} \x7d"
  | full => "Full"

/-- An object that failed to load. -/
structure LoadFailure where
  /-- The position among all objects. -/
  index : Nat
  title : String
  message : String
deriving DecidableEq, Repr

/-- The result of loading an organ. -/
structure LoadReport where
  outcome : LoadOutcome
  usage : CacheUsage
  /-- Whether what is loaded may be written to the cache. -/
  cacheable : Bool
  /-- Whether the load wrote a new cache. -/
  cacheWritten : Bool
  failures : List LoadFailure
  /-- The number of objects that are ready. -/
  loaded : Nat
  total : Nat
deriving DecidableEq, Repr

/-- The messages to show the user about an outcome, failures among so many objects included. -/
def LoadOutcome.summary (outcome : LoadOutcome) (titles : List String) (total : Nat) : List String :=
  (match outcome with
    | outOfMemory => ["Out of memory - only parts of the organ are loaded"]
    | cancelled => ["Load aborted by the user - only parts of the organ are loaded."]
    | complete | partiallyFailed => [])
  ++ if titles.isEmpty then []
    else
      let named := String.intercalate ", " titles
      [s!"Unable to load {titles.length} of {total} objects: {named}"]

/-- The messages to show the user about a load. -/
def LoadReport.summary (r : LoadReport) : List String :=
  r.outcome.summary (r.failures.map (·.title)) r.total

/-- Why a cache was not written. -/
inductive UpdateCacheError where
  | cancelled
  | cache (why : CacheError)
deriving DecidableEq, Repr

/-- What the user reads about a cache that was not written. -/
def UpdateCacheError.message : UpdateCacheError → String
  | cancelled => "cache update cancelled"
  | cache why => why.message

end Windchest
