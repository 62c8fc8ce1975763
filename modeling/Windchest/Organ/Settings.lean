/-
# Windchest.Organ.Settings -- how an organ is loaded

Settings are read from a file.  Without a file, or where it says nothing, the
defaults hold: no limit on memory, one worker for each processor, and an unpacked
cache next to the definition that is kept up to date.
-/
import Windchest.Config.Error
import Windchest.Config.Library
import Windchest.Config.Parts
import Windchest.Load.Basic

namespace Windchest

set_option autoImplicit false

/-- The directory next to a definition that holds its caches. -/
def cacheDirectory : String := ".pipecache"

/-- How an organ is loaded. -/
structure Settings where
  /-- The limit on the memory for samples, in units of 2^20 bytes. -/
  memoryLimit : Option Nat := none
  /-- The number of workers beside the driver; by default, that of the processors. -/
  concurrency : Option Nat := none
  /-- Whether to write a new cache after a complete load. -/
  manageCache : Bool := true
  /-- Whether caches are packed. -/
  packCache : Bool := false
  /-- The directory for caches, if it is not next to the definition. -/
  cacheDirectory : Option String := none
  /-- The active preset.  Each preset has a cache of its own. -/
  preset : UInt32 := 0
deriving DecidableEq, Repr

namespace Settings

/-- The settings that a table describes. -/
def ofTable? (fields : List (String × Value)) : Option Settings := do
  let p := Parts.named fields
  return {
    memoryLimit := ← p.optional ⟨"memory_limit_mb", 0⟩ Value.asWord?
    concurrency := ← p.withDefault ⟨"load_concurrency", 1⟩ none fun v => v.asWord?.map some
    manageCache := ← p.withDefault ⟨"manage_cache", 2⟩ true Value.asBool?
    packCache := ← p.withDefault ⟨"compress_cache", 3⟩ false Value.asBool?
    cacheDirectory := ← p.optional ⟨"cache_dir", 4⟩ Value.asText?
    preset := ← p.withDefault ⟨"preset", 5⟩ 0 Value.asUInt32? }

/-- The settings in a file. -/
def fromFile (config : ConfigLibrary) (fs : FileSystem) (path : String) :
    Except ConfigError Settings :=
  match (config.ofFile fs path).bind ofTable? with
  | some settings => .ok settings
  | none => .error .load

/-- The settings in a file, or the defaults if no file is given. -/
def load (config : ConfigLibrary) (fs : FileSystem) (path : Option String) :
    Except ConfigError Settings :=
  match path with
  | some path => fromFile config fs path
  | none => .ok {}

/-- The limit on the memory for samples, in bytes. -/
def memoryLimitBytes (s : Settings) : Option Nat :=
  s.memoryLimit.map fun n => min (n <<< 20) maxWord

/-- The directory for the caches of a definition in a directory. -/
def cacheDirectoryFor (s : Settings) (definitions : String) : String :=
  s.cacheDirectory.getD (Path.join definitions Windchest.cacheDirectory)

/-- The empty arena of a session. -/
def arena (s : Settings) : Arena :=
  match s.memoryLimitBytes with
  | some limit => { limit }
  | none => .unbounded

/-- The options of a load, on a machine with so many processors. -/
def loadOptions (s : Settings) (processors : Nat) : LoadOptions :=
  ⟨s.concurrency.getD processors, s.manageCache, s.packCache⟩

end Settings

end Windchest
