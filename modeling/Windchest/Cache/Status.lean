/-
# Windchest.Cache.Status -- what a cache file looks like from outside
-/
import Windchest.Cache.Stream

namespace Windchest

set_option autoImplicit false

/-- The state of the cache file at a path. -/
inductive CacheStatus where
  | absent
  /-- The header and the hash are those expected. -/
  | valid
  | badMagic
  | outdated
  | unreadable
deriving DecidableEq, Repr

/-- The word for a status. -/
def CacheStatus.word : CacheStatus → String
  | absent => "absent"
  | valid => "valid"
  | badMagic => "bad magic"
  | outdated => "outdated"
  | unreadable => "unreadable"

namespace Cache

/-- Looks at the header and the hash of the cache at a path. -/
def probe (packing : Packing) (fs : FileSystem) (path : String) (hash : Hash) : CacheStatus :=
  if ! fs.contains path then .absent
  else
    match fs.read path with
    | .error _ => .unreadable
    | .ok file =>
      match ((Source.ofFile packing file).validate hash).1 with
      | .ok () => .valid
      | .error .badMagic => .badMagic
      | .error .otherHash => .outdated
      | .error _ => .unreadable

/-- Removes the cache at a path, and tells whether there was one. -/
def delete (fs : FileSystem) (path : String) : Except FileError (Bool × FileSystem) :=
  match fs.removeFile path with
  | .ok fs => .ok (true, fs)
  | .error .notFound => .ok (false, fs)
  | .error e => .error e

end Cache

end Windchest
