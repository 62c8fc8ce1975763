/-
# Windchest.Organ.Session -- an organ while it is in use

A session holds the objects of one definition, the arena that their samples lie in, and
the files around them.  The cache file is named for the place of the definition, not for
its text, so that it is found again, and found outdated, once the text has changed.

How a packed cache is packed, what the sample files hold and how configurations are read is
left to libraries.
-/
import Windchest.Load.Basic
import Windchest.Organ.Definition
import Windchest.Organ.Settings

namespace Windchest

set_option autoImplicit false

/-- The libraries that an organ is loaded with. -/
structure Libraries where
  packing : Packing
  sounds : Library
  config : ConfigLibrary

/-- The hexadecimal digits of the identity in the name of a cache file. -/
def identityDigits : Nat := 16

/-- An organ. -/
structure Organ where
  name : String
  definitionPath : String
  /-- The hash of the definition's text. -/
  contentHash : Hash
  objects : List Object
  /-- Where its sample files come from. -/
  store : Store

namespace Organ

/-- The organ whose definition is a text that belongs to a path. -/
def ofText (libraries : Libraries) (path text : String) (source : FileSource) :
    Except ConfigError Organ := do
  let d ← Definition.parse libraries.config text
  return ⟨d.name, path, .of (Bytes.ofText text), d.objects, ⟨source, libraries.sounds⟩⟩

/-- The organ whose definition is in a file.  Its sample files lie in the same directory. -/
def ofFile (libraries : Libraries) (files : FileSystem) (path : String) :
    Except ConfigError Organ :=
  match files.canonical path with
  | .error why => .error (.unreadable path why)
  | .ok place =>
    match files.readText place with
    | .error why => .error (.unreadable path why)
    | .ok text => ofText libraries place text (.directory (Path.parent place) files)

/-- The hash that a cache of the organ must carry. -/
def cacheHash (o : Organ) : Hash := Windchest.cacheHash o.contentHash

/-- What tells the cache of the organ from those of others: the hash of its definition's place. -/
def identity (o : Organ) : Hash := .of (Bytes.ofText o.definitionPath)

/-- The path of the organ's cache under some settings. -/
def cachePath (o : Organ) (settings : Settings) : String :=
  Path.join (settings.cacheDirectoryFor (Path.parent o.definitionPath))
    s!"{(o.identity.toHex.take identityDigits).copy}-{settings.preset}.cache"

/-- The path, the hash and the packing of the organ's cache. -/
def cacheTarget (o : Organ) (packing : Packing) (settings : Settings) : CacheTarget :=
  ⟨o.cachePath settings, o.cacheHash, packing⟩

/-- The titles of the organ's objects. -/
def titles (o : Organ) : List String := o.objects.map Loadable.title

/-- One line about the organ. -/
def describe (o : Organ) : String :=
  s!"Organ \x7b name: {Text.quoted o.name}, definition_path: {Text.quoted o.definitionPath}, content_hash: OrganHash({o.contentHash.toHex}), objects: {o.objects.length} \x7d"

end Organ

/-- Why the cache of an organ could not be changed. -/
inductive OrganError where
  | notCacheable
  | update (why : UpdateCacheError)
  | files (why : FileError)
deriving DecidableEq, Repr

/-- What the user reads about a cache that could not be changed. -/
def OrganError.message : OrganError → String
  | .notCacheable => "the organ is not completely loaded and cannot be cached"
  | .update why => why.message
  | .files why => s!"cache I/O error: {why.message}"

/-- An organ in use. -/
structure Session where
  organ : Organ
  settings : Settings := {}
  /-- How its cache is packed, if it is. -/
  packing : Packing
  arena : Arena
  files : FileSystem

namespace Session

/-- A session with an empty arena. -/
def start (organ : Organ) (settings : Settings) (packing : Packing) (files : FileSystem) :
    Session :=
  ⟨organ, settings, packing, settings.arena, files⟩

/-- The objects with the world around them. -/
def stage (s : Session) : Stage Object := ⟨s.organ.objects, s.arena, s.files⟩

/-- The path of the cache. -/
def cachePath (s : Session) : String := s.organ.cachePath s.settings

/-- The path, the hash and the packing of the cache. -/
def cacheTarget (s : Session) : CacheTarget := s.organ.cacheTarget s.packing s.settings

/-- Loads every object, from the cache where possible. -/
def load (s : Session) (report : Reporter) (processors : Nat) :
    Except Fault (LoadReport × Session × List Progress) := do
  let store := s.organ.store.refresh s.files
  let (result, stage, trace) ←
    Windchest.load report store s.cacheTarget (s.settings.loadOptions processors) s.stage
  return (result, { s with
    organ := { s.organ with objects := stage.objects }
    arena := stage.arena
    files := stage.files }, trace)

/-- Frees all samples at once. -/
def unload (s : Session) : Session :=
  { s with
    organ := { s.organ with objects := s.organ.objects.map Loadable.reset }
    arena := s.arena.releaseAll }

/-- Whether every object is loaded, so that a cache can be written. -/
def isCacheable (s : Session) : Bool := s.organ.objects.all Loadable.isReady

/-- Writes the cache of the loaded organ.  Gives the number of records. -/
def updateCache (s : Session) (report : Reporter) :
    Except OrganError Nat × Session × List Progress :=
  if s.isCacheable then
    let (result, files, trace) :=
      Windchest.updateCache report [] s.cacheTarget s.settings.packCache s.stage
    (result.mapError .update, { s with files }, trace)
  else (.error .notCacheable, s, [])

/-- Deletes the cache, and tells whether there was one. -/
def deleteCache (s : Session) : Except OrganError (Bool × Session) :=
  match Cache.delete s.files s.cachePath with
  | .ok (deleted, files) => .ok (deleted, { s with files })
  | .error why => .error (.files why)

/-- Whether there is something at the path of the cache. -/
def cachePresent (s : Session) : Bool := s.files.contains s.cachePath

/-- Whether the cache could be used. -/
def cacheStatus (s : Session) : CacheStatus :=
  Cache.probe s.packing s.files s.cachePath s.organ.cacheHash

end Session

end Windchest
