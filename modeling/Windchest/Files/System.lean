/-
# Windchest.Files.System -- directories and files

A file system is a value: nodes at absolute places, and a working directory that
relative paths start from.  A path is followed segment by segment; every segment
but the last has to be a directory that exists.

Some things are beyond whoever works on files: a path may be too long to be followed, and
the system may refuse to write a file at a place, or to remove the one that is there.
-/
import Windchest.Files.Path

namespace Windchest

set_option autoImplicit false

/-- Why an operation on files failed. -/
inductive FileError where
  | notFound
  | notADirectory
  | isADirectory
  | alreadyExists
  | notEmpty
  | denied
  | tooLong
  /-- The bytes are no text in UTF-8. -/
  | notText
deriving DecidableEq, Repr

/-- What the user reads about a failed operation on files. -/
def FileError.message : FileError → String
  | .notFound => "No such file or directory (os error 2)"
  | .notADirectory => "Not a directory (os error 20)"
  | .isADirectory => "Is a directory (os error 21)"
  | .alreadyExists => "File exists (os error 17)"
  | .notEmpty => "Directory not empty (os error 39)"
  | .denied => "Operation not permitted (os error 1)"
  | .tooLong => "File name too long (os error 36)"
  | .notText => "stream did not contain valid UTF-8"

/-- A place in a file system: the names from the root down. -/
abbrev Place := List String

/-- What lies at a place. -/
inductive FileNode where
  | directory
  | file (content : Bytes)
deriving DecidableEq, Repr

/-- A file system. -/
structure FileSystem where
  /-- What lies where.  The root is always a directory. -/
  nodes : List (Place × FileNode) := []
  /-- Where relative paths start. -/
  working : Place := []
  /-- Where the system refuses to write files. -/
  closed : List Place := []
  /-- Where the system refuses to remove files. -/
  kept : List Place := []

namespace FileSystem

/-- What lies at a place. -/
def at? (fs : FileSystem) (place : Place) : Option FileNode :=
  if place.isEmpty then some .directory else fs.nodes.lookup place

/-- The file system with a node put at a place. -/
def put (fs : FileSystem) (place : Place) (node : FileNode) : FileSystem :=
  { fs with nodes := (place, node) :: fs.nodes.filter fun p => p.1 != place }

/-- The file system without what lies at a place. -/
def erase (fs : FileSystem) (place : Place) : FileSystem :=
  { fs with nodes := fs.nodes.filter fun p => p.1 != place }

/-- Whether something lies below a place. -/
def hasChildren (fs : FileSystem) (place : Place) : Bool :=
  fs.nodes.any fun p => place.length < p.1.length && p.1.take place.length == place

/-- Fails unless a directory lies at the place. -/
def enter (fs : FileSystem) (place : Place) : Except FileError Unit :=
  match fs.at? place with
  | some .directory => .ok ()
  | some (.file _) => .error .notADirectory
  | none => .error .notFound

/-- The place that segments lead to from a place. -/
def follow (fs : FileSystem) : Place → List String → Except FileError Place
  | place, [] => .ok place
  | place, s :: rest =>
    match fs.enter place with
    | .error e => .error e
    | .ok () =>
      if s = "" || s = "." then fs.follow place rest
      else if s = ".." then fs.follow place.dropLast rest
      else fs.follow (place ++ [s]) rest

/-- The most bytes of a path that is followed. -/
def maxPath : Nat := 4095

/-- The place that a path text means.  Its last segment need not exist. -/
def locate (fs : FileSystem) (path : String) : Except FileError Place :=
  if path.isEmpty then .error .notFound
  else if maxPath < path.utf8ByteSize then .error .tooLong
  else
    let start := if Path.isAbsolute path then [] else fs.working
    fs.follow start ((Path.segments '/' path.toList).map String.ofList)

/-- The node that a path text means. -/
def stat (fs : FileSystem) (path : String) : Except FileError FileNode := do
  let place ← fs.locate path
  match fs.at? place with
  | some node => .ok node
  | none => .error .notFound

/-- Whether something lies at the path. -/
def contains (fs : FileSystem) (path : String) : Bool := (fs.stat path).toBool

/-- Whether a directory lies at the path. -/
def isDirectory (fs : FileSystem) (path : String) : Bool :=
  match fs.stat path with
  | .ok .directory => true
  | _ => false

/-- The content of a file. -/
def read (fs : FileSystem) (path : String) : Except FileError Bytes := do
  match ← fs.stat path with
  | .file content => .ok content
  | .directory => .error .isADirectory

/-- The content of a file, as text. -/
def readText (fs : FileSystem) (path : String) : Except FileError String := do
  match Bytes.toText? (← fs.read path) with
  | some text => .ok text
  | none => .error .notText

/-- The absolute path text of a place. -/
def placeText (place : Place) : String :=
  if place.isEmpty then "/" else String.join (place.map fun s => "/" ++ s)

/-- The absolute path of something that exists, without detours. -/
def canonical (fs : FileSystem) (path : String) : Except FileError String := do
  let place ← fs.locate path
  if (fs.at? place).isSome then .ok (placeText place) else .error .notFound

/-- Creates the file or replaces its content. -/
def write (fs : FileSystem) (path : String) (content : Bytes) : Except FileError FileSystem := do
  let place ← fs.locate path
  fs.enter place.dropLast
  match fs.at? place with
  | some .directory => .error .isADirectory
  | _ => if place ∈ fs.closed then .error .denied else .ok (fs.put place (.file content))

/-- Removes a file. -/
def removeFile (fs : FileSystem) (path : String) : Except FileError FileSystem := do
  let place ← fs.locate path
  match fs.at? place with
  | some (.file _) => if place ∈ fs.kept then .error .denied else .ok (fs.erase place)
  | some .directory => .error .isADirectory
  | none => .error .notFound

/-- Creates a directory. -/
def makeDirectory (fs : FileSystem) (path : String) : Except FileError FileSystem := do
  let place ← fs.locate path
  fs.enter place.dropLast
  if (fs.at? place).isSome then .error .alreadyExists else .ok (fs.put place .directory)

/-- Removes a directory that is empty. -/
def removeDirectory (fs : FileSystem) (path : String) : Except FileError FileSystem := do
  let place ← fs.locate path
  fs.enter place
  if fs.hasChildren place then .error .notEmpty else .ok (fs.erase place)

/-- Creates the directories that segments lead through, as far as they are missing. -/
def makePath (fs : FileSystem) : Place → List String → Except FileError FileSystem
  | _, [] => .ok fs
  | place, s :: rest =>
    if s = "" || s = "." then fs.makePath place rest
    else if s = ".." then fs.makePath place.dropLast rest
    else
      let next := place ++ [s]
      match fs.at? next with
      | some .directory => fs.makePath next rest
      | some (.file _) => .error (if rest.isEmpty then .alreadyExists else .notADirectory)
      | none => (fs.put next .directory).makePath next rest

/-- Creates a directory and all those above it, as far as they are missing. -/
def makeDirectories (fs : FileSystem) (path : String) : Except FileError FileSystem :=
  if maxPath < path.utf8ByteSize then .error .tooLong
  else
    let start := if Path.isAbsolute path then [] else fs.working
    fs.makePath start ((Path.segments '/' path.toList).map String.ofList)

end FileSystem

end Windchest
