/-
# Windchest.Files.Source -- where sample files come from

A definition names its sample files; where their bytes come from is the source's
matter.  One kind of source holds its members in memory, the other looks below a
directory.  Names are normalized first, so backslashes work as slashes do.
-/
import Windchest.Files.System

namespace Windchest

set_option autoImplicit false

/-- Why a source has no bytes for a name. -/
inductive SourceError where
  /-- No member in memory has the name. -/
  | noMember (name : String)
  /-- The file on disk could not be opened. -/
  | file (path : String) (why : FileError)
deriving DecidableEq, Repr

namespace SourceError

/-- What the user reads about a file that could not be opened. -/
def message : SourceError → String
  | .noMember name => s!"{name}: not found"
  | .file path why => s!"{path}: {why.message}"

/-- The kind of failure. -/
def kind : SourceError → FileError
  | .noMember _ => .notFound
  | .file _ why => why

end SourceError

/-- A source of sample files. -/
inductive FileSource where
  /-- Members in memory, by normalized name; the last of a name counts. -/
  | memory (members : List (String × Bytes))
  /-- The files below a directory. -/
  | directory (root : String) (files : FileSystem)

namespace FileSource

/-- Members in memory. -/
def ofMembers (members : List (String × Bytes)) : FileSource :=
  .memory (members.map fun m => (Path.normalize m.1, m.2))

/-- The source with the files that there are now. -/
def refresh (files : FileSystem) : FileSource → FileSource
  | .memory members => .memory members
  | .directory root _ => .directory root files

/-- The path on disk of a name in a definition, seen from the directory `root`. -/
def resolve (root name : String) : String := Path.join root (Path.normalize name)

/-- The bytes of the named file.  A directory can be opened, but has none. -/
def fetch (source : FileSource) (name : String) : Except SourceError Bytes :=
  match source with
  | .memory members =>
    match members.reverse.lookup (Path.normalize name) with
    | some bytes => .ok bytes
    | none => .error (.noMember (Path.normalize name))
  | .directory root files =>
    let path := resolve root name
    match files.stat path with
    | .ok (.file bytes) => .ok bytes
    | .ok .directory => .ok []
    | .error why => .error (.file path why)

end FileSource

end Windchest
