/-
# Windchest.Command.Scope -- the files that a command is about

A command looks only at files that its arguments, the settings and the definition name.
So it may be carried out on a picture of these files alone.
-/
import Windchest.Command.Own

namespace Windchest

set_option autoImplicit false

/-- The names of an organ's sample files. -/
def Organ.sampleFiles (o : Organ) : List String :=
  o.objects.flatMap fun
    | .pipe p => (p.attackFiles ++ p.releaseFiles).map (·.file)
    | .tremulant _ => []

/-- The paths of an organ's sample files on disk. -/
def Organ.samplePaths (o : Organ) : List String :=
  match o.store.source with
  | .memory _ => []
  | .directory root _ => o.sampleFiles.map (FileSource.resolve root)

/-- The paths that the arguments of a command name. -/
def OrganArguments.paths (a : OrganArguments) : List String :=
  let config := a.config.toList.flatMap fun path =>
    path :: ConfigLibrary.extensions.map fun ext => s!"{path}.{ext}"
  a.definition :: config

/-- The paths that a command is about, as far as the files known so far tell. -/
def Request.paths (request : Request) (files : FileSystem) : List String :=
  match request with
  | .perform _ a =>
    match a.open .own files with
    | .ok s => a.paths ++ s.organ.samplePaths ++ [s.cachePath]
    | .error _ => a.paths
  | _ => []

end Windchest
