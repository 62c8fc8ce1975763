/-
# Windchest.Main -- the program

The program takes a picture of the files that its command is about, carries the command
out on that picture, and then makes the files as the picture has them afterwards.
-/
import Windchest.Command.Scope

namespace Windchest

set_option autoImplicit false

/-- What lies at a place on disk. -/
def observeNode (place : Place) : IO (Option FileNode) := do
  try
    let content ← IO.FS.readBinFile (FileSystem.placeText place)
    return some (.file content.toList)
  catch why =>
    match why with
    | .inappropriateType .. => return some .directory
    | _ => return none

/-- Adds to a picture what lies on the way from a place along segments. -/
def observeAlong (files : FileSystem) : Place → List String → IO FileSystem
  | _, [] => return files
  | place, s :: rest => do
    if s = "" ∨ s = "." then observeAlong files place rest
    else if s = ".." then observeAlong files place.dropLast rest
    else
      let next := place ++ [s]
      match ← observeNode next with
      | some node => observeAlong (files.put next node) next rest
      | none => return files

/-- Adds what lies at a path, and above it. -/
def observe (files : FileSystem) (path : String) : IO FileSystem :=
  let start := if Path.isAbsolute path then [] else files.working
  observeAlong files start ((Path.segments '/' path.toList).map String.ofList)

/-- Makes the files on disk as they are in a picture, given an earlier one. -/
def restore (before after : FileSystem) : IO Unit := do
  for (place, node) in after.nodes.reverse do
    if before.at? place ≠ some node then
      match node with
      | .directory => IO.FS.createDirAll (FileSystem.placeText place)
      | .file content =>
        IO.FS.writeBinFile (FileSystem.placeText place) ⟨content.toArray⟩
  for (place, _) in before.nodes do
    if after.at? place = none then IO.FS.removeFile (FileSystem.placeText place)

/-- The picture of the files that a request is about. -/
def picture (request : Request) : IO FileSystem := do
  let here := (← IO.currentDir).toString
  let start ← observe {} here
  let start := { start with working := (start.locate here).toOption.getD [] }
  -- The definition has to be known before it says which files come next.
  let named ← (request.paths start).foldlM observe start
  (request.paths named).foldlM observe named

end Windchest

open Windchest in
/-- Carries out a command line. -/
def main (arguments : List String) : IO UInt32 := do
  let request := Request.ofArguments arguments
  let files ← picture request
  let started ← IO.monoMsNow
  let reply := request.run .own 1 files
  restore files reply.files
  let seconds := ((← IO.monoMsNow) - started) / 1000
  for line in reply.output do
    IO.println (line.render seconds)
  match reply.errorLine? with
  | some line => IO.eprintln line
  | none => pure ()
  return reply.exitCode
