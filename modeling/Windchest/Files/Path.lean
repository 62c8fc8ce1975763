/-
# Windchest.Files.Path -- path texts

A path text is a row of segments between slashes.  Empty segments and single dots
say nothing; two dots are no name.  Definitions may write backslashes for slashes.
Paths need not be text in UTF-8, so names are found in rows of any symbols.
-/
import Windchest.Bytes

namespace Windchest.Path

set_option autoImplicit false

variable {α : Type} [BEq α]

/-- The segments of a row between the given separators. -/
def segments (separator : α) : List α → List (List α)
  | [] => [[]]
  | a :: rest =>
    match segments separator rest with
    | [] => [[a]]
    | first :: more => if a == separator then [] :: first :: more else (a :: first) :: more

/-- The last segment that says something, if it is a name. -/
def nameOf? (slash dot : α) (path : List α) : Option (List α) :=
  match ((segments slash path).filter fun s => ! s.isEmpty && s != [dot]).getLast? with
  | some name => if name == [dot, dot] then none else some name
  | none => none

/-- What stands behind the last dot of a name, unless the dot is its only start. -/
def extensionOf? (dot : α) (name : List α) : Option (List α) :=
  let ext := (name.reverse.takeWhile (· != dot)).reverse
  if name.length ≤ ext.length + 1 then none else some ext

/-- The name at the end of a path. -/
def fileName? (path : Bytes) : Option Bytes := nameOf? 47 46 path

/-- The name at the end of a path, or an excuse for one that cannot be shown. -/
def display (path : Bytes) : String :=
  ((fileName? path).bind Bytes.toText?).getD "unreadable file name"

/-- The name in a definition, with slashes for backslashes. -/
def normalize (name : String) : String :=
  String.ofList (name.toList.map fun c => if c = '\\' then '/' else c)

/-- The extension of a name in a definition, lower case as far as ASCII goes. -/
def extension? (name : String) : Option String :=
  ((nameOf? '/' '.' (normalize name).toList).bind (extensionOf? '.')).map fun ext =>
    String.ofList (ext.map Char.toLower)

/-- Whether the path starts at the root. -/
def isAbsolute (path : String) : Bool := path.startsWith "/"

/-- The path of `name` seen from the directory `base`. -/
def join (base name : String) : String :=
  if isAbsolute name || base.isEmpty then name
  else if base.endsWith "/" then base ++ name
  else base ++ "/" ++ name

/-- Drops separators and single dots from the front of a reversed path. -/
def trim : List Char → List Char
  | '/' :: rest => trim rest
  | '.' :: '/' :: rest => trim ('/' :: rest)
  | rest => rest

/-- The directory that a path lies in, as text; empty if there is none, or none is named. -/
def parent (path : String) : String :=
  let body := trim path.toList.reverse
  let front := trim (body.dropWhile (· != '/'))
  if ! body.isEmpty && front.isEmpty && isAbsolute path then "/" else String.ofList front.reverse

end Windchest.Path
