/-
# Windchest.Config.Yaml -- configurations in YAML

The program's own library for configurations.  It knows one format, a YAML text whose root
is a mapping.
-/
import Windchest.Config.Library
import Windchest.Files.Path
import Windchest.Text.Repaired
import Windchest.Yaml.Document

namespace Windchest

set_option autoImplicit false

namespace Value

/-- The name that a key of a mapping stands for. -/
def nameOf? : Yaml.Scalar → Option String
  | .null => none
  | .boolean b => some (toString b)
  | .integer n => some (toString n)
  | .real s => some s
  | .text s => some s

/-- The value of a scalar.  The special numbers have none. -/
def ofScalar? : Yaml.Scalar → Option Value
  | .null => some .null
  | .boolean b => some (.boolean b)
  | .integer n => some (.integer n)
  | .real s => (Double.ofText? s).map .number
  | .text s => some (.text s)

/-- Puts a value under a name, in place of one that is there. -/
def put (entries : List (String × Value)) (name : String) (value : Value) :
    List (String × Value) :=
  entries.filter (·.1 != name) ++ [(name, value)]

mutual

/-- The value of a node, if all parts of it have values. -/
def ofNode? : Yaml.Node → Option Value
  | .scalar s => ofScalar? s
  | .sequence items => (ofItems? items).map .list
  | .mapping entries => (ofEntries? [] entries).map .table

/-- The values of nodes. -/
def ofItems? : List Yaml.Node → Option (List Value)
  | [] => some []
  | item :: rest => do
    let value ← ofNode? item
    let values ← ofItems? rest
    return value :: values

/-- The entries of a mapping, behind those that are known.  Of two keys that stand for one name the
later one counts. -/
def ofEntries? (known : List (String × Value)) :
    List (Yaml.Scalar × Yaml.Node) → Option (List (String × Value))
  | [] => some known
  | (key, node) :: rest => do
    let name ← nameOf? key
    let value ← ofNode? node
    ofEntries? (put known name value) rest

end

/-- The root table of a configuration text.  An empty text is an empty table. -/
def parse? (text : String) : Option (List (String × Value)) := do
  match ← Yaml.parse? text with
  | none => some []
  | some node =>
    match ← ofNode? node with
    | .table entries => some entries
    | _ => none

end Value

namespace ConfigLibrary

/-- The text in the bytes of a file, without a mark of the byte order. -/
def textOf (bytes : Bytes) : String :=
  match bytes with
  | 0xef :: 0xbb :: 0xbf :: rest => Text.repaired rest
  | bytes => Text.repaired bytes

/-- The extensions of the files that the program reads. -/
def extensions : List String := ["yaml", "yml"]

/-- The extension of a path, as it is written. -/
def extensionOf? (path : String) : Option String :=
  ((Path.nameOf? '/' '.' path.toList).bind (Path.extensionOf? '.')).map String.ofList

/-- The bytes of the file that a path names: of the very file, which needs a fitting extension, or
else of the file with an extension added. -/
def fileBytes? (fs : FileSystem) (path : String) : Option Bytes :=
  match fs.read path with
  | .ok bytes =>
    if ((extensionOf? path).map extensions.contains).getD false then some bytes else none
  | .error _ => extensions.findSome? fun ext => (fs.read s!"{path}.{ext}").toOption

/-- The library of the program. -/
def yaml : ConfigLibrary where
  ofText := Value.parse?
  ofFile fs path := (fileBytes? fs path).bind fun bytes => Value.parse? (textOf bytes)

end ConfigLibrary

end Windchest
