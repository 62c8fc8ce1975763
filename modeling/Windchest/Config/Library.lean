/-
# Windchest.Config.Library -- the library that reads configurations

Definitions and settings are read by a library, which knows several formats.  A text that is
read as such is YAML.  For a file, the library finds out from its path which file is meant
and what its format is.
-/
import Windchest.Config.Value
import Windchest.Files.System

namespace Windchest

set_option autoImplicit false

/-- What reads configurations: their root tables, unless something does not fit. -/
structure ConfigLibrary where
  /-- The table in a YAML text. -/
  ofText : String → Option (List (String × Value))
  /-- The table in the file that a path names. -/
  ofFile : FileSystem → String → Option (List (String × Value))

end Windchest
