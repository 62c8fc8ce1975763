/-
# Windchest.Config.Error -- why a definition or settings cannot be used
-/
import Windchest.Files.System

namespace Windchest

set_option autoImplicit false

/-- What keeps a definition or settings from being used. -/
inductive ConfigError where
  /-- There is no such file, its text is malformed, or it says what it must not. -/
  | load
  | unreadable (path : String) (why : FileError)
  /-- A pipe, counted from one, has no attacks. -/
  | noAttacks (pipe : Nat) (rank : String)
deriving DecidableEq, Repr

/-- What the user reads about a definition or settings that cannot be used. -/
def ConfigError.message : ConfigError → String
  | .load => "Config load/parse error: the text does not fit"
  | .unreadable path why => s!"Unable to read {path}: {why.message}"
  | .noAttacks pipe rank =>
    s!"Invalid sample set definition: pipe {pipe} of rank {rank} has no attacks"

end Windchest
