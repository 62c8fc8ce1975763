/-
# Windchest.Audio.Known -- the formats that the program knows

The program's own library knows wave files, and interchange files of one kind.  The content
of a file alone decides on its format; its name does not matter.
-/
import Windchest.Audio.Aiff

namespace Windchest

set_option autoImplicit false

/-- The library of the program. -/
def Library.known : Library := fun file _ => .ok ((Aiff.open? file).or (Wave.open? file))

end Windchest
