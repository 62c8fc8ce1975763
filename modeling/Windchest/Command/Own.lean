/-
# Windchest.Command.Own -- the libraries of the program

What is known of packing, sounds and configurations elsewhere holds for any libraries.  The
program brings its own.
-/
import Windchest.Audio.Known
import Windchest.Cache.Blocks
import Windchest.Command.Run
import Windchest.Config.Yaml

namespace Windchest

set_option autoImplicit false

/-- The libraries of the program. -/
def Libraries.own : Libraries := ⟨.blocks, .known, .yaml⟩

end Windchest
