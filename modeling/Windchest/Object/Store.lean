/-
# Windchest.Object.Store -- the recordings in sample files

A store has the sample files of an organ and the library that understands them.  Which
formats there are is the library's matter; all it is given is the content of a file and
the extension of its name.
-/
import Windchest.Audio.Library
import Windchest.Object.Error

namespace Windchest

set_option autoImplicit false

/-- Where the recordings of an organ come from. -/
structure Store where
  source : FileSource
  library : Library

namespace Store

/-- The store with the files that there are now. -/
def refresh (files : FileSystem) (store : Store) : Store :=
  { store with source := store.source.refresh files }

/-- The recording in the named file. -/
def recording (store : Store) (file : String) : Except (Failure LoadError) Recording :=
  match store.source.fetch file with
  | .error why => .error (.error (.unopened file why))
  | .ok bytes =>
    (store.library.decode bytes (Path.extension? file)).mapError (Failure.map (.undecodable file))

end Store

end Windchest
