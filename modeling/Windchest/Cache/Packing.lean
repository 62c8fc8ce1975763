/-
# Windchest.Cache.Packing -- packed streams

How a stream is packed is the business of a library.  All that is known here is how a packed
stream begins, since a cache may be packed or not.  Unpacking goes from the front and yields
the content up to the first thing that makes no sense, and tells whether there was one.  What
has been put out of a stream that is never finished is up to the library, and nothing is
known of it.
-/
import Windchest.Bytes

namespace Windchest

set_option autoImplicit false

/-- A way to pack streams. -/
structure Packing where
  pack : Bytes → Bytes
  /-- What has been put out when the stream breaks off behind some content. -/
  begun : Bytes → Bytes
  /-- The content up to the first thing that makes no sense, and whether there was one. -/
  unpack : Bytes → Bytes × Bool

namespace Packing

/-- The first bytes of a packed stream. -/
def magic : Bytes := [0x28, 0xB5, 0x2F, 0xFD]

/-- What is packed is marked as such, and unpacking undoes it. -/
structure Lawful (p : Packing) : Prop where
  marked : ∀ content, (p.pack content).take 4 = magic
  unpack_pack : ∀ content, p.unpack (p.pack content) = (content, false)

end Packing

end Windchest
