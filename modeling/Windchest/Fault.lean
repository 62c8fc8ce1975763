/-
# Windchest.Fault -- giving up without an answer

Most failures are answers: a value of an error type.  A `Fault` is the other kind.
A number outgrew a word, a buffer outgrew the address space, or the loader of an
object of another library gave up.  Whoever catches a fault sees its `text`, if it
has one.
-/

namespace Windchest

set_option autoImplicit false

/-- Why a computation ended without an answer. -/
inductive Fault where
  /-- A sum does not fit into a word. -/
  | sumOverflow
  /-- A product does not fit into a word. -/
  | productOverflow
  /-- No buffer can have the wanted size. -/
  | capacity
  /-- The computation was given up on purpose, with or without a text. -/
  | raised (text : Option String)
deriving DecidableEq, Repr

/-- The text that a fault carries. -/
def Fault.text : Fault → Option String
  | .sumOverflow => some "attempt to add with overflow"
  | .productOverflow => some "attempt to multiply with overflow"
  | .capacity => some "capacity overflow"
  | .raised text => text

/-- Either way of not producing a value: an error, or no answer at all. -/
inductive Failure (ε : Type) where
  | error (e : ε)
  | fault (f : Fault)
deriving DecidableEq, Repr

/-- The same failure, where errors are of another type. -/
def Failure.map {ε ε' : Type} (f : ε → ε') : Failure ε → Failure ε'
  | .error e => .error (f e)
  | .fault why => .fault why

end Windchest
