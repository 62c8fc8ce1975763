/-
# Windchest.Text.Quantity -- sizes and times as users read them
-/
import Windchest.Decimal.Double

namespace Windchest.Text

set_option autoImplicit false

/-- The number with all but its first 53 binary digits rounded away. -/
def roundToDouble (n : Nat) : Nat :=
  let unit := 1 <<< (Nat.log2 n - 52)
  roundDiv n unit * unit

/-- A number of bytes in units of 2^20, with one decimal. -/
def mebibytes (bytes : Nat) : String :=
  let tenths := roundDiv (10 * roundToDouble bytes) (1 <<< 20)
  s!"{tenths / 10}.{tenths % 10} MB"

/-- Whole seconds as minutes and two digits of seconds. -/
def minutes (seconds : Nat) : String :=
  let s := seconds % 60
  let padding := if s < 10 then "0" else ""
  s!"{seconds / 60}:{padding}{s}"

end Windchest.Text
