/-
# Windchest.Decimal.Integer -- integers from their digits
-/

namespace Windchest

set_option autoImplicit false

/-- The value of a digit in a base, letters counting on from ten. -/
def digitValue? (base : Nat) (c : Char) : Option Nat :=
  let value :=
    if c.isDigit then c.toNat - 48
    else if c.isAlpha then c.toLower.toNat - 87
    else base
  if value < base then some value else none

/-- The number that digits spell; at least one digit is needed. -/
def digits? (base : Nat) (text : List Char) : Option Nat :=
  if text.isEmpty then none
  else text.foldlM (fun n c => (digitValue? base c).map (base * n + ·)) 0

/-- The integer of 64 bits that digits spell, a sign in front if wanted. -/
def integer? (base : Nat) (text : List Char) : Option Int :=
  let value? :=
    match text with
    | '-' :: rest => (digits? base rest).map fun n => -(n : Int)
    | '+' :: rest => (digits? base rest).map fun n => (n : Int)
    | rest => (digits? base rest).map fun n => (n : Int)
  value?.filter fun n => Int64.minValue.toInt ≤ n ∧ n ≤ Int64.maxValue.toInt

end Windchest
