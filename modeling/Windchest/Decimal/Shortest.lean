/-
# Windchest.Decimal.Shortest -- the fewest digits that name a number

A double precision number is written with the fewest digits that read back as the
same number, and with those nearest to it among equally many.  The decimals that read
back are those between the middles of the gaps to its neighbours, the ends included if
its mantissa is even.  If a decimal grid has a point there at all, it has one of the
two points around the number there, so only those are looked at.
-/
import Windchest.Decimal.Double

namespace Windchest

set_option autoImplicit false

namespace Double

/-- The number `digits * 10 ^ exponent`. -/
structure Decimal where
  digits : Nat
  exponent : Int
deriving DecidableEq, Repr

/-- The point on the grid of multiples of `10 ^ e` that reads back as `m * 2 ^ q`, if there is
one; the nearer one of two, and the upper one of two that are equally near. -/
def onGrid? (m : Nat) (q e : Int) : Option Decimal :=
  -- The widths of the grid and of a quarter of the number's last binary place, in a common unit.
  let grid := Nat.pow 10 e.toNat <<< (2 - q).toNat
  let quarter := Nat.pow 10 (-e).toNat <<< (q - 2).toNat
  let below := if m = 1 <<< 52 ∧ Magnitude.leastExponent < q then 1 else 2
  let value := 4 * m * quarter
  let low := (4 * m - below) * quarter
  let high := (4 * m + 2) * quarter
  let reads (c : Nat) : Bool :=
    if m % 2 = 0 then low ≤ c * grid && c * grid ≤ high else low < c * grid && c * grid < high
  let c := value / grid
  match reads c, reads (c + 1) with
  | true, true => some ⟨if 2 * (value % grid) < grid then c else c + 1, e⟩
  | true, false => some ⟨c, e⟩
  | false, true => some ⟨c + 1, e⟩
  | false, false => none

/-- Whether `m * 2 ^ q` lies below `10 ^ e`. -/
def isBelow (m : Nat) (q e : Int) : Bool :=
  m * Nat.pow 10 (-e).toNat <<< q.toNat < Nat.pow 10 e.toNat <<< (-q).toNat

/-- The number of digits in front of the point of `m * 2 ^ q`; negative if it starts with zeros
behind the point. -/
def places (m : Nat) (q : Int) : Int :=
  let guess := ((m.log2 : Int) + q) * 30103 / 100000
  if isBelow m q guess then guess
  else if isBelow m q (guess + 1) then guess + 1
  else guess + 2

/-- The shortest decimal that reads back as `m * 2 ^ q`, for a positive `m`. -/
def shortest (m : Nat) (q : Int) : Decimal :=
  let p := places m q
  ((List.range 17).findSome? fun (count : Nat) => onGrid? m q (p - (count + 1))).getD ⟨0, 0⟩

/-- A decimal without an exponent, and without zeros at its end behind the point. -/
def Decimal.text (d : Decimal) : String :=
  let digits := Nat.toDigits 10 d.digits
  let places := (-d.exponent).toNat
  let digits := digits ++ List.replicate d.exponent.toNat '0'
  let digits := List.replicate (places + 1 - digits.length) '0' ++ digits
  let whole := digits.take (digits.length - places)
  let part := (((digits.drop (digits.length - places)).reverse.dropWhile (· == '0')).reverse)
  String.ofList (if part.isEmpty then whole else whole ++ '.' :: part)

/-- The number as users read it, with the fewest digits and never with an exponent. -/
def text (x : Double) : String :=
  let sign := if x.negative then "-" else ""
  match x.magnitude with
  | .infinite => sign ++ "inf"
  | .finite 0 _ => sign ++ "0"
  | .finite m q => sign ++ (shortest m q).text

end Double

end Windchest
