/-
# Windchest.Decimal.Double -- double precision numbers and the decimals they come from

A finite number is a natural number of at most 53 binary digits times a power of two.
A decimal stands for the number that is nearest to it; between two that are equally
near it stands for the one with the even mantissa.  Decimals beyond the largest
number stand for infinity.
-/

namespace Windchest

set_option autoImplicit false

/-- The quotient, rounded to the nearest number; a half goes to the even neighbour. -/
def roundDiv (a b : Nat) : Nat :=
  let q := a / b
  let twice := 2 * (a % b)
  if twice < b then q else if b < twice then q + 1 else q + q % 2

/-- How far a double precision number is from zero. -/
inductive Magnitude where
  /-- The number `mantissa * 2 ^ exponent`. -/
  | finite (mantissa : Nat) (exponent : Int)
  | infinite
deriving DecidableEq, Repr

namespace Magnitude

/-- The exponent of the least numbers. -/
def leastExponent : Int := -1074

/-- The exponent of the largest numbers. -/
def largestExponent : Int := 971

/-- The double precision number next to a fraction. -/
def nearest (num den : Nat) : Magnitude :=
  let guess : Int := (num.log2 : Int) - den.log2 - 52
  -- The fraction in units of 2 ^ e, as a numerator and a denominator.
  let scaled (e : Int) : Nat × Nat := (num <<< (-e).toNat, den <<< e.toNat)
  let (n, d) := scaled guess
  let e := max (if n < d <<< 52 then guess - 1 else guess) leastExponent
  let (n, d) := scaled e
  let m := roundDiv n d
  let (m, e) := if m = 1 <<< 53 then (1 <<< 52, e + 1) else (m, e)
  if largestExponent < e then infinite else finite m e

/-- The whole number next to a magnitude; a half goes up.  Infinity has none. -/
def round? : Magnitude → Option Nat
  | infinite => none
  | finite m e =>
    if 0 ≤ e then some (m <<< e.toNat)
    else
      let unit := 1 <<< (-e).toNat
      some ((2 * m + unit) / (2 * unit))

end Magnitude

/-- A double precision number, infinities included. -/
structure Double where
  negative : Bool
  magnitude : Magnitude
deriving DecidableEq, Repr

namespace Double

/-- Whether a number is zero, of either sign. -/
def isZero (x : Double) : Bool :=
  match x.magnitude with
  | .finite 0 _ => true
  | _ => false

/-- The number next to `digits * 10 ^ exponent`.  So large an exponent that only the limits of
the range matter is not worked out. -/
def ofDecimal (negative : Bool) (digits : Nat) (exponent : Int) : Double :=
  let places : Int := (Nat.toDigits 10 digits).length + exponent
  let magnitude :=
    if digits = 0 ∨ places < -400 then .finite 0 Magnitude.leastExponent
    else if 400 < places then .infinite
    else .nearest (digits * Nat.pow 10 exponent.toNat) (Nat.pow 10 (-exponent).toNat)
  ⟨negative, magnitude⟩

/-- The digits at the front of a text, as a number and their count, and what follows. -/
def takeDigits (text : List Char) : Nat × Nat × List Char :=
  let digits := text.takeWhile Char.isDigit
  (digits.foldl (fun n c => 10 * n + (c.toNat - 48)) 0, digits.length,
    text.dropWhile Char.isDigit)

/-- The exponent that a text spells, the mark of exponents included; no text is exponent zero. -/
def readExponent? : List Char → Option Int
  | [] => some 0
  | mark :: rest =>
    if mark = 'e' ∨ mark = 'E' then
      let (negative, rest) :=
        match rest with
        | '-' :: rest => (true, rest)
        | '+' :: rest => (false, rest)
        | rest => (false, rest)
      match takeDigits rest with
      | (n, _ + 1, []) => some (if negative then -n else n)
      | _ => none
    else none

/-- The number that a decimal spells: digits, with a point anywhere among them, a sign in front
and an exponent behind if wanted. -/
def ofText? (text : String) : Option Double :=
  let (negative, rest) :=
    match text.toList with
    | '-' :: rest => (true, rest)
    | '+' :: rest => (false, rest)
    | rest => (false, rest)
  let (whole, wholeCount, rest) := takeDigits rest
  let (part, partCount, rest) :=
    match rest with
    | '.' :: rest => takeDigits rest
    | rest => (0, 0, rest)
  if wholeCount + partCount = 0 then none
  else
    (readExponent? rest).map fun e =>
      ofDecimal negative (whole * Nat.pow 10 partCount + part) (e - partCount)

end Double

end Windchest
