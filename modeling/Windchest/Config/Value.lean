/-
# Windchest.Config.Value -- values in configuration files

The root of a configuration is a table.  Scalars are converted rather freely: what is
wanted as a text may be a number or a truth value, what is wanted as a number may be a text
or a truth value, and numbers are rounded and kept in range.  Nothing, however, is converted
to nothing else, nor is a collection.
-/
import Windchest.Bytes
import Windchest.Decimal.Integer
import Windchest.Decimal.Shortest

namespace Windchest

set_option autoImplicit false

/-- A value in a configuration. -/
inductive Value where
  | null
  | boolean (value : Bool)
  | integer (value : Int)
  | number (value : Double)
  | text (value : String)
  | list (items : List Value)
  /-- Values by name, each name once. -/
  | table (entries : List (String × Value))

namespace Value

/-- The value as a text. -/
def asText? : Value → Option String
  | boolean b => some (toString b)
  | integer n => some (toString n)
  | number x => some x.text
  | text s => some s
  | null | list _ | table _ => none

/-- The words for yes, which a text may say for a number or a truth value, in lower case. -/
def affirmations : List String := ["true", "on", "yes"]

/-- The words for no, in lower case. -/
def denials : List String := ["false", "off", "no"]

/-- The number that a text spells in decimal digits, a plus sign in front if wanted. -/
def wordOf? (text : List Char) : Option Nat :=
  let digits :=
    match text with
    | '+' :: rest => rest
    | rest => rest
  (digits? 10 digits).filter (· ≤ maxWord)

/-- The value as a word of 64 bits. -/
def asWord? : Value → Option Nat
  | boolean b => some b.toNat
  | integer n => if 0 ≤ n then some n.toNat else none
  | number x =>
    if x.negative then some 0 else some (min ((x.magnitude.round?).getD maxWord) maxWord)
  | text s =>
    let lower := String.ofList (s.toList.map Char.toLower)
    if affirmations.contains lower then some 1
    else if denials.contains lower then some 0
    else wordOf? s.toList
  | null | list _ | table _ => none

/-- The value as a truth value. -/
def asBool? : Value → Option Bool
  | boolean b => some b
  | integer n => some (n != 0)
  | number x => some (! x.isZero)
  | text s =>
    let lower := String.ofList (s.toList.map Char.toLower)
    if ("1" :: affirmations).contains lower then some true
    else if ("0" :: denials).contains lower then some false
    else none
  | null | list _ | table _ => none

/-- The value as a number of 32 bits. -/
def asUInt32? (v : Value) : Option UInt32 :=
  (v.asWord?.filter (· < UInt32.size)).map UInt32.ofNat

/-- The value as a list. -/
def asList? : Value → Option (List Value)
  | list items => some items
  | _ => none

/-- The value as a list of structures. -/
def asListOf? {α : Type} (read : Value → Option α) (v : Value) : Option (List α) := do
  (← v.asList?).mapM read

end Value

end Windchest
