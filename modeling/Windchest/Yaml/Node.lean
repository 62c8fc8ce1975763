/-
# Windchest.Yaml.Node -- what a YAML text says

A node is a scalar, a sequence or a mapping.  A scalar written without quotes says by
its form what it is: nothing, a truth value, an integer of 64 bits, a number, or else
a text.  Quotes always make a text, and a tag overrules the form.
-/
import Windchest.Decimal.Double
import Windchest.Decimal.Integer

namespace Windchest.Yaml

set_option autoImplicit false

/-- A single value. -/
inductive Scalar where
  | null
  | boolean (value : Bool)
  | integer (value : Int)
  /-- A number that is no integer of 64 bits, as it is written. -/
  | real (text : String)
  | text (value : String)
deriving DecidableEq, Repr

/-- A value with its parts.  The keys of a mapping are in the order of the text, and differ. -/
inductive Node where
  | scalar (value : Scalar)
  | sequence (items : List Node)
  | mapping (entries : List (Scalar × Node))
deriving Repr

/-- The node that says nothing. -/
def Node.null : Node := .scalar .null

/-- The integer that a plain scalar is, in one of its notations. -/
def plainInteger? (text : List Char) : Option Int :=
  let marked :=
    match text with
    | '0' :: 'x' :: rest => integer? 16 rest
    | '0' :: 'o' :: rest => integer? 8 rest
    | '+' :: rest => integer? 10 rest
    | _ => none
  marked <|> integer? 10 text

/-- The spellings of infinity and of what is no number. -/
def specialReals : List String :=
  [".inf", ".Inf", ".INF", "+.inf", "+.Inf", "+.INF", "-.inf", "-.Inf", "-.INF",
    ".nan", ".NaN", ".NAN"]

/-- Whether a text is a number that is no integer. -/
def isReal (text : String) : Bool := specialReals.contains text || (Double.ofText? text).isSome

/-- The scalar that a text without quotes is. -/
def Scalar.ofPlain (text : String) : Scalar :=
  if ["", "~", "null"].contains text then .null
  else if ["true", "True", "TRUE"].contains text then .boolean true
  else if ["false", "False", "FALSE"].contains text then .boolean false
  else
    match plainInteger? text.toList with
    | some n => .integer n
    | none => if isReal text then .real text else .text text

/-- A tag, as far as it matters. -/
inductive Tag where
  /-- A tag of the basic kinds, by its name. -/
  | basic (name : String)
  | other
deriving DecidableEq, Repr

/-- The scalar that a text without quotes is under a tag.  A text that does not fit says nothing. -/
def Scalar.ofTagged (tag : Tag) (text : String) : Scalar :=
  match tag with
  | .basic "bool" =>
    if text = "true" then .boolean true else if text = "false" then .boolean false else .null
  | .basic "int" => ((integer? 10 text.toList).map Scalar.integer).getD .null
  | .basic "float" => if isReal text then .real text else .null
  | .basic "null" => .null
  | _ => .text text

end Windchest.Yaml
