/-
# Windchest.Command.Arguments -- what the command line asks for

There are four commands, which all take the path of a definition and the same two
options.  The value of an option follows it as an argument of its own, which must not
look like an option, or stands behind it in the same argument.  Help is given as soon
as it is asked for.
-/
import Windchest.Decimal.Integer

namespace Windchest

set_option autoImplicit false

/-- What to do with an organ. -/
inductive Verb where
  | load
  | updateCache
  | deleteCache
  | info
deriving DecidableEq, Repr

namespace Verb

/-- All commands, in the order of the help text. -/
def all : List Verb := [load, updateCache, deleteCache, info]

/-- The name of a command. -/
def name : Verb → String
  | load => "load"
  | updateCache => "update-cache"
  | deleteCache => "delete-cache"
  | info => "info"

/-- The command with a name. -/
def ofName? (name : String) : Option Verb := all.find? fun v => v.name = name

/-- What a command is for. -/
def purpose : Verb → String
  | load => "Loads an organ, from its cache where possible"
  | updateCache => "Loads an organ and writes a fresh cache for it"
  | deleteCache => "Deletes the cache of an organ"
  | info => "Shows an organ's objects and the state of its cache"

end Verb

/-- The arguments of a command. -/
structure OrganArguments where
  definition : String
  config : Option String := none
  preset : Option UInt32 := none
deriving DecidableEq, Repr

/-- What a command line asks for. -/
inductive Request where
  | perform (verb : Verb) (arguments : OrganArguments)
  /-- Help on a command, or on all of them. -/
  | help (verb : Option Verb)
  | version
  /-- A command line that asks for nothing that there is. -/
  | misuse
deriving DecidableEq, Repr

/-- The options of the commands. -/
inductive Flag where
  | config
  | preset
deriving DecidableEq, Repr

/-- What has been read of the arguments of a command. -/
structure PartialArguments where
  definition : Option String := none
  config : Option String := none
  preset : Option UInt32 := none

namespace Arguments

/-- The preset that a text spells. -/
def preset? (text : String) : Option UInt32 :=
  ((integer? 10 text.toList).filter fun n => 0 ≤ n ∧ n < (UInt32.size : Int)).map fun n =>
    .ofNat n.toNat

/-- Gives a value to an option that has none yet. -/
def give (a : PartialArguments) (flag : Flag) (value : String) : Option PartialArguments :=
  match flag with
  | .config =>
    if a.config.isSome ∨ value.isEmpty then none else some { a with config := some value }
  | .preset =>
    if a.preset.isSome then none else (preset? value).map fun p => { a with preset := some p }

/-- Takes an argument that is no option. -/
def place (a : PartialArguments) (value : String) : Option PartialArguments :=
  if a.definition.isSome ∨ value.isEmpty then none else some { a with definition := some value }

/-- What an argument is. -/
inductive Kind where
  | value
  /-- From here on there are no options. -/
  | separator
  | help
  /-- An option, with its value if it stands in the same argument. -/
  | flag (flag : Flag) (value : Option String)
  | unknown
deriving DecidableEq, Repr

/-- What an option in one letter is, given what stands behind the letter. -/
def shortKind (letter : Char) (behind : List Char) : Kind :=
  let value : Option String :=
    match behind with
    | [] => none
    | '=' :: value => some (String.ofList value)
    | value => some (String.ofList value)
  if letter = 'h' then .help
  else if letter = 'c' then .flag .config value
  else if letter = 'p' then .flag .preset value
  else .unknown

/-- What an option in full is. -/
def longKind (text : List Char) : Kind :=
  let name := String.ofList (text.takeWhile (· != '='))
  let value :=
    match text.dropWhile (· != '=') with
    | _ :: value => some (String.ofList value)
    | [] => none
  if name = "help" ∧ value = none then .help
  else if name = "config" then .flag .config value
  else if name = "preset" then .flag .preset value
  else .unknown

/-- What an argument is by its form. -/
def kind (argument : String) : Kind :=
  match argument.toList with
  | ['-', '-'] => .separator
  | '-' :: '-' :: text => longKind text
  | '-' :: letter :: behind => shortKind letter behind
  | _ => .value

/-- Reads the arguments of a command.  `options` says that options may still follow, and `waiting`
is the option that needs the next argument as its value. -/
def read (verb : Verb) (a : PartialArguments) (waiting : Option Flag) (options : Bool) :
    List String → Request
  | [] =>
    match waiting, a.definition with
    | none, some definition => .perform verb ⟨definition, a.config, a.preset⟩
    | _, _ => .misuse
  | argument :: rest =>
    let proceed (next : Option PartialArguments) : Request :=
      match next with
      | some a => read verb a none options rest
      | none => .misuse
    match waiting, if options then kind argument else .value with
    | some flag, .value => proceed (give a flag argument)
    | some _, _ => .misuse
    | none, .value => proceed (place a argument)
    | none, .separator => read verb a none false rest
    | none, .help => .help (some verb)
    | none, .flag flag none => read verb a (some flag) options rest
    | none, .flag flag (some value) => proceed (give a flag value)
    | none, .unknown => .misuse

end Arguments

/-- What a command line asks for. -/
def Request.ofArguments : List String → Request
  | [] => .misuse
  | first :: rest =>
    match first.toList with
    | '-' :: 'h' :: _ => .help none
    | '-' :: 'V' :: _ => .version
    | _ =>
      if first = "--help" then .help none
      else if first = "--version" then .version
      else if first = "help" then
        match rest with
        | [] => .help none
        | [name] => ((Verb.ofName? name).map fun v => .help (some v)).getD .misuse
        | _ => .misuse
      else
        match Verb.ofName? first with
        | some verb => Arguments.read verb {} none true rest
        | none => .misuse

end Windchest
