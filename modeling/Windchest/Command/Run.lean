/-
# Windchest.Command.Run -- carrying out a command line

The settings are read first and then the definition; whatever is wrong with them ends
the command.  A load is successful if every object is loaded.  When a cache is to be
written afresh and the load has not done that, it is written after the load, and the
command fails if that fails.
-/
import Windchest.Command.Arguments
import Windchest.Organ.Session
import Windchest.Text.Quantity

namespace Windchest

set_option autoImplicit false

/-- The name of the program. -/
def programName : String := "pipecache"

/-- The version of the program. -/
def programVersion : String := "0.3.0"

/-- A line of output. -/
inductive Line where
  | text (line : String)
  /-- A line with the time of the load in it. -/
  | timed (before behind : String)
deriving DecidableEq, Repr

/-- The text of a line, for a load that took so many seconds. -/
def Line.render (seconds : Nat) : Line → String
  | text line => line
  | timed before behind => before ++ Text.minutes seconds ++ behind

/-- Why a command failed. -/
inductive CommandError where
  | config (why : ConfigError)
  | cache (why : OrganError)
  /-- The load of a file did not end completely. -/
  | incomplete (file : String) (outcome : LoadOutcome)
  /-- The load broke off. -/
  | fault (why : Fault)
  | usage
deriving DecidableEq, Repr

namespace CommandError

/-- What the user reads about a failed command. -/
def message : CommandError → String
  | config why => why.message
  | cache why => why.message
  | incomplete file outcome => s!"load of {file} ended with {outcome.word}"
  | fault why => why.text.getD "unknown panic"
  | usage => s!"usage: {programName} <COMMAND> [OPTIONS] <DEFINITION>"

/-- The exit code of a failed command. -/
def exitCode : CommandError → UInt32
  | config _ | cache _ | incomplete _ _ => 1
  | fault _ => 101
  | usage => 2

end CommandError

/-- What a command leaves behind. -/
structure Reply where
  output : List Line := []
  error : Option CommandError := none
  files : FileSystem

namespace Reply

/-- The exit code of the program. -/
def exitCode (r : Reply) : UInt32 := (r.error.map CommandError.exitCode).getD 0

/-- The line about the error, if there was one. -/
def errorLine? (r : Reply) : Option String :=
  r.error.map fun e => "Error: " ++ Text.quoted e.message

end Reply

/-- The settings and the organ that a command is about. -/
def OrganArguments.open (a : OrganArguments) (libraries : Libraries) (files : FileSystem) :
    Except ConfigError Session := do
  let settings ← Settings.load libraries.config files a.config
  let organ ← Organ.ofFile libraries files a.definition
  return .start organ { settings with preset := a.preset.getD settings.preset }
    libraries.packing files

/-- The lines about a load. -/
def LoadReport.lines (r : LoadReport) (name : String) (used : Nat) : List Line :=
  Line.timed s!"{name}: loaded {r.loaded} of {r.total} objects in "
      s!" ({Text.mebibytes used} resident, cache {r.usage.words})"
    :: r.summary.map .text ++ r.failures.map fun f => .text s!"- {f.title}: {f.message}"

namespace Session

/-- What a command comes to once its load has told this and left this session.  If `fresh`, the cache
is written unless the load has done that. -/
def conclude (s : Session) (definition : String) (fresh : Bool) (report : LoadReport) : Reply :=
  let (written, s) :=
    if fresh && report.cacheable && ! report.cacheWritten then
      let (result, s, _) := s.updateCache .patient
      (result.map some, s)
    else (.ok none, s)
  match written with
  | .error why => { error := some (.cache why), files := s.files }
  | .ok count =>
    let records := count.toList.map fun n => Line.text s!"Wrote {n} cache records."
    { output := records ++ report.lines s.organ.name s.arena.used
      error :=
        if report.outcome = .complete then none
        else some (.incomplete (Path.display (Bytes.ofText definition)) report.outcome)
      files := s.files }

/-- Loads an organ for the command line, and if `fresh` writes its cache unless that has been done. -/
def runLoad (s : Session) (definition : String) (processors : Nat) (fresh : Bool) : Reply :=
  match s.load .patient processors with
  | .error why => { error := some (.fault why), files := s.files }
  | .ok (report, s, _) => s.conclude definition fresh report

/-- Deletes the cache of an organ for the command line. -/
def runDelete (s : Session) : Reply :=
  match s.deleteCache with
  | .error why => { error := some (.cache why), files := s.files }
  | .ok (deleted, s) =>
    let line := if deleted then s!"Deleted {s.cachePath}." else s!"No cache at {s.cachePath}."
    { output := [.text line], files := s.files }

/-- Shows an organ on the command line. -/
def runInfo (s : Session) : Reply :=
  let o := s.organ
  let lines :=
    [s!"{o.name} ({o.definitionPath})", s!"Definition hash: {o.contentHash.toHex}",
      s!"Objects (count: {o.objects.length}):"]
    ++ o.titles.map (fun title => s!"- {title}")
    ++ [s!"Cache: {s.cachePath} ({s.cacheStatus.word})"]
  { output := lines.map .text, files := s.files }

end Session

/-- Carries out a command on an organ. -/
def Verb.run (verb : Verb) (a : OrganArguments) (libraries : Libraries) (processors : Nat)
    (files : FileSystem) : Reply :=
  match a.open libraries files with
  | .error why => { error := some (.config why), files }
  | .ok s =>
    match verb with
    | .load => s.runLoad a.definition processors false
    | .updateCache => s.runLoad a.definition processors true
    | .deleteCache => s.runDelete
    | .info => s.runInfo

/-- The help on all commands. -/
def generalHelp : List String :=
  let row (name purpose : String) : String :=
    "  " ++ name ++ String.ofList (List.replicate (14 - name.length) ' ') ++ purpose
  ["Loads pipe organ sample sets and manages their sample caches.", "",
    s!"Usage: {programName} <COMMAND>", "", "Commands:"]
  ++ Verb.all.map (fun v => row v.name v.purpose)
  ++ [row "help" "Print this message or the help of the given subcommand(s)", "", "Options:",
    "  -h, --help     Print help", "  -V, --version  Print version"]

/-- The help on one command. -/
def Verb.help (v : Verb) : List String :=
  [v.purpose, "", s!"Usage: {programName} {v.name} [OPTIONS] <DEFINITION>", "", "Arguments:",
    "  <DEFINITION>  The path to the organ definition", "", "Options:",
    "  -c, --config <CONFIG>  The path to the loader settings",
    "  -p, --preset <PRESET>  The preset to use. Overrides the settings file",
    "  -h, --help             Print help"]

/-- Carries out a command line. -/
def Request.run (request : Request) (libraries : Libraries) (processors : Nat)
    (files : FileSystem) : Reply :=
  match request with
  | .perform verb arguments => verb.run arguments libraries processors files
  | .help none => { output := generalHelp.map .text, files }
  | .help (some verb) => { output := verb.help.map .text, files }
  | .version => { output := [.text s!"{programName} {programVersion}"], files }
  | .misuse => { error := some .usage, files }

end Windchest
