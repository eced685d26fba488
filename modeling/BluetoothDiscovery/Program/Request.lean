import BluetoothDiscovery.CommandLine
import BluetoothDiscovery.Settings
import BluetoothDiscovery.Text.Decimal

/-!
# What the program is asked for

The command line of the program, and the request that its words make. Settings fill in what the
words leave open; `Choices.search` says how.
-/

namespace BluetoothDiscovery.Program

open CommandLine

/-! ### The command line -/

/-- Reads a whole number of seconds. -/
def seconds? (s : String) : Option Nat := do
  let n ← Text.readDecimal? s
  if n < 0x10000000000000000 then some n else none

/-- The argument that every command takes. -/
def logLevelArgument : NamedArgument where
  name := "log-level"
  rule := some (.satisfying fun s => (LogLevel.parse? s).isSome)

/-- The arguments that choose what is searched and how it is shown. -/
def searchArguments : List NamedArgument :=
  [{ name := "classic" }, { name := "le" },
    { name := "timeout", letter := 't', rule := some (.satisfying fun s => (seconds? s).isSome) },
    { name := "json" }, logLevelArgument]

def scanCommand : Command where
  name := "scan"
  named := { name := "adapter", letter := 'a', rule := some .anything } :: searchArguments

def replayCommand : Command where
  name := "replay"
  named := searchArguments
  placed := [{ name := "scenario", rule := .path, required := true }]

def configCommand : Command where
  name := "config"
  named := [logLevelArgument]
  subcommands := [{ name := "show", named := [logLevelArgument] },
    { name := "path", named := [logLevelArgument] },
    { name := "init", named := [{ name := "force" }, logLevelArgument] }]

/-- The whole command line. -/
def command : Command where
  name := "discovery"
  versioned := true
  named := [logLevelArgument]
  subcommands := [scanCommand, replayCommand, configCommand]

/-! ### Requests -/

/-- What a search is, once nothing is left open. -/
structure Search where
  methods : Methods
  /-- The time for advertisements in milliseconds, without end if there is none. -/
  timeout : Option Nat
  /-- Whether a report for a program is wanted, rather than lines for a person. -/
  json : Bool
deriving DecidableEq

/-- What the words of a command say about a search. -/
structure Choices where
  classic : Bool
  lowEnergy : Bool
  /-- The time for advertisements in seconds; zero means that it has no end. -/
  seconds : Option Nat
  json : Bool
deriving DecidableEq

/-- The search that choices and settings make together. Choosing any method leaves the others out;
otherwise the settings name the methods. -/
def Choices.search (c : Choices) (s : Settings) : Search where
  methods :=
    if c.classic || c.lowEnergy then
      .onlyIf c.classic Methods.classic ∪ .onlyIf c.lowEnergy Methods.lowEnergy
    else s.methods
  timeout :=
    match c.seconds with
    | none => s.timeout?
    | some 0 => none
    | some n => some (1000 * n)
  json := c.json

/-- What is to be done. -/
inductive Task where
  | scan
  | replay (scenario : String) (choices : Choices)
  | showSettings
  | showSettingsPath
  | initSettings (force : Bool)
deriving DecidableEq

/-- A request to the program. -/
structure Request where
  logLevel : Option LogLevel
  task : Task
deriving DecidableEq

/-- The choices in the arguments of a command. -/
def Choices.ofInvocation (i : Invocation) : Choices where
  classic := i.has "classic"
  lowEnergy := i.has "le"
  seconds := (i.value? "timeout").bind seconds?
  json := i.has "json"

/-- The task that a command names. -/
def Task.ofInvocation (i : Invocation) : Task :=
  match i.path with
  | ["scan"] => .scan
  | ["config", "path"] => .showSettingsPath
  | ["config", "init"] => .initSettings (i.has "force")
  | "replay" :: _ => .replay ((i.value? "scenario").getD "") (.ofInvocation i)
  | _ => .showSettings

namespace Request

/-- Reads the words that follow the program's name. -/
def read (words : List String) : Except Refusal Request := do
  let i ← command.read words
  return { logLevel := (i.value? "log-level").bind LogLevel.parse?, task := .ofInvocation i }

/-- The scenario file that a request needs. -/
def scenarioPath? (r : Request) : Option String :=
  match r.task with
  | .replay path _ => some path
  | _ => none

end Request

end BluetoothDiscovery.Program
