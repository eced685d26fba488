import BluetoothDiscovery.CommandLine
import BluetoothDiscovery.FileTree
import BluetoothDiscovery.ScenarioFile
import BluetoothDiscovery.Text.Escaped

/-!
# Chores of a project

A helper beside the program builds it, tests it, replays the project's scenarios with it and clears
what was built. It works through `cargo`: each `Task` comes to a row of steps, and a step prints a
text or calls `cargo` once. The first call that fails ends the row.
-/

namespace BluetoothDiscovery.Automation

open CommandLine

/-- A chore. -/
inductive Task where
  | build (bluez : Bool)
  | test
  /-- Replays the scenario with a name, or all. -/
  | replay (name : Option String) (logLevel : String)
  | clean
deriving DecidableEq, Repr

/-- The command line of the helper. -/
def command : Command where
  name := "chores"
  subcommands := [
    { name := "build", named := [{ name := "bluez" }] },
    { name := "test" },
    { name := "replay"
      named := [{ name := "log-level", letter := 'l', rule := some .anything }]
      placed := [{ name := "name", rule := .anything, required := false }] },
    { name := "clean" }]

/-- The chore that a command names. -/
def Task.ofInvocation (i : Invocation) : Task :=
  match i.path with
  | ["build"] => .build (i.has "bluez")
  | ["test"] => .test
  | ["replay"] => .replay (i.value? "name") ((i.value? "log-level").getD "info")
  | _ => .clean

/-- Reads the words that follow the helper's name. -/
def Task.read (words : List String) : Except Refusal Task :=
  (command.read words).map .ofInvocation

/-! ### Steps -/

/-- What the helper finds around it. -/
structure Surroundings where
  tree : FileTree
  /-- The directory that the helper was started in. -/
  start : List String
  /-- The directory that `cargo` is called in. -/
  root : List String

/-- One step of a chore. -/
inductive Step where
  | say (text : String)
  | cargo (arguments : List String)
deriving DecidableEq, Repr

/-- Where the scenarios of a project are. -/
def scenarioDirectory : String := "demos/scenarios"

/-- The path of a file in the directory of scenarios. A path from the root of the file system stands
for itself. -/
def scenarioPath (name : String) : String :=
  if name.startsWith "/" then name else scenarioDirectory ++ "/" ++ name

/-- Whether a file name is one of a scenario. -/
def isScenarioName (name : String) : Bool :=
  fileExtension? name = some "json" || fileExtension? name = some "toml"

/-- The paths of the scenarios to replay, or what is said if there are none to be found. -/
def scenarios (s : Surroundings) : Option String → Except String (List String)
  | some name =>
    match [name ++ ".json", name ++ ".toml"].find? fun file =>
        (s.tree.find? s.start (scenarioPath file)).isSome with
    | some file => .ok [scenarioPath file]
    | none => .error s!"No scenario named '{name}' in {scenarioDirectory}"
  | none =>
    match s.tree.names? s.start scenarioDirectory with
    | some names => .ok ((names.filter isScenarioName).map scenarioPath)
    | none => .error s!"Failed to list {scenarioDirectory}"

/-- The steps that replay a scenario. -/
def replaySteps (logLevel path : String) : List Step :=
  [.say s!"▶️  {path}\n",
    .cargo ["run", "-q", "-p", "blueseek-cli", "--", "--log-level", logLevel, "replay", path,
      "--timeout", "3"],
    .say "\n"]

/-- The steps of a chore, or what is said if it cannot be done. -/
def steps (s : Surroundings) : Task → Except String (List Step)
  | .build bluez => .ok [
      .say "🔨 构建所有组件...\n",
      .cargo (["build", "--release", "-p", "blueseek-cli"] ++
        if bluez then ["--features", "bluez"] else []),
      .say "✅ 构建完成: target/release/blueseek\n"]
  | .test => .ok [.say "🧪 运行测试...\n", .cargo ["test", "--workspace"], .say "✅ 测试完成\n"]
  | .clean => .ok [.say "🧹 清理构建产物...\n", .cargo ["clean"], .say "✅ 清理完成\n"]
  | .replay name logLevel => do
    return (← scenarios s name).flatMap (replaySteps logLevel)

/-! ### Working through the steps -/

/-- What has been done. -/
structure Outcome where
  output : String := ""
  /-- The arguments of each call of `cargo`. -/
  calls : List (List String) := []
  /-- What is said about a failure. -/
  failure : Option String := none

/-- Whether a character separates words of ASCII. -/
def isGap (c : Char) : Bool :=
  c == ' ' || c == '\t' || c == '\n' || c == '\r' || c == '\x0c'

/-- An argument inside a message: one with gaps stands in quotes, any other as it is. -/
def shownArgument (argument : String) : String :=
  if argument.toList.any isGap then "\"" ++ Text.escapedAscii argument ++ "\"" else argument

/-- Why a call of `cargo` failed. -/
inductive CallError where
  /-- It could not be made, for an argument has a character of code zero. -/
  | unmade
  /-- It ended with a code other than zero. -/
  | exited (code : Nat)
deriving DecidableEq, Repr

/-- What is said about a call of `cargo` that failed. -/
def CallError.message (arguments : List String) (e : CallError) : String :=
  let call := " ".intercalate ("cargo" :: arguments.map shownArgument)
  match e with
  | .unmade => s!"io error when running command `{call}`: nul byte found in provided data"
  | .exited code => s!"command exited with non-zero code `{call}`: {code}"

namespace Outcome

/-- Calls `cargo`, and notes the call if it could be made. `exitCode` tells how calls end, counted
from one. -/
def call (exitCode : Nat → Nat) (o : Outcome) (arguments : List String) : Outcome :=
  if arguments.any (·.toList.contains '\x00') then
    { o with failure := some (CallError.unmade.message arguments) }
  else
    let calls := o.calls ++ [arguments]
    match exitCode calls.length with
    | 0 => { o with calls }
    | code => { o with calls, failure := some ((CallError.exited code).message arguments) }

/-- Does one more step, unless an earlier one failed. -/
def next (exitCode : Nat → Nat) (o : Outcome) (step : Step) : Outcome :=
  if o.failure.isSome then o
  else match step with
    | .say text => { o with output := o.output ++ text }
    | .cargo arguments => o.call exitCode arguments

end Outcome

/-- Does a chore. -/
def run (s : Surroundings) (exitCode : Nat → Nat) (t : Task) : Outcome :=
  match steps s t with
  | .error message => { failure := some message }
  | .ok steps => steps.foldl (Outcome.next exitCode) {}

end BluetoothDiscovery.Automation
