import BluetoothDiscovery.Program.Run

/-!
# The program

Reads its words, its settings and the scenario it needs, runs the request and prints what comes of
it. Time is that of the scenario, so nothing is waited for.
-/

namespace BluetoothDiscovery.Program

open CommandLine

/-- What is said to someone whose words make no request, and the exit code that goes with it. -/
def explain : Refusal → String × UInt32
  | .helpWanted => ("Usage: scan | replay <SCENARIO> | config show|path|init", 0)
  | .versionWanted => ("0.1.0", 0)
  | .nothingGiven => ("Usage: scan | replay <SCENARIO> | config show|path|init", 2)
  | .subcommandMissing => ("a subcommand is needed", 2)
  | .subcommandUnknown => ("unknown subcommand", 2)
  | .argumentUnknown => ("unknown argument", 2)
  | .argumentMissing => ("a required argument is missing", 2)
  | .argumentRepeated => ("an argument is given twice", 2)
  | .valueMissing => ("a value is missing", 2)
  | .valueUnexpected => ("an argument takes no value", 2)
  | .valueInvalid => ("invalid value", 2)

/-- What is said about settings that cannot be loaded or saved. -/
def explainSettings : SettingsError → String
  | .inaccessible => "the settings file cannot be read or written"
  | .malformed => "the settings file is malformed"
  | .unwritable => "the settings cannot be written"

/-- The directory of a user's settings. -/
def settingsDirectory : IO String := do
  let base ← match ← IO.getEnv "XDG_CONFIG_HOME" with
    | some d => pure d
    | none => pure ((← IO.getEnv "HOME").getD "." ++ "/.config")
  return base ++ "/blueseek"

/-- What stands at the place of the settings file. -/
def lookAt (path : String) : IO SettingsPlace := do
  try return .ofOctets (← IO.FS.readBinFile path).toList
  catch _ => return .nothing

/-- The text of a file, if it can be read. -/
def readText? (path : String) : IO (Option String) := do
  try return some (← IO.FS.readFile path)
  catch _ => return none

/-- Runs a request, prints its output and gives the exit code. -/
def serve (r : Request) : IO UInt32 := do
  let directory ← settingsDirectory
  let settingsPath := directory ++ "/settings.toml"
  let settings ← lookAt settingsPath
  let text? ← match r.scenarioPath? with
    | some path => readText? path
    | none => pure none
  let outcome := run { settingsPath, settings, textAt? := fun _ => text? } r
  if outcome.settings ≠ settings then
    if let .file text := outcome.settings then
      IO.FS.createDirAll directory
      IO.FS.writeFile settingsPath text
  IO.print outcome.output
  match outcome.result with
  | .done _ | .stillRunning => return 0
  | .failed message cause =>
    IO.eprintln s!"Error: {message}"
    if let some c := cause then IO.eprintln s!"Caused by: {c}"
    return 1
  | .settingsFailed e =>
    IO.eprintln s!"Error: {explainSettings e}"
    return 1

end BluetoothDiscovery.Program

open BluetoothDiscovery.Program in
def main (words : List String) : IO UInt32 := do
  match Request.read words with
  | .ok r => serve r
  | .error refusal =>
    let (text, code) := explain refusal
    IO.eprintln text
    return code
