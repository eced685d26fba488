import BluetoothDiscovery.Program.Replay
import BluetoothDiscovery.ScenarioFile
import BluetoothDiscovery.Settings.File

/-!
# Running the program

`run` is what the program does for a request: what it prints, what becomes of the settings file, and
how it ends. All that it depends on besides the request is in `Surroundings`.
-/

namespace BluetoothDiscovery.Program

/-- What the program finds around it. -/
structure Surroundings where
  settingsPath : String
  settings : SettingsPlace
  /-- The text of the file at a path. -/
  textAt? : String → Option String
  /-- When a replay is interrupted, in milliseconds from its beginning. -/
  interruption : Option Nat := none

/-- How the program ends. -/
inductive Result where
  /-- All is done; a replay has taken some milliseconds of its own time. -/
  | done (elapsed : Nat)
  | stillRunning
  /-- Something failed, perhaps for a reason that has a message of its own. -/
  | failed (message : String) (cause : Option String)
  | settingsFailed (error : SettingsError)

/-- What the program has done. -/
structure Outcome where
  output : String := ""
  settings : SettingsPlace
  result : Result

/-- The line that tells what will be searched. -/
def heading (search : Search) : String :=
  let time := search.timeout.elim "none" fun ms => s!"{ms / 1000}s"
  let methods := search.methods.describe "DiscoveryMethods"
  s!"🔍 Discovering ({methods}, LE timeout: {time})...\n"

/-- What a search prints and how it ends. -/
def Course.present (json : Bool) : Course → String × Result
  | .refused e => ("", .failed "Discovery could not start" (some e.message))
  | .unended events =>
    (if json then "" else String.join (events.map Report.eventLine), .stillRunning)
  | .ended time events devices =>
    (if json then (Report.ofEvents events devices).json
      else String.join (events.map Report.eventLine) ++ Report.deviceList devices,
      .done time)

/-- What the program does for a task when some settings are in force. -/
def perform (s : Surroundings) (settings : Settings) : Task → Outcome
  | .scan =>
    { settings := s.settings
      result := .failed
        "blueseek was built without BlueZ support; rebuild with `--features bluez`" none }
  | .replay path choices =>
    match Scenario.load s.textAt? path with
    | .error e => { settings := s.settings, result := .failed e.message none }
    | .ok scenario =>
      let search := choices.search settings
      let (lines, result) := (replay scenario search s.interruption).present search.json
      { output := (if search.json then "" else heading search) ++ lines
        settings := s.settings
        result }
  | .showSettings =>
    match settings.render? with
    | some text => { output := text, settings := s.settings, result := .done 0 }
    | none => { settings := s.settings, result := .settingsFailed .unwritable }
  | .showSettingsPath =>
    { output := s.settingsPath ++ "\n", settings := s.settings, result := .done 0 }
  | .initSettings force =>
    if s.settings.isTaken && !force then
      { settings := s.settings
        result := .failed s!"{s.settingsPath} already exists (use --force to overwrite)" none }
    else
      match s.settings.save {} with
      | .ok settings =>
        { output := s!"Wrote default settings to {s.settingsPath}\n", settings, result := .done 0 }
      | .error e => { settings := s.settings, result := .settingsFailed e }

/-- What the program does for a request. -/
def run (s : Surroundings) (r : Request) : Outcome :=
  perform s s.settings.loadOrDefault r.task

/-- The level that is logged at: that of the request, or else that of the settings. -/
def logLevel (s : Surroundings) (r : Request) : LogLevel :=
  r.logLevel.getD s.settings.loadOrDefault.logLevel

end BluetoothDiscovery.Program
