import BluetoothDiscovery.Codec.Scenario
import BluetoothDiscovery.Json.Reader
import BluetoothDiscovery.Text.Split
import BluetoothDiscovery.Toml.Reader

/-!
# Scenario files

A scenario is kept in a file whose name tells the notation: TOML if it ends in `.toml`, and JSON
otherwise.
-/

namespace BluetoothDiscovery

/-- The last component of a path. -/
def fileName (path : String) : String :=
  .ofList ((Text.splitOn '/' path.toList).getLast (Text.splitOn_ne_nil _ _))

/-- The extension of a file name: what follows its last dot, unless the dot begins the name. -/
def fileExtension? (name : String) : Option String :=
  let cs := name.toList
  let ext := cs.reverse.takeWhile (· != '.')
  if ext.length + 1 < cs.length ∧ cs ≠ ['.', '.'] then some (.ofList ext.reverse) else none

/-- The notation of the scenario file at a path. -/
def Dialect.ofPath (path : String) : Dialect :=
  if fileExtension? (fileName path) = some "toml" then .toml else .json

/-- The name of a notation in messages. -/
def Dialect.title : Dialect → String
  | .json => "JSON"
  | .toml => "TOML"

/-- Why a scenario was not loaded. -/
inductive ScenarioError where
  /-- There is no text at the path. -/
  | missing (path : String)
  /-- The text is not one of a scenario. -/
  | malformed (path : String)
deriving DecidableEq, Repr

def ScenarioError.message : ScenarioError → String
  | .missing path => s!"Failed to read scenario {path}"
  | .malformed path => s!"Invalid {(Dialect.ofPath path).title} scenario {path}"

namespace Scenario

/-- Reads the text of a scenario in a notation. -/
def read? (dialect : Dialect) (text : String) : Option Scenario :=
  (match dialect with
    | .json => Json.read? text
    | .toml => Toml.read? text).bind (Scenario.decode? dialect)

/-- Loads the scenario file at a path; `textAt?` gives the text that stands there. -/
def load (textAt? : String → Option String) (path : String) : Except ScenarioError Scenario :=
  match textAt? path with
  | none => .error (.missing path)
  | some text =>
    match read? (.ofPath path) text with
    | none => .error (.malformed path)
    | some s => .ok s

end Scenario

end BluetoothDiscovery
