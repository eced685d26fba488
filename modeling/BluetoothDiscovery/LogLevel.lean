import BluetoothDiscovery.Decode
import BluetoothDiscovery.Text.UpperCase

/-!
# Levels of logging

A level admits the messages of itself and of the levels before it. Names are read in either case,
and `WARNING` is another name of `WARN`.
-/

namespace BluetoothDiscovery

/-- How much is logged, from the least to the most. -/
inductive LogLevel where
  | error
  | warn
  | info
  | debug
  | trace
deriving DecidableEq, Repr

namespace LogLevel

/-- The place of a level in the order. -/
def value : LogLevel → Nat
  | .error => 0
  | .warn => 1
  | .info => 2
  | .debug => 3
  | .trace => 4

/-- The name of a level as it is shown. -/
def name : LogLevel → String
  | .error => "ERROR"
  | .warn => "WARN"
  | .info => "INFO"
  | .debug => "DEBUG"
  | .trace => "TRACE"

/-- What is said about a text that names no level. -/
def parseMessage (text : String) : String :=
  s!"Unknown log level '{text}'"

/-- Reads a level's name in either case. -/
def parse? (s : String) : Option LogLevel :=
  match Text.upper s with
  | "ERROR" => some .error
  | "WARN" | "WARNING" => some .warn
  | "INFO" => some .info
  | "DEBUG" => some .debug
  | "TRACE" => some .trace
  | _ => none

/-- The filter for a level: the program's own parts log at that level, everything else only
warnings. -/
def directive (l : LogLevel) : String :=
  let level := l.name.toLower
  s!"warn,blueseek={level},blueseek_core={level}"

/-! ### Written form -/

/-- The name of a level in files. -/
def key : LogLevel → String
  | .error => "Error"
  | .warn => "Warn"
  | .info => "Info"
  | .debug => "Debug"
  | .trace => "Trace"

def ofKey? : String → Option LogLevel
  | "Error" => some .error
  | "Warn" => some .warn
  | "Info" => some .info
  | "Debug" => some .debug
  | "Trace" => some .trace
  | _ => none

def encode (l : LogLevel) : Value := .text l.key

def decode? (dialect : Dialect) : Value → Option LogLevel := Decode.named? dialect ofKey?

end LogLevel

end BluetoothDiscovery
