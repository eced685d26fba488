import BluetoothDiscovery.Coordinator
import BluetoothDiscovery.LogLevel
import BluetoothDiscovery.Toml.Reader

/-!
# Settings

What a user has chosen for every search. Settings are kept in a TOML file with one line for each
field, in the order of declaration; `Settings.render?` writes that file and `Settings.read?` reads
it back, taking the default for every field that is missing.
-/

namespace BluetoothDiscovery

/-- What a user has chosen. -/
structure Settings where
  classic : Bool := true
  lowEnergy : Bool := true
  /-- The time for advertisements in milliseconds; zero means that it has no end. -/
  timeout : Nat := 40000
  /-- The adapter to use, if not the default one. -/
  adapter : Option String := none
  logLevel : LogLevel := .info
deriving DecidableEq

namespace Settings

open Decode

/-- The methods that are switched on. -/
def methods (s : Settings) : Methods :=
  .onlyIf s.classic Methods.classic ∪ .onlyIf s.lowEnergy Methods.lowEnergy

/-- The time for advertisements, if it has an end. -/
def timeout? (s : Settings) : Option Nat :=
  if s.timeout = 0 then none else some s.timeout

/-! ### Written form -/

def fieldNames : List String := ["classic", "low_energy", "le_timeout_ms", "adapter", "log_level"]

/-- The settings as a value with all their fields. -/
def encode (s : Settings) : Value :=
  .table [("classic", .boolean s.classic), ("low_energy", .boolean s.lowEnergy),
    ("le_timeout_ms", .integer s.timeout), ("adapter", s.adapter.elim .null .text),
    ("log_level", s.logLevel.encode)]

def decode? (dialect : Dialect) (v : Value) : Option Settings := do
  let f ← fields? dialect fieldNames v
  let default : Settings := {}
  return {
    classic := ← f.withDefault? "classic" default.classic boolean?
    lowEnergy := ← f.withDefault? "low_energy" default.lowEnergy boolean?
    timeout := ← f.withDefault? "le_timeout_ms" default.timeout natural64?
    adapter := ← f.withDefault? "adapter" default.adapter (Decode.optional? text?)
    logLevel := ← f.withDefault? "log_level" default.logLevel (LogLevel.decode? dialect) }

/-- One line of the file. -/
def line (key : String) (value : List Char) : List Char :=
  key.toList ++ [' ', '=', ' '] ++ value ++ ['\n']

/-- A truth value as it is written. -/
def truth (b : Bool) : List Char := if b then ['t', 'r', 'u', 'e'] else ['f', 'a', 'l', 's', 'e']

/-- The text of the file. TOML has integers up to 2⁶³ - 1, so that a greater time cannot be
written. -/
def render? (s : Settings) : Option String :=
  if s.timeout < 0x8000000000000000 then
    some <| String.ofList <|
      line "classic" (truth s.classic) ++
      line "low_energy" (truth s.lowEnergy) ++
      line "le_timeout_ms" (Nat.toDigits 10 s.timeout) ++
      (s.adapter.elim [] fun a => line "adapter" (Toml.quote a.toList)) ++
      line "log_level" (Toml.quote s.logLevel.key.toList)
  else none

/-- Reads the text of the file. -/
def read? (text : String) : Option Settings :=
  (Toml.read? text).bind (decode? .toml)

end Settings

end BluetoothDiscovery
