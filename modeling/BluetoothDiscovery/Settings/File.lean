import BluetoothDiscovery.Settings
import BluetoothDiscovery.Text.Utf8

/-!
# The settings file

Settings have one place in the file system. A `SettingsPlace` is what stands there, as far as
loading and saving can tell. `load` reads the place and says what went wrong; `loadOrDefault` is for
a program that has to go on in any case. `save` gives the place as it is afterwards: nothing is
written before the text of the file is complete, so a failure leaves an earlier file as it was.
-/

namespace BluetoothDiscovery

/-- What stands at the place of the settings file. -/
inductive SettingsPlace where
  | nothing
  | file (text : String)
  /-- A file whose octets are not UTF-8. -/
  | undecodable
  | directory
  /-- A directory on the way to the place cannot be made or entered. -/
  | outOfReach
deriving DecidableEq

/-- Why settings were not loaded or saved. -/
inductive SettingsError where
  /-- The place cannot be read or written. -/
  | inaccessible
  /-- The file is not one of settings. -/
  | malformed
  /-- The settings have no written form. -/
  | unwritable
deriving DecidableEq, Repr

namespace SettingsPlace

/-- A file with some octets. -/
def ofOctets (bytes : List UInt8) : SettingsPlace :=
  match Text.Utf8.decode? bytes with
  | some cs => .file (.ofList cs)
  | none => .undecodable

/-- Whether anything stands at the place. -/
def isTaken : SettingsPlace → Bool
  | .nothing | .outOfReach => false
  | _ => true

/-- Reads the settings at a place. -/
def load : SettingsPlace → Except SettingsError Settings
  | .file text =>
    match Settings.read? text with
    | some s => .ok s
    | none => .error .malformed
  | _ => .error .inaccessible

/-- The settings at a place, and the default ones where none can be read. -/
def loadOrDefault (p : SettingsPlace) : Settings :=
  match p.load with
  | .ok s => s
  | .error _ => {}

/-- Writes settings at a place. That the way to the place can be made is found out first, then that
the settings can be written, and last that a file can stand there. -/
def save (p : SettingsPlace) (s : Settings) : Except SettingsError SettingsPlace :=
  match p, s.render? with
  | .outOfReach, _ => .error .inaccessible
  | _, none => .error .unwritable
  | .directory, some _ => .error .inaccessible
  | _, some text => .ok (.file text)

end SettingsPlace

end BluetoothDiscovery
