import BluetoothDiscovery.Codec.Device
import BluetoothDiscovery.Coordinator
import BluetoothDiscovery.Json.Writer

/-!
# Reports

What a person is shown of a search: one line for each event while it is under way, and the list of
devices at its end. A program is given the end of the search as one JSON text instead.

Every function here gives whole lines, each ended by a line break.
-/

namespace BluetoothDiscovery

/-! ### Lines for a person -/

/-- The radios of a device in one word. A device that is not known to use the base rate counts as a
low-energy device. -/
def Configuration.word (c : Configuration) : String :=
  if c.isDualMode then "dual"
  else if c.contains Configuration.baseRate then "classic"
  else "le"

/-- A device in one line, without a line break. -/
def Device.summary (d : Device) : String :=
  let name := if d.name.isEmpty then "<unknown>" else d.name
  let rssi := d.rssi.elim "-" fun r => s!"{r.toInt} dBm"
  let mark := if d.resolved then " (paired)" else ""
  s!"{d.address.render} '{name}' [{d.configuration.word}] " ++
    s!"rssi={rssi} services={d.services.size}{mark}"

namespace Report

/-- The names of changed fields in lower case with commas between them. -/
def changeList (changes : FieldSet) : String :=
  ",".intercalate (changes.names.map String.toLower)

/-- An event. -/
def eventLine : Event → String
  | .discovered d => s!"  + {d.summary}\n"
  | .updated d changes => s!"  ~ {d.summary} ({changeList changes})\n"
  | .failed kind => s!"  ! {kind.description}\n"
  | .finished => "✅ Discovery finished\n"
  | .canceled => "⏹️  Discovery canceled\n"

/-- A device of the list with its place there, and under it its services. -/
def deviceLines (d : Device) (place : Nat) : String :=
  s!"   [{place}] {d.summary}\n" ++
    String.join (d.services.toList.map fun u => s!"       {u.render}\n")

/-- The list of devices at the end of a search. -/
def deviceList (devices : List Device) : String :=
  if devices.isEmpty then "   No devices found\n"
  else s!"   {devices.length} device(s):\n" ++
    String.join (devices.zipIdx.map fun (d, i) => deviceLines d i)

end Report

/-! ### The report for a program -/

/-- How a search ended. -/
inductive Ending where
  | finished
  | canceled
deriving DecidableEq, Repr

/-- The name of an ending in reports. -/
def Ending.key : Ending → String
  | .finished => "finished"
  | .canceled => "canceled"

/-- A search at its end. -/
structure Report where
  ending : Ending
  /-- The failures that were announced. -/
  errors : List ErrorKind
  devices : List Device

namespace Report

/-- The report of a search that announced some events, up to the end of the search. -/
def ofEvents (events : List Event) (devices : List Device) : Report where
  ending := if events.contains .finished then .finished else .canceled
  errors := events.filterMap fun
    | .failed kind => some kind
    | _ => none
  devices

def encode (r : Report) : Value :=
  .table [("outcome", .text r.ending.key), ("errors", .list (r.errors.map ErrorKind.encode)),
    ("devices", .list (r.devices.map Device.encode))]

/-- The report as JSON text over several lines. -/
def json (r : Report) : String := Json.pretty r.encode ++ "\n"

end Report

end BluetoothDiscovery
