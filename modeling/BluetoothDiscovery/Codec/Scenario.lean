import BluetoothDiscovery.Codec.Device
import BluetoothDiscovery.Scenario

/-!
# Written forms of scenarios

Everything in a scenario has a default and may be left out, but for the address, the signal strength
and the payload of an advertisement.
-/

namespace BluetoothDiscovery

open Decode

namespace AdapterState

/-- The name of a state in files. -/
def key : AdapterState → String
  | .ready => "ready"
  | .poweredOff => "powered_off"
  | .unavailable => "unavailable"

def ofKey? : String → Option AdapterState
  | "ready" => some .ready
  | "powered_off" => some .poweredOff
  | "unavailable" => some .unavailable
  | _ => none

def encode (s : AdapterState) : Value := .text s.key

def decode? (dialect : Dialect) : Value → Option AdapterState := named? dialect ofKey?

end AdapterState

namespace Selector

/-- The name of a selector in files. -/
def key : Selector → String
  | .classic => "classic"
  | .lowEnergy => "low_energy"

def ofKey? : String → Option Selector
  | "classic" => some .classic
  | "low_energy" => some .lowEnergy
  | _ => none

def encode (s : Selector) : Value := .text s.key

def decode? (dialect : Dialect) : Value → Option Selector := named? dialect ofKey?

end Selector

namespace ServiceStatus

/-- The name of a status in files. -/
def key : ServiceStatus → String
  | .success => "success"
  | .unreachable => "unreachable"
  | .accessDenied => "access_denied"
  | .protocolError => "protocol_error"

def ofKey? : String → Option ServiceStatus
  | "success" => some .success
  | "unreachable" => some .unreachable
  | "access_denied" => some .accessDenied
  | "protocol_error" => some .protocolError
  | _ => none

def encode (s : ServiceStatus) : Value := .text s.key

def decode? (dialect : Dialect) : Value → Option ServiceStatus := named? dialect ofKey?

end ServiceStatus

namespace ScriptedDevice

def fieldNames : List String :=
  ["id", "address", "name", "class_of_device", "paired", "services", "service_status", "fail_at",
    "resolve_delay_ms", "services_delay_ms"]

def encode (d : ScriptedDevice) : Value :=
  .table [("id", .text d.id), ("address", d.address.encode), ("name", .text d.name),
    ("class_of_device", .integer d.classOfDevice.toNat), ("paired", .boolean d.paired),
    ("services", .list (d.services.map Uuid.encode)),
    ("service_status", d.serviceStatus.encode), ("fail_at", d.failAt.elim .null Stage.encode),
    ("resolve_delay_ms", .integer d.resolveDelay), ("services_delay_ms", .integer d.servicesDelay)]

def decode? (dialect : Dialect) (v : Value) : Option ScriptedDevice := do
  let f ← fields? dialect fieldNames v
  let default : ScriptedDevice := {}
  return {
    id := ← f.withDefault? "id" default.id text?
    address := ← f.withDefault? "address" default.address Address.decode?
    name := ← f.withDefault? "name" default.name text?
    classOfDevice := ← f.withDefault? "class_of_device" default.classOfDevice fun v =>
      (natural? 0x100000000 v).map UInt32.ofNat
    paired := ← f.withDefault? "paired" default.paired boolean?
    services := ← f.withDefault? "services" default.services (list? (Uuid.decode? dialect))
    serviceStatus := ← f.withDefault? "service_status" default.serviceStatus
      (ServiceStatus.decode? dialect)
    failAt := ← f.withDefault? "fail_at" default.failAt (Decode.optional? (Stage.decode? dialect))
    resolveDelay := ← f.withDefault? "resolve_delay_ms" default.resolveDelay natural64?
    servicesDelay := ← f.withDefault? "services_delay_ms" default.servicesDelay natural64? }

end ScriptedDevice

namespace ScriptedAdvertisement

def fieldNames : List String := ["at_ms", "address", "rssi", "payload"]

def encode (a : ScriptedAdvertisement) : Value :=
  .table [("at_ms", .integer a.time), ("address", a.report.address.encode),
    ("rssi", .integer a.report.rssi.toInt), ("payload", a.report.payload.encode)]

def decode? (dialect : Dialect) (v : Value) : Option ScriptedAdvertisement := do
  let f ← fields? dialect fieldNames v
  return {
    time := ← f.withDefault? "at_ms" 0 natural64?
    report := {
      address := ← f.required? "address" Address.decode?
      rssi := ← f.required? "rssi" signed16?
      payload := ← f.required? "payload" (Payload.decode? dialect) } }

end ScriptedAdvertisement

namespace Scenario

def fieldNames : List String :=
  ["adapter", "adapter_delay_ms", "enumeration_delay_ms", "failing_enumerations",
    "classic_devices", "le_paired_devices", "watcher_fails", "advertisements"]

def encode (s : Scenario) : Value :=
  .table [("adapter", s.adapter.encode), ("adapter_delay_ms", .integer s.adapterDelay),
    ("enumeration_delay_ms", .integer s.enumerationDelay),
    ("failing_enumerations", .list (s.failingEnumerations.map Selector.encode)),
    ("classic_devices", .list (s.classicDevices.map ScriptedDevice.encode)),
    ("le_paired_devices", .list (s.lowEnergyDevices.map ScriptedDevice.encode)),
    ("watcher_fails", .boolean s.watcherFails),
    ("advertisements", .list (s.advertisements.map ScriptedAdvertisement.encode))]

def decode? (dialect : Dialect) (v : Value) : Option Scenario := do
  let f ← fields? dialect fieldNames v
  let default : Scenario := {}
  return {
    adapter := ← f.withDefault? "adapter" default.adapter (AdapterState.decode? dialect)
    adapterDelay := ← f.withDefault? "adapter_delay_ms" default.adapterDelay natural64?
    enumerationDelay := ← f.withDefault? "enumeration_delay_ms" default.enumerationDelay natural64?
    failingEnumerations := ← f.withDefault? "failing_enumerations" default.failingEnumerations
      (list? (Selector.decode? dialect))
    classicDevices := ← f.withDefault? "classic_devices" default.classicDevices
      (list? (ScriptedDevice.decode? dialect))
    lowEnergyDevices := ← f.withDefault? "le_paired_devices" default.lowEnergyDevices
      (list? (ScriptedDevice.decode? dialect))
    watcherFails := ← f.withDefault? "watcher_fails" default.watcherFails boolean?
    advertisements := ← f.withDefault? "advertisements" default.advertisements
      (list? (ScriptedAdvertisement.decode? dialect)) }

end Scenario

end BluetoothDiscovery
