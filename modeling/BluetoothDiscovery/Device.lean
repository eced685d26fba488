import BluetoothDiscovery.Address
import BluetoothDiscovery.DistinctList
import BluetoothDiscovery.Flags
import BluetoothDiscovery.KeyedMap
import BluetoothDiscovery.Uuid

/-!
# Devices

A `Device` is all that is known about one address. What two sources say about an address is never
kept apart: `Device.merge` joins them, and `Device.mergeChanges` says which fields of the first
changed by it.
-/

namespace BluetoothDiscovery

instance : Ranked Uuid := ⟨Uuid.toNat, fun {a b} h => by cases a; cases b; cases h; rfl⟩

instance : Ranked Address := ⟨Address.toNat, fun {a b} h => by cases a; cases b; cases h; rfl⟩

/-! ### Configurations -/

/-- The radios that a device is known to use. -/
abbrev Configuration : Type :=
  Flags [("BASE_RATE", 1), ("LOW_ENERGY", 2)]

namespace Configuration

def baseRate : Configuration := ⟨1⟩

def lowEnergy : Configuration := ⟨2⟩

/-- Whether a device uses both radios. -/
def isDualMode (c : Configuration) : Bool := c.contains (baseRate ∪ lowEnergy)

end Configuration

/-! ### Field sets -/

/-- The fields of a device whose changes are announced. -/
abbrev FieldSet : Type :=
  Flags [("NAME", 1), ("RSSI", 2), ("MANUFACTURER_DATA", 4), ("SERVICE_DATA", 8),
    ("SERVICE_UUIDS", 16), ("CORE_CONFIGURATION", 32)]

namespace FieldSet

def name : FieldSet := ⟨1⟩

def rssi : FieldSet := ⟨2⟩

def manufacturerData : FieldSet := ⟨4⟩

def serviceData : FieldSet := ⟨8⟩

def services : FieldSet := ⟨16⟩

def configuration : FieldSet := ⟨32⟩

end FieldSet

/-! ### Records -/

/-- Data of manufacturers by company identifier. -/
abbrev ManufacturerData : Type := KeyedMap UInt16 (List UInt8)

/-- Data of services by service identifier. -/
abbrev ServiceData : Type := KeyedMap Uuid (List UInt8)

/-- What is known about the device at an address. -/
structure Device where
  address : Address
  name : String := ""
  classOfDevice : UInt32 := 0
  configuration : Configuration := ∅
  /-- The signal strength of the last advertisement. -/
  rssi : Option Int16 := none
  manufacturerData : ManufacturerData := ∅
  serviceData : ServiceData := ∅
  services : DistinctList Uuid := ∅
  /-- Whether the device was looked up, rather than only heard. -/
  resolved : Bool := false
deriving DecidableEq

namespace Device

/-- The device with more services. -/
def addServices (d : Device) (services : List Uuid) : Device :=
  { d with services := d.services.insertAll services }

/-- What `d` and then `other` say about one address. A name that is not empty and a class that is
not zero replace earlier ones, as does a signal strength; configurations and services add up; data
of a key is replaced by later data of the key. -/
def merge (d other : Device) : Device where
  address := d.address
  name := if other.name.isEmpty then d.name else other.name
  classOfDevice := if other.classOfDevice = 0 then d.classOfDevice else other.classOfDevice
  configuration := d.configuration ∪ other.configuration
  rssi := other.rssi.or d.rssi
  manufacturerData := d.manufacturerData.overlay other.manufacturerData
  serviceData := d.serviceData.overlay other.serviceData
  services := d.services.insertAll other.services.toList
  resolved := d.resolved || other.resolved

/-- Whether laying `incoming` over `target` changes an entry. -/
def overlayChanges {κ : Type} [Ranked κ] (target incoming : KeyedMap κ (List UInt8)) : Bool :=
  incoming.entries.any fun e => target.get? e.1 != some e.2

/-- Whether inserting `incoming` makes a list of services longer. -/
def servicesGrow (services : DistinctList Uuid) (incoming : List Uuid) : Bool :=
  (services.insertAll incoming).size != services.size

/-- The fields of `d` that change when `other` is merged into it. The class of a device is not
among the announced fields. -/
def mergeChanges (d other : Device) : FieldSet :=
  .onlyIf (!other.name.isEmpty && other.name != d.name) FieldSet.name ∪
  .onlyIf (d.configuration ∪ other.configuration != d.configuration) FieldSet.configuration ∪
  .onlyIf (other.rssi.isSome && other.rssi != d.rssi) FieldSet.rssi ∪
  .onlyIf (overlayChanges d.manufacturerData other.manufacturerData) FieldSet.manufacturerData ∪
  .onlyIf (overlayChanges d.serviceData other.serviceData) FieldSet.serviceData ∪
  .onlyIf (servicesGrow d.services other.services.toList) FieldSet.services

end Device

end BluetoothDiscovery
