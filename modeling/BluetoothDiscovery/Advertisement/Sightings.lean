import BluetoothDiscovery.Advertisement.Data

/-!
# Sightings

Devices advertise again and again. `Device.observe` folds one observation into what earlier ones
said and names the fields that it changed, so that a repeated advertisement can pass in silence.
`Sightings` is what all advertisements of a run have said, by address.

A new service is announced like a new device; any other change is announced as an update.
-/

namespace BluetoothDiscovery

/-- What an observation changed. -/
inductive Change where
  /-- The address was not seen before. -/
  | created
  | changed (fields : FieldSet)
  | unchanged
deriving DecidableEq

/-- How a change is announced. -/
inductive Announcement where
  | discovered
  | updated (fields : FieldSet)
  | suppressed
deriving DecidableEq

/-- How a change is announced. -/
def Change.announcement : Change → Announcement
  | .created => .discovered
  | .changed fields => if fields.contains FieldSet.services then .discovered else .updated fields
  | .unchanged => .suppressed

/-- The change of given fields. -/
def Change.ofFields (fields : FieldSet) : Change :=
  if fields.isEmpty then .unchanged else .changed fields

namespace Device

/-- The device that a first advertisement describes. -/
def ofAdvertisement (address : Address) (rssi : Int16) (data : AdvertisementData) : Device where
  address
  name := data.localName.getD ""
  configuration := Configuration.lowEnergy
  rssi := some rssi
  manufacturerData := data.manufacturerData
  serviceData := data.serviceData
  services := .ofList data.services

/-- What a device is after one more advertisement. A missing or empty name leaves the name. -/
def absorb (d : Device) (rssi : Int16) (data : AdvertisementData) : Device :=
  { d with
    name := match data.localName with
      | some name => if name.isEmpty then d.name else name
      | none => d.name
    rssi := some rssi
    manufacturerData := d.manufacturerData.overlay data.manufacturerData
    serviceData := d.serviceData.overlay data.serviceData
    services := d.services.insertAll data.services }

/-- The fields that one more advertisement changes. -/
def absorbChanges (d : Device) (rssi : Int16) (data : AdvertisementData) : FieldSet :=
  .onlyIf (d.rssi != some rssi) FieldSet.rssi ∪
  .onlyIf (overlayChanges d.manufacturerData data.manufacturerData) FieldSet.manufacturerData ∪
  .onlyIf (overlayChanges d.serviceData data.serviceData) FieldSet.serviceData ∪
  .onlyIf (data.localName.any fun name => !name.isEmpty && name != d.name) FieldSet.name ∪
  .onlyIf (servicesGrow d.services data.services) FieldSet.services

/-- Folds an advertisement into what earlier ones said about its address, if any did. -/
def observe (previous : Option Device) (address : Address) (rssi : Int16)
    (data : AdvertisementData) : Device × Change :=
  match previous with
  | none => (ofAdvertisement address rssi data, .created)
  | some d => (d.absorb rssi data, .ofFields (d.absorbChanges rssi data))

end Device

/-- What the advertisements of a run have said, by address. -/
structure Sightings where
  byAddress : KeyedMap Address Device := ∅

namespace Sightings

instance : EmptyCollection Sightings := ⟨{}⟩

/-- What was said about an address. -/
def get? (s : Sightings) (a : Address) : Option Device := s.byAddress.get? a

/-- The number of addresses seen. -/
def size (s : Sightings) : Nat := s.byAddress.entries.length

/-- Takes in an advertisement; one that changes nothing leaves the sightings as they are. -/
def observe (s : Sightings) (address : Address) (rssi : Int16) (data : AdvertisementData) :
    Sightings × Device × Change :=
  let (device, change) := Device.observe (s.get? address) address rssi data
  match change with
  | .unchanged => (s, device, change)
  | _ => (⟨s.byAddress.insert address device⟩, device, change)

end Sightings

end BluetoothDiscovery
