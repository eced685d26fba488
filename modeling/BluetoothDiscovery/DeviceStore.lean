import BluetoothDiscovery.Device

/-!
# The device list

A `DeviceStore` holds the devices of a run in the order in which they were first found, each address
once. Changing a device never moves it.
-/

namespace BluetoothDiscovery

/-- Devices in the order of their first appearance, one for each address. -/
structure DeviceStore where
  devices : List Device
  distinct : (devices.map Device.address).Nodup

/-- What became of a device that was put into a store. -/
inductive UpsertOutcome where
  | inserted
  /-- The address was known; the fields are those that changed. -/
  | merged (changes : FieldSet)
deriving DecidableEq

/-- A device with some fields taken from another: the signal strength as it is, data laid over the
data that is there, and a name unless it is empty. Other fields cannot be taken. -/
def Device.adopt (d source : Device) (fields : FieldSet) : Device :=
  { d with
    rssi := if fields.contains FieldSet.rssi then source.rssi else d.rssi
    manufacturerData := if fields.contains FieldSet.manufacturerData then
      d.manufacturerData.overlay source.manufacturerData else d.manufacturerData
    serviceData := if fields.contains FieldSet.serviceData then
      d.serviceData.overlay source.serviceData else d.serviceData
    name := if fields.contains FieldSet.name && !source.name.isEmpty then source.name else d.name }

namespace DeviceStore

instance : EmptyCollection DeviceStore := ⟨⟨[], .nil⟩⟩

instance : Inhabited DeviceStore := ⟨∅⟩

/-- The device at an address. -/
def get? (s : DeviceStore) (a : Address) : Option Device :=
  s.devices.find? (·.address == a)

/-- The number of devices. -/
def size (s : DeviceStore) : Nat := s.devices.length

/-- The store with every device at `a` changed by `f`, which leaves addresses alone. -/
def modify (s : DeviceStore) (a : Address) (f : Device → Device)
    (keeps : ∀ d, (f d).address = d.address) : DeviceStore where
  devices := s.devices.map fun d => if d.address = a then f d else d
  distinct := by
    rw [List.map_map]
    refine List.map_congr_left (fun d _ => ?_) ▸ s.distinct
    simp only [Function.comp]
    split <;> simp [keeps]

/-- The store with a device at its end, if its address is new. -/
def append (s : DeviceStore) (d : Device) (new : s.get? d.address = none) : DeviceStore where
  devices := s.devices ++ [d]
  distinct := by
    rw [List.map_append, List.nodup_append]
    refine ⟨s.distinct, by simp, fun x hx y hy => ?_⟩
    obtain ⟨e, he, rfl⟩ := List.mem_map.1 hx
    have hne := List.find?_eq_none.1 new e he
    simp only [List.map_cons, List.map_nil, List.mem_singleton] at hy
    subst hy
    simpa using hne

/-- Puts a device into the store: at the end if its address is new, and else merged into the device
that is there. -/
def upsert (s : DeviceStore) (d : Device) : DeviceStore × UpsertOutcome :=
  match h : s.get? d.address with
  | none => (s.append d h, .inserted)
  | some known =>
    (s.modify d.address (·.merge d) fun _ => rfl, .merged (known.mergeChanges d))

/-- The store with some fields of the device at `source`'s address taken from `source`; an address
that is not there changes nothing. -/
def update (s : DeviceStore) (source : Device) (fields : FieldSet) : DeviceStore :=
  s.modify source.address (·.adopt source fields) fun _ => rfl

end DeviceStore

end BluetoothDiscovery
