import BluetoothDiscovery.Advertisement.Data
import BluetoothDiscovery.Codec.Basic

/-!
# Written forms of devices and advertisements

A device is a table of all its fields, and only its signal strength may be left out. The fields of
advertisement data may all be left out; an absent name is written by leaving it out. Each can also
be read from a list of its fields.
-/

namespace BluetoothDiscovery

open Decode

namespace Device

def fieldNames : List String :=
  ["address", "name", "classOfDevice", "coreConfiguration", "rssi", "manufacturerData",
    "serviceData", "serviceUuids", "cached"]

def encode (d : Device) : Value :=
  .table [("address", d.address.encode), ("name", .text d.name),
    ("classOfDevice", .integer d.classOfDevice.toNat),
    ("coreConfiguration", d.configuration.encode),
    ("rssi", d.rssi.elim .null fun r => .integer r.toInt),
    ("manufacturerData", ManufacturerData.encode d.manufacturerData),
    ("serviceData", ServiceData.encode d.serviceData),
    ("serviceUuids", .list (d.services.toList.map Uuid.encode)),
    ("cached", .boolean d.resolved)]

def decode? (dialect : Dialect) (v : Value) : Option Device := do
  let f ← fields? dialect fieldNames v
  return {
    address := ← f.required? "address" Address.decode?
    name := ← f.required? "name" text?
    classOfDevice := ← f.required? "classOfDevice" fun v =>
      (natural? 0x100000000 v).map UInt32.ofNat
    configuration := ← f.required? "coreConfiguration" Flags.decode?
    rssi := ← f.optional? "rssi" signed16?
    manufacturerData := ← f.required? "manufacturerData" (ManufacturerData.decode? dialect)
    serviceData := ← f.required? "serviceData" ServiceData.decode?
    services := .ofList (← f.required? "serviceUuids" (list? (Uuid.decode? dialect)))
    resolved := ← f.required? "cached" boolean? }

end Device

namespace AdvertisementData

def fieldNames : List String :=
  ["local_name", "manufacturer_data", "service_data", "service_uuids"]

def encode (a : AdvertisementData) : Value :=
  let name : List (Key × Value) := a.localName.toList.map fun n => ("local_name", .text n)
  let others : List (Key × Value) :=
    [("manufacturer_data", ManufacturerData.encode a.manufacturerData),
      ("service_data", ServiceData.encode a.serviceData),
      ("service_uuids", .list (a.services.map Uuid.encode))]
  .table (name ++ others)

def decode? (dialect : Dialect) (v : Value) : Option AdvertisementData := do
  let f ← fields? dialect fieldNames v
  return {
    localName := ← f.withDefault? "local_name" none (Decode.optional? text?)
    manufacturerData :=
      ← f.withDefault? "manufacturer_data" ∅ (ManufacturerData.decode? dialect)
    serviceData := ← f.withDefault? "service_data" ∅ ServiceData.decode?
    services := ← f.withDefault? "service_uuids" [] (list? (Uuid.decode? dialect)) }

end AdvertisementData

namespace Payload

def encode : Payload → Value
  | .octets bytes => .table [("bytes", encodeOctets bytes)]
  | .decoded data => .table [("decoded", data.encode)]

def decode? (dialect : Dialect) : Value → Option Payload
  | .table [(⟨"bytes", _⟩, v)] => (decodeOctets? v).map .octets
  | .table [(⟨"decoded", _⟩, v)] => (AdvertisementData.decode? dialect v).map .decoded
  | _ => none

end Payload

end BluetoothDiscovery
