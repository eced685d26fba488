import BluetoothDiscovery.Advertisement.Structure
import BluetoothDiscovery.Device
import BluetoothDiscovery.Text.Utf8

/-!
# What an advertisement says

A `Payload` comes as octets or already taken apart; `Payload.extract` gives its
`AdvertisementData` either way. Octets are read structure by structure: `absorb` says what one
structure adds to the data of the structures before it.
-/

namespace BluetoothDiscovery

/-- What one advertisement says about its sender. -/
structure AdvertisementData where
  localName : Option String := none
  manufacturerData : ManufacturerData := ∅
  serviceData : ServiceData := ∅
  services : List Uuid := []
deriving DecidableEq

/-- An advertisement as the radio reports it. -/
inductive Payload where
  | octets (bytes : List UInt8)
  | decoded (data : AdvertisementData)
deriving DecidableEq

namespace AdvertisementData

/-- The name that a structure's body holds: malformed pieces become U+FFFD, and zero characters at
the end are padding. -/
def nameOf (body : List UInt8) : String :=
  String.ofList ((Text.Utf8.decodeLossy body).reverse.dropWhile (· == '\x00')).reverse

/-- The data with one more service, unless it is listed already. -/
def addService (data : AdvertisementData) (u : Uuid) : AdvertisementData :=
  if u ∈ data.services then data else { data with services := data.services ++ [u] }

/-- The data with the whole items of a list of services; `width` is the octets of an item. -/
def addServices (data : AdvertisementData) (width : Nat) (body : List UInt8) : AdvertisementData :=
  ((AdStructure.chunks width body).map Uuid.ofLittleEndian).foldl addService data

/-- The data with service data whose body starts with a service of `width` octets; a body that is
too short for one adds nothing. -/
def addServiceData (data : AdvertisementData) (width : Nat) (body : List UInt8) :
    AdvertisementData :=
  if body.length < width then data
  else
    let service := Uuid.ofLittleEndian (body.take width)
    { data with serviceData := data.serviceData.insert service (body.drop width) }

/-- The data with manufacturer data, whose body starts with the company. -/
def addManufacturerData (data : AdvertisementData) : List UInt8 → AdvertisementData
  | low :: high :: rest =>
    let company := UInt16.ofNat (Uuid.littleEndian [low, high])
    { data with manufacturerData := data.manufacturerData.insert company rest }
  | _ => data

/-- The data with what one structure adds. A complete name replaces any name before it, a shortened
one is used only if there is none; structures of other kinds add nothing. -/
def absorb (data : AdvertisementData) (s : AdStructure) : AdvertisementData :=
  match s.kind with
  | 0x02 | 0x03 => data.addServices 2 s.body
  | 0x04 | 0x05 => data.addServices 4 s.body
  | 0x06 | 0x07 => data.addServices 16 s.body
  | 0x08 => if data.localName.isSome then data else { data with localName := nameOf s.body }
  | 0x09 => { data with localName := nameOf s.body }
  | 0x16 => data.addServiceData 2 s.body
  | 0x20 => data.addServiceData 4 s.body
  | 0x21 => data.addServiceData 16 s.body
  | 0xFF => data.addManufacturerData s.body
  | _ => data

/-- What a row of octets says, structure by structure. -/
def parse (bytes : List UInt8) : AdvertisementData :=
  (AdStructure.split bytes).foldl absorb {}

end AdvertisementData

/-- What a payload says. -/
def Payload.extract : Payload → AdvertisementData
  | .octets bytes => .parse bytes
  | .decoded data => data

end BluetoothDiscovery
