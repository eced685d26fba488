import BluetoothDiscovery.Decode
import BluetoothDiscovery.Device
import BluetoothDiscovery.Failure
import BluetoothDiscovery.Text.Decimal

/-!
# Written forms of the basic types

Each type that is kept in files has an `encode` into a structured value and a `decode?` from one.
Addresses, services and sets of flags travel as text, company identifiers as decimal keys, and a
value of an enumeration as its name in lower case.
-/

namespace BluetoothDiscovery

open Decode

/-! ### Text forms -/

def Address.encode (a : Address) : Value := .text a.render

def Address.decode? (v : Value) : Option Address :=
  (text? v).bind fun s => (Address.parse s).toOption

def Uuid.encode (u : Uuid) : Value := .text u.render

/-- Reads a UUID from its text. TOML has another form of it: a list of its octets, the most
significant first, with anything behind them. -/
def Uuid.decode? (dialect : Dialect) : Value → Option Uuid
  | .text s => Uuid.parse? s
  | .list items =>
    if dialect = .toml ∧ 16 ≤ items.length then
      ((items.take 16).mapM octet?).map fun octets => Uuid.ofNat (Uuid.bigEndian octets)
    else none
  | _ => none

def Flags.encode {table : FlagTable} (f : Flags table) : Value := .text f.render

def Flags.decode? {table : FlagTable} (v : Value) : Option (Flags table) :=
  (text? v).bind Flags.parse?

/-! ### Octets and maps of octets -/

def encodeOctets (bytes : List UInt8) : Value := .list (bytes.map fun b => .integer b.toNat)

def decodeOctets? : Value → Option (List UInt8) := list? octet?

/-- A company identifier as a key: decimal digits without leading zeros. -/
def encodeCompany (company : UInt16) : String := toString company.toNat

/-- Reads a company identifier from a key. Only the JSON notation has keys that are numbers, and the
digits of such a key are looked for in the text as it is written, so that escapes are refused. -/
def decodeCompany? (dialect : Dialect) (key : Key) : Option UInt16 :=
  let cs := key.text.toList
  let n := Text.digitsValue cs
  let isNumber := cs.all Char.isDigit && (cs == ['0'] || cs.head?.any (· != '0'))
  if dialect = .json ∧ key.verbatim ∧ isNumber ∧ n < 0x10000 then some (UInt16.ofNat n) else none

def ManufacturerData.encode (m : ManufacturerData) : Value :=
  .table (m.entries.map fun e => (encodeCompany e.1, encodeOctets e.2))

def ManufacturerData.decode? (dialect : Dialect) (v : Value) : Option ManufacturerData :=
  (entries? (decodeCompany? dialect) decodeOctets? v).map KeyedMap.ofList

def ServiceData.encode (m : ServiceData) : Value :=
  .table (m.entries.map fun e => (e.1.render, encodeOctets e.2))

def ServiceData.decode? (v : Value) : Option ServiceData :=
  (entries? (Uuid.parse? ·.text) decodeOctets? v).map KeyedMap.ofList

/-! ### Kinds of failure -/

namespace Stage

/-- The name of a stage in files. -/
def key : Stage → String
  | .enumerate => "enumerate"
  | .resolveDevice => "resolve_device"
  | .fetchServices => "fetch_services"
  | .openWatcher => "open_watcher"
  | .advertisement => "advertisement"

def ofKey? : String → Option Stage
  | "enumerate" => some .enumerate
  | "resolve_device" => some .resolveDevice
  | "fetch_services" => some .fetchServices
  | "open_watcher" => some .openWatcher
  | "advertisement" => some .advertisement
  | _ => none

def encode (s : Stage) : Value := .text s.key

def decode? (dialect : Dialect) : Value → Option Stage := named? dialect ofKey?

end Stage

namespace ErrorKind

def encode : ErrorKind → Value
  | .adapterUnavailable => .text "adapter_unavailable"
  | .adapterPoweredOff => .text "adapter_powered_off"
  | .platformCallFailed stage => .table [("platform_call_failed", stage.encode)]

def ofKey? : String → Option ErrorKind
  | "adapter_unavailable" => some .adapterUnavailable
  | "adapter_powered_off" => some .adapterPoweredOff
  | _ => none

def decode? (dialect : Dialect) : Value → Option ErrorKind
  | .table [(⟨"platform_call_failed", _⟩, v)] =>
    (Stage.decode? dialect v).map .platformCallFailed
  | v => named? dialect ofKey? v

end ErrorKind

end BluetoothDiscovery
