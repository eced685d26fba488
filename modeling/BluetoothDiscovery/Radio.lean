import BluetoothDiscovery.Advertisement.Data
import BluetoothDiscovery.Failure

/-!
# What a radio is asked and answers

The vocabulary between the coordinator and whatever drives the radio: the state of the adapter, the
handles of known devices and the two look-ups for a handle, and reports of advertisements.
-/

namespace BluetoothDiscovery

/-- The state of the local adapter. -/
inductive AdapterState where
  | ready
  | poweredOff
  | unavailable
deriving DecidableEq, Repr

/-- Which known devices are asked for. -/
inductive Selector where
  | classic
  | lowEnergy
deriving DecidableEq, Repr

/-- The name of a selector inside messages. -/
def Selector.name : Selector → String
  | .classic => "Classic"
  | .lowEnergy => "LowEnergy"

/-- A known device, as the platform refers to it. -/
structure Handle where
  id : String
  selector : Selector
deriving DecidableEq, Repr

/-- The answer to the first look-up of a handle. -/
structure Identity where
  address : Address
  name : String
  classOfDevice : UInt32
  paired : Bool
deriving DecidableEq

/-- How a query for services ended. -/
inductive ServiceStatus where
  | success
  | unreachable
  | accessDenied
  | protocolError
deriving DecidableEq, Repr

/-- The name of a status inside messages. -/
def ServiceStatus.name : ServiceStatus → String
  | .success => "Success"
  | .unreachable => "Unreachable"
  | .accessDenied => "AccessDenied"
  | .protocolError => "ProtocolError"

/-- The answer to the second look-up of a handle. -/
structure ServiceListing where
  status : ServiceStatus
  services : List Uuid
deriving DecidableEq

/-- An advertisement that was received. -/
structure AdvertisementReport where
  address : Address
  rssi : Int16
  payload : Payload
deriving DecidableEq

end BluetoothDiscovery
