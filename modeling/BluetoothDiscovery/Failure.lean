/-!
# What can fail

Three kinds of failure are kept apart. A `StartError` refuses a run before it begins. A
`PlatformError` is one call that failed; it costs a run the device or the part of the search that
the call was for. An `ErrorKind` is what the consumer of events hears of either.
-/

namespace BluetoothDiscovery

/-- What a platform call was for. -/
inductive Stage where
  | enumerate
  | resolveDevice
  | fetchServices
  | openWatcher
  | advertisement
deriving DecidableEq, Repr

/-- A stage as messages name it. -/
def Stage.description : Stage → String
  | .enumerate => "enumerate devices"
  | .resolveDevice => "resolve device"
  | .fetchServices => "fetch services"
  | .openWatcher => "open advertisement watcher"
  | .advertisement => "advertisement"

/-- A platform call that failed. -/
structure PlatformError where
  stage : Stage
  message : String
deriving DecidableEq, Repr

/-- A failed call with its stage in front of its message. -/
def PlatformError.description (e : PlatformError) : String :=
  s!"{e.stage.description} failed: {e.message}"

/-- Why a run does not begin. -/
inductive StartError where
  | adapterUnavailable
  | adapterPoweredOff
  | noDiscoveryMethod
deriving DecidableEq, Repr

def StartError.message : StartError → String
  | .adapterUnavailable => "Cannot find a valid Bluetooth adapter"
  | .adapterPoweredOff => "Bluetooth adapter is powered off"
  | .noDiscoveryMethod => "No discovery method requested"

/-- The kind of a failure, as it is announced. -/
inductive ErrorKind where
  | adapterUnavailable
  | adapterPoweredOff
  | platformCallFailed (stage : Stage)
deriving DecidableEq, Repr

def ErrorKind.description : ErrorKind → String
  | .adapterUnavailable => "adapter unavailable"
  | .adapterPoweredOff => "adapter powered off"
  | .platformCallFailed stage => s!"platform call failed ({stage.description})"

/-- How a failed call is announced. -/
def PlatformError.kind (e : PlatformError) : ErrorKind :=
  .platformCallFailed e.stage

end BluetoothDiscovery
