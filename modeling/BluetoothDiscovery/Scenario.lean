import BluetoothDiscovery.Coordinator

/-!
# Scenarios

A `Scenario` is a script for a radio: how every call is answered and after how long, and which
advertisements arrive when. What a call is answered with depends on the scenario alone, so
`Scenario.answer` is a function of the call.
-/

namespace BluetoothDiscovery

/-- A known device of a scenario. -/
structure ScriptedDevice where
  id : String := ""
  address : Address := .ofNat 0
  name : String := ""
  classOfDevice : UInt32 := 0
  paired : Bool := true
  services : List Uuid := []
  serviceStatus : ServiceStatus := .success
  /-- The look-up that fails. -/
  failAt : Option Stage := none
  /-- The time that the first look-up takes, in milliseconds. -/
  resolveDelay : Nat := 0
  /-- The time that the second look-up takes, in milliseconds. -/
  servicesDelay : Nat := 0
deriving DecidableEq

/-- An advertisement of a scenario. -/
structure ScriptedAdvertisement where
  /-- When it arrives, in milliseconds after the watcher was opened. -/
  time : Nat
  report : AdvertisementReport
deriving DecidableEq

/-- A script for a radio. -/
structure Scenario where
  adapter : AdapterState := .ready
  adapterDelay : Nat := 0
  enumerationDelay : Nat := 0
  /-- The enumerations that fail. -/
  failingEnumerations : List Selector := []
  classicDevices : List ScriptedDevice := []
  lowEnergyDevices : List ScriptedDevice := []
  /-- Whether advertisements cannot be watched. -/
  watcherFails : Bool := false
  advertisements : List ScriptedAdvertisement := []
deriving DecidableEq

/-- A call to the radio, apart from one to watch advertisements. -/
inductive Call where
  | adapter
  | enumerate (selector : Selector)
  | identify (handle : Handle)
  | services (handle : Handle)
  | openWatcher
deriving DecidableEq

/-- The answer to a call. -/
inductive Answer where
  | adapter (state : AdapterState)
  | handles (result : Except PlatformError (List Handle))
  | identity (result : Except PlatformError Identity)
  | services (result : Except PlatformError ServiceListing)
  | watcher (result : Except PlatformError Unit)

namespace Scenario

/-- The known devices of a kind. -/
def devices (s : Scenario) : Selector → List ScriptedDevice
  | .classic => s.classicDevices
  | .lowEnergy => s.lowEnergyDevices

/-- The device that a handle stands for: of several with its name the first. -/
def find? (s : Scenario) (h : Handle) : Option ScriptedDevice :=
  (s.devices h.selector).find? (·.id == h.id)

/-- The advertisements in the order of their arrival; those of one time keep their order. -/
def timeline (s : Scenario) : List ScriptedAdvertisement :=
  s.advertisements.mergeSort (·.time ≤ ·.time)

/-- What an enumeration is answered with. -/
def enumerate (s : Scenario) (selector : Selector) : Except PlatformError (List Handle) :=
  if selector ∈ s.failingEnumerations then
    .error ⟨.enumerate, s!"scripted {selector.name} enumeration failure"⟩
  else .ok ((s.devices selector).map fun d => ⟨d.id, selector⟩)

/-- The answer to a look-up that either finds no device, fails by the script, or succeeds. -/
def lookUp {α : Type} (s : Scenario) (h : Handle) (stage : Stage) (delay : ScriptedDevice → Nat)
    (found : ScriptedDevice → α) : Nat × Except PlatformError α :=
  match s.find? h with
  | none => (0, .error ⟨stage, s!"unknown device handle '{h.id}'"⟩)
  | some d =>
    (delay d, if d.failAt = some stage then .error ⟨stage, s!"scripted failure for '{d.id}'"⟩
      else .ok (found d))

/-- What a call is answered with, and after how many milliseconds. -/
def answer (s : Scenario) : Call → Nat × Answer
  | .adapter => (s.adapterDelay, .adapter s.adapter)
  | .enumerate selector => (s.enumerationDelay, .handles (s.enumerate selector))
  | .identify h =>
    let (delay, result) := s.lookUp h .resolveDevice (·.resolveDelay) fun d =>
      (⟨d.address, d.name, d.classOfDevice, d.paired⟩ : Identity)
    (delay, .identity result)
  | .services h =>
    let (delay, result) := s.lookUp h .fetchServices (·.servicesDelay) fun d =>
      (⟨d.serviceStatus, d.services⟩ : ServiceListing)
    (delay, .services result)
  | .openWatcher =>
    (0, .watcher (if s.watcherFails then .error ⟨.openWatcher, "scripted watcher failure"⟩
      else .ok ()))

end Scenario

end BluetoothDiscovery
