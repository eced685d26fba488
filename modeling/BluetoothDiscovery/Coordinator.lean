import BluetoothDiscovery.Advertisement.Sightings
import BluetoothDiscovery.DeviceStore
import BluetoothDiscovery.Resolution

/-!
# The discovery coordinator

At most one run is under way. It starts with a check of the adapter, then searches by the requested
methods side by side, and ends in exactly one of three ways: when all its work is done, when the
time for advertisements is over, or when it is stopped.

Everything that can happen is an `Action`, and `Coordinator.step` is what it does: the new state and
the events it announces. Work goes on beside the coordinator, so actions of different pieces of work
come in any order, and those of a run that has ended may still come. For that reason each carries
the number of its run, and an action of any run but the present one changes nothing.

A run has work left while an enumeration has not returned, while a device that was enumerated is
still being looked up, or while advertisements are watched. It finishes with the action that ends
the last of it.
-/

namespace BluetoothDiscovery

/-- The ways to search. -/
abbrev Methods : Type :=
  Flags [("CLASSIC", 1), ("LOW_ENERGY", 2)]

namespace Methods

def classic : Methods := ⟨1⟩

def lowEnergy : Methods := ⟨2⟩

end Methods

/-- The flag of the method that a selector belongs to. -/
def Selector.method : Selector → Methods
  | .classic => Methods.classic
  | .lowEnergy => Methods.lowEnergy

/-- The number of a run. Numbers count the runs that were begun. -/
abbrev RunId : Type := UInt64

/-- What is announced to the consumer. -/
inductive Event where
  | discovered (device : Device)
  | updated (device : Device) (changes : FieldSet)
  | failed (kind : ErrorKind)
  | finished
  | canceled
deriving DecidableEq

/-- Whether an event is the last of its run. -/
def Event.isTerminal : Event → Bool
  | .finished | .canceled => true
  | _ => false

/-- How far the search by one method has come. The two ways of stopping are only words of the log:
the step that ends a run leaves nothing of it, so that no search is ever found stopping. -/
inductive SessionState where
  | idle
  | starting
  | running
  | stoppingByTimeout
  | stoppingByCancel
  | stopped
deriving DecidableEq, Repr

/-- A run that has begun. -/
structure Run where
  id : RunId
  methods : Methods
  /-- Look-ups that have not ended, by the enumeration they come from. -/
  pendingClassic : Nat := 0
  pendingLowEnergy : Nat := 0
  /-- Enumerations that have not returned. -/
  openEnumerations : Nat
  /-- Whether advertisements are watched or about to be. -/
  watching : Bool
  classic : SessionState
  lowEnergy : SessionState
  sightings : Sightings := ∅

/-- Where the coordinator stands. -/
inductive Phase where
  | idle
  /-- The adapter is being checked for a run. -/
  | starting (id : RunId) (methods : Methods)
  | running (run : Run)

/-- The coordinator: its phase, the number of the last run, and the devices of the last run that
got past the check of the adapter. -/
structure Coordinator where
  lastRun : RunId := 0
  phase : Phase := .idle
  store : DeviceStore := ∅

/-- What can happen to a coordinator. -/
inductive Action where
  /-- A run is asked for. -/
  | start (methods : Methods)
  /-- The adapter was checked for a run. -/
  | adapterChecked (run : RunId) (state : AdapterState)
  /-- The caller gave up while the adapter was being checked. -/
  | startAbandoned (run : RunId)
  | stop
  /-- An enumeration returned. -/
  | enumerated (run : RunId) (selector : Selector) (result : Except PlatformError (List Handle))
  /-- A device was looked up. -/
  | resolved (run : RunId) (resolution : Resolution)
  /-- A device could not be looked up. -/
  | resolutionFailed (run : RunId) (error : PlatformError)
  /-- A look-up is over, however it went. -/
  | lookupEnded (run : RunId) (selector : Selector)
  | watcherOpened (run : RunId)
  /-- The watcher could not be opened, or reported its end. -/
  | watcherLost (run : RunId) (error : PlatformError)
  | advertised (run : RunId) (report : AdvertisementReport)
  /-- The time for advertisements is over. -/
  | timedOut (run : RunId)

namespace Run

/-- The look-ups that have not ended. -/
def pending (r : Run) : Nat := r.pendingClassic + r.pendingLowEnergy

/-- Whether no work is left. -/
def isComplete (r : Run) : Bool :=
  !r.watching && r.openEnumerations == 0 && r.pending == 0

/-- The run as it begins: every requested method is starting, and each enumerates once. -/
def begin (id : RunId) (methods : Methods) : Run :=
  let classic := methods.contains Methods.classic
  let lowEnergy := methods.contains Methods.lowEnergy
  { id, methods
    openEnumerations := classic.toNat + lowEnergy.toNat
    watching := lowEnergy
    classic := if classic then .starting else .idle
    lowEnergy := if lowEnergy then .starting else .idle }

/-- The run after an enumeration returned some number of devices, each to be looked up. -/
def countEnumerated (r : Run) (selector : Selector) (found : Nat) : Run :=
  let r := { r with openEnumerations := r.openEnumerations - 1 }
  match selector with
  | .classic => { r with
      pendingClassic := r.pendingClassic + found
      classic := if found = 0 then .stopped else .running }
  | .lowEnergy => { r with pendingLowEnergy := r.pendingLowEnergy + found }

/-- The run after one look-up is over. The classic search stops with its last look-up. -/
def countLookup (r : Run) : Selector → Run
  | .classic =>
    let left := r.pendingClassic - 1
    { r with
      pendingClassic := left
      classic := if left = 0 ∧ r.classic = .running then .stopped else r.classic }
  | .lowEnergy => { r with pendingLowEnergy := r.pendingLowEnergy - 1 }

/-- What a run learns from a look-up. A low-energy device also takes what its advertisements have
said, and its services from there if they were not asked for. -/
def deviceOf (r : Run) (resolution : Resolution) : Device :=
  let device := resolution.device
  match resolution.selector, r.sightings.get? device.address with
  | .lowEnergy, some seen =>
    let device := { device with
      rssi := seen.rssi
      manufacturerData := seen.manufacturerData
      serviceData := seen.serviceData }
    if resolution.services.isNone then device.addServices seen.services.toList else device
  | _, _ => device

end Run

namespace Coordinator

instance : Inhabited Coordinator := ⟨{}⟩

/-! ### Questions -/

/-- Whether a run is under way or about to be. -/
def isActive (c : Coordinator) : Bool :=
  match c.phase with
  | .idle => false
  | _ => true

/-- The run with a number, if it is the present one. -/
def run? (c : Coordinator) (id : RunId) : Option Run :=
  match c.phase with
  | .running r => if r.id = id then some r else none
  | _ => none

/-- Whether a run is the present one. -/
def isRunning (c : Coordinator) (id : RunId) : Bool := (c.run? id).isSome

/-- Whether the adapter is being checked for a run. -/
def isStarting (c : Coordinator) (id : RunId) : Bool :=
  match c.phase with
  | .starting current _ => current = id
  | _ => false

/-- How far the search by a method has come. -/
def sessionState (c : Coordinator) (s : Selector) : SessionState :=
  match c.phase, s with
  | .idle, _ => .idle
  | .starting _ methods, s => if methods.contains s.method then .starting else .idle
  | .running r, .classic => r.classic
  | .running r, .lowEnergy => r.lowEnergy

/-- The look-ups of the present run that have not ended. -/
def pendingLookups (c : Coordinator) : Nat :=
  match c.phase with
  | .running r => r.pending
  | _ => 0

/-- The devices found, in the order of their first appearance. -/
def devices (c : Coordinator) : List Device := c.store.devices

/-! ### Steps -/

/-- What a request for a run comes to at once. -/
inductive StartVerdict where
  /-- It names no method. -/
  | refused
  /-- A run is under way already, so nothing is done. -/
  | ignored
  /-- The adapter is checked for a run with this number. -/
  | checking (run : RunId)

/-- What a request for a run comes to at once. -/
def startVerdict (c : Coordinator) (methods : Methods) : StartVerdict :=
  if methods.isEmpty then .refused
  else if c.isActive then .ignored
  else .checking (c.lastRun + 1)

/-- The end of the present run or of its start. -/
def finish (c : Coordinator) (last : Event) : Coordinator × List Event :=
  ({ c with phase := .idle }, [last])

/-- The present run after a change to its work, which finishes it if no work is left. -/
def continueRun (c : Coordinator) (r : Run) : Coordinator × List Event :=
  if r.isComplete then c.finish .finished else ({ c with phase := .running r }, [])

/-- The announcement of the stored device at an address, by an event that carries it. -/
def announce (c : Coordinator) (a : Address) (event : Device → Event) : List Event :=
  (c.store.get? a).toList.map event

/-- What an adapter's state makes of a start. -/
def beginRun (c : Coordinator) (id : RunId) (methods : Methods) :
    AdapterState → Coordinator × List Event
  | .ready => ({ c with phase := .running (.begin id methods), store := ∅ }, [])
  | .poweredOff => c.finish (.failed .adapterPoweredOff)
  | .unavailable => c.finish (.failed .adapterUnavailable)

/-- Takes in a device that was looked up. -/
def register (c : Coordinator) (device : Device) : Coordinator × List Event :=
  let (store, outcome) := c.store.upsert device
  let c := { c with store }
  match outcome with
  | .inserted => (c, c.announce device.address .discovered)
  | .merged changes =>
    if changes.isEmpty then (c, []) else (c, c.announce device.address (.updated · changes))

/-- Takes in what an advertisement says. -/
def advertise (c : Coordinator) (r : Run) (address : Address) (rssi : Int16)
    (data : AdvertisementData) : Coordinator × List Event :=
  let (sightings, device, change) := r.sightings.observe address rssi data
  let c := { c with phase := .running { r with sightings } }
  match change.announcement with
  | .discovered =>
    let c := { c with store := (c.store.upsert device).1 }
    (c, c.announce address .discovered)
  | .updated fields =>
    let c := { c with store := c.store.update device fields }
    (c, c.announce address (.updated · fields))
  | .suppressed => (c, [])

/-- Does something with a run if it is the present one, and nothing otherwise. -/
def withRun (c : Coordinator) (id : RunId) (f : Run → Coordinator × List Event) :
    Coordinator × List Event :=
  match c.run? id with
  | some r => f r
  | none => (c, [])

/-- Puts an event before those of a step. -/
def announcing (event : Event) (step : Coordinator × List Event) : Coordinator × List Event :=
  (step.1, event :: step.2)

/-- What an action does: the new state, and the events announced in order. `extract` reads the
payload of advertisements. -/
def step (extract : Payload → AdvertisementData) (c : Coordinator) :
    Action → Coordinator × List Event
  | .start methods =>
    match c.startVerdict methods with
    | .checking id => ({ c with lastRun := id, phase := .starting id methods }, [])
    | _ => (c, [])
  | .adapterChecked id state =>
    match c.phase with
    | .starting current methods => if current = id then c.beginRun id methods state else (c, [])
    | _ => (c, [])
  | .startAbandoned id => if c.isStarting id then c.finish .canceled else (c, [])
  | .stop => if c.isActive then c.finish .canceled else (c, [])
  | .enumerated id selector result => c.withRun id fun r =>
    match result with
    | .ok handles => c.continueRun (r.countEnumerated selector handles.length)
    | .error e => announcing (.failed e.kind) (c.continueRun (r.countEnumerated selector 0))
  | .resolved id resolution => c.withRun id fun r => c.register (r.deviceOf resolution)
  | .resolutionFailed id e => c.withRun id fun _ => (c, [.failed e.kind])
  | .lookupEnded id selector => c.withRun id fun r => c.continueRun (r.countLookup selector)
  | .watcherOpened id => c.withRun id fun r =>
    ({ c with phase := .running { r with lowEnergy := .running } }, [])
  | .watcherLost id e => c.withRun id fun r =>
    announcing (.failed e.kind)
      (c.continueRun { r with watching := false, lowEnergy := .stopped })
  | .advertised id report => c.withRun id fun r =>
    c.advertise r report.address report.rssi (extract report.payload)
  | .timedOut id => c.withRun id fun _ => c.finish .finished

/-- What a row of actions does. -/
def steps (extract : Payload → AdvertisementData) (c : Coordinator) :
    List Action → Coordinator × List Event
  | [] => (c, [])
  | a :: as =>
    let (c, now) := c.step extract a
    let (c, later) := c.steps extract as
    (c, now ++ later)

end Coordinator

end BluetoothDiscovery
