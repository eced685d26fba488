import BluetoothDiscovery.Simulation.World

/-!
# Turns

`World.perform` is what a task does in one turn: everything it can do before it has to wait. Calls
that a script answers without delay do not wait, so that one turn may reach through several calls.

A task of a run that has ended does nothing more. It is enough that every turn looks at this first;
what was handed over before is refused by the coordinator itself.
-/

namespace BluetoothDiscovery.Simulation.World

/-! ### Calls -/

/-- Makes a call: a script answers it, now or later; otherwise it waits for an answer. -/
def ask (w : World) (caller : Caller) : World × Option Answer :=
  match w.radio with
  | .attended => ({ w with calls := w.calls ++ [caller] }, none)
  | .scripted s =>
    let w := { w with tally := w.tally.count caller.call }
    let (delay, answer) := s.answer caller.call
    if delay = 0 then (w, some answer)
    else (w.wait (w.endOfWait delay) (.take caller answer false), none)

/-! ### Looking up a device -/

/-- Ends the look-up of a device with what it came to. -/
def endLookup (w : World) (run : RunId) (slot : Selector)
    (outcome : Except PlatformError Resolution) : World :=
  let w := match outcome with
    | .ok resolution => w.act (.resolved run resolution)
    | .error e => w.act (.resolutionFailed run e)
  w.act (.lookupEnded run slot)

/-- Goes on with a look-up once the services are listed. -/
def takeServices (w : World) (run : RunId) (slot : Selector) (handle : Handle)
    (identity : Identity) (result : Except PlatformError ServiceListing) : World :=
  w.endLookup run slot (result.bind (Resolution.ofListing handle.selector identity))

/-- Goes on with a look-up once the device is identified. -/
def takeIdentity (w : World) (run : RunId) (slot : Selector) (handle : Handle) :
    Except PlatformError Identity → World
  | .error e => w.endLookup run slot (.error e)
  | .ok identity =>
    if Resolution.asksForServices handle.selector identity then
      match w.ask (.services run slot handle identity) with
      | (w, some (.services result)) => w.takeServices run slot handle identity result
      | (w, _) => w
    else w.endLookup run slot (.ok ⟨handle.selector, identity, none⟩)

/-! ### Watching advertisements -/

/-- Hands deliveries to the coordinator until none is left or the run has ended. -/
def readAll (w : World) (run : RunId) : List (Delivery × Bool) → World
  | [] =>
    if w.coordinator.isRunning run then
      { w with watcher := w.watcher.map ({ · with inbox := [], awaited := true }) }
    else w.dropWatcher run
  | (d, stopFirst) :: rest =>
    if w.coordinator.isRunning run then
      let w := if stopFirst then w.act .stop else w
      match d with
      | .report r => (w.act (.advertised run r)).readAll run rest
      | .closed =>
        (w.act (.watcherLost run ⟨.advertisement, "advertisement watcher closed by platform"⟩))
          |>.dropWatcher run
    else w.dropWatcher run

/-- Reads what was delivered to the watcher of a run. -/
def read (w : World) (run : RunId) : World :=
  match w.watcher with
  | some x => if x.run = run then w.readAll run x.inbox else w
  | none => w

/-- Whether the watcher of a run takes deliveries. -/
def hears (w : World) (run : RunId) : Bool :=
  w.watcher.any fun x => x.run = run && x.alive

/-- Delivers the advertisements that are due and waits for the next. -/
def feed (w : World) (run : RunId) (opened : Nat) : List ScriptedAdvertisement → World
  | [] => w
  | a :: rest =>
    if w.hears run then
      if opened + a.time ≤ w.now then (w.deliver (.report a.report) false).feed run opened rest
      else w.wait (opened + a.time) (.feed run opened (a :: rest))
    else w

/-- Opens a watcher for a run; a script begins to feed it. -/
def openWatcher (w : World) (run : RunId) : World :=
  let w := { w with watcher := some { run } }
  match w.radio with
  | .scripted s => w.enqueue [.feed run w.now s.timeline]
  | .attended => w

/-- Goes on with watching once the watcher is open or could not be opened. -/
def takeWatcher (w : World) (run : RunId) : Except PlatformError Unit → World
  | .error e => w.act (.watcherLost run e)
  | .ok () =>
    let w := w.openWatcher run
    if w.coordinator.isRunning run then (w.act (.watcherOpened run)).read run
    else w.dropWatcher run

/-! ### Starting -/

/-- The tasks of a run that begins. -/
def tasks (s : Starting) : List Turn :=
  (if s.methods.contains Methods.classic then [.call (.enumeration s.run .classic)] else []) ++
  if s.methods.contains Methods.lowEnergy then
    .call (.enumeration s.run .lowEnergy) :: .call (.watcher s.run) ::
      match s.timeout with
      | some timeout => if timeout = 0 then [] else [.arm s.run timeout]
      | none => []
  else []

/-- Goes on with a request once the adapter is checked, unless it was given up. A request that was
stopped meanwhile comes to nothing. -/
def takeAdapter (w : World) (s : Starting) (state : AdapterState) : World :=
  if w.requests.any (·.request = s.request) then
    if w.coordinator.isStarting s.run then
      let w := w.act (.adapterChecked s.run state)
      match state with
      | .ready => (w.conclude s.request (.ok ())).enqueue (tasks s)
      | .poweredOff => w.conclude s.request (.error .adapterPoweredOff)
      | .unavailable => w.conclude s.request (.error .adapterUnavailable)
    else w.conclude s.request (.ok ())
  else w

/-- Makes a request for a run. -/
def request (w : World) (number : Nat) (methods : Methods) (timeout : Option Nat) : World :=
  match w.coordinator.startVerdict methods with
  | .refused => w.conclude number (.error .noDiscoveryMethod)
  | .ignored => w.conclude number (.ok ())
  | .checking run =>
    let s := ⟨number, run, methods, timeout⟩
    let w := w.act (.start methods)
    match { w with requests := w.requests ++ [s] }.ask (.start s) with
    | (w, some (.adapter state)) => w.takeAdapter s state
    | (w, _) => w

/-- Gives up the newest request that has come to no result; the answer names it. -/
def abandon (w : World) : World × Option Nat :=
  match w.requests.getLast? with
  | none => (w, none)
  | some s =>
    let w := { w with
      requests := w.requests.filter (·.request != s.request)
      calls := w.calls.filter (·.request? != some s.request) }
    (w.act (.startAbandoned s.run), some s.request)

/-! ### Turns -/

/-- Goes on with what an answer was waited for. -/
def take (w : World) (caller : Caller) (answer : Answer) : World :=
  match caller, answer with
  | .start s, .adapter state => w.takeAdapter s state
  | .enumeration run selector, .handles result =>
    let present := w.coordinator.isRunning run
    let w := w.act (.enumerated run selector result)
    match result with
    | .ok handles =>
      if present then w.enqueue (handles.map fun h => .call (.identity run selector h)) else w
    | .error _ => w
  | .identity run slot handle, .identity result => w.takeIdentity run slot handle result
  | .services run slot handle identity, .services result =>
    w.takeServices run slot handle identity result
  | .watcher run, .watcher result => w.takeWatcher run result
  | _, _ => w

/-- Whether a call is still waited for: a request until it is given up, and any other call as long
as its run lasts. -/
def awaits (w : World) : Caller → Bool
  | .start s => w.requests.any (·.request = s.request)
  | caller => w.coordinator.isRunning caller.run

/-- What is done in a turn. -/
def perform (w : World) : Turn → World
  | .request number methods timeout => w.request number methods timeout
  | .call caller =>
    if w.awaits caller then
      match w.ask caller with
      | (w, some answer) => w.take caller answer
      | (w, none) => w
    else w
  | .take caller answer stopFirst =>
    if w.awaits caller then (if stopFirst then w.act .stop else w).take caller answer else w
  | .feed run opened rest => w.feed run opened rest
  | .read run => w.read run
  | .arm run timeout =>
    if w.coordinator.isRunning run then w.wait (w.endOfWait timeout) (.expire run) else w
  | .expire run => w.act (.timedOut run)

end BluetoothDiscovery.Simulation.World
