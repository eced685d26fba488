import BluetoothDiscovery.Simulation.Clock

/-!
# Using a scripted radio directly

The radio of a scenario can be used without a coordinator: each call takes the time that the script
says, and a watcher is read one advertisement at a time.
-/

namespace BluetoothDiscovery.Simulation

/-- Whether a turn feeds a watcher. -/
def Turn.isFeed : Turn → Bool
  | .feed _ _ _ => true
  | _ => false

namespace World

/-- Lets time pass up to a time. There is no run here that a watcher could outlive. -/
def passUntil (w : World) (time : Nat) : World :=
  w.runUntil time fun _ => false

/-- Makes a call and waits for its answer. -/
def callDirectly (w : World) (call : Call) : World × Answer :=
  let (delay, answer) := w.script.answer call
  ({ w with tally := w.tally.count call }.passUntil (w.endOfWait delay), answer)

/-- Enumerates devices. -/
def enumerateDirectly (w : World) (selector : Selector) :
    World × Except PlatformError (List Handle) :=
  match w.callDirectly (.enumerate selector) with
  | (w, .handles result) => (w, result)
  | (w, _) => (w, .ok [])

/-- Makes the first look-up of a device. -/
def identifyDirectly (w : World) (h : Handle) : World × Except PlatformError Identity :=
  match w.callDirectly (.identify h) with
  | (w, .identity result) => (w, result)
  | (w, _) => (w, .error ⟨.resolveDevice, ""⟩)

/-- Makes the second look-up of a device. -/
def listServicesDirectly (w : World) (h : Handle) : World × Except PlatformError ServiceListing :=
  match w.callDirectly (.services h) with
  | (w, .services result) => (w, result)
  | (w, _) => (w, .error ⟨.fetchServices, ""⟩)

/-- Looks a device up in both steps, the second where it is needed. -/
def resolveDirectly (w : World) (h : Handle) : World × Except PlatformError Resolution :=
  match w.identifyDirectly h with
  | (w, .error e) => (w, .error e)
  | (w, .ok identity) =>
    if Resolution.asksForServices h.selector identity then
      let (w, listing) := w.listServicesDirectly h
      (w, listing.bind (Resolution.ofListing h.selector identity))
    else (w, .ok ⟨h.selector, identity, none⟩)

/-! ### Watching -/

/-- Aborts the task that feeds a watcher. -/
def abortFeed (w : World) : World :=
  { w with timers := w.timers.filter (!·.turn.isFeed) }

/-- Opens a watcher instead of an earlier one, which is not fed any more. -/
def watchDirectly (w : World) : World × Except PlatformError Unit :=
  match w.callDirectly .openWatcher with
  | (w, .watcher (.ok ())) => ((w.abortFeed.openWatcher 0).passUntil w.now, .ok ())
  | (w, .watcher (.error e)) => (w, .error e)
  | (w, _) => (w, .ok ())

/-- What a watcher has delivered and not yet handed over. -/
def delivered (w : World) : List (Delivery × Bool) :=
  w.watcher.elim [] (·.inbox)

/-- Takes the next advertisement, if one is there or comes before a given time has passed. One that
is due at the very end of that time comes too late, for the end is noticed first. -/
def nextReport (w : World) (ms : Nat) : World × Option Delivery :=
  let deadline := w.endOfWait ms
  let w := if w.delivered.isEmpty then
    w.runUntil (deadline - 1) fun w => !w.delivered.isEmpty else w
  match w.delivered with
  | [] => (w.passUntil deadline, none)
  | (d, _) :: rest =>
    ({ w with watcher := w.watcher.map ({ · with inbox := rest }) }, some d)

/-- Stops the watcher: nothing more is delivered to it. -/
def stopWatching (w : World) : World := w.abortFeed

end World

end BluetoothDiscovery.Simulation
