import BluetoothDiscovery.Program.Request
import BluetoothDiscovery.Report
import BluetoothDiscovery.Simulation.Clock

/-!
# Replaying a scenario

A replay runs a search over the scripted radio of a scenario until it ends, for less than a day of
its own time: what is due when the day is over does not happen any more, except that a search may
still be refused then. It may be interrupted: once everything else that is due at that time has
happened, the search is stopped. An interruption that comes before the search has begun, or after
its end, is lost.
-/

namespace BluetoothDiscovery.Program

open Simulation

/-- What comes of a replay. -/
inductive Course where
  /-- The search did not begin. -/
  | refused (error : StartError)
  /-- The search ended at a time, with the events announced up to then. -/
  | ended (time : Nat) (events : List Event) (devices : List Device)
  /-- The search has not ended. -/
  | unended (events : List Event)

/-- The time at which a replay is broken off, in milliseconds. -/
def replayLimit : Nat := 24 * 60 * 60 * 1000

/-- Whether a search has begun. -/
def hasBegun (w : World) : Bool :=
  w.results.any fun r => r.2.toBool

/-- Whether a search was refused or has ended. -/
def isOver (w : World) : Bool :=
  (w.results.any fun r => !r.2.toBool) || w.events.any (·.2.isTerminal)

/-- Stops a search that has begun and not ended. -/
def interrupt (w : World) : World :=
  if hasBegun w && !isOver w then w.act .stop else w

/-- The world just before a replay is broken off. -/
def replayWorld (s : Scenario) (search : Search) (interruption : Option Nat) : World :=
  let w : World := { radio := .scripted s }
  let w := w.enqueue [.request 0 search.methods search.timeout]
  let w := match interruption with
    | some time =>
      if time < replayLimit then interrupt (w.runUntil time isOver) else w
    | none => w
  w.runUntil (replayLimit - 1) isOver

/-- What becomes of the request for the search. -/
def verdict (w : World) : Option (Except StartError Unit) :=
  (w.runUntil replayLimit fun w => !w.results.isEmpty).results.head?.map (·.2)

/-- Replays a scenario. -/
def replay (s : Scenario) (search : Search) (interruption : Option Nat) : Course :=
  let w := replayWorld s search interruption
  match verdict w with
  | some (.error e) => .refused e
  | _ =>
    let events := w.events.map (·.2)
    match w.events.find? (·.2.isTerminal) with
    | some (time, _) => .ended time events w.coordinator.devices
    | none => .unended events

end BluetoothDiscovery.Program
