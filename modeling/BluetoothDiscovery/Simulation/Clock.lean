import BluetoothDiscovery.Simulation.Turn

/-!
# The clock

Turns are taken in the order of the queue. The clock stands still as long as there is one; then it
jumps to the next timer, and all turns that wait for that time join the queue in the order in which
they began to wait. `World.settle` takes all turns of the present time, `World.advance` lets time
pass, and `World.advanceUntil` lets it pass until something has happened.

Every task ends after a number of turns that its work limits, so the turns of a world are limited
too. `World.work` is such a limit.
-/

namespace BluetoothDiscovery.Simulation

/-- The turns that are left once a call is answered, at most. -/
def Caller.work (s : Scenario) : Caller → Nat
  | .start _ =>
    10 + 3 * (s.classicDevices.length + s.lowEnergyDevices.length) + 2 * s.advertisements.length
  | .enumeration _ selector => 1 + 3 * (s.devices selector).length
  | .identity _ _ _ => 2
  | .services _ _ _ _ => 1
  | .watcher _ => 2 + 2 * s.advertisements.length

/-- A turn and the turns that may come of it, at most. -/
def Turn.work (s : Scenario) : Turn → Nat
  | .request number methods timeout => 1 + (Caller.start ⟨number, 0, methods, timeout⟩).work s
  | .call caller => 1 + caller.work s
  | .take _ (.handles (.ok handles)) _ => 1 + 3 * handles.length
  | .take caller _ _ => caller.work s
  | .feed _ _ rest => 1 + 2 * rest.length
  | .read _ => 1
  | .arm _ _ => 2
  | .expire _ => 1

namespace World

/-- The turns that may still be taken before the world comes to rest, at most. -/
def work (w : World) : Nat :=
  (w.queue ++ w.timers.map (·.turn)).foldl (fun n turn => n + turn.work w.script) 0

/-- The clock jumps to a time, and the turns that wait for it join the queue. -/
def wake (w : World) (time : Nat) : World :=
  { w with
    now := time
    queue := w.queue ++ (w.timers.takeWhile (·.deadline ≤ time)).map (·.turn)
    timers := w.timers.dropWhile (·.deadline ≤ time) }

/-- Takes turns and lets the clock jump up to a time, unless `done` holds between two jumps. Each
turn and each jump costs one unit of fuel. -/
def runFor (time : Nat) (done : World → Bool) : Nat → World → World
  | 0, w => w
  | fuel + 1, w =>
    match w.queue with
    | turn :: rest => runFor time done fuel ({ w with queue := rest }.perform turn)
    | [] =>
      if done w then w
      else match w.timers with
        | t :: _ =>
          if t.deadline ≤ time then runFor time done fuel (w.wake t.deadline)
          else { w with now := max w.now time }
        | [] => { w with now := max w.now time }

/-- Takes turns until a time, or until `done` holds with all turns of a time taken. -/
def runUntil (w : World) (time : Nat) (done : World → Bool) : World :=
  runFor time done (2 * w.work + 2) w

/-- What a run that has ended leaves behind is gone: its calls and its watcher. -/
def sweep (w : World) : World :=
  { w with
    calls := w.calls.filter w.awaits
    watcher := w.watcher.map fun x =>
      if w.coordinator.isRunning x.run then x else { x with alive := false } }

/-- Takes all turns of the present time. -/
def settle (w : World) : World :=
  (w.runUntil w.now fun _ => false).sweep

/-- Lets time pass, at most that of the longest wait. -/
def advance (w : World) (ms : Nat) : World :=
  (w.runUntil (w.endOfWait ms) fun _ => false).sweep

/-- Lets time pass until something holds, but at most for a given time. -/
def advanceUntil (w : World) (ms : Nat) (done : World → Bool) : World :=
  (w.runUntil (w.endOfWait ms) done).sweep

end World

end BluetoothDiscovery.Simulation
