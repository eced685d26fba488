import BluetoothDiscovery.Simulation.Clock

/-!
# Attending a radio

When the radio is attended, someone outside answers its calls and says what its watcher hears. Each
function says whether there was anyone to hear it. What is handed over waits for the turn of the
task it is for, except that a request for a run goes on at once.
-/

namespace BluetoothDiscovery.Simulation.World

/-- Answers the oldest call of a kind that waits. -/
def answer (w : World) (call : Call) (a : Answer) (stopFirst : Bool) : World × Bool :=
  match w.calls.find? (·.call = call) with
  | none => (w, false)
  | some caller =>
    let w := { w with calls := w.calls.eraseP (·.call = call) }
    match caller with
    | .start _ => ((if stopFirst then w.act .stop else w).take caller a, true)
    | _ => (w.enqueue [.take caller a stopFirst], true)

/-- Whether the watcher opened last can still hear something. -/
def canHear (w : World) : Bool :=
  w.watcher.any fun x => x.alive && !x.closed

/-- Reports an advertisement to the watcher opened last. -/
def report (w : World) (r : AdvertisementReport) (stopFirst : Bool) : World × Bool :=
  if w.canHear then (w.deliver (.report r) stopFirst, true) else (w, false)

/-- Lets the watcher opened last report its end, after what was reported before. -/
def closeWatcher (w : World) (stopFirst : Bool) : World × Bool :=
  if w.canHear then
    let w := w.deliver .closed stopFirst
    ({ w with watcher := w.watcher.map ({ · with closed := true }) }, true)
  else (w, false)

end BluetoothDiscovery.Simulation.World
