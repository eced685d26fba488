import BluetoothDiscovery.Scenario

/-!
# The world of a simulation

A coordinator works through tasks: one for each enumeration, one for each device that is looked up,
one that reads advertisements, one that watches the clock. A task is not kept as such. Between two
of its turns it is just the turn that comes next, and that turn stands in one of four places: in the
queue of turns that can be taken now, with a timer, with a call that is not answered yet, or with a
watcher that has nothing to read. The `World` is these places, the coordinator and a clock.

The radio is either scripted, so that the world goes on by itself, or attended: then calls wait
until someone answers them.
-/

namespace BluetoothDiscovery.Simulation

/-- A request for a run that waits for the check of the adapter. -/
structure Starting where
  /-- The number of the request. -/
  request : Nat
  run : RunId
  methods : Methods
  /-- The time for advertisements in milliseconds, without end if there is none. -/
  timeout : Option Nat

/-- Who made a call, and so what is done with its answer. -/
inductive Caller where
  | start (s : Starting)
  | enumeration (run : RunId) (selector : Selector)
  /-- The first look-up of a device from the enumeration `slot`. -/
  | identity (run : RunId) (slot : Selector) (handle : Handle)
  /-- The second look-up. -/
  | services (run : RunId) (slot : Selector) (handle : Handle) (identity : Identity)
  | watcher (run : RunId)

namespace Caller

/-- The call that was made. -/
def call : Caller → Call
  | .start _ => .adapter
  | .enumeration _ selector => .enumerate selector
  | .identity _ _ handle => .identify handle
  | .services _ _ handle _ => .services handle
  | .watcher _ => .openWatcher

/-- The run that a call is made for. -/
def run : Caller → RunId
  | .start s => s.run
  | .enumeration run _ | .identity run _ _ | .services run _ _ _ | .watcher run => run

/-- The request that a call belongs to, if it is the check of the adapter. -/
def request? : Caller → Option Nat
  | .start s => some s.request
  | _ => none

end Caller

/-- What a task does next. -/
inductive Turn where
  /-- A request for a run. -/
  | request (number : Nat) (methods : Methods) (timeout : Option Nat)
  /-- A call is made. -/
  | call (caller : Caller)
  /-- An answer is taken. With `stopFirst` the radio stops the run as it hands the answer over. -/
  | take (caller : Caller) (answer : Answer) (stopFirst : Bool)
  /-- Advertisements of the script that are due go to the watcher of a run. -/
  | feed (run : RunId) (opened : Nat) (rest : List ScriptedAdvertisement)
  /-- Advertisements are read. -/
  | read (run : RunId)
  /-- The time for advertisements begins. -/
  | arm (run : RunId) (timeout : Nat)
  /-- The time for advertisements is over. -/
  | expire (run : RunId)

/-- The longest wait of a given length, in milliseconds: thirty years of 365 days. It is the limit
of the runtime's timer, which cuts a longer wait to it, and stands nowhere in the program itself. A
wait until a set time is not cut, such as that for the next advertisement of a script. -/
def longestWait : Nat := 30 * 365 * 24 * 60 * 60 * 1000

/-- A turn that can be taken from a time on. -/
structure Timer where
  deadline : Nat
  turn : Turn

/-- What a watcher hands over. -/
inductive Delivery where
  | report (r : AdvertisementReport)
  | closed

/-- A watcher of advertisements. -/
structure Watcher where
  run : RunId
  /-- What was delivered and not yet read; the flag is that of `Turn.take`. -/
  inbox : List (Delivery × Bool) := []
  /-- Whether the task that reads waits for a delivery. -/
  awaited : Bool := false
  /-- Whether there is still someone to deliver to. -/
  alive : Bool := true
  /-- Whether the end was delivered. -/
  closed : Bool := false

/-- How many calls of the counted kinds were made. -/
structure Tally where
  enumerate : Nat := 0
  resolve : Nat := 0
  services : Nat := 0

/-- A tally with one more call. -/
def Tally.count (t : Tally) : Call → Tally
  | .enumerate _ => { t with enumerate := t.enumerate + 1 }
  | .identify _ => { t with resolve := t.resolve + 1 }
  | .services _ => { t with services := t.services + 1 }
  | _ => t

/-- Who answers calls. -/
inductive Radio where
  | scripted (s : Scenario)
  | attended

/-- What became of a request for a run. -/
abbrev StartResult : Type := Nat × Except StartError Unit

/-- A coordinator at work. -/
structure World where
  radio : Radio
  /-- How payloads are read. -/
  extract : Payload → AdvertisementData := Payload.extract
  coordinator : Coordinator := {}
  /-- The clock, in milliseconds. -/
  now : Nat := 0
  /-- The turns that can be taken now, the next first. -/
  queue : List Turn := []
  /-- The turns that wait for a time, by time and then by age. -/
  timers : List Timer := []
  /-- The calls that wait for an answer, the oldest first. -/
  calls : List Caller := []
  /-- The watcher opened last. -/
  watcher : Option Watcher := none
  /-- The requests for a run that have not come to a result, the oldest first. -/
  requests : List Starting := []
  results : List StartResult := []
  /-- The events announced, each with its time. -/
  events : List (Nat × Event) := []
  tally : Tally := {}

namespace World

/-- The script of the radio; an attended radio has none. -/
def script (w : World) : Scenario :=
  match w.radio with
  | .scripted s => s
  | .attended => {}

/-- Lets an action happen to the coordinator. -/
def act (w : World) (a : Action) : World :=
  let (coordinator, events) := w.coordinator.step w.extract a
  { w with coordinator, events := w.events ++ events.map (w.now, ·) }

/-- Puts turns at the end of the queue. -/
def enqueue (w : World) (turns : List Turn) : World :=
  { w with queue := w.queue ++ turns }

/-- Puts a timer behind all that are due no later. -/
def insertTimer (t : Timer) : List Timer → List Timer
  | [] => [t]
  | u :: us => if t.deadline < u.deadline then t :: u :: us else u :: insertTimer t us

/-- Lets a turn wait for a time. -/
def wait (w : World) (deadline : Nat) (turn : Turn) : World :=
  { w with timers := insertTimer ⟨deadline, turn⟩ w.timers }

/-- The time at which a wait of some milliseconds is over that begins now. -/
def endOfWait (w : World) (ms : Nat) : Nat :=
  w.now + min ms longestWait

/-- Takes down what a request came to. -/
def conclude (w : World) (request : Nat) (result : Except StartError Unit) : World :=
  { w with
    requests := w.requests.filter (·.request != request)
    results := w.results ++ [(request, result)] }

/-- Delivers something to the watcher; a task that waits for it gets a turn. -/
def deliver (w : World) (d : Delivery) (stopFirst : Bool) : World :=
  match w.watcher with
  | none => w
  | some x =>
    let inbox := x.inbox ++ [(d, stopFirst)]
    let w := { w with watcher := some { x with inbox, awaited := false } }
    if x.awaited then w.enqueue [.read x.run] else w

/-- Drops the watcher of a run. -/
def dropWatcher (w : World) (run : RunId) : World :=
  { w with watcher := w.watcher.map fun x => if x.run = run then { x with alive := false } else x }

end World

end BluetoothDiscovery.Simulation
