import BluetoothDiscovery.Proofs.Schedule.Record
import BluetoothDiscovery.Proofs.Simulation.Chains
import BluetoothDiscovery.Proofs.Simulation.Clock

/-!
# What the turns of a run do

A turn of a run that is under way does something for the run, puts further turns into the queue and
lets one more wait.  `Turn.effect` is these three, read off the script alone, and
`World.perform_of_plain` says that a turn does what its effect says.

The turns of a watcher are left out here: what they do depends on what was delivered.
-/

namespace BluetoothDiscovery.Simulation

/-! ### Doings -/

/-- Something that is done for a run. -/
inductive Doing where
  | asked (call : Call)
  | enumerated (selector : Selector) (result : Except PlatformError (List Handle))
  /-- A look-up comes to its outcome and is over. -/
  | lookedUp (slot : Selector) (outcome : Except PlatformError Resolution)
  | opened
  | heard (report : AdvertisementReport)
  | timedOut

namespace Doing

/-- What a doing means to the coordinator. -/
def actions (run : RunId) : Doing → List Action
  | .asked _ => []
  | .enumerated selector result => [.enumerated run selector result]
  | .lookedUp slot outcome => [.ofOutcome run outcome, .lookupEnded run slot]
  | .opened => [.watcherOpened run]
  | .heard report => [.advertised run report]
  | .timedOut => [.timedOut run]

/-- The call that is made. -/
def call? : Doing → Option Call
  | .asked call => some call
  | _ => none

/-- The advertisement that is heard. -/
def heard? : Doing → Option AdvertisementReport
  | .heard report => some report
  | _ => none

/-- Whether a doing is anything but an advertisement that is heard. -/
def isWork : Doing → Bool
  | .heard _ => false
  | _ => true

end Doing

namespace World

/-- A world in which something is done for a run. -/
def doing (run : RunId) (w : World) : Doing → World
  | .asked call => { w with tally := w.tally.count call }
  | .enumerated selector result => w.act (.enumerated run selector result)
  | .lookedUp slot outcome => w.endLookup run slot outcome
  | .opened => w.act (.watcherOpened run)
  | .heard report => w.act (.advertised run report)
  | .timedOut => w.act (.timedOut run)

/-- A world with more turns in its queue, and perhaps one more that waits. -/
def put (w : World) (more : List Turn) (later : Option Timer) : World :=
  { w with
    queue := w.queue ++ more
    timers := later.elim w.timers (insertTimer · w.timers) }

end World

/-! ### Effects -/

/-- What comes of a turn: what is done, the turns that can be taken next, and the turn that
waits. -/
structure Effect where
  doings : List Doing := []
  more : List Turn := []
  later : Option Timer := none

namespace World

/-- A world after the effect of a turn. -/
def apply (w : World) (run : RunId) (e : Effect) : World :=
  (e.doings.foldl (doing run) w).put e.more e.later

end World

namespace Effect

variable (s : Scenario) (now : Nat)

/-- The effect of a call that is answered after some milliseconds, from the effect of taking the
answer. -/
def ofCall (caller : Caller) (delay : Nat) (answer : Answer) (taken : Effect) : Effect :=
  if delay = 0 then { taken with doings := .asked caller.call :: taken.doings }
  else
    { doings := [.asked caller.call]
      later := some ⟨now + min delay longestWait, .take caller answer false⟩ }

/-- The effect of the second answer to a look-up. -/
def ofListing (slot : Selector) (handle : Handle) (identity : Identity)
    (result : Except PlatformError ServiceListing) : Effect :=
  { doings := [.lookedUp slot (result.bind (Resolution.ofListing handle.selector identity))] }

/-- The effect of the first answer to a look-up. -/
def ofIdentity (run : RunId) (slot : Selector) (handle : Handle) :
    Except PlatformError Identity → Effect
  | .error e => { doings := [.lookedUp slot (.error e)] }
  | .ok identity =>
    if Resolution.asksForServices handle.selector identity then
      ofCall now (.services run slot handle identity) (s.listingOf handle).1
        (.services (s.listingOf handle).2) (ofListing slot handle identity (s.listingOf handle).2)
    else { doings := [.lookedUp slot (.ok ⟨handle.selector, identity, none⟩)] }

/-- The effect of the answer to an enumeration. -/
def ofHandles (run : RunId) (selector : Selector) (result : Except PlatformError (List Handle)) :
    Effect where
  doings := [.enumerated selector result]
  more := match result with
    | .ok handles => handles.map fun h => .call (.identity run selector h)
    | .error _ => []

end Effect

/-- The run that a turn is for. -/
def Turn.run? : Turn → Option RunId
  | .request _ _ _ => none
  | .call caller | .take caller _ _ => some caller.run
  | .feed run _ _ | .read run | .arm run _ | .expire run => some run

/-- Whether a turn has to do with enumerations, look-ups, or the time for advertisements. -/
def Turn.isPlain : Turn → Bool
  | .call (.enumeration _ _) | .call (.identity _ _ _) => true
  | .take (.enumeration _ _) _ stopFirst | .take (.identity _ _ _) _ stopFirst
  | .take (.services _ _ _ _) _ stopFirst => !stopFirst
  | .arm _ timeout => timeout != 0
  | .expire _ => true
  | _ => false

/-- The effect of a plain turn of a run that is under way. -/
def Turn.effect (s : Scenario) (now : Nat) : Turn → Effect
  | .call (.enumeration run selector) =>
    .ofCall now (.enumeration run selector) s.enumerationDelay (.handles (s.enumerate selector))
      (.ofHandles run selector (s.enumerate selector))
  | .call (.identity run slot handle) =>
    .ofCall now (.identity run slot handle) (s.identityOf handle).1
      (.identity (s.identityOf handle).2)
      (.ofIdentity s now run slot handle (s.identityOf handle).2)
  | .take (.enumeration run selector) (.handles result) _ => .ofHandles run selector result
  | .take (.identity run slot handle) (.identity result) _ =>
    .ofIdentity s now run slot handle result
  | .take (.services _ slot handle identity) (.services result) _ =>
    .ofListing slot handle identity result
  | .arm run timeout => { later := some ⟨now + min timeout longestWait, .expire run⟩ }
  | .expire _ => { doings := [.timedOut] }
  | _ => {}

/-! ### Turns and their effects -/

namespace World

variable {w : World} {s : Scenario} {run : RunId}

@[simp]
theorem put_nil (w : World) : w.put [] none = w := by
  unfold put
  rw [List.append_nil]
  rfl

/-- A script answers a call at once, or the answer waits. -/
theorem ask_of_scripted (radio : w.radio = .scripted s) (caller : Caller) (run : RunId) :
    w.ask caller =
      if (s.answer caller.call).1 = 0 then
        (w.doing run (.asked caller.call), some (s.answer caller.call).2)
      else ((w.doing run (.asked caller.call)).put []
        (some ⟨w.now + min (s.answer caller.call).1 longestWait,
          .take caller (s.answer caller.call).2 false⟩), none) := by
  unfold ask
  split
  next h => cases h.symm.trans radio
  next s' h =>
    obtain rfl : s' = s := Radio.scripted.inj (h.symm.trans radio)
    dsimp only
    split
    · rfl
    · unfold put
      rw [List.append_nil]
      rfl

/-- The effect of a call is that of taking its answer, or that it waits. -/
theorem perform_call (radio : w.radio = .scripted s) {caller : Caller}
    (awaited : w.awaits caller = true) {taken : Effect}
    (take : (w.doing run (.asked caller.call)).take caller (s.answer caller.call).2 =
      (w.doing run (.asked caller.call)).apply run taken) :
    w.perform (.call caller) = w.apply run (.ofCall w.now caller (s.answer caller.call).1
      (s.answer caller.call).2 taken) := by
  unfold perform
  simp only [awaited, if_true]
  rw [ask_of_scripted radio caller run]
  unfold Effect.ofCall
  by_cases atOnce : (s.answer caller.call).1 = 0
  · rw [if_pos atOnce, if_pos atOnce]
    exact take
  · rw [if_neg atOnce, if_neg atOnce]
    rfl

theorem takeServices_eq (w : World) (run : RunId) (slot : Selector) (handle : Handle)
    (identity : Identity) (result : Except PlatformError ServiceListing) :
    w.takeServices run slot handle identity result =
      w.apply run (.ofListing slot handle identity result) :=
  (put_nil _).symm

theorem takeIdentity_eq (radio : w.radio = .scripted s) (run : RunId) (slot : Selector)
    (handle : Handle) (result : Except PlatformError Identity) :
    w.takeIdentity run slot handle result =
      w.apply run (.ofIdentity s w.now run slot handle result) := by
  cases result with
  | error e => exact (put_nil _).symm
  | ok identity =>
    unfold takeIdentity Effect.ofIdentity Effect.ofCall
    dsimp only
    split
    · rw [ask_of_scripted radio _ run]
      by_cases atOnce : (s.answer (Caller.services run slot handle identity).call).1 = 0
      · have listed : (s.listingOf handle).1 = 0 := atOnce
        rw [if_pos atOnce, if_pos listed]
        exact takeServices_eq _ run slot handle identity _
      · have waits : ¬ (s.listingOf handle).1 = 0 := atOnce
        rw [if_neg atOnce, if_neg waits]
        rfl
    · exact (put_nil _).symm

theorem takeHandles_eq (running : w.coordinator.isRunning run = true) (selector : Selector)
    (result : Except PlatformError (List Handle)) :
    w.take (.enumeration run selector) (.handles result) =
      w.apply run (.ofHandles run selector result) := by
  unfold take
  cases result with
  | error e => exact (put_nil _).symm
  | ok handles =>
    dsimp only
    rw [if_pos running]
    rfl

/-- A plain turn of a run that is under way has its effect. -/
theorem perform_of_plain (radio : w.radio = .scripted s) {turn : Turn}
    (plain : turn.isPlain = true) (own : turn.run? = some run)
    (running : w.coordinator.isRunning run = true) :
    w.perform turn = w.apply run (turn.effect s w.now) := by
  cases turn with
  | request => cases plain
  | call caller =>
    obtain rfl : caller.run = run := Option.some.inj own
    cases caller with
    | enumeration run selector =>
      have awaited : w.awaits (.enumeration run selector) = true := running
      have running' : (w.doing run (.asked (.enumerate selector))).coordinator.isRunning run =
          true := running
      exact perform_call radio awaited (takeHandles_eq running' selector (s.enumerate selector))
    | identity run slot handle =>
      have awaited : w.awaits (.identity run slot handle) = true := running
      have radio' : (w.doing run (.asked (.identify handle))).radio = .scripted s := radio
      exact perform_call radio awaited
        (takeIdentity_eq radio' run slot handle (s.identityOf handle).2)
    | _ => cases plain
  | take caller answer stopFirst =>
    obtain rfl : caller.run = run := Option.some.inj own
    have awaited : w.awaits caller = true := by
      cases caller with
      | start _ => cases plain
      | _ => exact running
    -- An answer that does not fit its call is not read.
    have nothing : w = w.apply caller.run {} := (put_nil w).symm
    cases stopFirst with
    | true => cases caller <;> cases plain
    | false =>
      unfold perform
      simp only [awaited, if_true, Bool.false_eq_true, if_false]
      cases caller with
      | start _ => cases plain
      | enumeration run selector =>
        cases answer with
        | handles result => exact takeHandles_eq running selector result
        | _ => exact nothing
      | identity run slot handle =>
        cases answer with
        | identity result => exact takeIdentity_eq radio run slot handle result
        | _ => exact nothing
      | services run slot handle identity =>
        cases answer with
        | services result => exact takeServices_eq w run slot handle identity result
        | _ => exact nothing
      | watcher _ => cases plain
  | feed => cases plain
  | read => cases plain
  | arm run' timeout =>
    obtain rfl : run' = run := Option.some.inj own
    unfold perform
    simp only [running, if_true]
    unfold wait endOfWait apply put Turn.effect
    rw [List.append_nil]
    rfl
  | expire run' =>
    obtain rfl : run' = run := Option.some.inj own
    exact (put_nil _).symm

end World

end BluetoothDiscovery.Simulation
