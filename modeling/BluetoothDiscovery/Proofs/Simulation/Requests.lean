import BluetoothDiscovery.Proofs.Schedule.Starts
import BluetoothDiscovery.Proofs.Simulation.Reached

/-!
# What becomes of requests

A request for a run comes to one result, which its caller waits for.  Only two turns bring a result
about, that of the request itself and the one that takes the answer of the adapter
(`concluded_perform`).  A request that is answered with an error leaves the devices and everything
that is still to be done as they were (`Refused`).

`StartsApart` is the same from the side of the coordinator, over every order in which starts, stops
and answers may come: what is left of a start that begins no run is the report of its failure.
-/

namespace BluetoothDiscovery

namespace Simulation

/-- How a request that is answered with an error is reported to the consumer of events.  One that
names no method is answered before there is anything to report. -/
def reportOf : StartError → List Event
  | .noDiscoveryMethod => []
  | .adapterPoweredOff => [.failed .adapterPoweredOff]
  | .adapterUnavailable => [.failed .adapterUnavailable]

/-- What a request that is answered with an error makes of a world `w`: no device comes or goes,
nothing more is waited for or done, and no call that is counted is made. -/
structure Refused (w w' : World) (e : StartError) : Prop where
  store : w'.coordinator.store = w.coordinator.store
  /-- A failed check of the adapter leaves the coordinator idle. -/
  phase : w'.coordinator.phase = if e = .noDiscoveryMethod then w.coordinator.phase else .idle
  events : w'.events = w.events ++ (reportOf e).map (w.now, ·)
  queue : w'.queue = w.queue
  timers : w'.timers = w.timers
  calls : w'.calls.Sublist w.calls
  watcher : w'.watcher = w.watcher
  tally : w'.tally = w.tally

/-- What a turn does to the results of requests that name a method. -/
inductive Concluded (w w' : World) : Prop
  | nothing (results : w'.results = w.results)
  | accepted (request : Nat) (results : w'.results = w.results ++ [(request, .ok ())])
  | failed (request : Nat) (e : StartError) (checked : e ≠ .noDiscoveryMethod)
      (results : w'.results = w.results ++ [(request, .error e)]) (rest : Refused w w' e)

namespace World

variable {w w' : World} {run : RunId} {slot : Selector}

/-! ### Turns without results -/

@[simp]
theorem results_deliver (w : World) (d : Delivery) (stopFirst : Bool) :
    (w.deliver d stopFirst).results = w.results := by
  unfold deliver
  cases w.watcher with
  | none => rfl
  | some x => dsimp only; split <;> rfl

theorem results_ask (w : World) (caller : Caller) : (w.ask caller).1.results = w.results := by
  unfold ask
  split
  · rfl
  · dsimp only
    split <;> rfl

@[simp]
theorem results_endLookup (w : World) (run : RunId) (slot : Selector)
    (outcome : Except PlatformError Resolution) :
    (w.endLookup run slot outcome).results = w.results := by
  cases outcome <;> rfl

@[simp]
theorem results_takeIdentity (w : World) (run : RunId) (slot : Selector) (handle : Handle)
    (result : Except PlatformError Identity) :
    (w.takeIdentity run slot handle result).results = w.results := by
  cases result with
  | error e => rfl
  | ok identity =>
    unfold takeIdentity
    dsimp only
    have asked := results_ask w (.services run slot handle identity)
    split
    · split
      next hask =>
        rw [hask] at asked
        unfold takeServices
        rw [results_endLookup]
        exact asked
      next hask =>
        rw [hask] at asked
        exact asked
    · exact results_endLookup w run slot _

@[simp]
theorem results_readAll (w : World) (run : RunId) (deliveries : List (Delivery × Bool)) :
    (w.readAll run deliveries).results = w.results := by
  induction deliveries generalizing w with
  | nil =>
    unfold readAll
    split <;> rfl
  | cons delivery rest ih =>
    obtain ⟨d, stopFirst⟩ := delivery
    have stopped : (if stopFirst then w.act .stop else w).results = w.results := by
      split <;> rfl
    unfold readAll
    split
    · cases d with
      | report r => exact (ih _).trans stopped
      | closed => exact stopped
    · rfl

@[simp]
theorem results_read (w : World) (run : RunId) : (w.read run).results = w.results := by
  unfold read
  split
  · split
    · exact results_readAll w run _
    · rfl
  · rfl

@[simp]
theorem results_feed (w : World) (run : RunId) (opened : Nat) (rest : List ScriptedAdvertisement) :
    (w.feed run opened rest).results = w.results := by
  induction rest generalizing w with
  | nil => rfl
  | cons a rest ih =>
    unfold feed
    split
    · split
      · exact (ih _).trans (results_deliver w _ _)
      · rfl
    · rfl

@[simp]
theorem results_takeWatcher (w : World) (run : RunId) (result : Except PlatformError Unit) :
    (w.takeWatcher run result).results = w.results := by
  have opened : (w.openWatcher run).results = w.results := by
    unfold openWatcher
    dsimp only
    split <;> rfl
  cases result with
  | error e => rfl
  | ok _ =>
    unfold takeWatcher
    dsimp only
    split
    · rw [results_read]
      exact opened
    · exact opened

/-! ### Requests -/

/-- A failed check of the adapter. -/
theorem refused_of_step {a : Action} {e : StartError} (checked : e ≠ .noDiscoveryMethod)
    (step : w.coordinator.step w.extract a = ({ w.coordinator with phase := .idle }, reportOf e))
    (request : Nat) : Refused w ((w.act a).conclude request (.error e)) e where
  store := congrArg (·.1.store) step
  phase := by
    rw [if_neg checked]
    exact congrArg (·.1.phase) step
  events := by
    show w.events ++ (w.coordinator.step w.extract a).2.map (w.now, ·) = _
    rw [step]
  queue := rfl
  timers := rfl
  calls := List.Sublist.refl _
  watcher := rfl
  tally := rfl

/-- Once the adapter is checked, a request comes to its result, unless it was given up. -/
theorem concluded_takeAdapter (w : World) (s : Starting) (state : AdapterState) :
    Concluded w (w.takeAdapter s state) := by
  unfold takeAdapter
  split
  · split
    next starting =>
      obtain ⟨methods, phase⟩ := Coordinator.isStarting_iff.mp starting
      have checked : w.coordinator.step w.extract (.adapterChecked s.run state) =
          w.coordinator.beginRun s.run methods state :=
        Coordinator.step_adapterChecked_of_starting phase state
      cases state with
      | ready => exact .accepted s.request rfl
      | poweredOff =>
        have rest := refused_of_step (e := .adapterPoweredOff) nofun checked s.request
        exact .failed s.request .adapterPoweredOff nofun rfl rest
      | unavailable =>
        have rest := refused_of_step (e := .adapterUnavailable) nofun checked s.request
        exact .failed s.request .adapterUnavailable nofun rfl rest
    next => exact .accepted s.request rfl
  · exact .nothing rfl

/-- A run that is granted to a request leaves no trace in a world where its check fails. -/
theorem Concluded.of_granted {methods : Methods} {requests : List Starting}
    (granted : w.coordinator.grants (.start methods) = true)
    (h : Concluded { w.act (.start methods) with requests } w') : Concluded w w' := by
  cases h with
  | nothing results => exact .nothing results
  | accepted request results => exact .accepted request results
  | failed request e checked results rest =>
    have started : Coordinator.Outcome w.coordinator (.start methods) _
        (w.coordinator.step w.extract (.start methods)) := Coordinator.outcome_start methods
    rw [granted] at started
    -- Being granted changes the phase and the number of the run, and nothing that a refusal keeps.
    obtain ⟨store, silent⟩ : (w.coordinator.step w.extract (.start methods)).1.store =
        w.coordinator.store ∧ (w.coordinator.step w.extract (.start methods)).2 = [] := by
      generalize w.coordinator.step w.extract (.start methods) = out at started
      cases started with
      | granted => exact ⟨rfl, rfl⟩
    refine .failed request e checked results ?_
    constructor
    case store => exact rest.store.trans store
    case phase =>
      -- A failed check leaves the coordinator idle, whichever world it is seen from.
      have idle := rest.phase
      rw [if_neg checked] at idle ⊢
      exact idle
    case events =>
      rw [rest.events]
      show (w.events ++ (w.coordinator.step w.extract (.start methods)).2.map (w.now, ·)) ++ _ = _
      rw [silent, List.map_nil, List.append_nil]
      rfl
    case queue => exact rest.queue
    case timers => exact rest.timers
    case calls => exact rest.calls
    case watcher => exact rest.watcher
    case tally => exact rest.tally

/-- The adapter is not one of the calls that are counted. -/
theorem ask_start (w : World) (s : Starting) :
    (∃ w', w.ask (.start s) = (w', none) ∧ w'.results = w.results) ∨
      ∃ state, w.ask (.start s) = (w, some (.adapter state)) := by
  unfold ask
  split
  · exact .inl ⟨_, rfl, rfl⟩
  next script _ =>
    dsimp only
    split
    · exact .inr ⟨script.adapter, rfl⟩
    · exact .inl ⟨_, rfl, rfl⟩

theorem concluded_ask (w : World) (s : Starting) :
    Concluded w (match w.ask (.start s) with
      | (w, some (.adapter state)) => w.takeAdapter s state
      | (w, _) => w) := by
  rcases ask_start w s with ⟨w', hask, results⟩ | ⟨state, hask⟩
  · rw [hask]
    exact .nothing results
  · rw [hask]
    exact concluded_takeAdapter w s state

/-- A request that names no method is answered at once, and nothing else happens. -/
theorem concluded_request (w : World) (number : Nat) (methods : Methods) (timeout : Option Nat) :
    w.request number methods timeout = w.conclude number (.error .noDiscoveryMethod) ∨
      Concluded w (w.request number methods timeout) := by
  unfold request
  split
  · exact .inl rfl
  · exact .inr (.accepted number rfl)
  next run verdict =>
    obtain ⟨granted, -⟩ := Scheduled.grants_of_startVerdict verdict
    let s : Starting := ⟨number, run, methods, timeout⟩
    let noted : World := { w.act (.start methods) with requests := w.requests ++ [s] }
    exact .inr (Concluded.of_granted granted (concluded_ask noted s))

/-! ### Turns -/

/-- Only the check of the adapter belongs to a request. -/
theorem results_take {caller : Caller} (other : caller.request? = none) (w : World)
    (answer : Answer) : (w.take caller answer).results = w.results := by
  unfold take
  split
  · cases other
  · dsimp only
    split
    · split <;> rfl
    · rfl
  · exact results_takeIdentity w _ _ _ _
  · exact results_endLookup w _ _ _
  · exact results_takeWatcher w _ _
  · rfl

theorem concluded_take (w : World) (caller : Caller) (answer : Answer) :
    Concluded w (w.take caller answer) := by
  cases caller with
  | start s =>
    cases answer with
    | adapter state => exact concluded_takeAdapter w s state
    | _ => exact .nothing rfl
  | _ => exact .nothing (results_take rfl w answer)

/-- A request that is stopped as its adapter is checked does not fail any more. -/
theorem concluded_take_of_stop (w : World) (caller : Caller) (answer : Answer) :
    Concluded w ((w.act .stop).take caller answer) := by
  have idle (run : RunId) : (w.act .stop).coordinator.isStarting run = false := by
    have phase := Coordinator.phase_step_stop w.extract w.coordinator
    unfold Coordinator.isStarting act
    rw [phase]
  cases caller with
  | start s =>
    cases answer with
    | adapter state =>
      unfold take takeAdapter
      dsimp only
      rw [idle, if_neg Bool.false_ne_true]
      split
      · exact .accepted s.request rfl
      · exact .nothing rfl
    | _ => exact .nothing rfl
  | _ => exact .nothing (results_take rfl (w.act .stop) answer)

/-- A turn either answers a request that names no method, and does nothing else, or what it does to
the results is `Concluded`. -/
theorem concluded_perform (w : World) (turn : Turn) :
    (∃ request, w.perform turn = w.conclude request (.error .noDiscoveryMethod)) ∨
      Concluded w (w.perform turn) := by
  -- Only a request and the check of the adapter answer a start; every other turn keeps the results.
  cases turn with
  | request number methods timeout =>
    exact (concluded_request w number methods timeout).imp_left fun same => ⟨number, same⟩
  | call caller =>
    refine .inr ?_
    have asked := results_ask w caller
    unfold perform
    dsimp only
    split
    · cases caller with
      | start s =>
        -- The adapter is asked, and the answer comes later or at once.
        rcases ask_start w s with ⟨w', hask, results⟩ | ⟨state, hask⟩
        · rw [hask]
          exact .nothing results
        · rw [hask]
          exact concluded_takeAdapter w s state
      | _ =>
        refine .nothing ?_
        split
        next hask =>
          rw [hask] at asked
          exact (results_take rfl _ _).trans asked
        next hask =>
          rw [hask] at asked
          exact asked
    · exact .nothing rfl
  | take caller answer stopFirst =>
    refine .inr ?_
    unfold perform
    dsimp only
    split
    · split
      · exact concluded_take_of_stop w caller answer
      · exact concluded_take w caller answer
    · exact .nothing rfl
  | feed run opened rest => exact .inr (.nothing (results_feed w run opened rest))
  | read run => exact .inr (.nothing (results_read w run))
  | arm run timeout =>
    refine .inr (.nothing ?_)
    unfold perform
    dsimp only
    split <;> rfl
  | expire run => exact .inr (.nothing rfl)

/-- The answer that someone outside gives to a call brings about results in the same way. -/
theorem concluded_answer (w : World) (call : Call) (a : Answer) (stopFirst : Bool) :
    Concluded w (w.answer call a stopFirst).1 := by
  unfold answer
  split
  · exact .nothing rfl
  next caller _ =>
    let taken : World := { w with calls := w.calls.eraseP (·.call = call) }
    -- The call does not wait any longer; otherwise the world is as it was.
    have left {w' : World} (h : Concluded taken w') : Concluded w w' := by
      cases h with
      | nothing results => exact .nothing results
      | accepted request results => exact .accepted request results
      | failed request e checked results rest =>
        have calls := rest.calls.trans List.eraseP_sublist
        exact .failed request e checked results { rest with calls }
    cases caller with
    | start s =>
      dsimp only
      split
      · exact left (concluded_take_of_stop taken (.start s) a)
      · exact left (concluded_take taken (.start s) a)
    | _ => exact .nothing rfl

/-- What brings a world on: a turn is taken, or someone outside answers a call. -/
inductive Moves (w : World) : World → Prop
  | perform (turn : Turn) : Moves w (w.perform turn)
  | answer (call : Call) (a : Answer) (stopFirst : Bool) : Moves w (w.answer call a stopFirst).1

/-- Whatever answers a request with an error does nothing else. -/
theorem Moves.refused (moves : w.Moves w') {request : Nat} {e : StartError}
    (results : w'.results = w.results ++ [(request, .error e)]) : Refused w w' e := by
  -- The results are longer by one, so that a result that was added is this error.
  have one {result : StartResult} (same : w'.results = w.results ++ [result]) :
      result = (request, .error e) := by
    have both := same.symm.trans results
    exact List.singleton_inj.mp (List.append_cancel_left both)
  have concluded (h : Concluded w w') : Refused w w' e := by
    cases h with
    | nothing same =>
      rw [same] at results
      exact absurd (congrArg List.length results) (by simp)
    | accepted _ same => cases one same
    | failed _ _ _ same rest =>
      cases one same
      exact rest
  cases moves with
  | answer call a stopFirst => exact concluded (concluded_answer w call a stopFirst)
  | perform turn =>
    rcases concluded_perform w turn with ⟨number, same⟩ | h
    · -- The request names no method, and is answered without a call.
      rw [same] at one ⊢
      cases one rfl
      constructor
      case events => exact (List.append_nil _).symm
      case calls => exact List.Sublist.refl _
      all_goals rfl
    · exact concluded h

end World

end Simulation

/-! ### Starts -/

open Coordinator (HasBegun Moment after granted history runNumbers)

variable {extract : Payload → AdvertisementData} {as : List Action} {s : System}

/-- What starts mean to each other in a system that took the actions `as`. -/
structure StartsApart (extract : Payload → AdvertisementData) (as : List Action) (s : System) :
    Prop where
  /-- At most one of all starts is being checked or under way. -/
  length_active_le_one : ((runNumbers (granted extract as)).filter fun id =>
    s.coordinator.isStarting id || s.coordinator.isRunning id).length ≤ 1
  /-- A request that names no method, or comes while a run is under way already, changes nothing. -/
  ignored (methods : Methods) (s' : System) :
    (methods.isEmpty || s.coordinator.isActive) = true →
      System.Step extract s (.start methods) s' →
        s' = s ∧ (s.coordinator.step extract (.start methods)).2 = []
  /-- A start that fails, is stopped or is given up while its adapter is checked leaves an idle
  coordinator with the devices that it had, and the report of its end. -/
  inVain (m : Moment) (id : RunId) (e : Event) : m ∈ history extract as →
    InVain id m.coordinator m.action e →
      m.next extract = { m.coordinator with phase := .idle } ∧ m.events extract = [e]
  /-- Such a start never makes a call for its run, and has no run. -/
  silent (m : Moment) (id : RunId) (e : Event) : m ∈ history extract as →
    InVain id m.coordinator m.action e →
      ¬ HasBegun extract as id ∧ ∀ t ∈ s.tasks, t.run = id → t.isCheck = true
  /-- What comes of such a start later, be it an answer of the adapter or that its caller gives up,
  changes nothing for whatever is there instead. -/
  late (m : Moment) (id : RunId) (e : Event) : m ∈ history extract as →
    InVain id m.coordinator m.action e → ∀ a, a.run? = some id →
      s.coordinator.step extract a = (s.coordinator, []) ∧
        ∀ s', System.Step extract s a s' → s'.tasks ≤ s.tasks
  /-- The device list is emptied where a start gets to its run. -/
  emptied (m : Moment) (id : RunId) (methods : Methods) (r : Run) : m ∈ history extract as →
    m.coordinator.phase = .starting id methods → (m.next extract).phase = .running r →
      (m.next extract).store = ∅
  /-- Nowhere else a device is lost, and nothing else that belongs to a start changes the list. -/
  kept (m : Moment) : m ∈ history extract as →
    (∀ id methods r, m.coordinator.phase = .starting id methods →
      (m.next extract).phase ≠ .running r) →
      m.coordinator.store.addresses <+: (m.next extract).store.addresses ∧
        (m.action.isOfStart = true → (m.next extract).store = m.coordinator.store)
  /-- A request that is answered with an error leaves the world around the coordinator alone. -/
  refused (w w' : Simulation.World) (request : Nat) (e : StartError) : w.extract = extract →
    w.coordinator = s.coordinator → w.Moves w' →
      w'.results = w.results ++ [(request, .error e)] → Simulation.Refused w w' e

/-- **A start that begins no run** leaves no trace but its report, whatever starts, stops and
answers come in whatever order, as long as fewer than `2 ^ 64` runs are granted, so that no number
comes round. -/
theorem startsApart_of_execution (extract : Payload → AdvertisementData) {as : List Action}
    {s : System} (execution : System.Execution extract {} as s)
    (few : granted extract as < 2 ^ 64) : StartsApart extract as s := by
  constructor
  case length_active_le_one => exact BluetoothDiscovery.length_active_le_one s.coordinator few
  case ignored =>
    intro methods s' vain st
    -- Either half of the guard keeps a start from being granted: an active run, or no method.
    have refused : s.coordinator.grants (.start methods) = false := by
      unfold Coordinator.grants
      cases hm : methods.isEmpty <;> cases ha : s.coordinator.isActive <;> simp_all
    have same : s.coordinator.step extract (.start methods) = (s.coordinator, []) :=
      Coordinator.step_start_of_not_grants refused
    refine ⟨?_, by rw [same]⟩
    cases st with
    | request _ timed =>
      unfold System.checks
      rw [refused, if_neg Bool.false_ne_true, same, zero_add]
    | work t rest present does => cases does
  case inVain =>
    intro m id e mem h
    have step := h.step_eq extract
    exact ⟨congrArg Prod.fst step, congrArg Prod.snd step⟩
  case silent =>
    exact fun m id e mem h => ⟨(h.silenced mem few).2.2, fun t present own =>
      h.isCheck_of_mem_tasks execution few mem present own⟩
  case late =>
    intro m id e mem h a own
    -- The coordinator of a system is the one that its actions lead to, which is known to be past
    -- this run.
    have past : s.coordinator.phase.owner ≠ some id := by
      rw [execution.coordinator_eq]
      exact (h.silenced mem few).1
    exact ⟨Coordinator.step_of_run?_ne_owner own past, fun s' st =>
      h.tasks_le execution few mem own st⟩
  case emptied =>
    intro m id methods r _ starting running
    exact store_of_begins (begins_iff.mpr ⟨id, methods, r, starting, running⟩)
  case kept =>
    intro m _ stays
    -- A step that begins a run is one from starting to running, which is excluded here.
    have goesOn : m.begins = false := by
      by_contra begins
      rw [Bool.not_eq_false] at begins
      obtain ⟨id, methods, r, starting, running⟩ := begins_iff.mp begins
      exact stays id methods r starting running
    exact ⟨addresses_isPrefix_step extract goesOn, fun own => store_of_isOfStart extract own goesOn⟩
  case refused => exact fun w w' request e _ _ moves results => moves.refused results

/-- A start is stopped while its adapter is checked, and the next one is on its way. -/
theorem startsApart_second_start :
    let as : List Action := [.start Methods.classic, .stop, .start Methods.lowEnergy]
    ∃ s, System.Execution Payload.extract {} as s ∧ granted Payload.extract as < 2 ^ 64 ∧
      InVain 1 (after Payload.extract [.start Methods.classic]) .stop .canceled ∧
      StartsApart Payload.extract as s := by
  intro as
  have created : System.Execution Payload.extract {} [] {} := .nil
  have started := created.concat (.request Methods.classic false)
  have stopped := started.concat .stop
  have again := stopped.concat (.request Methods.lowEnergy true)
  have few : granted Payload.extract as < 2 ^ 64 := by decide
  exact ⟨_, again, few, .stopped rfl, startsApart_of_execution Payload.extract again few⟩

end BluetoothDiscovery
