import BluetoothDiscovery.Program.Replay
import BluetoothDiscovery.Proofs.Schedule.Outcomes
import BluetoothDiscovery.Proofs.Simulation.Scheduled

/-!
# Simulations are schedules

Everything that a simulation does keeps a world scheduled, whoever answers its calls: every function
of the simulation is gone through with the tasks that it takes and leaves.  What holds of all
schedules therefore holds of every world that a simulation gets to.
-/

namespace BluetoothDiscovery.Simulation.World

variable {w w' : World} {aside : Multiset Task} {more : Multiset Task} {run : RunId}

namespace Scheduled

variable {caller : Caller}

theorem dropWatcher (h : w.Scheduled aside) (run : RunId) :
    (w.dropWatcher run).Scheduled aside :=
  h.same rfl rfl rfl (standing_dropWatcher w run)

theorem deliver (h : w.Scheduled aside) (d : Delivery) (stopFirst : Bool) :
    (w.deliver d stopFirst).Scheduled aside := by
  refine h.same ?_ ?_ ?_ (standing_deliver w d stopFirst)
  all_goals
    unfold World.deliver
    cases w.watcher with
    | none => rfl
    | some x => dsimp only; split <;> rfl

/-- A task that was taken from its place waits in the queue again, with others of its run. -/
theorem enqueue (h : w.Scheduled (more + aside)) {turns : List Turn}
    (tasks : (turns.map Turn.tasks).sum = more) : (w.enqueue turns).Scheduled aside := by
  refine h.mono rfl rfl rfl ?_
  rw [standing_enqueue, tasks, add_left_comm, add_assoc]

/-- Turns of a caller or of the radio are none of any task. -/
theorem enqueue_of_no_task (h : w.Scheduled aside) {turns : List Turn}
    (none : (turns.map Turn.tasks).sum = 0) : (w.enqueue turns).Scheduled aside :=
  enqueue (by rwa [zero_add]) none

theorem wait (turn : Turn) (h : w.Scheduled (turn.tasks + aside)) (deadline : Nat) :
    (w.wait deadline turn).Scheduled aside := by
  refine h.mono rfl rfl rfl ?_
  rw [standing_wait, add_left_comm, add_assoc]

/-! ### Calls -/

/-- A call that is not answered at once waits. -/
theorem of_ask_none (h : w.Scheduled (caller.task ::ₘ aside))
    (unanswered : w.ask caller = (w', none)) :
    w'.Scheduled aside := by
  unfold World.ask at unanswered
  split at unanswered
  · obtain rfl := (Prod.mk.inj unanswered).1
    refine h.mono rfl rfl rfl ?_
    rw [standing_call, Multiset.add_cons, Multiset.cons_add]
  next script _ =>
    dsimp only at unanswered
    split at unanswered
    · cases unanswered
    · obtain rfl := (Prod.mk.inj unanswered).1
      have counted : { w with tally := w.tally.count caller.call }.Scheduled
          (caller.task ::ₘ aside) := h.same rfl rfl rfl rfl
      exact wait (.take caller (script.answer caller.call).2 false) counted _

theorem of_ask_some {answer : Answer} (h : w.Scheduled (caller.task ::ₘ aside))
    (answered : w.ask caller = (w', some answer)) : w'.Scheduled (caller.task ::ₘ aside) := by
  unfold World.ask at answered
  split at answered
  · cases answered
  next script _ =>
    dsimp only at answered
    split at answered
    · obtain rfl := (Prod.mk.inj answered).1
      exact h.same rfl rfl rfl rfl
    · cases answered

/-! ### Looking up a device -/

variable {slot : Selector} {handle : Handle}

theorem endLookup (h : w.Scheduled (.lookup run slot handle ::ₘ aside)) (course : Course) :
    (w.endLookup run slot (course.outcome handle.selector)).Scheduled aside := by
  have told := h.lookup course
  have same : w.endLookup run slot (course.outcome handle.selector) =
      (w.act (.ofOutcome run (course.outcome handle.selector))).act (.lookupEnded run slot) := by
    unfold World.endLookup
    cases course.outcome handle.selector <;> rfl
  rw [same]
  simpa using told.act (.ended run slot) rfl

theorem takeIdentity (h : w.Scheduled (.lookup run slot handle ::ₘ aside))
    (result : Except PlatformError Identity) :
    (w.takeIdentity run slot handle result).Scheduled aside := by
  cases result with
  | error e => exact h.endLookup (.unidentified e)
  | ok identity =>
    unfold World.takeIdentity
    dsimp only
    split
    · cases hask : w.ask (.services run slot handle identity) with
      | mk w' answer? =>
        cases answer? with
        | none => exact h.of_ask_none hask
        | some answer =>
          have asked : w'.Scheduled (.lookup run slot handle ::ₘ aside) := h.of_ask_some hask
          cases answer with
          | services result => exact asked.endLookup (.listed identity result)
          | _ => exact asked.drop
    · -- The services are not asked for, and the look-up ends here.
      exact h.endLookup (.identified identity)

/-! ### Watching -/

/-- Deliveries are read by the task that watches for the run. -/
theorem readAll (h : w.Scheduled (.watch run ::ₘ aside))
    (own : ∀ x, w.watcher = some x → x.run = run) (deliveries : List (Delivery × Bool)) :
    (w.readAll run deliveries).Scheduled aside := by
  -- The task of the watcher stays until it waits again or the watcher is closed.
  induction deliveries generalizing w with
  | nil =>
    unfold World.readAll
    split
    · -- The task waits for the next delivery.
      refine h.mono rfl rfl rfl ?_
      rw [← Multiset.singleton_add, add_right_comm, add_comm _ aside]
      refine Multiset.add_le_add_left (standing_watcher_le ?_)
      cases hx : w.watcher with
      | none => exact Multiset.zero_le _
      | some x =>
        show {Task.watch x.run} ≤ _
        rw [own x hx]
        exact Multiset.le_add_right _ _
    · exact h.drop.dropWatcher run
  | cons delivery rest ih =>
    obtain ⟨d, stopFirst⟩ := delivery
    unfold World.readAll
    split
    · dsimp only
      -- A stop that comes first is taken in before the delivery, and takes no task away.
      have stopped : (if stopFirst then w.act .stop else w).Scheduled (.watch run ::ₘ aside) := by
        split
        · exact h.stop
        · exact h
      have own' : ∀ x, (if stopFirst then w.act .stop else w).watcher = some x → x.run = run := by
        split
        · exact own
        · exact own
      cases d with
      | report r => exact ih (stopped.act (.heard run r) rfl) own'
      | closed =>
        have closed (e : PlatformError) := stopped.act (.closed run e) rfl
        simp only [zero_add] at closed
        exact (closed _).dropWatcher run
    · exact h.drop.dropWatcher run

theorem read (h : w.Scheduled (.watch run ::ₘ aside)) : (w.read run).Scheduled aside := by
  unfold World.read
  split
  next x hx =>
    split
    next own =>
      refine h.readAll (fun y hy => ?_) x.inbox
      rw [← own, Option.some.inj (hy.symm.trans hx)]
    next => exact h.drop
  next => exact h.drop

theorem feed (h : w.Scheduled aside) (run : RunId) (opened : Nat)
    (rest : List ScriptedAdvertisement) : (w.feed run opened rest).Scheduled aside := by
  induction rest generalizing w with
  | nil => exact h
  | cons a rest ih =>
    unfold World.feed
    split
    · split
      · exact ih (h.deliver _ _)
      · exact wait (.feed run opened (a :: rest)) (by rwa [Turn.tasks, zero_add]) _
    · exact h

theorem openWatcher (h : w.Scheduled aside) (run : RunId) :
    (w.openWatcher run).Scheduled aside := by
  have opened : { w with watcher := some { run } }.Scheduled aside := by
    refine h.mono rfl rfl rfl (Multiset.add_le_add_left ?_)
    exact standing_le_of_watcher (Multiset.zero_le _)
  unfold World.openWatcher
  dsimp only
  split
  · exact opened.enqueue_of_no_task rfl
  · exact opened

theorem takeWatcher (h : w.Scheduled (.opening run ::ₘ aside))
    (result : Except PlatformError Unit) :
    (w.takeWatcher run result).Scheduled aside := by
  cases result with
  | error e =>
    have lost := h.act (.unopened run e) rfl
    rw [zero_add] at lost
    exact lost
  | ok _ =>
    unfold World.takeWatcher
    dsimp only
    have opened := (h.openWatcher run).act (.opened run) rfl
    cases hrun : (w.openWatcher run).coordinator.isRunning run with
    | true =>
      rw [hrun, if_pos rfl] at opened
      exact opened.read
    | false => exact (h.openWatcher run).drop.dropWatcher run

/-! ### Starting -/

/-- The tasks that a run begins with wait for their turns. -/
theorem sum_tasks (s : Starting) :
    ((World.tasks s).map Turn.tasks).sum = Task.ofRun s.run s.methods s.timed := by
  unfold World.tasks Task.ofRun
  rw [List.map_append, List.sum_append]
  congr 1
  · split <;> simp [Turn.tasks, Caller.task]
  · split
    · rw [List.map_cons, List.map_cons, List.sum_cons, List.sum_cons, ← add_assoc]
      congr 1
      unfold Starting.timed
      cases s.timeout with
      | none => rfl
      | some timeout => by_cases h : timeout = 0 <;> simp [h, Turn.tasks]
    · rfl

theorem conclude (h : w.Scheduled aside) (request : Nat) (result : Except StartError Unit) :
    (w.conclude request result).Scheduled aside :=
  h.same rfl rfl rfl rfl

theorem takeAdapter {s : Starting} (h : w.Scheduled ((Caller.start s).task ::ₘ aside))
    (state : AdapterState) : (w.takeAdapter s state).Scheduled aside := by
  unfold World.takeAdapter
  split
  · -- The check ends with its answer; only one that is ready and still awaited begins the run.
    cases hs : w.coordinator.isStarting s.run with
    | false =>
      simp only [Bool.false_eq_true, if_false]
      exact h.drop.conclude _ _
    | true =>
      have checked := h.act (.checked s.run s.methods s.timed state) rfl
      simp only [if_true]
      cases state with
      | ready =>
        rw [if_pos ⟨hs, rfl⟩] at checked
        exact (checked.conclude _ _).enqueue (sum_tasks s)
      | poweredOff =>
        rw [if_neg (by simp), zero_add] at checked
        exact checked.conclude _ _
      | unavailable =>
        rw [if_neg (by simp), zero_add] at checked
        exact checked.conclude _ _
  · exact h.drop

theorem grants_of_startVerdict {c : Coordinator} {methods : Methods}
    (h : c.startVerdict methods = .checking run) :
    c.grants (.start methods) = true ∧ run = c.lastRun + 1 := by
  unfold Coordinator.startVerdict at h
  unfold Coordinator.grants
  split at h
  · cases h
  next hm =>
    split at h
    · cases h
    next ha =>
      cases h
      rw [Bool.not_eq_true] at hm ha
      show (!methods.isEmpty && !c.isActive) = true ∧ _
      rw [hm, ha]
      exact ⟨rfl, rfl⟩

theorem request (h : w.Scheduled aside) (number : Nat) (methods : Methods)
    (timeout : Option Nat) : (w.request number methods timeout).Scheduled aside := by
  unfold World.request
  split
  · exact h.conclude _ _
  · exact h.conclude _ _
  next run verdict =>
    obtain ⟨granted, hrun⟩ := grants_of_startVerdict verdict
    let s : Starting := ⟨number, run, methods, timeout⟩
    have started := h.start s.timed granted
    rw [← hrun] at started
    have noted : { w.act (.start methods) with
        requests := (w.act (.start methods)).requests ++ [s] }.Scheduled
          ((Caller.start s).task ::ₘ aside) := started.same rfl rfl rfl rfl
    dsimp only
    split
    next w' state hask => exact (noted.of_ask_some hask).takeAdapter state
    next w' answer? _ hask =>
      cases answer? with
      | none => exact noted.of_ask_none hask
      | some answer => exact (noted.of_ask_some hask).drop

/-- For a coordinator there is no difference between a request that is given up and one that is
stopped while its adapter is checked. -/
theorem startAbandoned (h : w.Scheduled aside) (run : RunId) :
    (w.act (.startAbandoned run)).Scheduled aside := by
  cases hs : w.coordinator.isStarting run with
  | false =>
    rw [act_of_step_eq (Coordinator.step_startAbandoned_of_not_starting hs)]
    exact h
  | true =>
    obtain ⟨methods, starting⟩ := Coordinator.isStarting_iff.mp hs
    have same : w.act (.startAbandoned run) = w.act .stop := by
      unfold World.act
      rw [Coordinator.step_startAbandoned_of_starting starting]
      unfold Coordinator.step Coordinator.isActive
      rw [starting]
      rfl
    rw [same]
    exact h.stop

theorem abandon (h : w.Scheduled aside) : w.abandon.1.Scheduled aside := by
  unfold World.abandon
  split
  · exact h
  next s _ =>
    have given : { w with
        requests := w.requests.filter (·.request != s.request)
        calls := w.calls.filter (·.request? != some s.request) }.Scheduled aside :=
      h.mono rfl rfl rfl (Multiset.add_le_add_left (standing_filter_calls_le w _))
    exact given.startAbandoned s.run

/-! ### Turns -/

/-- What an enumeration found waits to be looked up. -/
theorem sum_lookups (run : RunId) (slot : Selector) (handles : List Handle) :
    ((handles.map fun h => Turn.call (.identity run slot h)).map Turn.tasks).sum =
      Task.ofHandles run slot (.ok handles) := by
  induction handles with
  | nil => rfl
  | cons handle handles ih =>
    rw [List.map_cons, List.map_cons, List.sum_cons, ih]
    rfl

theorem takeHandles {selector : Selector} (h : w.Scheduled (.enumeration run selector ::ₘ aside))
    (result : Except PlatformError (List Handle)) :
    (w.take (.enumeration run selector) (.handles result)).Scheduled aside := by
  have returned := h.act (.enumerated run selector result) rfl
  unfold World.take
  cases result with
  | error e =>
    have none : (if w.coordinator.isRunning run then
        Task.ofHandles run selector (.error e) else 0) = 0 := ite_self 0
    rw [none, zero_add] at returned
    exact returned
  | ok handles =>
    dsimp only
    split
    next present =>
      rw [if_pos present] at returned
      exact returned.enqueue (sum_lookups run selector handles)
    next past =>
      rw [if_neg past, zero_add] at returned
      exact returned

/-- An answer is taken; one of the wrong kind is lost, and the task with it. -/
theorem take (h : w.Scheduled (caller.task ::ₘ aside)) (answer : Answer) :
    (w.take caller answer).Scheduled aside := by
  -- Each caller takes answers of one kind, and goes on as its task does.
  cases caller with
  | start s =>
    cases answer with
    | adapter state => exact h.takeAdapter state
    | _ => exact h.drop
  | enumeration run selector =>
    cases answer with
    | handles result => exact h.takeHandles result
    | _ => exact h.drop
  | identity run slot handle =>
    cases answer with
    | identity result => exact h.takeIdentity result
    | _ => exact h.drop
  | services run slot handle identity =>
    cases answer with
    | services result => exact h.endLookup (.listed identity result)
    | _ => exact h.drop
  | watcher run =>
    cases answer with
    | watcher result => exact h.takeWatcher result
    | _ => exact h.drop

theorem perform (turn : Turn) (h : w.Scheduled (turn.tasks + aside)) :
    (w.perform turn).Scheduled aside := by
  -- The tasks of the turn were set aside with it, and are back in the world or done after it.
  cases turn with
  | request number methods timeout => exact request (by rwa [Turn.tasks, zero_add] at h) _ _ _
  | call caller =>
    replace h : w.Scheduled (caller.task ::ₘ aside) := h
    simp only [World.perform]
    split
    · split
      next w' answer hask => exact (h.of_ask_some hask).take answer
      next w' hask => exact h.of_ask_none hask
    · exact h.drop
  | take caller answer stopFirst =>
    replace h : w.Scheduled (caller.task ::ₘ aside) := h
    simp only [World.perform]
    split
    · refine take ?_ answer
      split
      · exact h.stop
      · exact h
    · exact h.drop
  | feed run opened rest => exact feed (by rwa [Turn.tasks, zero_add] at h) _ _ _
  | read run => exact read h
  | arm run timeout =>
    simp only [World.perform]
    split
    · exact wait (.expire run) h _
    · exact drop h
  | expire run =>
    have expired := act h (.expired run) rfl
    rw [zero_add] at expired
    exact expired

/-! ### The clock -/

theorem wake (h : w.Scheduled aside) (time : Nat) : (w.wake time).Scheduled aside :=
  h.same rfl rfl rfl (standing_wake w time)

theorem runFor (h : w.Scheduled aside) (time : Nat) (done : World → Bool) (fuel : Nat) :
    (World.runFor time done fuel w).Scheduled aside := by
  induction fuel generalizing w with
  | zero => exact h
  | succ fuel ih =>
    unfold World.runFor
    split
    next turn rest hq =>
      refine ih (perform turn (h.mono rfl rfl rfl ?_))
      rw [standing_of_queue hq, add_left_comm, add_assoc]
    next =>
      split
      · exact h
      · split
        · split
          · exact ih (h.wake _)
          · exact h.same rfl rfl rfl rfl
        · exact h.same rfl rfl rfl rfl

theorem runUntil (h : w.Scheduled aside) (time : Nat) (done : World → Bool) :
    (w.runUntil time done).Scheduled aside :=
  h.runFor time done _

theorem sweep (h : w.Scheduled aside) : w.sweep.Scheduled aside := by
  refine h.mono rfl rfl rfl (Multiset.add_le_add_left ?_)
  refine le_trans ?_ (standing_filter_calls_le w w.awaits)
  refine standing_le_of_watcher (w := { w with calls := w.calls.filter w.awaits }) ?_
  cases w.watcher with
  | none => exact le_rfl
  | some x =>
    show Watcher.tasks (if w.coordinator.isRunning x.run then x else { x with alive := false }) ≤ _
    split <;> exact le_rfl

/-! ### Attended radios -/

theorem answer (h : w.Scheduled aside) (call : Call) (a : Answer) (stopFirst : Bool) :
    (w.answer call a stopFirst).1.Scheduled aside := by
  unfold World.answer
  split
  · exact h
  next caller hfind =>
    have taken : { w with calls := w.calls.eraseP (·.call = call) }.Scheduled
        (caller.task ::ₘ aside) := by
      refine h.mono rfl rfl rfl ?_
      rw [standing_of_find hfind, Multiset.cons_add, Multiset.add_cons]
    dsimp only
    split
    next s =>
      refine take ?_ a
      split
      · exact taken.stop
      · exact taken
    next =>
      rw [← Multiset.singleton_add] at taken
      refine taken.enqueue ?_
      simp [Turn.tasks]

theorem report (h : w.Scheduled aside) (r : AdvertisementReport) (stopFirst : Bool) :
    (w.report r stopFirst).1.Scheduled aside := by
  unfold World.report
  split
  · exact h.deliver _ _
  · exact h

theorem closeWatcher (h : w.Scheduled aside) (stopFirst : Bool) :
    (w.closeWatcher stopFirst).1.Scheduled aside := by
  unfold World.closeWatcher
  split
  · refine (h.deliver .closed stopFirst).mono rfl rfl rfl (Multiset.add_le_add_left ?_)
    refine standing_le_of_watcher ?_
    cases (w.deliver .closed stopFirst).watcher <;> exact le_rfl
  · exact h

end Scheduled

/-! ### Worlds that are reached -/

/-- The worlds that a coordinator can get to.  It is created idle; from then on a caller asks for
runs, gives up, or stops, the radio answers and reports if it is attended, and time passes. -/
inductive Reached (radio : Radio) (extract : Payload → AdvertisementData) : World → Prop
  | created (now : Nat) : Reached radio extract { radio, extract, now }
  | request {u : World} (number : Nat) (methods : Methods) (timeout : Option Nat) :
      Reached radio extract u →
      Reached radio extract (u.enqueue [.request number methods timeout])
  | abandon {u : World} : Reached radio extract u → Reached radio extract u.abandon.1
  | stop {u : World} : Reached radio extract u → Reached radio extract (u.act .stop)
  | answer {u : World} (call : Call) (a : Answer) (stopFirst : Bool) :
      Reached radio extract u → Reached radio extract (u.answer call a stopFirst).1
  | report {u : World} (r : AdvertisementReport) (stopFirst : Bool) :
      Reached radio extract u → Reached radio extract (u.report r stopFirst).1
  | closeWatcher {u : World} (stopFirst : Bool) :
      Reached radio extract u → Reached radio extract (u.closeWatcher stopFirst).1
  | runUntil {u : World} (time : Nat) (done : World → Bool) :
      Reached radio extract u → Reached radio extract (u.runUntil time done)
  | sweep {u : World} : Reached radio extract u → Reached radio extract u.sweep

variable {radio : Radio} {extract : Payload → AdvertisementData}

theorem Reached.scheduled (h : Reached radio extract w) : w.Scheduled 0 := by
  induction h with
  | created now => exact ⟨[], {}, .nil, rfl, le_rfl, rfl⟩
  | request number methods timeout _ ih => exact ih.enqueue_of_no_task rfl
  | abandon _ ih => exact ih.abandon
  | stop _ ih => exact ih.stop
  | answer call a stopFirst _ ih => exact ih.answer call a stopFirst
  | report r stopFirst _ ih => exact ih.report r stopFirst
  | closeWatcher stopFirst _ ih => exact ih.closeWatcher stopFirst
  | runUntil time done _ ih => exact ih.runUntil time done
  | sweep _ ih => exact ih.sweep

/-- The present run counts all the work that stands in the places of a world, so that it does not
finish before the world has done it. -/
theorem Reached.counted (h : Reached radio extract w) :
    ∃ as, w.coordinator = Coordinator.after w.extract as ∧
      w.events.map (·.2) = Coordinator.announced w.extract as ∧
      (Coordinator.granted w.extract as < 2 ^ 64 → ∀ r, w.coordinator.phase = .running r →
        (∀ slot, (Task.work w.standing r.id).count (.lookup slot) ≤ r.pendingOf slot) ∧
        (Task.work w.standing r.id).count (.enumeration .classic) +
          (Task.work w.standing r.id).count (.enumeration .lowEnergy) ≤ r.openEnumerations) := by
  obtain ⟨ds, s, record, same, le, told⟩ := h.scheduled
  have execution := record.execution
  refine ⟨ds.map Deed.action, same ▸ execution.coordinator_eq, told, fun few r running => ?_⟩
  rw [zero_add] at le
  have books := ((sound_of_execution execution few).running r (same ▸ running)).books
  have work_le := Task.work_mono le r.id
  rw [books.openEnumerations_eq]
  constructor
  · intro slot
    rw [books.pendingOf_eq]
    exact Multiset.count_le_of_le _ work_le
  · exact Nat.add_le_add (Multiset.count_le_of_le _ work_le) (Multiset.count_le_of_le _ work_le)

/-- Whenever a run of a simulation has finished by itself, every device that it found has come to
one outcome, and its failures are announced. -/
theorem Reached.settled (h : Reached radio extract w) :
    ∃ ds : List Deed, w.coordinator = Coordinator.after w.extract (ds.map Deed.action) ∧
      w.events.map (·.2) = Coordinator.announced w.extract (ds.map Deed.action) ∧
      (Coordinator.granted w.extract (ds.map Deed.action) < 2 ^ 64 →
        ∀ before d, before ++ [d] <+: ds → ∀ r, d.coordinator.phase = .running r →
          .finished ∈ d.moment.events w.extract → d.action ≠ .timedOut r.id →
          Settled w.extract (before ++ [d]) r.id) := by
  obtain ⟨ds, s, record, same, -, told⟩ := h.scheduled
  refine ⟨ds, same ▸ record.execution.coordinator_eq, told, ?_⟩
  intro few before d split r running finished inTime
  obtain ⟨s', earlier⟩ := record.of_prefix split
  have fewer := (Coordinator.granted_le_of_prefix (split.map Deed.action)).trans_lt few
  exact earlier.settled fewer running finished inTime

/-- A replay is a schedule, too. -/
theorem reached_replayWorld (s : Scenario) (search : Program.Search) (interruption : Option Nat) :
    Reached (.scripted s) Payload.extract (Program.replayWorld s search interruption) := by
  have requested : Reached (.scripted s) Payload.extract
      ({ radio := .scripted s : World }.enqueue [.request 0 search.methods search.timeout]) :=
    .request _ _ _ (.created 0)
  unfold Program.replayWorld
  refine .runUntil _ _ ?_
  cases interruption with
  | none => exact requested
  | some time =>
    dsimp only
    split
    · unfold Program.interrupt
      split
      · exact .stop (.runUntil _ _ requested)
      · exact .runUntil _ _ requested
    · exact requested

end BluetoothDiscovery.Simulation.World
