import BluetoothDiscovery.Proofs.Simulation.Beginning
import BluetoothDiscovery.Proofs.Simulation.Reached

/-!
# What runs leave behind

When a run is over, there may still be timers of it: answers that nobody waits for any more, the
end of a time that does not matter, advertisements for a watcher that is gone.  They are all of runs
that were granted, and each waits for a time to come at which it is due (`Orderly`).  Every turn
keeps this (`serves_perform`), and so an idle world that has come to rest is free for the next
request, whatever has happened to it before (`Reached.free`).
-/

namespace BluetoothDiscovery

/-- The number given out last is that of the runs granted. -/
theorem Coordinator.lastRun_after {extract : Payload → AdvertisementData} (as : List Action) :
    (after extract as).lastRun = UInt64.ofNat (granted extract as) := by
  induction as using List.reverseRecOn with
  | nil => rfl
  | append_singleton as a ih =>
    rw [after_concat, granted_concat]
    have outcome := step_outcome extract (after extract as) a
    cases grants : (after extract as).grants a with
    | false =>
      rw [grants] at outcome
      rw [outcome.lastRun_eq, ih]
      rfl
    | true =>
      rw [grants] at outcome
      obtain ⟨methods, -, -, eq⟩ := outcome.of_granted
      rw [eq, Bool.toNat_true, UInt64.ofNat_add, ← ih]
      rfl

namespace Simulation

open Coordinator (after announced granted runNumbers)

/-- Whether a turn that waits for a time can be taken then. -/
def Turn.isDue (time : Nat) : Turn → Bool
  | .take _ _ stopFirst => !stopFirst
  | .feed _ opened (a :: _) => opened + a.time ≤ time
  | .expire _ => true
  | _ => false

/-- The request that a turn answers. -/
def Turn.request? : Turn → Option Nat
  | .call caller | .take caller _ _ => caller.request?
  | _ => none

theorem Turn.effort_of_isDue {s : Scenario} {time : Nat} {turn : Turn}
    (due : turn.isDue time = true) : turn.effort s time = turn.work s := by
  cases turn with
  | feed run opened rest =>
    cases rest with
    | nil => rfl
    | cons a rest => exact if_pos (of_decide_eq_true due)
  | _ => rfl

theorem Turn.isFair_of_isDue {n time : Nat} {turn : Turn} (due : turn.isDue time = true)
    (fresh : turn.request? ≠ some n) : turn.isFair n = true := by
  cases turn with
  | take caller answer stopFirst =>
    have kept : (!stopFirst) = true := due
    have other : (caller.request? != some n) = true := bne_iff_ne.mpr fresh
    show (!stopFirst && caller.request? != some n) = true
    rw [kept, other]
    rfl
  | request | call => cases due
  | _ => rfl

namespace World

/-- A run has something in a place of a world. -/
inductive Holds (w : World) (r : RunId) : Prop
  | queue (turn : Turn) (mem : turn ∈ w.queue) (own : turn.run? = some r)
  | timer (t : Timer) (mem : t ∈ w.timers) (own : t.turn.run? = some r)
  | call (c : Caller) (mem : c ∈ w.calls) (own : c.run = r)
  | watcher (x : Watcher) (mem : x ∈ w.watcher) (own : x.run = r)

/-! ### Tasks -/

/-- What a task may make of a world `w`.  It lets actions happen, and it puts turns of its own run
somewhere; what it lets wait is due at a time to come. -/
structure Serves (mine : Option RunId) (w w' : World) : Prop where
  radio : w'.radio = w.radio
  extract : w'.extract = w.extract
  acts : ∃ as, w'.coordinator = (w.coordinator.steps w.extract as).1 ∧
    w'.events.map (·.2) = w.events.map (·.2) ++ (w.coordinator.steps w.extract as).2
  holds : ∀ r, w'.Holds r → mine = some r ∨ w.Holds r
  waits : ∀ t ∈ w'.timers, t ∈ w.timers ∨ t.turn.isDue t.deadline = true
  sorted : w.timers.Pairwise (·.deadline ≤ ·.deadline) →
    w'.timers.Pairwise (·.deadline ≤ ·.deadline)

namespace Serves

variable {w w' w'' : World} {mine : Option RunId} {run : RunId} {turn : Turn} {turns : List Turn}

/-- Only calls, the watcher and the books may change. -/
theorem aside (radio : w'.radio = w.radio) (extract : w'.extract = w.extract)
    (coordinator : w'.coordinator = w.coordinator) (queue : w'.queue = w.queue)
    (timers : w'.timers = w.timers) (events : w'.events = w.events)
    (calls : ∀ c ∈ w'.calls, mine = some c.run ∨ c ∈ w.calls)
    (watcher : ∀ x ∈ w'.watcher, mine = some x.run ∨ ∃ y ∈ w.watcher, y.run = x.run) :
    Serves mine w w' where
  radio := radio
  extract := extract
  acts := ⟨[], coordinator, by rw [events]; exact (List.append_nil _).symm⟩
  holds r h := by
    cases h with
    | queue turn mem own => exact .inr (.queue turn (queue ▸ mem) own)
    | timer t mem own => exact .inr (.timer t (timers ▸ mem) own)
    | call c mem own =>
      obtain rfl := own
      exact (calls c mem).imp_right fun old => .call c old rfl
    | watcher x mem own =>
      obtain rfl := own
      exact (watcher x mem).imp_right fun ⟨y, old, same⟩ => .watcher y old same
  waits t mem := .inl (timers ▸ mem)
  sorted h := timers ▸ h

theorem refl (mine : Option RunId) (w : World) : Serves mine w w :=
  aside rfl rfl rfl rfl rfl rfl (fun _ mem => .inr mem) fun x mem => .inr ⟨x, mem, rfl⟩

theorem trans (h : Serves mine w w') (h' : Serves mine w' w'') : Serves mine w w'' where
  radio := h'.radio.trans h.radio
  extract := h'.extract.trans h.extract
  acts := by
    obtain ⟨as, coordinator, events⟩ := h.acts
    obtain ⟨as', coordinator', events'⟩ := h'.acts
    rw [coordinator, h.extract] at coordinator' events'
    refine ⟨as ++ as', ?_, ?_⟩
    · rw [Coordinator.steps_append]
      exact coordinator'
    · rw [events', events, Coordinator.steps_append, List.append_assoc]
  holds r held := (h'.holds r held).elim .inl (h.holds r)
  waits t mem := (h'.waits t mem).elim (h.waits t) .inr
  sorted sorted := h'.sorted (h.sorted sorted)

theorem act (w : World) (a : Action) : Serves mine w (w.act a) where
  radio := rfl
  extract := rfl
  acts := by
    refine ⟨[a], rfl, ?_⟩
    show (w.events ++ (w.coordinator.step w.extract a).2.map (w.now, ·)).map (·.2) = _
    rw [List.map_append, List.map_map]
    congr 1
    exact (List.map_id _).trans (List.append_nil _).symm
  holds r held := .inr (by
    cases held with
    | queue turn mem own => exact .queue turn mem own
    | timer t mem own => exact .timer t mem own
    | call c mem own => exact .call c mem own
    | watcher x mem own => exact .watcher x mem own)
  waits _ mem := .inl mem
  sorted h := h

theorem put (own : ∀ turn ∈ turns, ∀ r, turn.run? = some r → mine = some r ∨ w.Holds r) :
    Serves mine w (w.enqueue turns) where
  radio := rfl
  extract := rfl
  acts := ⟨[], rfl, (List.append_nil _).symm⟩
  holds r held := by
    cases held with
    | queue turn mem eq =>
      rcases List.mem_append.mp mem with old | new
      · exact .inr (.queue turn old eq)
      · exact own turn new r eq
    | timer t mem own => exact .inr (.timer t mem own)
    | call c mem own => exact .inr (.call c mem own)
    | watcher x mem own => exact .inr (.watcher x mem own)
  waits _ mem := .inl mem
  sorted h := h

/-- A run can put turns of its own in the queue. -/
theorem enqueue (own : ∀ turn ∈ turns, turn.run? = some run) :
    Serves (some run) w (w.enqueue turns) :=
  put fun turn mem _ eq => .inl ((own turn mem).symm.trans eq)

theorem wait {deadline : Nat} (own : turn.run? = mine) (due : turn.isDue deadline = true) :
    Serves mine w (w.wait deadline turn) where
  radio := rfl
  extract := rfl
  acts := ⟨[], rfl, (List.append_nil _).symm⟩
  holds r held := by
    cases held with
    | queue turn mem own => exact .inr (.queue turn mem own)
    | timer t mem eq =>
      rcases mem_insertTimer.mp mem with rfl | old
      · exact .inl (own.symm.trans eq)
      · exact .inr (.timer t old eq)
    | call c mem own => exact .inr (.call c mem own)
    | watcher x mem own => exact .inr (.watcher x mem own)
  waits t mem := by
    rcases mem_insertTimer.mp mem with rfl | old
    · exact .inr due
    · exact .inl old
  sorted h := pairwise_insertTimer h

end Serves

/-! ### What tasks do -/

variable {w w' : World} {run : RunId} {slot : Selector}

theorem serves_ask (w : World) (caller : Caller) :
    Serves (some caller.run) w (w.ask caller).1 := by
  unfold ask
  split
  · refine .aside rfl rfl rfl rfl rfl rfl (fun c mem => ?_) fun x mem => .inr ⟨x, mem, rfl⟩
    rcases List.mem_append.mp mem with old | new
    · exact .inr old
    · obtain rfl := List.mem_singleton.mp new
      exact .inl rfl
  next script _ =>
    have counted : Serves (some caller.run) w { w with tally := w.tally.count caller.call } :=
      .aside rfl rfl rfl rfl rfl rfl (fun _ mem => .inr mem) fun x mem => .inr ⟨x, mem, rfl⟩
    dsimp only
    split
    · exact counted
    · exact counted.trans (.wait rfl rfl)

theorem serves_endLookup (w : World) (run : RunId) (slot : Selector)
    (outcome : Except PlatformError Resolution) :
    Serves (some run) w (w.endLookup run slot outcome) := by
  unfold endLookup
  cases outcome <;> exact (Serves.act w _).trans (.act _ _)

theorem serves_takeIdentity (w : World) (run : RunId) (slot : Selector) (handle : Handle)
    (result : Except PlatformError Identity) :
    Serves (some run) w (w.takeIdentity run slot handle result) := by
  cases result with
  | error e => exact serves_endLookup w run slot (.error e)
  | ok identity =>
    unfold takeIdentity
    dsimp only
    have asked := serves_ask w (.services run slot handle identity)
    split
    · split
      next hask =>
        rw [hask] at asked
        exact asked.trans (serves_endLookup _ run slot _)
      next hask =>
        rw [hask] at asked
        exact asked
    · exact serves_endLookup w run slot _

theorem serves_dropWatcher (w : World) (run : RunId) (mine : Option RunId) :
    Serves mine w (w.dropWatcher run) := by
  refine .aside rfl rfl rfl rfl rfl rfl (fun _ mem => .inr mem) fun x mem => ?_
  obtain ⟨y, here, rfl⟩ := Option.mem_map.mp mem
  refine .inr ⟨y, here, ?_⟩
  split <;> rfl

theorem serves_deliver (w : World) (d : Delivery) (stopFirst : Bool) (mine : Option RunId) :
    Serves mine w (w.deliver d stopFirst) := by
  unfold deliver
  cases watches : w.watcher with
  | none => exact .refl mine w
  | some x =>
    let w' : World := { w with
      watcher := some { x with inbox := x.inbox ++ [(d, stopFirst)], awaited := false } }
    have kept : Serves mine w w' := by
      refine .aside rfl rfl rfl rfl rfl rfl (fun _ mem => .inr mem) fun y mem => ?_
      obtain rfl := Option.some.inj mem
      exact .inr ⟨x, watches, rfl⟩
    dsimp only
    split
    · refine kept.trans (.put fun turn mem r own => .inr ?_)
      obtain rfl := List.mem_singleton.mp mem
      exact .watcher _ rfl (Option.some.inj own)
    · exact kept

theorem serves_readAll (w : World) (run : RunId) (mine : Option RunId)
    (deliveries : List (Delivery × Bool)) : Serves mine w (w.readAll run deliveries) := by
  induction deliveries generalizing w with
  | nil =>
    unfold readAll
    split
    · -- Only the watcher changes, whose reader waits from now on.
      refine .aside rfl rfl rfl rfl rfl rfl (fun _ mem => .inr mem) fun x mem => ?_
      obtain ⟨y, here, rfl⟩ := Option.mem_map.mp mem
      exact .inr ⟨y, here, rfl⟩
    · exact serves_dropWatcher w run mine
  | cons delivery rest ih =>
    obtain ⟨d, stopFirst⟩ := delivery
    have stopped : Serves mine w (if stopFirst then w.act .stop else w) := by
      split
      · exact .act w .stop
      · exact .refl mine w
    unfold readAll
    split
    · cases d with
      | report r => exact (stopped.trans (.act _ _)).trans (ih _)
      | closed => exact (stopped.trans (.act _ _)).trans (serves_dropWatcher _ run mine)
    · exact serves_dropWatcher w run mine

theorem serves_read (w : World) (run : RunId) (mine : Option RunId) :
    Serves mine w (w.read run) := by
  unfold read
  split
  · split
    · exact serves_readAll w run mine _
    · exact .refl mine w
  · exact .refl mine w

theorem serves_feed (w : World) (run : RunId) (opened : Nat) (rest : List ScriptedAdvertisement) :
    Serves (some run) w (w.feed run opened rest) := by
  induction rest generalizing w with
  | nil => exact .refl _ w
  | cons a rest ih =>
    unfold feed
    split
    · split
      · exact (serves_deliver w (.report a.report) false _).trans (ih _)
      · exact .wait rfl (decide_eq_true (Nat.le_refl _))
    · exact .refl _ w

theorem serves_openWatcher (w : World) (run : RunId) :
    Serves (some run) w (w.openWatcher run) := by
  have opened : Serves (some run) w { w with watcher := some { run } } := by
    refine .aside rfl rfl rfl rfl rfl rfl (fun _ mem => .inr mem) fun x mem => ?_
    obtain rfl := Option.some.inj mem
    exact .inl rfl
  unfold openWatcher
  dsimp only
  split
  · refine opened.trans (.enqueue fun turn mem => ?_)
    obtain rfl := List.mem_singleton.mp mem
    rfl
  · exact opened

theorem serves_takeWatcher (w : World) (run : RunId) (result : Except PlatformError Unit) :
    Serves (some run) w (w.takeWatcher run result) := by
  cases result with
  | error e => exact .act w (.watcherLost run e)
  | ok _ =>
    unfold takeWatcher
    dsimp only
    split
    · exact ((serves_openWatcher w run).trans (.act _ _)).trans (serves_read _ run _)
    · exact (serves_openWatcher w run).trans (serves_dropWatcher _ run _)

theorem serves_conclude (w : World) (request : Nat) (result : Except StartError Unit)
    (mine : Option RunId) : Serves mine w (w.conclude request result) :=
  .aside rfl rfl rfl rfl rfl rfl (fun _ mem => .inr mem) fun x mem => .inr ⟨x, mem, rfl⟩

theorem run?_of_mem_tasks {s : Starting} {turn : Turn} (mem : turn ∈ tasks s) :
    turn.run? = some s.run := by
  unfold tasks at mem
  rcases List.mem_append.mp mem with mem | mem
  · split at mem
    · obtain rfl := List.mem_singleton.mp mem
      rfl
    · cases mem
  · split at mem
    · rcases List.mem_cons.mp mem with rfl | mem
      · rfl
      · rcases List.mem_cons.mp mem with rfl | mem
        · rfl
        · split at mem
          · split at mem
            · cases mem
            · obtain rfl := List.mem_singleton.mp mem
              rfl
          · cases mem
    · cases mem

theorem serves_takeAdapter (w : World) (s : Starting) (state : AdapterState) :
    Serves (some s.run) w (w.takeAdapter s state) := by
  unfold takeAdapter
  split
  · split
    · have checked : Serves (some s.run) w (w.act (.adapterChecked s.run state)) := .act w _
      cases state with
      | ready =>
        exact (checked.trans (serves_conclude _ _ _ _)).trans (.enqueue fun _ => run?_of_mem_tasks)
      | poweredOff | unavailable => exact checked.trans (serves_conclude _ _ _ _)
    · exact serves_conclude w _ _ _
  · exact .refl _ w

theorem serves_take (w : World) (caller : Caller) (answer : Answer) :
    Serves (some caller.run) w (w.take caller answer) := by
  unfold take
  split
  next s state => exact serves_takeAdapter w s state
  next run selector result =>
    have told : Serves (some run) w (w.act (.enumerated run selector result)) := .act w _
    dsimp only
    cases result with
    | error e => exact told
    | ok handles =>
      dsimp only
      split
      · refine told.trans (.enqueue fun turn mem => ?_)
        obtain ⟨h, -, rfl⟩ := List.mem_map.mp mem
        rfl
      · exact told
  next run slot handle result => exact serves_takeIdentity w run slot handle result
  next run slot handle identity result => exact serves_endLookup w run slot _
  next run result => exact serves_takeWatcher w run result
  · exact .refl _ w

theorem serves_check (w : World) (s : Starting) :
    Serves (some s.run) w (match w.ask (.start s) with
      | (w, some (.adapter state)) => w.takeAdapter s state
      | (w, _) => w) := by
  have asked := serves_ask w (.start s)
  split
  next hask =>
    rw [hask] at asked
    exact asked.trans (serves_takeAdapter _ s _)
  next hask =>
    rw [hask] at asked
    exact asked

/-- Every turn of a task serves its run. -/
theorem serves_perform (w : World) {turn : Turn} (own : turn.run? ≠ none) :
    Serves turn.run? w (w.perform turn) := by
  -- A turn is an action of its run, or keeps what it hands on to its run.
  cases turn with
  | request => exact absurd rfl own
  | call caller =>
    have asked := serves_ask w caller
    simp only [perform]
    split
    · split
      next hask =>
        rw [hask] at asked
        exact asked.trans (serves_take _ caller _)
      next hask =>
        rw [hask] at asked
        exact asked
    · exact .refl _ w
  | take caller answer stopFirst =>
    simp only [perform]
    split
    · refine Serves.trans ?_ (serves_take _ caller answer)
      split
      · exact .act w .stop
      · exact .refl _ w
    · exact .refl _ w
  | feed run opened rest => exact serves_feed w run opened rest
  | read run => exact serves_read w run _
  | arm run timeout =>
    simp only [perform]
    split
    · exact .wait rfl rfl
    · exact .refl _ w
  | expire run => exact .act w (.timedOut run)

/-! ### Order -/

/-- How a world stands to the actions that have led to it.  Whatever is in one of its places is of a
run that was granted, and what waits is due when its time has come. -/
structure Orderly (radio : Radio) (as : List Action) (w : World) : Prop where
  radio : w.radio = radio
  coordinator : w.coordinator = after w.extract as
  events : w.events.map (·.2) = announced w.extract as
  known : ∀ r, w.Holds r → r ∈ runNumbers (granted w.extract as)
  due : ∀ t ∈ w.timers, t.turn.isDue t.deadline = true
  sorted : w.timers.Pairwise (·.deadline ≤ ·.deadline)

namespace Orderly

variable {radio : Radio} {as : List Action} {mine : Option RunId} {turn : Turn}

theorem created (radio : Radio) (extract : Payload → AdvertisementData) (now : Nat) :
    Orderly radio [] { radio, extract, now } where
  radio := rfl
  coordinator := rfl
  events := rfl
  known r held := by
    cases held with
    | queue _ mem | timer _ mem | call _ mem => exact absurd mem List.not_mem_nil
    | watcher _ mem => cases mem
  due _ mem := absurd mem List.not_mem_nil
  sorted := .nil

/-- A task of a granted run keeps the order. -/
theorem serves (h : Orderly radio as w) (served : Serves mine w w')
    (own : ∀ r, mine = some r → r ∈ runNumbers (granted w.extract as)) :
    ∃ as', Orderly radio as' w' := by
  obtain ⟨more, coordinator, events⟩ := served.acts
  refine ⟨as ++ more, served.radio.trans h.radio, ?_, ?_, fun r held => ?_, fun t mem => ?_,
    served.sorted h.sorted⟩
  · rw [served.extract, Coordinator.after_append, ← h.coordinator, coordinator]
  · rw [events, h.events, served.extract, h.coordinator]
    unfold announced after
    rw [Coordinator.steps_append]
  · rw [served.extract]
    have before : r ∈ runNumbers (granted w.extract as) :=
      (served.holds r held).elim (own r) (h.known r)
    exact Coordinator.mem_runNumbers_mono before
      (Coordinator.granted_le_of_prefix (List.prefix_append as more))
  · exact (served.waits t mem).elim (h.due t) id

/-- What serves no run keeps the order. -/
theorem keeps (h : Orderly radio as w) (served : Serves none w w') :
    ∃ as', Orderly radio as' w' :=
  h.serves served fun _ eq => nomatch eq

theorem act (h : Orderly radio as w) (a : Action) : Orderly radio (as ++ [a]) (w.act a) where
  radio := h.radio
  coordinator := by
    show (w.coordinator.step w.extract a).1 = after w.extract (as ++ [a])
    rw [Coordinator.after_concat, h.coordinator]
  events := by
    show (w.events ++ (w.coordinator.step w.extract a).2.map (w.now, ·)).map (·.2) = _
    rw [List.map_append, h.events, List.map_map, h.coordinator]
    exact (congrArg _ (List.map_id _)).trans (Coordinator.announced_concat as a).symm
  known r held := by
    have served : Serves none w (w.act a) := .act w a
    have before : w.Holds r := (served.holds r held).resolve_left nofun
    exact Coordinator.mem_runNumbers_mono (h.known r before)
      (Coordinator.granted_le_concat as a)
  due := h.due
  sorted := h.sorted

/-- A request that is granted a run goes on with the number that is given out next. -/
theorem request (h : Orderly radio as w) (number : Nat) (methods : Methods)
    (timeout : Option Nat) : ∃ as', Orderly radio as' (w.request number methods timeout) := by
  unfold World.request
  split
  · exact h.keeps (serves_conclude w number _ none)
  · exact h.keeps (serves_conclude w number _ none)
  next run verdict =>
    obtain ⟨grants, rfl⟩ := Scheduled.grants_of_startVerdict verdict
    let s : Starting := ⟨number, w.coordinator.lastRun + 1, methods, timeout⟩
    have own : s.run ∈ runNumbers (granted w.extract (as ++ [.start methods])) := by
      show w.coordinator.lastRun + 1 ∈ _
      rw [h.coordinator] at grants ⊢
      rw [Coordinator.granted_concat, grants, Coordinator.lastRun_after, Bool.toNat_true,
        Coordinator.runNumbers_succ, UInt64.ofNat_add]
      exact List.mem_append_right _ (List.mem_singleton_self _)
    have noted : Serves (some s.run) (w.act (.start methods))
        { w.act (.start methods) with requests := w.requests ++ [s] } :=
      .aside rfl rfl rfl rfl rfl rfl (fun _ mem => .inr mem) fun x mem => .inr ⟨x, mem, rfl⟩
    exact (h.act (.start methods)).serves (noted.trans (serves_check _ s)) fun r eq =>
      Option.some.inj eq ▸ own

/-- Every turn keeps the order. -/
theorem perform (h : Orderly radio as w)
    (own : ∀ r, turn.run? = some r → r ∈ runNumbers (granted w.extract as)) :
    ∃ as', Orderly radio as' (w.perform turn) := by
  by_cases asks : turn.run? = none
  · cases turn with
    | request number methods timeout => exact h.request number methods timeout
    | _ => cases asks
  · exact h.serves (serves_perform w asks) own

theorem wake (h : Orderly radio as w) (time : Nat) : Orderly radio as (w.wake time) where
  radio := h.radio
  coordinator := h.coordinator
  events := h.events
  known r held := by
    refine h.known r ?_
    cases held with
    | queue turn mem own =>
      rcases List.mem_append.mp mem with old | woken
      · exact .queue turn old own
      · obtain ⟨t, here, rfl⟩ := List.mem_map.mp woken
        exact .timer t ((List.takeWhile_sublist _).subset here) own
    | timer t mem own => exact .timer t ((List.dropWhile_sublist _).subset mem) own
    | call c mem own => exact .call c mem own
    | watcher x mem own => exact .watcher x mem own
  due t mem := h.due t ((List.dropWhile_sublist _).subset mem)
  sorted := sorted_wake time h.sorted

/-- A turn that is taken from the queue is of a granted run. -/
theorem popped (h : Orderly radio as w) {rest : List Turn} (queue : w.queue = turn :: rest) :
    Orderly radio as { w with queue := rest } ∧
      ∀ r, turn.run? = some r → r ∈ runNumbers (granted w.extract as) := by
  refine ⟨⟨h.radio, h.coordinator, h.events, fun r held => h.known r ?_, h.due, h.sorted⟩,
    fun r own => h.known r (.queue turn ?_ own)⟩
  · cases held with
    | queue turn mem own => exact .queue turn (queue ▸ List.mem_cons_of_mem _ mem) own
    | timer t mem own => exact .timer t mem own
    | call c mem own => exact .call c mem own
    | watcher x mem own => exact .watcher x mem own
  · rw [queue]
    exact List.mem_cons_self

theorem runFor (h : Orderly radio as w) (time : Nat) (done : World → Bool) (fuel : Nat) :
    ∃ as', Orderly radio as' (World.runFor time done fuel w) := by
  induction fuel generalizing as w with
  | zero => exact ⟨as, h⟩
  | succ fuel ih =>
    unfold World.runFor
    split
    next queue =>
      obtain ⟨left, own⟩ := h.popped queue
      obtain ⟨as', ordered⟩ := left.perform own
      exact ih ordered
    next =>
      -- The clock moves on, and nothing that is waited for is changed by it.
      have waited : ∃ as', Orderly radio as' { w with now := max w.now time } :=
        h.keeps (.aside rfl rfl rfl rfl rfl rfl (fun _ mem => .inr mem)
          fun x mem => .inr ⟨x, mem, rfl⟩)
      split
      · exact ⟨as, h⟩
      · split
        · split
          · exact ih (h.wake _)
          · exact waited
        · exact waited

end Orderly

/-! ### Worlds that are reached -/

theorem serves_sweep (w : World) : Serves none w w.sweep := by
  refine .aside rfl rfl rfl rfl rfl rfl (fun c mem => .inr (List.mem_of_mem_filter mem))
    fun x mem => ?_
  obtain ⟨y, here, rfl⟩ := Option.mem_map.mp mem
  refine .inr ⟨y, here, ?_⟩
  split <;> rfl

theorem serves_abandon (w : World) : Serves none w w.abandon.1 := by
  unfold abandon
  split
  · exact .refl none w
  next s _ =>
    let w' : World := { w with
      requests := w.requests.filter (·.request != s.request)
      calls := w.calls.filter (·.request? != some s.request) }
    have left : Serves none w w' :=
      .aside rfl rfl rfl rfl rfl rfl (fun c mem => .inr (List.mem_of_mem_filter mem))
        fun x mem => .inr ⟨x, mem, rfl⟩
    exact left.trans (.act w' (.startAbandoned s.run))

theorem serves_report (w : World) (r : AdvertisementReport) (stopFirst : Bool) :
    Serves none w (w.report r stopFirst).1 := by
  unfold report
  split
  · exact serves_deliver w (.report r) stopFirst none
  · exact .refl none w

theorem serves_closeWatcher (w : World) (stopFirst : Bool) :
    Serves none w (w.closeWatcher stopFirst).1 := by
  unfold closeWatcher
  split
  · refine (serves_deliver w .closed stopFirst none).trans ?_
    refine .aside rfl rfl rfl rfl rfl rfl (fun _ mem => .inr mem) fun x mem => ?_
    obtain ⟨y, here, rfl⟩ := Option.mem_map.mp mem
    exact .inr ⟨y, here, rfl⟩
  · exact .refl none w

/-- An answer goes to the task of a call that waits. -/
theorem serves_answer (w : World) (call : Call) (a : Answer) (stopFirst : Bool) :
    ∃ mine, (∀ r, mine = some r → w.Holds r) ∧ Serves mine w (w.answer call a stopFirst).1 := by
  unfold answer
  split
  · exact ⟨none, nofun, .refl none w⟩
  next caller found =>
    have held : ∀ r, some caller.run = some r → w.Holds r := fun r eq =>
      .call caller (List.mem_of_find?_eq_some found) (Option.some.inj eq)
    let w' : World := { w with calls := w.calls.eraseP (·.call = call) }
    -- The call no longer waits, and its answer goes to the task that made it.
    have left : Serves (some caller.run) w w' :=
      .aside rfl rfl rfl rfl rfl rfl (fun c mem => .inr (List.mem_of_mem_eraseP mem))
        fun x mem => .inr ⟨x, mem, rfl⟩
    refine ⟨some caller.run, held, left.trans ?_⟩
    dsimp only
    split
    next s =>
      refine Serves.trans ?_ (serves_take _ (.start s) a)
      split
      · exact .act w' .stop
      · exact .refl _ w'
    · refine .enqueue fun turn mem => ?_
      obtain rfl := List.mem_singleton.mp mem
      rfl

/-- Everything in a world that a coordinator gets to is of a run that was granted. -/
theorem Reached.orderly {radio : Radio} {extract : Payload → AdvertisementData}
    (h : Reached radio extract w) : ∃ as, Orderly radio as w := by
  -- Whatever befalls a coordinator keeps the world orderly, with more actions at most.
  induction h with
  | created now => exact ⟨[], .created radio extract now⟩
  | request number methods timeout _ ih =>
    obtain ⟨as, ordered⟩ := ih
    refine ordered.keeps (.put fun turn mem r own => ?_)
    obtain rfl := List.mem_singleton.mp mem
    cases own
  | abandon _ ih =>
    obtain ⟨as, ordered⟩ := ih
    exact ordered.keeps (serves_abandon _)
  | stop _ ih =>
    obtain ⟨as, ordered⟩ := ih
    exact ⟨_, ordered.act .stop⟩
  | answer call a stopFirst _ ih =>
    obtain ⟨as, ordered⟩ := ih
    obtain ⟨mine, held, served⟩ := serves_answer _ call a stopFirst
    exact ordered.serves served fun r eq => ordered.known r (held r eq)
  | report r stopFirst _ ih =>
    obtain ⟨as, ordered⟩ := ih
    exact ordered.keeps (serves_report _ r stopFirst)
  | closeWatcher stopFirst _ ih =>
    obtain ⟨as, ordered⟩ := ih
    exact ordered.keeps (serves_closeWatcher _ stopFirst)
  | runUntil time done _ ih =>
    obtain ⟨as, ordered⟩ := ih
    exact ordered.runFor time done _
  | sweep _ ih =>
    obtain ⟨as, ordered⟩ := ih
    exact ordered.keeps (serves_sweep _)

/-- **Whatever has happened to a coordinator, it is free once it is idle again and nothing can be
done at the present time.**  There have been fewer runs than there are numbers for them, and no
answer to an earlier request of the same number is still to come. -/
theorem Reached.free {s : Scenario} {extract : Payload → AdvertisementData} {n : Nat}
    (h : Reached (.scripted s) extract w) (idle : w.coordinator.phase = .idle)
    (rests : w.Rests w.now) (fresh : ∀ t ∈ w.timers, t.turn.request? ≠ some n) :
    ∃ as, w.coordinator = after w.extract as ∧ w.events.map (·.2) = announced w.extract as ∧
      (granted w.extract as + 1 < 2 ^ 64 → w.Free s n) := by
  obtain ⟨as, ordered⟩ := h.orderly
  refine ⟨as, ordered.coordinator, ordered.events, fun few => ?_⟩
  -- At rest nothing is left in the queue, so that all turns in the line are those of timers.
  have waits : ∀ x ∈ w.line, ∃ t ∈ w.timers, x = (t.deadline, t.turn) := by
    intro x mem
    unfold line at mem
    rw [rests.queue, List.map_nil, List.nil_append] at mem
    obtain ⟨t, here, rfl⟩ := List.mem_map.mp mem
    exact ⟨t, here, rfl⟩
  constructor
  case radio => exact ordered.radio
  case idle => exact idle
  case fair =>
    intro x mem
    obtain ⟨t, here, rfl⟩ := waits x mem
    exact Turn.isFair_of_isDue (ordered.due t here) (fresh t here)
  case other =>
    intro x mem own
    obtain ⟨t, here, rfl⟩ := waits x mem
    -- A turn of a run is of one that was granted, and the next number is not among these.
    have known := ordered.known _ (.timer t here own)
    rw [ordered.coordinator, Coordinator.lastRun_after] at known
    refine Coordinator.succ_not_mem_runNumbers few ?_
    rw [UInt64.ofNat_add]
    exact known
  case due =>
    intro x mem
    obtain ⟨t, here, rfl⟩ := waits x mem
    exact Turn.effort_of_isDue (ordered.due t here)
  case sorted => exact ordered.sorted
  case future => exact rests.timers

end World

end Simulation

end BluetoothDiscovery
