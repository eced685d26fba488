import BluetoothDiscovery.Proofs.Schedule.Record
import BluetoothDiscovery.Simulation.Attended

/-!
# Worlds and schedules

The tasks of a `World` are the turns that stand in its places; those of a `System` are a multiset.
`Scheduled` says that some record of a system leads to a world: to its coordinator, with its
events, and with at least its tasks.  A world lets a task of a run that has ended disappear, where
a system only never lets it on again; for that reason the tasks need not be the same.

A turn is taken from its place and then done.  In between its task stands nowhere, so `Scheduled`
also counts tasks that are set aside.
-/

namespace BluetoothDiscovery.Simulation

open Coordinator (announced)

/-! ### The tasks of a world -/

/-- Whether an end was set to the time for advertisements. -/
def Starting.timed (s : Starting) : Bool := s.timeout.any (· ≠ 0)

/-- The task that makes a call. -/
def Caller.task : Caller → Task
  | .start s => .check s.run s.methods s.timed
  | .enumeration run selector => .enumeration run selector
  | .identity run slot handle | .services run slot handle _ => .lookup run slot handle
  | .watcher run => .opening run

/-- The task whose turn it is; a caller and a radio are none. -/
def Turn.tasks : Turn → Multiset Task
  | .call caller | .take caller _ _ => {caller.task}
  | .read run => {.watch run}
  | .arm run _ | .expire run => {.timer run}
  | .request _ _ _ | .feed _ _ _ => 0

/-- The task that waits for a delivery. -/
def Watcher.tasks (x : Watcher) : Multiset Task := if x.awaited then {.watch x.run} else 0

namespace World

variable {w w' : World} {aside aside' : Multiset Task} {t : Task} {a : Action}
  {more : Multiset Task} {run : RunId} {slot : Selector} {handle : Handle}

/-- The tasks that stand in the places of a world. -/
def standing (w : World) : Multiset Task :=
  (w.queue.map Turn.tasks).sum + (w.timers.map fun t => t.turn.tasks).sum +
    (w.calls.map Caller.task : List Task) + w.watcher.elim 0 Watcher.tasks

/-- A record leads to a world, with at least the tasks that stand in its places and those that have
been taken from there. -/
def Scheduled (w : World) (aside : Multiset Task) : Prop :=
  ∃ ds s, System.Record w.extract ds s ∧ s.coordinator = w.coordinator ∧
    aside + w.standing ≤ s.tasks ∧
    w.events.map (·.2) = announced w.extract (ds.map Deed.action)

namespace Scheduled

/-- Tasks may be put elsewhere, or disappear. -/
theorem mono (h : w.Scheduled aside) (extract : w'.extract = w.extract)
    (coordinator : w'.coordinator = w.coordinator) (events : w'.events = w.events)
    (tasks : aside' + w'.standing ≤ aside + w.standing) : w'.Scheduled aside' := by
  obtain ⟨ds, s, record, same, le, told⟩ := h
  refine ⟨ds, s, ?_, ?_, tasks.trans le, ?_⟩
  · rw [extract]
    exact record
  · rw [coordinator]
    exact same
  · rw [events, extract]
    exact told

/-- A world is scheduled after one more step of a system. -/
theorem step {ds : List Deed} {d : Deed} {s s' : System} (record : System.Record w.extract ds s)
    (same : s.coordinator = w.coordinator)
    (told : w.events.map (·.2) = announced w.extract (ds.map Deed.action))
    (st : System.Recorded w.extract s d s') (le : aside + w.standing ≤ s'.tasks) :
    (w.act d.action).Scheduled aside := by
  refine ⟨ds ++ [d], s', record.concat st, ?_, le, ?_⟩
  · rw [st.step.coordinator_eq, same]
    rfl
  · show (w.events ++ (w.coordinator.step w.extract d.action).2.map (w.now, ·)).map (·.2) =
      announced w.extract ((ds ++ [d]).map Deed.action)
    rw [actions_concat, Coordinator.announced_concat, ← record.execution.coordinator_eq, same,
      ← told, List.map_append, List.map_map]
    congr 1
    exact List.map_id _

/-- A task that was set aside is there in the system, whatever else there may be. -/
theorem exists_rest {tasks : Multiset Task} (le : (t ::ₘ aside) + w.standing ≤ tasks) :
    ∃ rest, tasks = t ::ₘ rest ∧ aside + w.standing ≤ rest := by
  rw [Multiset.cons_add] at le
  obtain ⟨rest, present⟩ := Multiset.exists_cons_of_mem
    (Multiset.mem_of_le le (Multiset.mem_cons_self t _))
  rw [present] at le
  exact ⟨rest, present, (Multiset.cons_le_cons_iff t).mp le⟩

/-- A task that was taken from its place acts. -/
theorem act (h : w.Scheduled (t ::ₘ aside)) (does : t.Does w.coordinator a more)
    (other : t.isLookup = false) : (w.act a).Scheduled (more + aside) := by
  obtain ⟨ds, s, record, same, le, told⟩ := h
  obtain ⟨rest, present, left⟩ := exists_rest le
  rw [← same] at does
  refine step record same told (.work t rest present other does) ?_
  rw [add_assoc]
  exact Multiset.add_le_add_left left

/-- A look-up that was taken from its place comes to its outcome. -/
theorem lookup (h : w.Scheduled (.lookup run slot handle ::ₘ aside)) (course : Course) :
    (w.act (.ofOutcome run (course.outcome handle.selector))).Scheduled
      (.ending run slot ::ₘ aside) := by
  obtain ⟨ds, s, record, same, le, told⟩ := h
  obtain ⟨rest, present, left⟩ := exists_rest le
  refine step record same told (.lookup run ⟨⟨slot, handle⟩, course⟩ rest present) ?_
  rw [Multiset.cons_add]
  exact Multiset.cons_le_cons _ left

theorem stop (h : w.Scheduled aside) : (w.act .stop).Scheduled aside := by
  obtain ⟨ds, s, record, same, le, told⟩ := h
  exact step record same told .stop le

/-- A request that is granted a run leaves the check of the adapter to be made. -/
theorem start (h : w.Scheduled aside) {methods : Methods} (timed : Bool)
    (granted : w.coordinator.grants (.start methods) = true) :
    (w.act (.start methods)).Scheduled
      (.check (w.coordinator.lastRun + 1) methods timed ::ₘ aside) := by
  obtain ⟨ds, s, record, same, le, told⟩ := h
  refine step record same told (.request methods timed) ?_
  rw [System.checks, same, granted, if_pos rfl, Multiset.singleton_add, Multiset.cons_add]
  exact Multiset.cons_le_cons _ le

/-- A task that was taken from its place disappears. -/
theorem drop (h : w.Scheduled (t ::ₘ aside)) : w.Scheduled aside := by
  refine h.mono rfl rfl rfl ?_
  rw [Multiset.cons_add]
  exact Multiset.le_cons_self _ t

/-- What changes nothing but clocks, results and the like. -/
theorem same (h : w.Scheduled aside) (extract : w'.extract = w.extract)
    (coordinator : w'.coordinator = w.coordinator) (events : w'.events = w.events)
    (standing : w'.standing = w.standing) : w'.Scheduled aside :=
  h.mono extract coordinator events (by rw [standing])

end Scheduled

/-! ### Places -/

theorem act_of_step_eq (h : w.coordinator.step w.extract a = (w.coordinator, [])) :
    w.act a = w := by
  unfold act
  rw [h]
  simp

theorem standing_enqueue (w : World) (turns : List Turn) :
    (w.enqueue turns).standing = (turns.map Turn.tasks).sum + w.standing := by
  unfold standing enqueue
  rw [List.map_append, List.sum_append]
  ac_rfl

theorem sum_insertTimer (t : Timer) (ts : List Timer) :
    ((insertTimer t ts).map fun t => t.turn.tasks).sum =
      t.turn.tasks + (ts.map fun t => t.turn.tasks).sum := by
  induction ts with
  | nil => rfl
  | cons u us ih =>
    unfold insertTimer
    split
    · rfl
    · rw [List.map_cons, List.sum_cons, ih, List.map_cons, List.sum_cons]
      exact add_left_comm _ _ _

theorem standing_wait (w : World) (deadline : Nat) (turn : Turn) :
    (w.wait deadline turn).standing = turn.tasks + w.standing := by
  unfold standing wait
  rw [sum_insertTimer]
  ac_rfl

theorem standing_call (w : World) (caller : Caller) :
    { w with calls := w.calls ++ [caller] }.standing = caller.task ::ₘ w.standing := by
  unfold standing
  rw [List.map_append, ← Multiset.coe_add, ← Multiset.singleton_add]
  show _ + _ + (_ + {caller.task}) + _ = _
  ac_rfl

/-- Some calls are given up. -/
theorem standing_filter_calls_le (w : World) (p : Caller → Bool) :
    { w with calls := w.calls.filter p }.standing ≤ w.standing := by
  unfold standing
  refine Multiset.add_le_add_right (Multiset.add_le_add_left ?_)
  exact Multiset.coe_le.mpr (List.filter_sublist.map _).subperm

/-- A call is found and taken from the list. -/
theorem standing_of_find {caller : Caller} {call : Call}
    (h : w.calls.find? (·.call = call) = some caller) :
    w.standing = caller.task ::ₘ { w with calls := w.calls.eraseP (·.call = call) }.standing := by
  obtain ⟨found, before, later, split, others⟩ := List.find?_eq_some_iff_append.mp h
  have here : (caller :: later).eraseP (·.call = call) = later := List.eraseP_cons_of_pos found
  have erased : w.calls.eraseP (·.call = call) = before ++ later := by
    rw [split, List.eraseP_append_right _ (by simpa using others), here]
  have calls : (w.calls.map Caller.task : Multiset Task) =
      {caller.task} + (((before ++ later).map Caller.task : List Task) : Multiset Task) := by
    rw [split, List.map_append, List.map_cons, List.map_append]
    exact Multiset.coe_eq_coe.mpr List.perm_middle
  unfold standing
  rw [erased, calls, ← Multiset.singleton_add]
  ac_rfl

/-- The first turn of the queue is taken. -/
theorem standing_of_queue {turn : Turn} {rest : List Turn} (h : w.queue = turn :: rest) :
    w.standing = turn.tasks + { w with queue := rest }.standing := by
  unfold standing
  rw [h, List.map_cons, List.sum_cons]
  ac_rfl

/-- The timers that are due join the queue. -/
theorem standing_wake (w : World) (time : Nat) : (w.wake time).standing = w.standing := by
  have split : (w.timers.map fun t => t.turn.tasks).sum =
      ((w.timers.takeWhile (·.deadline ≤ time)).map fun t => t.turn.tasks).sum +
        ((w.timers.dropWhile (·.deadline ≤ time)).map fun t => t.turn.tasks).sum := by
    rw [← List.sum_append, ← List.map_append, List.takeWhile_append_dropWhile]
  unfold standing wake
  rw [split, List.map_append, List.sum_append, List.map_map]
  show _ + _ + _ + _ + _ = _
  rw [Function.comp_def]
  ac_rfl

/-- Only the watcher is changed. -/
theorem standing_watcher_le {watcher : Option Watcher}
    (h : watcher.elim 0 Watcher.tasks ≤ more + w.watcher.elim 0 Watcher.tasks) :
    { w with watcher }.standing ≤ more + w.standing := by
  unfold standing
  rw [add_left_comm]
  exact Multiset.add_le_add_left h

theorem standing_le_of_watcher {watcher : Option Watcher}
    (h : watcher.elim 0 Watcher.tasks ≤ w.watcher.elim 0 Watcher.tasks) :
    { w with watcher }.standing ≤ w.standing :=
  Multiset.add_le_add_left h

theorem standing_dropWatcher (w : World) (run : RunId) :
    (w.dropWatcher run).standing = w.standing := by
  unfold standing dropWatcher
  cases w.watcher with
  | none => rfl
  | some x =>
    show _ + Watcher.tasks (if x.run = run then { x with alive := false } else x) = _
    split <;> rfl

/-- A delivery gives the task that waits for it a turn. -/
theorem standing_deliver (w : World) (d : Delivery) (stopFirst : Bool) :
    (w.deliver d stopFirst).standing = w.standing := by
  unfold deliver
  cases hx : w.watcher with
  | none => rfl
  | some x =>
    cases ha : x.awaited with
    | true =>
      simp only [ha, if_true]
      rw [standing_enqueue]
      unfold standing
      rw [hx]
      simp [Turn.tasks, Watcher.tasks, ha, add_comm]
    | false =>
      simp only [ha, Bool.false_eq_true, if_false]
      unfold standing
      rw [hx]
      simp [Watcher.tasks, ha]

end World

end BluetoothDiscovery.Simulation
