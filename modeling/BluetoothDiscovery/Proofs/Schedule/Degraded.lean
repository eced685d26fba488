import BluetoothDiscovery.Proofs.Schedule.Completion

/-!
# Runs without a watcher

A run whose watcher is lost, or could not be opened, goes on with its enumerations and look-ups.
Like a run that was never asked for advertisements it waits for nothing else, and it finishes with
the last of them.  Unlike such a run it can still be cut short (`Degraded`): the end of the time for
advertisements does not ask whether any are watched.  Devices that are being looked up at that time
are no longer heard of.
-/

namespace BluetoothDiscovery

open Coordinator (HasBegun granted history after told_of_granted_lt)

variable {extract : Payload → AdvertisementData} {as : List Action} {a : Action} {id : RunId}
  {r : Run} {s s' : System}

/-! ### The loss of the watcher -/

/-- Whether a run was told, while it was under way, that its watcher is lost or could not be
opened. -/
def LostWatcher (extract : Payload → AdvertisementData) (as : List Action) (id : RunId) : Prop :=
  ∃ m ∈ history extract as, m.coordinator.isRunning id = true ∧ ∃ e, m.action = .watcherLost id e

theorem lostWatcher_concat : LostWatcher extract (as ++ [a]) id ↔ LostWatcher extract as id ∨
    (after extract as).isRunning id = true ∧ ∃ e, a = .watcherLost id e := by
  unfold LostWatcher
  rw [Coordinator.history_concat]
  simp only [List.mem_append, List.mem_singleton, or_and_right, exists_or, exists_eq_left]

theorem LostWatcher.hasBegun (h : LostWatcher extract as id) : HasBegun extract as id := by
  obtain ⟨m, mem, running, -⟩ := h
  exact Coordinator.hasBegun_of_mem_history mem running

/-- A run does not watch again once its watcher is lost. -/
theorem watching_eq_false_of_lost (few : granted extract as < 2 ^ 64)
    (running : (after extract as).phase = .running r) (lost : LostWatcher extract as r.id) :
    r.watching = false := by
  induction as using List.reverseRecOn generalizing r with
  | nil => cases running
  | append_singleton as a ih =>
    have fewer := (Coordinator.granted_le_concat as a).trans_lt few
    rw [Coordinator.after_concat] at running
    have hout := Coordinator.step_outcome extract (after extract as) a
    generalize (after extract as).grants a = granted at hout
    generalize (after extract as).step extract a = out at hout running
    cases hout with
    | nothing away => exact absurd running (away r)
    | granted => cases running
    | refused => cases running
    | abandoned => cases running
    | ended => cases running
    | began starting check =>
      cases running
      -- A run that only begins was not told anything before.
      have fresh := ((told_of_granted_lt fewer).of_starting starting).2
      rcases lostWatcher_concat.mp lost with before | ⟨-, e, loss⟩
      · exact absurd before.hasBegun fresh
      · rw [check] at loss
        cases loss
    | @worked r₀ r' _ _ before goesOn _ work =>
      obtain rfl := Phase.running.inj (goesOn.symm.trans running)
      rw [Run.id_eq_of_progress work] at lost
      by_contra watching
      rw [work, Bool.not_eq_false] at watching
      obtain ⟨watched, kept⟩ := Run.watching_of_progress watching
      rcases lostWatcher_concat.mp lost with earlier | ⟨-, e, loss⟩
      · rw [ih fewer before earlier] at watched
        cases watched
      · exact kept e loss

/-! ### What is left of the run -/

/-- A run that does not watch waits for enumerations and look-ups only. -/
theorem Books.piece_cases {work : Multiset Piece} (h : Books r work) (unwatched : r.watching = false)
    {p : Piece} (mem : p ∈ work) :
    (∃ selector, p = .enumeration selector) ∨ ∃ slot, p = .lookup slot := by
  rw [h.watching_eq, decide_eq_false_iff_not] at unwatched
  have left := Multiset.count_pos.mpr mem
  cases p with
  | enumeration selector => exact .inl ⟨selector, rfl⟩
  | lookup slot => exact .inr ⟨slot, rfl⟩
  | opening => exact absurd (Nat.add_pos_left left _) unwatched
  | watching => exact absurd (Nat.add_pos_right _ left) unwatched

/-- What holds of the present run `r` of a system once it has no watcher. -/
structure Degraded (extract : Payload → AdvertisementData) (s : System) (r : Run) : Prop where
  /-- The run waits for its enumerations and look-ups, and there is always one that it waits for. -/
  waits (p : Piece) : p ∈ Task.work s.tasks r.id →
    (∃ selector, p = .enumeration selector) ∨ ∃ slot, p = .lookup slot
  work_ne_zero : Task.work s.tasks r.id ≠ 0
  /-- The run ends with a stop, with the last of its work, and with the end of the time for
  advertisements, and with nothing else. -/
  ends_iff (a : Action) (s' : System) : System.Step extract s a s' →
    (s'.coordinator.isRunning r.id = false ↔
      a = .stop ∨ Task.work s'.tasks r.id = 0 ∨ a = .timedOut r.id)
  /-- The end of the time finishes the run and leaves all of its work behind, of which nothing is
  heard any more. -/
  timedOut (s' : System) : System.Step extract s (.timedOut r.id) s' →
    (s.coordinator.step extract (.timedOut r.id)).2 = [.finished] ∧
      Task.work s'.tasks r.id = Task.work s.tasks r.id ∧
      ∀ a, a.run? = some r.id → s'.coordinator.step extract a = (s'.coordinator, [])

/-- The timer is no work of its run, so that all work is left when it goes off. -/
theorem System.Step.work_of_timedOut (h : System.Step extract s (.timedOut id) s') :
    Task.work s'.tasks id = Task.work s.tasks id := by
  cases h with
  | @work t rest present a more does =>
    rw [present, Task.work_add, Task.work_cons]
    cases does with
    | expired => simp [Task.pieces]

/-- **Without a watcher** a run goes on as one that was asked for the classic search alone, but that
the end of the time for advertisements ends it, too.  So it is whatever the tasks do in whatever
order, as long as fewer than `2 ^ 64` runs are granted. -/
theorem degraded_of_lost (extract : Payload → AdvertisementData) {as : List Action} {s : System}
    {r : Run} (h : System.Execution extract {} as s) (few : granted extract as < 2 ^ 64)
    (running : s.coordinator.phase = .running r) (named : r.methods.unnamed = 0)
    (lost : LostWatcher extract as r.id) : Degraded extract s r := by
  have present := (sound_of_execution h few).running r running
  have unwatched := watching_eq_false_of_lost few (h.coordinator_eq ▸ running) lost
  constructor
  case waits => exact fun p mem => present.books.piece_cases unwatched mem
  case work_ne_zero => exact present.work_ne_zero named
  case ends_iff => exact fun a s' st => present.ends_iff named running st
  case timedOut =>
    intro s' st
    have ended : s.coordinator.step extract (.timedOut r.id) = s.coordinator.finish .finished :=
      Coordinator.step_timedOut_of_running running
    refine ⟨by rw [ended]; rfl, st.work_of_timedOut, fun a meant => ?_⟩
    refine Coordinator.step_of_run?_ne_owner meant ?_
    rw [st.coordinator_eq, ended]
    exact (Option.some_ne_none r.id).symm

/-! ### A run that is cut short -/

/-- The actions of a run that cannot open its watcher and then finds one device. -/
def unwatchedSearch : List Action :=
  [.start (Methods.classic ∪ Methods.lowEnergy), .adapterChecked 1 .ready,
    .watcherLost 1 ⟨.openWatcher, "no radio"⟩, .enumerated 1 .lowEnergy (.ok []),
    .enumerated 1 .classic (.ok [⟨"a", .classic⟩])]

/-- The device is being looked up, and the timer has not gone off. -/
theorem execution_unwatchedSearch :
    System.Execution Payload.extract {} unwatchedSearch
      ⟨after Payload.extract unwatchedSearch, {.lookup 1 .classic ⟨"a", .classic⟩, .timer 1}⟩ := by
  have created : System.Execution Payload.extract {} [] {} := .nil
  have started := created.concat (.request (Methods.classic ∪ Methods.lowEnergy) true)
  have ready := started.concat
    (.work (.check 1 (Methods.classic ∪ Methods.lowEnergy) true) 0 (by decide)
      (.checked 1 (Methods.classic ∪ Methods.lowEnergy) true .ready))
  have lost := ready.concat
    (.work (.opening 1) {.enumeration 1 .classic, .enumeration 1 .lowEnergy, .timer 1} (by decide)
      (.unopened 1 ⟨.openWatcher, "no radio"⟩))
  have empty := lost.concat
    (.work (.enumeration 1 .lowEnergy) {.enumeration 1 .classic, .timer 1} (by decide)
      (.enumerated 1 .lowEnergy (.ok [])))
  exact empty.concat
    (.work (.enumeration 1 .classic) {.timer 1} (by decide)
      (.enumerated 1 .classic (.ok [⟨"a", .classic⟩])))

theorem lostWatcher_unwatchedSearch : LostWatcher Payload.extract unwatchedSearch 1 :=
  ⟨_, .tail _ (.tail _ (.head _)), rfl, _, rfl⟩

theorem degraded_unwatchedSearch :
    ∃ s, System.Execution Payload.extract {} unwatchedSearch s ∧
      granted Payload.extract unwatchedSearch < 2 ^ 64 ∧
      ∃ r, s.coordinator.phase = .running r ∧ r.methods.unnamed = 0 ∧
        LostWatcher Payload.extract unwatchedSearch r.id ∧ Degraded Payload.extract s r := by
  have few : granted Payload.extract unwatchedSearch < 2 ^ 64 := by decide
  exact ⟨_, execution_unwatchedSearch, few, _, rfl, by decide, lostWatcher_unwatchedSearch,
    degraded_of_lost Payload.extract execution_unwatchedSearch few rfl (by decide)
      lostWatcher_unwatchedSearch⟩

/-- The timer goes off while the device is being looked up.  The run is finished, and what the
look-up comes to is not taken in. -/
theorem timer_ends_unwatchedSearch :
    ∃ s s', System.Execution Payload.extract {} unwatchedSearch s ∧
      LostWatcher Payload.extract unwatchedSearch 1 ∧ s.coordinator.isRunning 1 = true ∧
      System.Step Payload.extract s (.timedOut 1) s' ∧
      (s.coordinator.step Payload.extract (.timedOut 1)).2 = [.finished] ∧
      s'.coordinator.isRunning 1 = false ∧ .lookup .classic ∈ Task.work s'.tasks 1 ∧
      ∀ resolution, s'.coordinator.step Payload.extract (.resolved 1 resolution) =
        (s'.coordinator, []) := by
  let lookup : Task := .lookup 1 .classic ⟨"a", .classic⟩
  have expires : System.Step Payload.extract
      ⟨after Payload.extract unwatchedSearch, {lookup, .timer 1}⟩ (.timedOut 1) _ :=
    .work (.timer 1) {lookup} (by decide) (.expired 1)
  exact ⟨_, _, execution_unwatchedSearch, lostWatcher_unwatchedSearch, rfl, expires, rfl, rfl,
    by decide, fun _ => rfl⟩

end BluetoothDiscovery
