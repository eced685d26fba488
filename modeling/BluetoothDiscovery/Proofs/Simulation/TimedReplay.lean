import BluetoothDiscovery.Proofs.Simulation.Failures

/-!
# Searching until the time is over

A search that watches advertisements for some time goes through stages, too: the adapter is checked,
the watcher is opened, the time is set, and then everything that the script has for the run is taken
in as it comes (`TimedStage`).  The end of the time comes before everything else that is due then
but the answers to enumerations, so that the run has taken in just what was due before, and tells
just what has failed by then (`timedReplay_of_free`).
-/

namespace BluetoothDiscovery.Simulation

variable {s : Scenario} {s₀ : Starting} {w₀ w b : World} {run : RunId} {n began timeout : Nat}
  {log : List (Nat × Doing)} {turn : Turn} {queue : List Turn}
  {told given rest : List ScriptedAdvertisement}

/-! ### What is left of a search -/

/-- When the time for advertisements is over, in a search that begins in a world. -/
def World.timeOver (w : World) (s : Scenario) (timeout : Nat) : Nat :=
  w.now + s.adapterTime + min timeout longestWait

/-- What a search that watches advertisements for some time makes of a world `w`.  The run finishes
when the time is over.  The device list and the events that carry devices are made by what the run
has taken in, and the other events are failures. -/
structure TimedReplay (s : Scenario) (methods : Methods) (timeout : Nat) (w w' : World)
    (told : List (Nat × Event)) (intake : List (Nat × Action)) : Prop where
  idle : w'.coordinator.phase = .idle
  events : w'.events = w.events ++ told ++ [(w.timeOver s timeout, .finished)]
  unfinished : ∀ e ∈ told, e.2.isTerminal = false
  ordered : told.Pairwise (·.1 ≤ ·.1)
  takenIn : TakenIn s methods (w.coordinator.lastRun + 1) (w.now + s.adapterTime)
    (min timeout longestWait) intake
  devices :
    let run := w.coordinator.lastRun + 1
    let out := (⟨run, .running (.begin run methods), ∅⟩ : Coordinator).timed w.extract intake
    w'.coordinator.store = out.1.store ∧ told.filter (·.2.device?.isSome) = out.2
  /-- Just what fails within the run is told, each failure at its time. -/
  failures : (told.filterMap fun e => e.2.failure?.map (e.1, ·)).Perm
    ((s.failuresWithin methods (min timeout longestWait)).map fun x =>
      (w.now + s.adapterTime + x.1, x.2))

/-- The end of the time finishes a run, and leaves the devices as they are. -/
theorem timed_timedOut (extract : Payload → AdvertisementData) {c : Coordinator} {r : Run}
    (running : (c.timed extract (courseOf r.id log)).1.phase = .running r) (time : Nat) :
    let before := c.timed extract (courseOf r.id log)
    c.timed extract (courseOf r.id (log ++ [(time, .timedOut)])) =
      ((before.1.finish .finished).1, before.2 ++ [(time, .finished)]) := by
  have step : (c.timed extract (courseOf r.id log)).1.step extract (.timedOut r.id) =
      (c.timed extract (courseOf r.id log)).1.finish .finished :=
    Coordinator.step_timedOut_of_running running
  have last : courseOf r.id [(time, .timedOut)] = [(time, .timedOut r.id)] := rfl
  rw [courseOf_append, Coordinator.timed_append, last, Coordinator.timed_cons, step]
  rfl

/-- When the time of a run is over, the run is replayed. -/
theorem timedReplay_of_log {w' : World} (asked : s₀.methods.contains Methods.lowEnergy = true)
    (next : s₀.run = w₀.coordinator.lastRun + 1) (h : SearchingSince s w₀ s₀ w log)
    (fed : Fed s s₀.run (w₀.now + s.adapterTime) w log told given rest)
    (early : ∀ x ∈ log, x.2.isObservation = true → x.1 < w.now)
    (answered : ∀ x ∈ w.line, x.2.run? = some s₀.run → x.2.isEnumeration = true → w.now < x.1)
    (now : w.now = w₀.timeOver s timeout)
    (logged : Logged s₀.run (w₀.begun s₀) w' (log ++ [(w.now, .timedOut)])) :
    ∃ told intake, TimedReplay s s₀.methods timeout w₀ w' told intake := by
  have begins : (w₀.begun s₀).coordinator.Watches s₀.run := watches_begun asked
  have same : Coordinator.SameDevices s₀.run (w₀.begun s₀).coordinator
      (w₀.begun s₀).coordinator :=
    ⟨rfl, _, _, rfl, rfl, rfl, rfl, rfl⟩
  obtain ⟨⟨r, running, number, -⟩, ⟨store, -⟩, devices, reports⟩ :=
    Coordinator.sameDevices_timed begins same
      (isCarriedOnBy_of_mem_courseOf h.inTime)
  have coordinator := logged.coordinator
  have events := logged.events
  rw [← number] at running
  rw [← number, timed_timedOut _ running w.now, number] at coordinator events
  refine ⟨((w₀.begun s₀).coordinator.timed (w₀.begun s₀).extract (courseOf s₀.run log)).2,
    (courseOf s₀.run log).filter (·.2.isObservation), ?_⟩
  constructor
  case idle => rw [coordinator]; rfl
  case events =>
    rw [events, now, List.append_assoc]
    rfl
  case unfinished =>
    exact fun e mem => Coordinator.isTerminal_eq_false_of_isReport (reports e mem)
  case ordered => exact Coordinator.pairwise_timed (pairwise_courseOf h.ordered) _
  case takenIn =>
    rw [← next]
    exact takenIn_of_log (Nat.min_le_right _ _) h fed early now
  case devices =>
    rw [← next, coordinator]
    exact ⟨store, devices⟩
  case failures =>
    have reported := begins.failures_timed (w₀.begun s₀).extract
      (isCarriedOnBy_of_mem_courseOf h.inTime)
    rw [failures_courseOf] at reported
    rw [reported]
    exact h.failures_perm early answered now (Nat.min_le_right _ _)

/-- A run just finishes if the script has nothing for it before the end. -/
theorem TimedReplay.of_nothing_due {methods : Methods} {told : List (Nat × Event)}
    {intake : List (Nat × Action)} (h : TimedReplay s methods timeout w₀ w told intake)
    (unheard : ∀ a ∈ s.advertisements, min timeout longestWait ≤ a.time)
    (undone : ∀ x ∈ s.outcomes methods, min timeout longestWait ≤ x.1)
    (listed : ∀ x ∈ s.enumerationFailures methods, min timeout longestWait < x.1) :
    w.events = w₀.events ++ [(w₀.timeOver s timeout, .finished)] ∧ w.coordinator.store = ∅ := by
  have nothing : intake = [] := by
    refine h.takenIn.eq_nil (fun a mem => ?_) fun x mem => ?_
    · exact Nat.not_lt_of_le (unheard a ((List.mergeSort_perm _ _).subset mem))
    · exact Nat.not_lt_of_le (undone x mem)
  have unfailing : s.failuresWithin methods (min timeout longestWait) = [] := by
    have listed' : (s.enumerationFailures methods).filter (·.1 ≤ min timeout longestWait) = [] :=
      List.filter_eq_nil_iff.mpr fun x mem =>
        (mt of_decide_eq_true (Nat.not_le_of_lt (listed x mem)))
    have undone' : (s.outcomes methods).filter (·.1 < min timeout longestWait) = [] :=
      List.filter_eq_nil_iff.mpr fun x mem =>
        (mt of_decide_eq_true (Nat.not_lt_of_le (undone x mem)))
    unfold Scenario.failuresWithin
    rw [listed', undone']
    rfl
  have devices := h.devices
  have failures := h.failures
  rw [nothing] at devices
  rw [unfailing, List.map_nil, List.perm_nil, List.filterMap_eq_nil_iff] at failures
  have silent := List.filter_eq_nil_iff.mp devices.2
  -- An event that does not end a run carries a device or a failure.
  have untold : told = [] := by
    refine List.eq_nil_iff_forall_not_mem.mpr fun e mem => ?_
    have goesOn := h.unfinished e mem
    have failed := failures e mem
    have about := silent e mem
    obtain ⟨time, e⟩ := e
    cases e with
    | discovered | updated => exact about rfl
    | failed => cases failed
    | finished | canceled => cases goesOn
  refine ⟨?_, devices.1⟩
  rw [h.events, untold, List.append_nil]

/-! ### Stages -/

/-- How far a search has come that was asked for in a world `w₀`, with a time for advertisements. -/
inductive TimedStage (s : Scenario) (w₀ : World) (s₀ : Starting) (timeout : Nat) (w : World) : Prop
  | beginning (h : Beginning s w₀ s₀ w)
  | opening (log : List (Nat × Doing)) (h : SearchingSince s w₀ s₀ w log)
      (setting : w.Setting s₀.run (w₀.now + s.adapterTime)
        [.call (.watcher s₀.run), .arm s₀.run timeout])
      (quiet : heardOf log = []) (unfed : feedsOf s₀.run w.line = [])
  | arming (log : List (Nat × Doing)) (told given rest : List ScriptedAdvertisement)
      (h : SearchingSince s w₀ s₀ w log)
      (setting : w.Setting s₀.run (w₀.now + s.adapterTime) [.arm s₀.run timeout])
      (fed : Fed s s₀.run (w₀.now + s.adapterTime) w log told given rest)
  | watching (log : List (Nat × Doing)) (told given rest : List ScriptedAdvertisement)
      (h : SearchingSince s w₀ s₀ w log)
      (fed : Fed s s₀.run (w₀.now + s.adapterTime) w log told given rest)
      (early : ∀ x ∈ log, x.2.isObservation = true → x.1 < w₀.timeOver s timeout)
      (timeSet : TimeSet s₀.run (w₀.timeOver s timeout) w.line)
  | replayed {b : World} (told : List (Nat × Event)) (intake : List (Nat × Action))
      (h : Waiting s none s₀.request b [] w)
      (replay : TimedReplay s s₀.methods timeout w₀ b told intake)

namespace TimedStage

/-- The tasks of a run are all its own, and none feeds its watcher. -/
theorem of_mem_tasks (asked : s₀.methods.contains Methods.lowEnergy = true)
    (timed : s₀.timeout = some timeout) (lasts : timeout ≠ 0) (mem : turn ∈ World.tasks s₀) :
    turn.run? = some s₀.run ∧ turn.isFair s₀.request = true ∧ turn.isOfSearch = true ∧
      turn.isFeedOf s₀.run = false := by
  rw [tasks_eq asked timed lasts] at mem
  rcases List.mem_append.mp mem with mem | mem
  · split at mem
    · rw [List.mem_singleton.mp mem]
      exact ⟨rfl, rfl, rfl, rfl⟩
    · cases mem
  · rcases List.mem_cons.mp mem with rfl | mem
    · exact ⟨rfl, rfl, rfl, rfl⟩
    rcases List.mem_cons.mp mem with rfl | mem
    · exact ⟨rfl, rfl, rfl, rfl⟩
    · rw [List.mem_singleton.mp mem]
      exact ⟨rfl, rfl, bne_iff_ne.mpr lasts, rfl⟩

/-- The first things that a run does are to open its watcher and to set its time. -/
theorem of_begun (asked : s₀.methods.contains Methods.lowEnergy = true)
    (timed : s₀.timeout = some timeout) (lasts : timeout ≠ 0) (h : Begun s w₀ s₀ w) :
    TimedStage s w₀ s₀ timeout w := by
  have tasks := tasks_eq asked timed lasts
  have task {turn : Turn} (mem : turn ∈ World.tasks s₀) := of_mem_tasks asked timed lasts mem
  have working : Working s s₀.run s₀.request Turn.isOfSearch (w₀.begun s₀)
      (((World.tasks s₀).map (Turn.agenda s (w₀.now + s.adapterTime))).sum) w [] := by
    have own : ∀ x ∈ (World.tasks s₀).map (w.now, ·), x.2.run? = some s₀.run ∧
        x.2.isFair s₀.request = true ∧ x.2.isOfSearch = true := by
      intro x mem
      obtain ⟨turn, here, rfl⟩ := List.mem_map.mp mem
      exact ⟨(task here).1, (task here).2.1, (task here).2.2.1⟩
    have working := h.waiting.working own
    rw [List.map_map, h.now] at working
    exact working
  refine .opening [] ⟨working, fun x mem => absurd mem List.not_mem_nil⟩ ?_ rfl ?_
  · obtain ⟨others, queue, away⟩ := h.queue
    refine ⟨h.now, fun t mem own => absurd own (h.timers t mem), ?_, [], ?_, ?_⟩
    · -- The run enumerates before it does anything else, and the other turns are not its own.
      rw [queue, tasks]
      refine List.pairwise_append.mpr ⟨?_, ?_, fun first mem _ _ other => ?_⟩
      · exact List.pairwise_of_forall_mem_list fun first mem _ _ other =>
          absurd (Turn.isOther_iff.mp other).1 (away first mem)
      · split <;> simp [Turn.isOther, Turn.run?, Turn.isEnumeration, Caller.run]
      · exact absurd (Turn.isOther_iff.mp other).1 (away first mem)
    · -- The other turns in the queue are not of this run, so that just its own tasks are left.
      have none : others.filter (·.isOther s₀.run) = [] := by
        refine List.filter_eq_nil_iff.mpr fun turn mem other => ?_
        exact away turn mem (Turn.isOther_iff.mp other).1
      rw [queue, List.filter_append, none, tasks, List.filter_append]
      split <;> simp [Turn.isOther, Turn.run?, Turn.isEnumeration, Caller.run]
    · exact fun turn mem => absurd mem List.not_mem_nil
  · refine feedsOf_eq_nil fun x mem => ?_
    obtain ⟨others, perm, still⟩ := h.waiting.line
    rcases List.mem_append.mp (perm.subset mem) with mem | mem
    · obtain ⟨turn, here, rfl⟩ := List.mem_map.mp mem
      exact (task here).2.2.2
    · exact Turn.isFeedOf_eq_false_of_ne (still x mem).2

/-- Enumerations, and turns of other runs, are routine. -/
theorem routine_of_not_isOther (asked : s₀.methods.contains Methods.lowEnergy = true)
    (h : SearchingSince s w₀ s₀ w log) (head : w.queue = turn :: queue)
    (passed : turn.isOther s₀.run = false) :
    ∃ e, Routine s s₀.run s₀.request { w with queue } turn ({ w with queue }.perform turn) e ∧
      SearchingSince s w₀ s₀ ({ w with queue }.perform turn) (log ++ e.doings.map (w.now, ·)) := by
  have here : (w.now, turn) ∈ w.line := by
    rw [World.line_of_queue head]
    exact List.mem_cons_self
  refine h.routine (watches_begun asked) head fun own => ?_
  have enumeration := Turn.isEnumeration_of_not_isOther passed own
  exact ⟨Turn.isPlain_of_isEnumeration (h.own _ here own) enumeration,
    Turn.isOnce_eq_false_of_isEnumeration enumeration⟩

theorem setting_of_routine {w' : World} {e : Effect} {next : List Turn} {time : Nat}
    (setting : w.Setting run time next) (head : w.queue = turn :: queue)
    (passed : turn.isOther run = false)
    (routine : Routine s run n { w with queue } turn w' e) : w'.Setting run time next := by
  refine (setting.passed head passed).placed routine.toPlaced (fun turn mem own => ?_)
    routine.fresh (routine.still (Turn.isEnumeration_of_not_isOther passed))
  exact routine.often (w.now, turn) (Effect.mem_line_of_mem_more mem) own

theorem fed_of_routine {w' : World} {e : Effect}
    (fed : Fed s run began w log told given rest) (head : w.queue = turn :: queue)
    (unfed : turn.isFeedOf run = false) (unread : turn ≠ .read run)
    (routine : Routine s run n { w with queue } turn w' e) :
    Fed s run began w' (log ++ e.doings.map (w.now, ·)) told given rest := by
  refine fed.kept head routine.toPlaced (routine.watcher fun x known => ?_) unfed unread
    routine.unfed fun d mem => (routine.silent d mem).1
  have same : some x = some _ := known.symm.trans fed.watcher
  rw [Option.some.inj same]

theorem feedsOf_of_head (head : w.queue = turn :: queue) (unfed : feedsOf run w.line = []) :
    feedsOf run { w with queue }.line = [] := by
  refine List.filter_eq_nil_iff.mpr fun x mem => ?_
  refine List.filter_eq_nil_iff.mp unfed x ?_
  rw [World.line_of_queue head]
  exact List.mem_cons_of_mem _ mem

/-- The watcher is opened, after enumerations at most. -/
theorem step_opening (asked : s₀.methods.contains Methods.lowEnergy = true)
    (opens : s.watcherFails = false) (h : SearchingSince s w₀ s₀ w log)
    (setting : w.Setting s₀.run (w₀.now + s.adapterTime)
      [.call (.watcher s₀.run), .arm s₀.run timeout])
    (quiet : heardOf log = []) (unfed : feedsOf s₀.run w.line = [])
    (head : w.queue = turn :: queue) :
    TimedStage s w₀ s₀ timeout ({ w with queue }.perform turn) ∧
      ({ w with queue }.perform turn).effort < w.effort := by
  have still := feedsOf_of_head head unfed
  cases other : turn.isOther s₀.run with
  | false =>
    obtain ⟨e, routine, h'⟩ := routine_of_not_isOther asked h head other
    refine ⟨.opening _ h' (setting_of_routine setting head other routine) ?_ ?_,
      routine.effort_lt h.radio head routine.effort⟩
    · rw [heardOf_append_of_silent fun d mem => (routine.silent d mem).1]
      exact quiet
    · have feeds := routine.toPlaced.feedsOf s₀.run
      rw [still, feedsOf_eq_nil routine.unfed] at feeds
      exact feeds.eq_nil
  | true =>
    -- The first turn of the run that is no enumeration is the one that opens the watcher.
    obtain ⟨rfl, setting', -⟩ := setting.popped head other
    obtain ⟨turned, watcher⟩ := turned_of_opening (w := { w with queue }) (n := s₀.request)
      h.radio opens (h.watches (watches_begun asked))
    have line : (Effect.ofOpening s s₀.run w.now).line w.now =
        [(w.now, .feed s₀.run w.now s.timeline)] := rfl
    have agenda : (Effect.ofOpening s s₀.run w.now).agenda s w.now =
        (Turn.call (.watcher s₀.run)).agenda s w.now := by
      rw [Effect.agenda_eq, line]
      rfl
    have h' := h.taken head turned
      (fun _ => ⟨agenda, fun x mem => by rw [List.mem_singleton.mp mem]; rfl⟩)
      (fun away => absurd rfl away) fun d mem => by rw [List.mem_singleton.mp mem]; rfl
    -- The whole script is still to be fed from here on.
    have fed := Fed.opening quiet turned.toPlaced setting.now still watcher
    refine ⟨.arming _ _ _ _ h' (setting'.placed turned.toPlaced ?_ ?_ ?_) fed,
      turned.effort_lt h.radio head turned.effort⟩
    · exact fun turn mem _ => by rw [List.mem_singleton.mp mem]; rfl
    · exact fun turn mem _ => by rw [List.mem_singleton.mp mem]; rfl
    · exact fun t mem => by cases mem

/-- The time is set, after enumerations at most. -/
theorem step_arming (asked : s₀.methods.contains Methods.lowEnergy = true) (lasts : timeout ≠ 0)
    (h : SearchingSince s w₀ s₀ w log)
    (setting : w.Setting s₀.run (w₀.now + s.adapterTime) [.arm s₀.run timeout])
    (fed : Fed s s₀.run (w₀.now + s.adapterTime) w log told given rest)
    (head : w.queue = turn :: queue) :
    TimedStage s w₀ s₀ timeout ({ w with queue }.perform turn) ∧
      ({ w with queue }.perform turn).effort < w.effort := by
  cases other : turn.isOther s₀.run with
  | false =>
    obtain ⟨e, routine, h'⟩ := routine_of_not_isOther asked h head other
    refine ⟨.arming _ _ _ _ h' (setting_of_routine setting head other routine)
      (fed_of_routine fed head ?_ ?_ routine), routine.effort_lt h.radio head routine.effort⟩
    · exact (Turn.not_watcher_of_not_isOther other).1
    · exact (Turn.not_watcher_of_not_isOther other).2
  | true =>
    obtain ⟨rfl, setting', begun⟩ := setting.popped head other
    have plain : (Turn.arm s₀.run timeout).isPlain = true := bne_iff_ne.mpr lasts
    have running := (h.watches (watches_begun asked)).isRunning
    obtain ⟨turned, watcher⟩ := turned_of_plain (w := { w with queue }) (n := s₀.request)
      h.radio plain rfl running
    have effect : (Turn.arm s₀.run timeout).effect s w.now =
        { later := some ⟨w₀.timeOver s timeout, .expire s₀.run⟩ } := by
      unfold World.timeOver
      rw [← setting.now]
      rfl
    -- The time lasts, so that its end comes after this moment.
    have early : w₀.now + s.adapterTime < w₀.timeOver s timeout :=
      Nat.lt_add_of_pos_right (Nat.lt_min.mpr ⟨Nat.pos_of_ne_zero lasts, by decide⟩)
    have placed : { w with queue }.Placed ({ w with queue }.perform (.arm s₀.run timeout))
        { later := some ⟨w₀.timeOver s timeout, .expire s₀.run⟩ } := effect ▸ turned.toPlaced
    have h' := h.taken head turned
      (fun _ => ⟨Turn.agenda_effect plain, fun x mem => by rw [List.mem_singleton.mp mem]; rfl⟩)
      (fun away => absurd rfl away) fun d mem => absurd mem List.not_mem_nil
    have fed' := fed.kept head turned.toPlaced watcher rfl Turn.noConfusion
      (fun x mem => by rw [List.mem_singleton.mp mem]; rfl) fun d mem => absurd mem List.not_mem_nil
    refine ⟨.watching _ _ _ _ h' fed' (fun x mem _ => ?_)
      (setting'.timeSet early h.sorted begun placed), turned.effort_lt h.radio head turned.effort⟩
    have past := h'.past x mem
    rw [turned.now] at past
    exact (past.trans (Nat.le_of_eq setting.now)).trans_lt early

/-- When the time is over, so is the run. -/
theorem step_expire (asked : s₀.methods.contains Methods.lowEnergy = true)
    (next : s₀.run = w₀.coordinator.lastRun + 1)
    (h : SearchingSince s w₀ s₀ w log)
    (fed : Fed s s₀.run (w₀.now + s.adapterTime) w log told given rest)
    (early : ∀ x ∈ log, x.2.isObservation = true → x.1 < w.now)
    (timeSet : TimeSet s₀.run (w₀.timeOver s timeout) w.line)
    (now : w.now = w₀.timeOver s timeout) (head : w.queue = .expire s₀.run :: queue) :
    TimedStage s w₀ s₀ timeout ({ w with queue }.perform (.expire s₀.run)) ∧
      ({ w with queue }.perform (.expire s₀.run)).effort < w.effort := by
  have running := (h.watches (watches_begun asked)).isRunning
  have plain : (Turn.expire s₀.run).isPlain = true := rfl
  obtain ⟨turned, -⟩ := turned_of_plain (w := { w with queue }) (n := s₀.request)
    h.radio plain rfl running
  have taken := h.toWorking.taken head turned
    (fun _ => ⟨Turn.agenda_effect plain, fun x mem => absurd mem List.not_mem_nil⟩)
    (fun away => absurd rfl away)
  obtain ⟨told, intake, replay⟩ :=
    timedReplay_of_log asked next h fed early (now ▸ timeSet.expired head) now taken.logged
  have waiting := Waiting.of_idle taken.radio replay.idle taken.fair taken.sorted taken.future
  exact ⟨.replayed told intake waiting replay, turned.effort_lt h.radio head turned.effort⟩

/-- A turn before the end of the time leaves the end where it is. -/
theorem of_turned {e : Effect} {told' given' rest' : List ScriptedAdvertisement}
    (h : SearchingSince s w₀ s₀ w log) (head : w.queue = turn :: queue)
    (early : ∀ x ∈ log, x.2.isObservation = true → x.1 < w₀.timeOver s timeout)
    (timeSet : TimeSet s₀.run (w₀.timeOver s timeout) { w with queue }.line)
    (turned : Turned s s₀.run s₀.request { w with queue } turn ({ w with queue }.perform turn) e)
    (h' : SearchingSince s w₀ s₀ ({ w with queue }.perform turn) (log ++ e.doings.map (w.now, ·)))
    (fed' : Fed s s₀.run (w₀.now + s.adapterTime) ({ w with queue }.perform turn)
      (log ++ e.doings.map (w.now, ·)) told' given' rest')
    (often : ∀ x ∈ e.line w.now, x.2.run? = some s₀.run → x.2.isOnce = false)
    (fresh : ∀ x ∈ e.line w.now, x.2.run? = some s₀.run → x.2.isEnumeration = false)
    (inTime : ∀ d ∈ e.doings, d.isObservation = true → w.now < w₀.timeOver s timeout) :
    TimedStage s w₀ s₀ timeout ({ w with queue }.perform turn) ∧
      ({ w with queue }.perform turn).effort < w.effort := by
  refine ⟨.watching _ _ _ _ h' fed' (fun x mem observes => ?_)
    (timeSet.placed h.sorted h.future turned.toPlaced often fresh),
    turned.effort_lt h.radio head turned.effort⟩
  rcases List.mem_append.mp mem with old | new
  · exact early x old observes
  · obtain ⟨d, here, rfl⟩ := List.mem_map.mp new
    exact inTime d here observes

/-- The watcher is fed. -/
theorem step_feeding (h : SearchingSince s w₀ s₀ w log)
    (fed : Fed s s₀.run (w₀.now + s.adapterTime) w log told given rest)
    (early : ∀ x ∈ log, x.2.isObservation = true → x.1 < w₀.timeOver s timeout)
    (timeSet : TimeSet s₀.run (w₀.timeOver s timeout) { w with queue }.line)
    (head : w.queue = turn :: queue) (feeding : turn.isFeedOf s₀.run = true) :
    TimedStage s w₀ s₀ timeout ({ w with queue }.perform turn) ∧
      ({ w with queue }.perform turn).effort < w.effort := by
  obtain ⟨rfl, turned, fed'⟩ := fed.feeding (n := s₀.request) head feeding
  have search : ∀ x ∈ (Effect.ofFeed s₀.run (w₀.now + s.adapterTime) w.now given.isEmpty
      rest).line w.now,
      x.2.isOfSearch = true ∧ x.2.isOnce = false ∧ x.2.isEnumeration = false := by
    intro x mem
    rcases Effect.eq_of_mem_ofFeed given.isEmpty rest x mem with same | ⟨rest', same⟩
    · rw [same]
      exact ⟨rfl, rfl, rfl⟩
    · rw [same]
      exact ⟨rfl, rfl, rfl⟩
  have h' := h.taken head turned
    (fun _ => ⟨Effect.agenda_ofFeed w.now _ rest, fun x mem => (search x mem).1⟩)
    (fun away => absurd rfl away) fun d mem => absurd mem List.not_mem_nil
  -- Feeding does nothing that is logged: what is given is heard in a turn of the reader.
  have silent : log ++ (Effect.ofFeed s₀.run (w₀.now + s.adapterTime) w.now given.isEmpty
      rest).doings.map (w.now, ·) = log := List.append_nil log
  exact of_turned h head early timeSet turned h' (silent.symm ▸ fed')
    (fun x mem _ => (search x mem).2.1) (fun x mem _ => (search x mem).2.2)
    fun d mem => absurd mem List.not_mem_nil

/-- The watcher is read, in time. -/
theorem step_reading (asked : s₀.methods.contains Methods.lowEnergy = true)
    (h : SearchingSince s w₀ s₀ w log)
    (fed : Fed s s₀.run (w₀.now + s.adapterTime) w log told given rest)
    (early : ∀ x ∈ log, x.2.isObservation = true → x.1 < w₀.timeOver s timeout)
    (timeSet : TimeSet s₀.run (w₀.timeOver s timeout) { w with queue }.line)
    (head : w.queue = .read s₀.run :: queue) (inTime : w.now < w₀.timeOver s timeout) :
    TimedStage s w₀ s₀ timeout ({ w with queue }.perform (.read s₀.run)) ∧
      ({ w with queue }.perform (.read s₀.run)).effort < w.effort := by
  obtain ⟨turned, watcher⟩ := turned_of_reading (w := { w with queue }) (n := s₀.request)
    (h.watches (watches_begun asked)) fed.watcher
  have h' := h.taken head turned
    (fun _ => ⟨Effect.agenda_ofReading w.now given, fun x mem => absurd mem List.not_mem_nil⟩)
    (fun away => absurd rfl away) fun d mem => by
      obtain ⟨a, -, rfl⟩ := List.mem_map.mp mem
      rfl
  exact of_turned h head early timeSet turned h' (fed.reading head turned.toPlaced watcher)
    (fun x mem => absurd mem List.not_mem_nil) (fun x mem => absurd mem List.not_mem_nil)
    fun _ _ _ => inTime

/-- Until the time is over, the run takes in what comes. -/
theorem step_watching (asked : s₀.methods.contains Methods.lowEnergy = true)
    (next : s₀.run = w₀.coordinator.lastRun + 1)
    (h : SearchingSince s w₀ s₀ w log)
    (fed : Fed s s₀.run (w₀.now + s.adapterTime) w log told given rest)
    (early : ∀ x ∈ log, x.2.isObservation = true → x.1 < w₀.timeOver s timeout)
    (timeSet : TimeSet s₀.run (w₀.timeOver s timeout) w.line)
    (head : w.queue = turn :: queue) :
    TimedStage s w₀ s₀ timeout ({ w with queue }.perform turn) ∧
      ({ w with queue }.perform turn).effort < w.effort := by
  have line := World.line_of_queue head
  cases late : isLate s₀.run (w₀.timeOver s timeout) (w.now, turn) with
  | true =>
    -- The first late turn is the end of the time.
    have ends := timeSet.ends
    rw [line, List.find?_cons_of_pos late] at ends
    obtain ⟨now, rfl⟩ := Prod.mk.inj (Option.some.inj ends)
    exact step_expire asked next h fed (now ▸ early) timeSet now head
  | false =>
    obtain ⟨stays, answered⟩ := timeSet.popped head late
    by_cases feeding : turn.isFeedOf s₀.run = true
    · exact step_feeding h fed early stays head feeding
    by_cases reading : turn = .read s₀.run
    · subst reading
      exact step_reading asked h fed early stays head ((of_isLate_eq_false late rfl).2 rfl)
    · rw [Bool.not_eq_true] at feeding
      have here : (w.now, turn) ∈ w.line := by
        rw [line]
        exact List.mem_cons_self
      obtain ⟨e, routine, h'⟩ := h.routine (watches_begun asked) head fun own =>
        have often := (of_isLate_eq_false late own).1
        ⟨Turn.isPlain_of_isOfSearch (h.own _ here own) often own feeding reading, often⟩
      refine of_turned h head early stays routine.toTurned h'
        (fed_of_routine fed head feeding reading routine) routine.often
        (routine.isEnumeration_eq_false answered) fun d mem observes => ?_
      -- Were the time over now, the turn could only enumerate, and nothing is observed by that.
      by_contra notInTime
      have enumeration (own : turn.run? = some s₀.run) : turn.isEnumeration = true := by
        by_contra other
        rw [Bool.not_eq_true] at other
        exact notInTime ((of_isLate_eq_false late own).2 other)
      rw [routine.blind enumeration d mem] at observes
      cases observes

/-- A turn keeps the search in its stage, or takes it to the next. -/
theorem step (asked : s₀.methods.contains Methods.lowEnergy = true)
    (timed : s₀.timeout = some timeout) (lasts : timeout ≠ 0) (opens : s.watcherFails = false)
    (idle : w₀.coordinator.phase = .idle) (next : s₀.run = w₀.coordinator.lastRun + 1)
    (ready : s.adapter = .ready) (h : TimedStage s w₀ s₀ timeout w)
    (head : w.queue = turn :: queue) :
    TimedStage s w₀ s₀ timeout ({ w with queue }.perform turn) ∧
      ({ w with queue }.perform turn).effort < w.effort := by
  have some := Methods.isEmpty_eq_false_of_contains_lowEnergy asked
  cases h with
  | beginning h =>
    obtain ⟨goesOn, less⟩ := h.step idle some next ready head
    exact ⟨goesOn.elim .beginning (of_begun asked timed lasts), less⟩
  | opening log h setting quiet unfed =>
    exact step_opening asked opens h setting quiet unfed head
  | arming log told given rest h setting fed => exact step_arming asked lasts h setting fed head
  | watching log told given rest h fed early timeSet =>
    exact step_watching asked next h fed early timeSet head
  | replayed told intake h replay =>
    obtain ⟨stays, less⟩ := h.stale head List.not_mem_nil
    exact ⟨.replayed told intake stays replay, less⟩

theorem wake {t : Timer} {ts : List Timer} (h : TimedStage s w₀ s₀ timeout w)
    (empty : w.queue = []) (timers : w.timers = t :: ts) :
    TimedStage s w₀ s₀ timeout (w.wake t.deadline) := by
  cases h with
  | beginning h => exact .beginning (h.wake empty timers)
  | opening log h setting => exact absurd empty setting.ne_nil
  | arming log told given rest h setting => exact absurd empty setting.ne_nil
  | watching log told given rest h fed early timeSet =>
    -- The end of the time stays where it is in the line, which the clock does not change.
    refine .watching log told given rest (h.wake empty timers) (fed.wake empty timers h.sorted)
      early ?_
    rw [World.line_wake empty timers h.sorted]
    exact timeSet
  | replayed told intake h replay => exact .replayed told intake (h.wake empty timers) replay

theorem sorted (h : TimedStage s w₀ s₀ timeout w) :
    w.timers.Pairwise (·.deadline ≤ ·.deadline) := by
  cases h with
  | beginning h => exact h.sorted
  | opening log h => exact h.sorted
  | arming log told given rest h => exact h.sorted
  | watching log told given rest h => exact h.sorted
  | replayed told intake h => exact h.sorted

/-- A search that has come to rest is over, if there was time for it. -/
theorem over_of_rests {time : Nat} (h : TimedStage s w₀ s₀ timeout w) (rests : w.Rests time)
    (enough : w₀.timeOver s timeout ≤ time) :
    ∃ b told intake, World.Alike b w ∧ TimedReplay s s₀.methods timeout w₀ b told intake := by
  cases h with
  | beginning h =>
    have checked : w₀.now + s.adapterTime ≤ time := (Nat.le_add_right _ _).trans enough
    exact absurd (h.lt_of_rests rests) (Nat.not_lt_of_le checked)
  | opening log h setting => exact absurd rests.queue setting.ne_nil
  | arming log told given rest h setting => exact absurd rests.queue setting.ne_nil
  | watching log told given rest h fed early timeSet =>
    have late := rests.lt_of_mem_line (List.mem_of_find?_eq_some timeSet.ends)
    exact absurd late (Nat.not_lt_of_le enough)
  | replayed told intake h replay => exact ⟨_, told, intake, h.alike, replay⟩

end TimedStage

/-- A replay is what the world shows. -/
theorem TimedReplay.alike {methods : Methods} {told : List (Nat × Event)}
    {intake : List (Nat × Action)} (h : TimedReplay s methods timeout w₀ b told intake)
    (alike : b.Alike w) : TimedReplay s methods timeout w₀ w told intake := by
  obtain ⟨-, coordinator, events, -⟩ := alike
  constructor
  case idle => rw [coordinator]; exact h.idle
  case events => rw [events]; exact h.events
  case unfinished => exact h.unfinished
  case ordered => exact h.ordered
  case takenIn => exact h.takenIn
  case devices => rw [coordinator]; exact h.devices
  case failures => exact h.failures

/-- **The time for advertisements cuts a search off just when it is over**: the run finishes
neither earlier, however little there is to do, nor later.  All that the script has for the run
before that time is taken in or told as a failure, and nothing is heard of what is due then or
later, but for an enumeration that fails just then.  No time is longer than `longestWait`. -/
theorem timedReplay_of_free {methods : Methods} {time : Nat} (free : w.Free s n)
    (ready : s.adapter = .ready) (opens : s.watcherFails = false)
    (asked : methods.contains Methods.lowEnergy = true) (lasts : timeout ≠ 0)
    (enough : w.timeOver s timeout ≤ time) :
    ∃ told intake, TimedReplay s methods timeout w
      ((w.enqueue [.request n methods (some timeout)]).runUntil time fun _ => false)
      told intake := by
  let s₀ : Starting := ⟨n, w.coordinator.lastRun + 1, methods, some timeout⟩
  have steady : World.Steady time (TimedStage s w s₀ timeout) :=
    { sorted := TimedStage.sorted
      turn := fun h head => h.step asked rfl lasts opens free.idle rfl ready head
      wake := fun h empty timers _ => h.wake empty timers }
  have begins : TimedStage s w s₀ timeout (w.enqueue [.request n methods (some timeout)]) :=
    .beginning (free.beginning methods (some timeout))
  obtain ⟨w', h, rests, eq⟩ := steady.runUntil begins (free.effort_le_work methods (some timeout))
  obtain ⟨b, told, intake, alike, replay⟩ := h.over_of_rests rests enough
  rw [eq]
  exact ⟨told, intake, replay.alike (alike.trans ⟨rfl, rfl, rfl, rfl⟩)⟩

/-- A look-up finds a device one millisecond before the end of the time and another fails then, and
two look-ups are done only with the end; an advertisement arrives before the end, and another with
it.  One enumeration fails. -/
theorem timedReplay_up_to_the_end :
    let s : Scenario :=
      { adapterDelay := 5
        enumerationDelay := 4
        failingEnumerations := [.lowEnergy]
        classicDevices :=
          [{ id := "a", address := .ofNat 1, resolveDelay := 5 },
            { id := "b", address := .ofNat 2, resolveDelay := 2, servicesDelay := 4 },
            { id := "c", failAt := some .resolveDevice, resolveDelay := 5 },
            { id := "d", failAt := some .fetchServices, resolveDelay := 2, servicesDelay := 4 }]
        advertisements := [⟨10, ⟨.ofNat 3, -40, .decoded {}⟩⟩, ⟨9, ⟨.ofNat 4, -50, .decoded {}⟩⟩] }
    let w : World := { radio := .scripted s, now := 100 }
    let methods := Methods.classic ∪ Methods.lowEnergy
    w.Free s 0 ∧ s.adapter = .ready ∧ s.watcherFails = false ∧
      methods.contains Methods.lowEnergy = true ∧ 10 ≠ 0 ∧ w.timeOver s 10 ≤ 115 ∧
      ∃ told intake, TimedReplay s methods 10 w
        ((w.enqueue [.request 0 methods (some 10)]).runUntil 115 fun _ => false) told intake := by
  intro s w methods
  have free : w.Free s 0 := World.free_created s 0 100
  have asked : methods.contains Methods.lowEnergy = true := by decide
  have enough : w.timeOver s 10 ≤ 115 := by decide
  exact ⟨free, rfl, rfl, asked, by decide, enough,
    timedReplay_of_free free rfl rfl asked (by decide) enough⟩

/-- The time for advertisements need not be as long as it was asked for: more time than
`longestWait` is not waited for to the end. -/
theorem finished_before_timeout :
    let w : World := { radio := .scripted {} }
    let timeout := longestWait + 1
    ((w.enqueue [.request 0 Methods.lowEnergy (some timeout)]).runUntil timeout
        fun _ => false).events = [(longestWait, .finished)] ∧
      longestWait < w.now + w.script.adapterTime + timeout := by
  decide +kernel

end BluetoothDiscovery.Simulation
