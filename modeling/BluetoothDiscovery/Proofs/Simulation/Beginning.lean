import BluetoothDiscovery.Proofs.Simulation.Waiting

/-!
# The beginning of a run

A request for a run has the adapter checked, and when that is found ready the run begins with its
tasks.  Until then nothing is heard of the run (`Beginning.step`).  Such a request can be made in
any world that is `World.Free`, whatever earlier runs have left there.
-/

namespace BluetoothDiscovery.Simulation

variable {s : Scenario} {s₀ : Starting} {n : Nat} {b b' w w' : World} {turn : Turn}
  {rest : List Turn} {t : Timer} {ts : List Timer}

/-! ### Requests -/

namespace World

/-- A world in which the adapter is being checked for a request. -/
def noted (w : World) (s₀ : Starting) : World :=
  { w with
    coordinator := { w.coordinator with
      lastRun := s₀.run
      phase := .starting s₀.run s₀.methods }
    requests := w.requests ++ [s₀] }

/-- A world in which the run of a request begins. -/
def begun (w : World) (s₀ : Starting) : World :=
  { w with
    coordinator := ⟨s₀.run, .running (.begin s₀.run s₀.methods), ∅⟩
    requests := [] }

theorem act_start (idle : w.coordinator.phase = .idle) {methods : Methods}
    (asked : methods.isEmpty = false) :
    w.act (.start methods) = { w with
      coordinator := { w.coordinator with
        lastRun := w.coordinator.lastRun + 1
        phase := .starting (w.coordinator.lastRun + 1) methods } } := by
  have inactive : w.coordinator.isActive = false := Coordinator.isActive_eq_false_iff.mpr idle
  unfold act Coordinator.step Coordinator.startVerdict
  simp [asked, inactive]

/-- A request on an idle coordinator asks for the state of the adapter. -/
theorem request_eq (idle : w.coordinator.phase = .idle) (asked : s₀.methods.isEmpty = false)
    (next : s₀.run = w.coordinator.lastRun + 1) :
    w.request s₀.request s₀.methods s₀.timeout =
      match (w.noted s₀).ask (.start s₀) with
      | (w, some (.adapter state)) => w.takeAdapter s₀ state
      | (w, _) => w := by
  have inactive : w.coordinator.isActive = false := Coordinator.isActive_eq_false_iff.mpr idle
  have verdict : w.coordinator.startVerdict s₀.methods = .checking s₀.run := by
    unfold Coordinator.startVerdict
    simp [asked, inactive, next]
  unfold request
  rw [verdict, act_start idle asked, ← next]
  rfl

/-- A script answers at once, or the answer waits. -/
theorem request_of_scripted (radio : w.radio = .scripted s) (ready : s.adapter = .ready)
    (idle : w.coordinator.phase = .idle) (asked : s₀.methods.isEmpty = false)
    (next : s₀.run = w.coordinator.lastRun + 1) :
    w.request s₀.request s₀.methods s₀.timeout =
      if s.adapterDelay = 0 then (w.noted s₀).takeAdapter s₀ .ready
      else (w.noted s₀).put [] (some ⟨w.now + min s.adapterDelay longestWait,
        .take (.start s₀) (.adapter .ready) false⟩) := by
  have radio' : (w.noted s₀).radio = .scripted s := radio
  have answer : s.answer (Caller.start s₀).call = (s.adapterDelay, .adapter .ready) := by
    show (s.adapterDelay, Answer.adapter s.adapter) = _
    rw [ready]
  rw [request_eq idle asked next, ask_of_scripted radio' _ s₀.run, answer]
  by_cases atOnce : s.adapterDelay = 0
  · rw [if_pos atOnce, if_pos atOnce]
    rfl
  · rw [if_neg atOnce, if_neg atOnce]
    rfl

/-- A run begins with its tasks. -/
theorem takeAdapter_ready (starting : w.coordinator.phase = .starting s₀.run s₀.methods)
    (waits : w.requests.any (·.request = s₀.request) = true) :
    w.takeAdapter s₀ .ready = ({ w with
      coordinator := { w.coordinator with
        phase := .running (.begin s₀.run s₀.methods)
        store := ∅ }
      requests := w.requests.filter (·.request != s₀.request)
      results := w.results ++ [(s₀.request, Except.ok ())] }).put (tasks s₀) none := by
  have isStarting := Coordinator.isStarting_iff.mpr ⟨s₀.methods, starting⟩
  have begins : w.coordinator.step w.extract (.adapterChecked s₀.run .ready) =
      w.coordinator.beginRun s₀.run s₀.methods .ready :=
    Coordinator.step_adapterChecked_of_starting starting .ready
  unfold takeAdapter
  rw [if_pos waits, if_pos isStarting]
  unfold act
  rw [begins]
  simp [Coordinator.beginRun, conclude, enqueue, put]

theorem perform_take_adapter (w : World) (s₀ : Starting) (state : AdapterState) :
    w.perform (.take (.start s₀) (.adapter state) false) = w.takeAdapter s₀ state := by
  unfold perform awaits
  dsimp only
  split
  · rfl
  next ended =>
    unfold takeAdapter
    rw [if_neg ended]

/-- The tasks of a run are less effort than its request. -/
theorem effort_tasks_lt (s : Scenario) (s₀ : Starting) (now : Nat) :
    ({ more := tasks s₀ } : Effect).effort s now <
      (Turn.take (.start s₀) (.adapter .ready) false).effort s now := by
  obtain ⟨timer, parts, le⟩ : ∃ timer : List Turn, tasks s₀ =
      (if s₀.methods.contains Methods.classic then
        [.call (.enumeration s₀.run .classic)] else []) ++
        (if s₀.methods.contains Methods.lowEnergy then
          .call (.enumeration s₀.run .lowEnergy) :: .call (.watcher s₀.run) :: timer else []) ∧
      (timer.map (Turn.effort s now)).sum ≤ 2 := by
    refine ⟨_, rfl, ?_⟩
    split
    · split
      · exact Nat.zero_le _
      · exact Nat.le_refl _
    · exact Nat.zero_le _
  -- The request counts for both enumerations and the watcher together, with enough over for the
  -- calls themselves and the timer.
  have whole : (Turn.take (.start s₀) (.adapter .ready) false).effort s now =
      10 + 3 * (s.classicDevices.length + s.lowEnergyDevices.length) +
        2 * s.advertisements.length := rfl
  have classic : (Turn.call (.enumeration s₀.run .classic)).effort s now =
      1 + (1 + 3 * s.classicDevices.length) := rfl
  have lowEnergy : (Turn.call (.enumeration s₀.run .lowEnergy)).effort s now =
      1 + (1 + 3 * s.lowEnergyDevices.length) := rfl
  have watcher : (Turn.call (.watcher s₀.run)).effort s now =
      1 + (2 + 2 * s.advertisements.length) := rfl
  show ((tasks s₀).map (Turn.effort s now)).sum + 0 < _
  rw [add_zero, parts, List.map_append, List.sum_append]
  split <;> split <;> simp only [List.map_cons, List.map_nil, List.sum_cons, List.sum_nil] <;> omega

end World

/-- What comes of a request: its run begins with its tasks, at once or later. -/
def Effect.ofRequest (s : Scenario) (now : Nat) (s₀ : Starting) : Effect :=
  .ofCall now (.start s₀) s.adapterDelay (.adapter .ready) { more := World.tasks s₀ }

/-! ### Beginnings -/

/-- A world in which the run of a request has just begun.  Only its tasks are for the run, and they
are the last in the queue. -/
structure Begun (s : Scenario) (b : World) (s₀ : Starting) (w : World) : Prop where
  waiting : Waiting s (some s₀.run) s₀.request (b.begun s₀)
    ((World.tasks s₀).map (w.now, ·)) w
  now : w.now = b.now + s.adapterTime
  queue : ∃ others, w.queue = others ++ World.tasks s₀ ∧
    ∀ turn ∈ others, turn.run? ≠ some s₀.run
  timers : ∀ t ∈ w.timers, t.turn.run? ≠ some s₀.run

/-- How far a request has come that was made in a world `b` and whose run has not begun. -/
inductive Beginning (s : Scenario) (b : World) (s₀ : Starting) (w : World) : Prop
  | asked (h : Waiting s (some s₀.run) s₀.request b
      [(b.now, .request s₀.request s₀.methods s₀.timeout)] w)
  | checking (h : Waiting s (some s₀.run) s₀.request (b.noted s₀)
      [(b.now + s.adapterTime, .take (.start s₀) (.adapter .ready) false)] w)

namespace Waiting

/-- The tasks of a run take their places behind the turns of others. -/
theorem begun {e : Effect} (h : Waiting s (some s₀.run) s₀.request b' [] w)
    (placed : w.Placed w' e) (more : e.more = World.tasks s₀) (later : e.later = none)
    (alike : (b.begun s₀).Alike w') (requests : w'.requests.any (·.request = s₀.request) = false)
    (now : w.now = b.now + s.adapterTime) : Begun s b s₀ w' := by
  have line : e.line w.now = (World.tasks s₀).map (w'.now, ·) := by
    unfold Effect.line
    rw [more, later, placed.now]
    exact List.append_nil _
  constructor
  case waiting =>
    rw [← line]
    exact h.placed placed alike requests (.inr rfl)
  case now => exact placed.now.trans now
  case queue =>
    refine ⟨w.queue, by rw [placed.queue, more], fun turn mem => ?_⟩
    exact (h.others _ (List.mem_append_left _ (List.mem_map_of_mem mem))).2
  case timers =>
    intro t mem
    rw [placed.timers, later] at mem
    exact (h.others (t.deadline, t.turn)
      (List.mem_append_right _ (List.mem_map_of_mem (f := fun t => (t.deadline, t.turn)) mem))).2

/-- The adapter is ready, and the run begins with its tasks. -/
theorem checked (h : Waiting s (some s₀.run) s₀.request (b.noted s₀) [] w)
    (now : w.now = b.now + s.adapterTime) :
    w.Placed (w.takeAdapter s₀ .ready) { more := World.tasks s₀ } ∧
      Begun s b s₀ (w.takeAdapter s₀ .ready) := by
  have starting : w.coordinator.phase = .starting s₀.run s₀.methods := by
    rw [h.alike.coordinator]
    rfl
  have waits : w.requests.any (·.request = s₀.request) = true := by
    rw [h.requests]
    unfold World.noted
    rw [List.any_append]
    simp
  -- The check comes for the request that waits, so that the coordinator begins the run.
  have taken := World.takeAdapter_ready starting waits
  have placed : w.Placed (w.takeAdapter s₀ .ready) { more := World.tasks s₀ } := by
    rw [taken]
    exact ⟨rfl, rfl, rfl, rfl, fun t mem => by cases mem⟩
  refine ⟨placed, h.begun placed rfl rfl ?_ ?_ now⟩
  · rw [taken]
    refine ⟨h.alike.extract, ?_, h.alike.events, h.alike.tally⟩
    have number : w.coordinator.lastRun = s₀.run := by
      rw [h.alike.coordinator]
      rfl
    show (⟨w.coordinator.lastRun, _, _⟩ : Coordinator) = ⟨s₀.run, _, _⟩
    rw [number]
  · rw [taken]
    show (w.requests.filter (·.request != s₀.request)).any (·.request = s₀.request) = false
    rw [List.any_filter]
    simp

/-- A request is made, and the adapter is checked, unless the answer is there at once. -/
theorem requested (h : Waiting s (some s₀.run) s₀.request b [] w) (now : w.now = b.now)
    (idle : b.coordinator.phase = .idle) (asked : s₀.methods.isEmpty = false)
    (next : s₀.run = b.coordinator.lastRun + 1) (ready : s.adapter = .ready) :
    w.Placed (w.request s₀.request s₀.methods s₀.timeout) (.ofRequest s w.now s₀) ∧
      (Beginning s b s₀ (w.request s₀.request s₀.methods s₀.timeout) ∨
        Begun s b s₀ (w.request s₀.request s₀.methods s₀.timeout)) := by
  have idle' : w.coordinator.phase = .idle := by
    rw [h.alike.coordinator]
    exact idle
  have next' : s₀.run = w.coordinator.lastRun + 1 := by
    rw [h.alike.coordinator]
    exact next
  have alike : (b.noted s₀).Alike (w.noted s₀) := by
    refine ⟨h.alike.extract, ?_, h.alike.events, h.alike.tally⟩
    show (⟨s₀.run, _, w.coordinator.store⟩ : Coordinator) = ⟨s₀.run, _, b.coordinator.store⟩
    rw [h.alike.coordinator]
  have waits : (w.noted s₀).requests.any (·.request = s₀.request) =
      (b.noted s₀).requests.any (·.request = s₀.request) := by
    unfold World.noted
    simp
  rw [World.request_of_scripted h.radio ready idle' asked next']
  unfold Effect.ofRequest Effect.ofCall
  by_cases atOnce : s.adapterDelay = 0
  · -- The answer is there at once, so that the check ends in the turn that has asked for it.
    have here : Waiting s (some s₀.run) s₀.request (b.noted s₀) [] (w.noted s₀) := by
      have nothing : w.Placed (w.noted s₀) {} :=
        ⟨rfl, rfl, (List.append_nil _).symm, rfl, fun t mem => by cases mem⟩
      exact h.placed nothing alike waits (.inr rfl)
    have inTime : (w.noted s₀).now = b.now + s.adapterTime := by
      unfold Scenario.adapterTime
      rw [atOnce, Nat.zero_min]
      exact now
    obtain ⟨placed, begun⟩ := here.checked inTime
    rw [if_pos atOnce, if_pos atOnce]
    exact ⟨⟨placed.radio, placed.now, placed.queue, placed.timers, placed.later⟩, .inr begun⟩
  · rw [if_neg atOnce, if_neg atOnce]
    let t : Timer := ⟨w.now + min s.adapterDelay longestWait,
      .take (.start s₀) (.adapter .ready) false⟩
    have placed : w.Placed ((w.noted s₀).put [] (some t))
        { doings := [.asked .adapter], later := some t } := by
      refine ⟨rfl, rfl, rfl, rfl, fun u mem => ?_⟩
      obtain rfl := Option.some.inj mem
      exact Nat.lt_add_of_pos_right (Nat.lt_min.mpr ⟨Nat.pos_of_ne_zero atOnce, by decide⟩)
    have alike' : (b.noted s₀).Alike ((w.noted s₀).put [] (some t)) :=
      alike.trans ⟨rfl, rfl, rfl, rfl⟩
    have waiting := h.placed placed alike' waits (.inr rfl)
    have line : ({ doings := [.asked .adapter], later := some t } : Effect).line w.now =
        [(b.now + s.adapterTime, .take (.start s₀) (.adapter .ready) false)] := by
      rw [← now]
      rfl
    rw [line] at waiting
    exact ⟨placed, .inl (.checking waiting)⟩

end Waiting

/-- A request is less effort than what comes of it. -/
theorem Effect.effort_ofRequest_lt (s : Scenario) (s₀ : Starting) (now : Nat) :
    (ofRequest s now s₀).effort s now <
      (Turn.request s₀.request s₀.methods s₀.timeout).effort s now := by
  have tasks := Nat.le_of_lt (World.effort_tasks_lt s s₀ now)
  exact Nat.lt_of_le_of_lt (effort_ofCall_le _ tasks (Nat.le_refl _))
    (Nat.lt_add_of_pos_left Nat.one_pos)

namespace Beginning

/-- A turn keeps the beginning of a run, or the run begins with it. -/
theorem step (h : Beginning s b s₀ w) (idle : b.coordinator.phase = .idle)
    (asked : s₀.methods.isEmpty = false) (next : s₀.run = b.coordinator.lastRun + 1)
    (ready : s.adapter = .ready) (queue : w.queue = turn :: rest) :
    (Beginning s b s₀ ({ w with queue := rest }.perform turn) ∨
        Begun s b s₀ ({ w with queue := rest }.perform turn)) ∧
      ({ w with queue := rest }.perform turn).effort < w.effort := by
  cases h with
  | asked h =>
    rcases h.step queue with ⟨stays, less⟩ | ⟨same, popped⟩
    · exact ⟨.inl (.asked stays), less⟩
    · obtain ⟨now, rfl⟩ := Prod.mk.inj same
      obtain ⟨placed, goesOn⟩ := popped.requested now.symm idle asked next ready
      exact ⟨goesOn, placed.effort_lt h.radio queue (Effect.effort_ofRequest_lt s s₀ w.now)⟩
  | checking h =>
    rcases h.step queue with ⟨stays, less⟩ | ⟨same, popped⟩
    · exact ⟨.inl (.checking stays), less⟩
    · obtain ⟨now, rfl⟩ := Prod.mk.inj same
      obtain ⟨placed, begun⟩ := popped.checked now.symm
      rw [World.perform_take_adapter]
      exact ⟨.inr begun, placed.effort_lt h.radio queue (World.effort_tasks_lt s s₀ w.now)⟩

theorem wake (h : Beginning s b s₀ w) (empty : w.queue = []) (timers : w.timers = t :: ts) :
    Beginning s b s₀ (w.wake t.deadline) := by
  cases h with
  | asked h => exact .asked (h.wake empty timers)
  | checking h => exact .checking (h.wake empty timers)

theorem sorted (h : Beginning s b s₀ w) : w.timers.Pairwise (·.deadline ≤ ·.deadline) := by
  cases h with
  | asked h | checking h => exact h.sorted

/-- The run begins as soon as the adapter has answered. -/
theorem lt_of_rests {time : Nat} (h : Beginning s b s₀ w) (rests : w.Rests time) :
    time < b.now + s.adapterTime := by
  cases h with
  | asked h =>
    have late := rests.lt_of_mem_line (h.mem_line (List.mem_singleton_self _))
    exact late.trans_le (Nat.le_add_right _ _)
  | checking h => exact rests.lt_of_mem_line (h.mem_line (List.mem_singleton_self _))

end Beginning

/-! ### Free worlds -/

/-- A world in which a request with a number can be made.  No run is under way.  There may be turns
of earlier runs, but none for the run that comes next, and no caller waits for the turn that answers
the request.  Advertisements wait for the times at which they are due. -/
structure World.Free (s : Scenario) (n : Nat) (w : World) : Prop where
  radio : w.radio = .scripted s
  idle : w.coordinator.phase = .idle
  fair : ∀ x ∈ w.line, x.2.isFair n = true
  other : ∀ x ∈ w.line, x.2.run? ≠ some (w.coordinator.lastRun + 1)
  due : ∀ x ∈ w.line, x.2.effort s x.1 = x.2.work s
  sorted : w.timers.Pairwise (·.deadline ≤ ·.deadline)
  future : ∀ t ∈ w.timers, w.now < t.deadline

/-- A new world is free. -/
theorem World.free_created (s : Scenario) (n now : Nat) :
    ({ radio := .scripted s, now := now } : World).Free s n where
  radio := rfl
  idle := rfl
  fair _ mem := absurd mem List.not_mem_nil
  other _ mem := absurd mem List.not_mem_nil
  due _ mem := absurd mem List.not_mem_nil
  sorted := .nil
  future _ mem := absurd mem List.not_mem_nil

theorem World.perm_line_enqueue (w : World) (turn : Turn) :
    (w.enqueue [turn]).line.Perm ((w.now, turn) :: w.line) := by
  unfold World.line World.enqueue
  rw [List.map_append, List.append_assoc]
  exact List.perm_middle

namespace World.Free

theorem beginning (h : w.Free s n) (methods : Methods) (timeout : Option Nat) :
    Beginning s w ⟨n, w.coordinator.lastRun + 1, methods, timeout⟩
      (w.enqueue [.request n methods timeout]) := by
  refine .asked ?_
  constructor
  case radio => exact h.radio
  case alike => exact ⟨rfl, rfl, rfl, rfl⟩
  case requests => rfl
  case owner =>
    left
    rw [h.idle]
    rfl
  case line =>
    exact ⟨w.line, perm_line_enqueue w _, fun x mem => ⟨h.fair x mem, h.other x mem⟩⟩
  case sorted => exact h.sorted
  case future => exact h.future

theorem effort_le_work (h : w.Free s n) (methods : Methods) (timeout : Option Nat) :
    (w.enqueue [.request n methods timeout]).effort ≤
      (w.enqueue [.request n methods timeout]).work := by
  have script : (w.enqueue [.request n methods timeout]).script = s := by
    unfold World.script World.enqueue
    rw [h.radio]
  have turns : (w.enqueue [.request n methods timeout]).queue ++
      (w.enqueue [.request n methods timeout]).timers.map (·.turn) =
        (w.enqueue [.request n methods timeout]).line.map (·.2) := by
    unfold World.line
    simp [Function.comp_def]
  refine Nat.le_of_eq ?_
  unfold World.effort World.work
  rw [turns, script, ← List.foldl_map, ← List.sum_eq_foldl, List.map_map]
  congr 1
  refine List.map_congr_left fun x mem => ?_
  rcases List.mem_cons.mp ((perm_line_enqueue w _).subset mem) with rfl | mem
  · rfl
  · exact h.due x mem

end World.Free

end BluetoothDiscovery.Simulation
