import BluetoothDiscovery.Proofs.Simulation.Beginning
import BluetoothDiscovery.Proofs.Simulation.LookingUp

/-!
# Searching for classic devices

A search for classic devices over a script goes through stages: the adapter is checked, the devices
are enumerated, and then they are looked up side by side (`ClassicStage`).  Every turn and every
jump of the clock keeps the search in a stage or takes it to the next one, and a search that has
come to rest is over (`classicReplay_of_free`).
-/

namespace BluetoothDiscovery.Simulation

variable {s : Scenario} {s₀ : Starting} {w₀ w : World}

/-- When the known devices are enumerated, in a search that begins in a world. -/
def World.enumerated (w : World) (s : Scenario) : Nat := w.now + s.adapterTime + s.enumerationTime

/-- What a search for classic devices makes of a world `w`. -/
structure ClassicReplay (s : Scenario) (w w' : World) : Prop where
  idle : w'.coordinator.phase = .idle
  /-- A failed enumeration is told, and the run is over. -/
  failed : .classic ∈ s.failingEnumerations →
    w'.events = w.events ++ [(w.enumerated s, .failed (.platformCallFailed .enumerate)),
      (w.enumerated s, .finished)] ∧ w'.coordinator.devices = []
  /-- Otherwise every entry is looked up as the first entry with its name.  The look-ups end in some
  order, each at its time, and the run finishes with the last.  Those that fail are told, and the
  device list has the addresses of the others. -/
  searched : .classic ∉ s.failingEnumerations → ∃ row : List ScriptedDevice,
    row.Perm (s.classicDevices.map (s.original .classic)) ∧
    row.Pairwise (·.lookupTime .classic ≤ ·.lookupTime .classic) ∧
    (∃ told, w'.events = w.events ++ told ++
        [(w.enumerated s + s.lookupsTime .classic, .finished)] ∧
      (∀ e ∈ told, e.2.isTerminal = false) ∧
      told.filterMap (fun e => e.2.failure?.map (e.1, ·)) = row.filterMap fun d =>
        d.classicFailure?.map fun stage =>
          (w.enumerated s + d.lookupTime .classic, .platformCallFailed stage)) ∧
    w'.coordinator.devices.map (·.address) =
      ((row.filter (·.classicFailure? = none)).map (·.address)).eraseDups
  /-- There is one enumeration, and every entry is asked for its identity and then, unless that
  fails, for its services. -/
  tally : w'.tally =
    let asked := if .classic ∈ s.failingEnumerations then [] else s.classicDevices
    { enumerate := w.tally.enumerate + 1
      resolve := w.tally.resolve + asked.length
      services := w.tally.services +
        asked.countP fun d => (s.original .classic d).failAt != some .resolveDevice }

/-! ### Enumerating -/

/-- A world in which the classic devices are being enumerated. -/
def World.enumerating (w : World) (s₀ : Starting) : World :=
  { w.begun s₀ with tally := w.tally.count (.enumerate .classic) }

/-- A world in which some number of classic devices is being looked up. -/
def World.lookingUp (w : World) (s₀ : Starting) (found : Nat) : World :=
  { w.enumerating s₀ with
    coordinator := ⟨s₀.run,
      .running ((Run.begin s₀.run s₀.methods).countEnumerated .classic found), ∅⟩ }

theorem looksUp_lookingUp (classic : s₀.methods = Methods.classic) (found : Nat) :
    (w.lookingUp s₀ found).coordinator.LooksUp s₀.run found := by
  refine ⟨_, rfl, ?_, ?_, ?_, ?_, ?_⟩
  all_goals
    rw [classic]
    unfold Run.countEnumerated
  · rfl
  · rfl
  · rfl
  · rfl
  · exact Nat.zero_add found

/-- The answer to the enumeration is told if it is an error, and finishes the run unless there are
devices to be looked up. -/
theorem step_enumerated (extract : Payload → AdvertisementData)
    (classic : s₀.methods = Methods.classic) :
    (w.enumerating s₀).coordinator.step extract
        (.enumerated s₀.run .classic (s.enumerate .classic)) =
      if .classic ∈ s.failingEnumerations then
        (⟨s₀.run, .idle, ∅⟩, [.failed (.platformCallFailed .enumerate), .finished])
      else if s.classicDevices = [] then (⟨s₀.run, .idle, ∅⟩, [.finished])
      else ((w.lookingUp s₀ s.classicDevices.length).coordinator, []) := by
  have running : (w.enumerating s₀).coordinator.phase = .running (.begin s₀.run s₀.methods) := rfl
  -- A classic run opens no watcher, and its one enumeration has returned, so that the look-ups are
  -- all that can be left.
  have complete (found : Nat) :
      ((Run.begin s₀.run s₀.methods).countEnumerated .classic found).isComplete =
        decide (found = 0) := by
    rw [classic]
    show (true && true && (0 + found + 0 == 0)) = _
    rw [Nat.zero_add]
    rfl
  -- The callback names the run that is present.
  have returned (result : Except PlatformError (List Handle)) :
      (w.enumerating s₀).coordinator.step extract (.enumerated s₀.run .classic result) = _ :=
    Coordinator.withRun_of_running running _
  rw [returned]
  unfold Scenario.enumerate
  by_cases failing : .classic ∈ s.failingEnumerations
  · rw [if_pos failing, if_pos failing]
    dsimp only
    unfold Coordinator.continueRun
    rw [complete]
    rfl
  · rw [if_neg failing, if_neg failing]
    dsimp only
    unfold Coordinator.continueRun
    rw [complete, List.length_map]
    by_cases none : s.classicDevices = []
    · rw [if_pos none]
      have empty : (s.devices .classic).length = 0 := by
        show s.classicDevices.length = 0
        rw [none]
        rfl
      rw [if_pos (decide_eq_true empty)]
      rfl
    · rw [if_neg none]
      have some : (s.devices .classic).length ≠ 0 := mt List.eq_nil_of_length_eq_zero none
      rw [if_neg (by simpa using some)]
      rfl

/-! ### What is told -/

theorem failureOf?_outcome (d : ScriptedDevice) :
    failureOf? (d.outcome .classic) = d.classicFailure?.map .platformCallFailed := by
  have outcome := d.outcome_classic
  cases failure : d.classicFailure? with
  | none =>
    rw [failure] at outcome
    rw [outcome]
    rfl
  | some stage =>
    rw [failure] at outcome
    obtain ⟨e, outcome, rfl⟩ := outcome
    rw [outcome]
    rfl

theorem addressOf?_outcome (d : ScriptedDevice) :
    addressOf? (d.outcome .classic) =
      if d.classicFailure? = none then some d.address else none := by
  have outcome := d.outcome_classic
  cases failure : d.classicFailure? with
  | none =>
    rw [failure] at outcome
    rw [outcome]
    rfl
  | some stage =>
    rw [failure] at outcome
    obtain ⟨e, outcome, -⟩ := outcome
    rw [outcome]
    rfl

/-- The devices that are looked up are those that are found or fail. -/
theorem classicReplay_of_lookedUp {b : World} (found : .classic ∉ s.failingEnumerations)
    (h : LookedUp s (w₀.enumerated s) b w) (events : b.events = w₀.events)
    (tally : b.tally = w₀.tally.count (.enumerate .classic)) : ClassicReplay s w₀ w where
  idle := h.idle
  failed failing := absurd failing found
  searched _ := by
    obtain ⟨row, perm, ascending, told, tells, all⟩ := h.row
    refine ⟨row, perm, ascending, ⟨told, ?_, ?_, ?_⟩, ?_⟩
    · rw [all, events]
    · exact fun e mem => Coordinator.isTerminal_eq_false_of_isReport (tells.reports e mem)
    · rw [tells.failures, List.filterMap_map]
      refine List.filterMap_congr fun d _ => ?_
      show (failureOf? (d.outcome .classic)).map _ = _
      rw [failureOf?_outcome, Option.map_map]
      rfl
    · -- The outcomes with an address are those of the devices that are found, in the same order.
      have addresses := tells.addresses
      rw [List.nil_append, List.filterMap_map] at addresses
      refine addresses.trans (congrArg List.eraseDups ?_)
      rw [← List.filterMap_eq_map, List.filterMap_filter]
      refine List.filterMap_congr fun d _ => ?_
      show addressOf? (d.outcome .classic) = _
      rw [addressOf?_outcome]
      simp
  tally := by
    rw [h.tally, tally, if_neg found]
    have asks (d : ScriptedDevice) : d.asksForServices .classic =
        (d.failAt != some .resolveDevice) := Bool.and_true _
    simp only [asks]
    rfl

/-! ### Stages -/

/-- How far a search has come that was asked for in a world `w₀`. -/
inductive ClassicStage (s : Scenario) (w₀ : World) (s₀ : Starting) (w : World) : Prop
  | beginning (h : Beginning s w₀ s₀ w)
  | begun (h : Waiting s (some s₀.run) s₀.request (w₀.begun s₀)
      [(w₀.now + s.adapterTime, .call (.enumeration s₀.run .classic))] w)
  | enumerating (h : Waiting s (some s₀.run) s₀.request (w₀.enumerating s₀)
      [(w₀.enumerated s,
        .take (.enumeration s₀.run .classic) (.handles (s.enumerate .classic)) false)] w)
  | lookingUp (log : List (Nat × Doing)) (found : .classic ∉ s.failingEnumerations)
      (h : LookingUp s s₀.run s₀.request (w₀.enumerated s)
        (w₀.lookingUp s₀ s.classicDevices.length) w log)
      (missing : (outcomesOf log).length < s.classicDevices.length)
  | replayed {b : World} (h : Waiting s none s₀.request b [] w) (replay : ClassicReplay s w₀ b)

/-- A world in which the answer to the enumeration is taken in. -/
def World.answered (w : World) (s : Scenario) (s₀ : Starting) : World :=
  w.apply s₀.run (.ofHandles s₀.run .classic (s.enumerate .classic))

theorem World.placed_answered (w : World) (s : Scenario) (s₀ : Starting) :
    w.Placed (w.answered s s₀) (.ofHandles s₀.run .classic (s.enumerate .classic)) :=
  placed_apply fun t mem => by cases mem

section

variable (h : Waiting s (some s₀.run) s₀.request (w₀.enumerating s₀) [] w)

include h

/-- What a world shows when the answer to the enumeration is taken in. -/
theorem Waiting.alike_answered (now : w.now = w₀.enumerated s) {c : Coordinator}
    {events : List Event}
    (step : (w₀.enumerating s₀).coordinator.step w.extract
      (.enumerated s₀.run .classic (s.enumerate .classic)) = (c, events)) :
    World.Alike { w₀.enumerating s₀ with
      coordinator := c
      events := w₀.events ++ events.map (w₀.enumerated s, ·) } (w.answered s s₀) := by
  -- The waiting world steps as the world does in which nothing but the enumeration is under way.
  rw [← h.alike.coordinator] at step
  refine ⟨h.alike.extract, ?_, ?_, h.alike.tally⟩
  · exact congrArg Prod.fst step
  · have told : (w.answered s s₀).events = w.events ++ (w.coordinator.step w.extract
        (.enumerated s₀.run .classic (s.enumerate .classic))).2.map (w.now, ·) := rfl
    rw [told, step, now, h.alike.events]
    rfl

/-- An answer that ends the run ends the search. -/
theorem ClassicStage.of_ended (replay : ClassicReplay s w₀ (w.answered s s₀)) :
    ClassicStage s w₀ s₀ (w.answered s s₀) := by
  have placed := w.placed_answered s s₀
  have fair : ∀ x ∈ (w.answered s s₀).line, x.2.isFair s₀.request = true := by
    intro x mem
    rcases List.mem_append.mp (placed.perm_line.subset mem) with old | new
    · exact (h.others x old).1
    · exact Effect.forall_line_ofHandles (P := fun x => x.2.isFair s₀.request = true)
        (fun _ => rfl) x new
  exact .replayed (.of_idle (placed.radio.trans h.radio) replay.idle fair (placed.sorted h.sorted)
    (placed.future h.future)) replay

/-- The enumeration has failed. -/
theorem ClassicStage.of_failing (classic : s₀.methods = Methods.classic)
    (now : w.now = w₀.enumerated s) (failing : .classic ∈ s.failingEnumerations) :
    ClassicStage s w₀ s₀ (w.answered s s₀) := by
  have step := step_enumerated (w := w₀) (s := s) w.extract classic
  rw [if_pos failing] at step
  obtain ⟨-, coordinator, events, tally⟩ := h.alike_answered now step
  refine .of_ended h ?_
  constructor
  case idle => rw [coordinator]
  case failed =>
    intro _
    refine ⟨events, ?_⟩
    rw [coordinator]
    rfl
  case searched => exact fun found => absurd failing found
  case tally =>
    rw [tally, if_pos failing]
    rfl

/-- There are no devices to look up. -/
theorem ClassicStage.of_no_devices (classic : s₀.methods = Methods.classic)
    (now : w.now = w₀.enumerated s) (found : .classic ∉ s.failingEnumerations)
    (none : s.classicDevices = []) : ClassicStage s w₀ s₀ (w.answered s s₀) := by
  have step := step_enumerated (w := w₀) (s := s) w.extract classic
  rw [if_neg found, if_pos none] at step
  obtain ⟨-, coordinator, events, tally⟩ := h.alike_answered now step
  have atOnce : s.lookupsTime .classic = 0 := by
    unfold Scenario.lookupsTime Scenario.devices
    rw [none]
    rfl
  -- The run ends with the answer, and the row of look-ups is empty.
  refine .of_ended h (classicReplay_of_lookedUp (b := w₀.enumerating s₀) found ?_ rfl rfl)
  constructor
  case idle => rw [coordinator]
  case row =>
    refine ⟨[], by rw [none]; exact .refl _, .nil, [], ⟨?_, rfl, ?_⟩, ?_⟩
    · exact fun e mem => absurd mem List.not_mem_nil
    · rw [coordinator]
      rfl
    · rw [events, atOnce, List.append_nil]
      rfl
  case tally =>
    rw [tally, none]
    rfl

/-- There are devices to look up. -/
theorem ClassicStage.of_devices (classic : s₀.methods = Methods.classic)
    (now : w.now = w₀.enumerated s) (found : .classic ∉ s.failingEnumerations)
    (known : s.classicDevices ≠ []) : ClassicStage s w₀ s₀ (w.answered s s₀) := by
  have step := step_enumerated (w := w₀) (s := s) w.extract classic
  rw [if_neg found, if_neg known] at step
  have alike : (w₀.lookingUp s₀ s.classicDevices.length).Alike (w.answered s s₀) := by
    obtain ⟨extract, coordinator, events, tally⟩ := h.alike_answered now step
    exact ⟨extract, coordinator, events.trans (List.append_nil _), tally⟩
  have handles : s.enumerate .classic =
      .ok ((s.devices .classic).map fun d => ⟨d.id, .classic⟩) := if_neg found
  -- Every handle begins a look-up in this very moment.
  have line : (Effect.ofHandles s₀.run .classic (s.enumerate .classic)).line w.now =
      (s.devices .classic).map fun d =>
        (w.now, .call (.identity s₀.run .classic ⟨d.id, .classic⟩)) := by
    rw [handles]
    unfold Effect.line Effect.ofHandles
    simp [Function.comp_def]
  have waiting := h.placed (w.placed_answered s s₀) alike h.requests (.inr rfl)
  rw [line] at waiting
  have own : ∀ x ∈ (s.devices .classic).map fun d =>
        (w.now, Turn.call (.identity s₀.run .classic ⟨d.id, .classic⟩)),
      x.2.run? = some s₀.run ∧ x.2.isFair s₀.request = true ∧ x.2.isLookup = true := by
    intro x mem
    obtain ⟨d, -, rfl⟩ := List.mem_map.mp mem
    exact ⟨rfl, rfl, rfl⟩
  have working := waiting.working own
  rw [List.map_map] at working
  refine .lookingUp [] found ⟨?_, fun x mem => absurd mem List.not_mem_nil⟩ ?_
  · rw [← now]
    exact working
  · exact List.length_pos_of_ne_nil known

/-- The answer to the enumeration ends the search, or the devices are looked up. -/
theorem ClassicStage.of_answer (classic : s₀.methods = Methods.classic)
    (now : w.now = w₀.enumerated s) : ClassicStage s w₀ s₀ (w.answered s s₀) := by
  by_cases failing : .classic ∈ s.failingEnumerations
  · exact of_failing h classic now failing
  by_cases none : s.classicDevices = []
  · exact of_no_devices h classic now failing none
  · exact of_devices h classic now failing none

end

theorem Waiting.isRunning {n : Nat} {b : World} {mine : Option RunId} {aside : List (Nat × Turn)}
    (h : Waiting s mine n b aside w)
    (begun : b.coordinator.phase = .running (.begin s₀.run s₀.methods)) :
    w.coordinator.isRunning s₀.run = true := by
  rw [h.alike.coordinator]
  exact Coordinator.isRunning_of_running begun

/-- The first thing that a run does is to enumerate the devices. -/
theorem ClassicStage.of_begun (classic : s₀.methods = Methods.classic) (h : Begun s w₀ s₀ w) :
    ClassicStage s w₀ s₀ w := by
  have tasks : World.tasks s₀ = [.call (.enumeration s₀.run .classic)] := by
    unfold World.tasks
    rw [classic]
    rfl
  have waiting := h.waiting
  rw [tasks, h.now] at waiting
  exact .begun waiting

/-- The enumeration is asked for, and answered at once or later. -/
theorem ClassicStage.of_asked (classic : s₀.methods = Methods.classic)
    (h : Waiting s (some s₀.run) s₀.request (w₀.begun s₀) [] w)
    (now : w.now = w₀.now + s.adapterTime) :
    ClassicStage s w₀ s₀ (w.perform (.call (.enumeration s₀.run .classic))) := by
  have running := h.isRunning rfl
  let asked : World := w.doing s₀.run (.asked (.enumerate .classic))
  have alike : (w₀.enumerating s₀).Alike asked :=
    ⟨h.alike.extract, h.alike.coordinator, h.alike.events,
      congrArg (fun t => Tally.count t (.enumerate .classic)) h.alike.tally⟩
  have placed (later : Option Timer) (waits : ∀ t ∈ later, w.now < t.deadline) :
      w.Placed (asked.put [] later) { later := later } :=
    ⟨rfl, rfl, rfl, rfl, waits⟩
  rw [World.perform_of_plain h.radio rfl rfl running]
  show ClassicStage s w₀ s₀ (w.apply s₀.run (.ofCall w.now (.enumeration s₀.run .classic)
    s.enumerationDelay _ _))
  unfold Effect.ofCall
  -- With no delay the answer is taken in the turn that asks; else a timer brings it.
  by_cases atOnce : s.enumerationDelay = 0
  · have here : asked.now = w₀.enumerated s := by
      unfold World.enumerated Scenario.enumerationTime
      rw [atOnce, Nat.zero_min]
      exact now
    have nothing := placed none fun t mem => by cases mem
    rw [World.put_nil] at nothing
    rw [if_pos atOnce]
    exact .of_answer (h.placed nothing alike h.requests (.inr rfl)) classic here
  · rw [if_neg atOnce]
    let t : Timer := ⟨w.now + min s.enumerationDelay longestWait,
      .take (.enumeration s₀.run .classic) (.handles (s.enumerate .classic)) false⟩
    have waits : ∀ u ∈ some t, w.now < u.deadline := by
      intro u mem
      obtain rfl := Option.some.inj mem
      exact Nat.lt_add_of_pos_right (Nat.lt_min.mpr ⟨Nat.pos_of_ne_zero atOnce, by decide⟩)
    have alike' : (w₀.enumerating s₀).Alike (asked.put [] (some t)) :=
      alike.trans ⟨rfl, rfl, rfl, rfl⟩
    have waiting := h.placed (placed (some t) waits) alike' h.requests (.inr rfl)
    have line : ({ later := some t } : Effect).line w.now = [(w₀.enumerated s, t.turn)] := by
      show [(w.now + s.enumerationTime, t.turn)] = _
      rw [now]
      rfl
    rw [line] at waiting
    exact .enumerating waiting

section

variable {turn : Turn} {rest : List Turn}

/-- A turn keeps the search in its stage, or takes it to the next. -/
theorem ClassicStage.step (classic : s₀.methods = Methods.classic)
    (idle : w₀.coordinator.phase = .idle) (next : s₀.run = w₀.coordinator.lastRun + 1)
    (ready : s.adapter = .ready) (h : ClassicStage s w₀ s₀ w) (queue : w.queue = turn :: rest) :
    ClassicStage s w₀ s₀ ({ w with queue := rest }.perform turn) ∧
      ({ w with queue := rest }.perform turn).effort < w.effort := by
  have asked : s₀.methods.isEmpty = false := by
    rw [classic]
    rfl
  cases h with
  | beginning h =>
    obtain ⟨goesOn, less⟩ := h.step idle asked next ready queue
    exact ⟨goesOn.elim .beginning (ClassicStage.of_begun classic), less⟩
  | begun h =>
    -- Turns of others change nothing, and the only one of this run asks for its devices.
    rcases h.step queue with ⟨stays, less⟩ | ⟨same, popped⟩
    · exact ⟨.begun stays, less⟩
    · obtain ⟨now, rfl⟩ := Prod.mk.inj same
      let turn : Turn := .call (.enumeration s₀.run .classic)
      have plain : turn.isPlain = true := rfl
      obtain ⟨turned, -⟩ := turned_of_plain (n := s₀.request) popped.radio plain rfl
        (popped.isRunning rfl)
      exact ⟨.of_asked classic popped now.symm, turned.effort_lt h.radio queue turned.effort⟩
  | enumerating h =>
    -- Here the only turn of this run takes the answer.
    rcases h.step queue with ⟨stays, less⟩ | ⟨same, popped⟩
    · exact ⟨.enumerating stays, less⟩
    · obtain ⟨now, rfl⟩ := Prod.mk.inj same
      let turn : Turn :=
        .take (.enumeration s₀.run .classic) (.handles (s.enumerate .classic)) false
      have plain : turn.isPlain = true := rfl
      have running := popped.isRunning rfl
      obtain ⟨turned, -⟩ := turned_of_plain (n := s₀.request) popped.radio plain rfl running
      have answer := ClassicStage.of_answer popped classic now.symm
      refine ⟨?_, turned.effort_lt h.radio queue turned.effort⟩
      rw [World.perform_of_plain popped.radio rfl rfl running]
      exact answer
  | lookingUp log found h missing =>
    have empty : (w₀.lookingUp s₀ s.classicDevices.length).coordinator.store.addresses = [] := rfl
    have begins : (w₀.lookingUp s₀ s.classicDevices.length).coordinator.LooksUp s₀.run
      s.classicDevices.length := looksUp_lookingUp classic _
    obtain ⟨log', goesOn, less⟩ := h.step (h.looksUp begins empty missing).isRunning queue
    refine ⟨?_, less⟩
    -- With the last outcome nothing is left on the agenda, and the run has finished.
    rcases Nat.lt_or_eq_of_le goesOn.length_outcomes_le with missing' | all
    · exact .lookingUp log' found goesOn missing'
    · have known : s.classicDevices ≠ [] := fun none => by
        rw [none] at missing
        cases missing
      have done := goesOn.complete begins empty all known
      exact .replayed (.of_idle goesOn.radio done.idle goesOn.fair goesOn.sorted goesOn.future)
        (classicReplay_of_lookedUp found done rfl rfl)
  | replayed h replay =>
    obtain ⟨stays, less⟩ := h.stale queue List.not_mem_nil
    exact ⟨.replayed stays replay, less⟩

end

theorem ClassicStage.wake {t : Timer} {ts : List Timer} (h : ClassicStage s w₀ s₀ w)
    (empty : w.queue = []) (timers : w.timers = t :: ts) :
    ClassicStage s w₀ s₀ (w.wake t.deadline) := by
  cases h with
  | beginning h => exact .beginning (h.wake empty timers)
  | begun h => exact .begun (h.wake empty timers)
  | enumerating h => exact .enumerating (h.wake empty timers)
  | lookingUp log found h missing => exact .lookingUp log found (h.wake empty timers) missing
  | replayed h replay => exact .replayed (h.wake empty timers) replay

theorem ClassicStage.sorted (h : ClassicStage s w₀ s₀ w) :
    w.timers.Pairwise (·.deadline ≤ ·.deadline) := by
  cases h with
  | beginning h | begun h | enumerating h | replayed h _ => exact h.sorted
  | lookingUp log found h missing => exact h.sorted

/-! ### At rest -/

/-- When a search for classic devices is over that begins in a world. -/
def World.searched (w : World) (s : Scenario) : Nat :=
  w.enumerated s + if .classic ∈ s.failingEnumerations then 0 else s.lookupsTime .classic

/-- A search that has come to rest is over, if there was time for it. -/
theorem ClassicStage.over_of_rests {time : Nat} (h : ClassicStage s w₀ s₀ w)
    (rests : w.Rests time) (enough : w₀.searched s ≤ time) :
    ∃ b : World, b.Alike w ∧ ClassicReplay s w₀ b := by
  have enumerated : w₀.enumerated s ≤ time := (Nat.le_add_right _ _).trans enough
  have checked : w₀.now + s.adapterTime ≤ time := (Nat.le_add_right _ _).trans enumerated
  have late {mine : Option RunId} {b : World} {x : Nat × Turn} (inTime : x.1 ≤ time)
      (h : Waiting s mine s₀.request b [x] w) : False :=
    Nat.not_lt_of_le inTime (rests.lt_of_mem_line (h.mem_line (List.mem_singleton_self x)))
  cases h with
  | beginning h => exact absurd (h.lt_of_rests rests) (Nat.not_lt_of_le checked)
  | begun h => exact (late checked h).elim
  | enumerating h => exact (late enumerated h).elim
  | lookingUp log found h missing =>
    obtain ⟨x, mem, early⟩ := h.exists_le_of_missing missing
    unfold World.searched at enough
    rw [if_neg found] at enough
    exact absurd (rests.lt_of_mem_line mem) (Nat.not_lt_of_le (early.trans enough))
  | replayed h replay => exact ⟨_, h.alike, replay⟩

/-- A replay is what the world shows. -/
theorem ClassicReplay.alike {b : World} (h : ClassicReplay s w₀ b) (alike : b.Alike w) :
    ClassicReplay s w₀ w := by
  obtain ⟨-, coordinator, events, tally⟩ := alike
  constructor
  case idle => rw [coordinator]; exact h.idle
  case failed => rw [coordinator, events]; exact h.failed
  case searched => rw [coordinator, events]; exact h.searched
  case tally => rw [tally]; exact h.tally

theorem steady_classicStage (classic : s₀.methods = Methods.classic)
    (idle : w₀.coordinator.phase = .idle) (next : s₀.run = w₀.coordinator.lastRun + 1)
    (ready : s.adapter = .ready) (time : Nat) : World.Steady time (ClassicStage s w₀ s₀) where
  sorted h := h.sorted
  turn h queue := h.step classic idle next ready queue
  wake h empty timers _ := h.wake empty timers

/-- **A search for classic devices over a script is replayed to its end**: whatever devices, delays
and failures there are, and whatever earlier runs have left behind, the events of the search come
at the times that the script sets for them, and the run finishes just when the last look-up does.
No call is waited for any longer than `longestWait`. -/
theorem classicReplay_of_free {n time : Nat} (free : w.Free s n) (ready : s.adapter = .ready)
    (timeout : Option Nat) (enough : w.searched s ≤ time) :
    ClassicReplay s w
      ((w.enqueue [.request n Methods.classic timeout]).runUntil time fun _ => false) := by
  let s₀ : Starting := ⟨n, w.coordinator.lastRun + 1, Methods.classic, timeout⟩
  have steady : World.Steady time (ClassicStage s w s₀) :=
    steady_classicStage rfl free.idle rfl ready time
  have asked : ClassicStage s w s₀ (w.enqueue [.request n Methods.classic timeout]) :=
    .beginning (free.beginning Methods.classic timeout)
  obtain ⟨w', h, rests, eq⟩ :=
    steady.runUntil asked (free.effort_le_work Methods.classic timeout)
  obtain ⟨b, alike, replay⟩ := h.over_of_rests rests enough
  rw [eq]
  exact replay.alike (alike.trans ⟨rfl, rfl, rfl, rfl⟩)

/-- Two entries have one name, so that both are looked up as the first, and the services of another
device cannot be listed. -/
theorem classicReplay_two_names :
    let s : Scenario :=
      { adapterDelay := 5
        enumerationDelay := 20
        classicDevices :=
          [{ id := "a", address := .ofNat 1, resolveDelay := 10 },
            { id := "a", address := .ofNat 2, resolveDelay := 1000 },
            { id := "b", address := .ofNat 3, servicesDelay := 70, failAt := some .fetchServices }] }
    let w : World := { radio := .scripted s, now := 100 }
    w.Free s 0 ∧ s.adapter = .ready ∧ w.searched s ≤ 195 ∧
      ClassicReplay s w ((w.enqueue [.request 0 Methods.classic none]).runUntil 195 fun _ => false) := by
  intro s w
  have free : w.Free s 0 := World.free_created s 0 100
  have enough : w.searched s ≤ 195 := by decide
  exact ⟨free, rfl, enough, classicReplay_of_free free rfl none enough⟩

/-- A search need not take as long as its delays do: an adapter that takes more time than
`longestWait` is not waited for to the end. -/
theorem finished_before_adapterDelay :
    let s : Scenario := { adapterDelay := longestWait + 1 }
    let w : World := { radio := .scripted s }
    ((w.enqueue [.request 0 Methods.classic none]).runUntil (longestWait + 1) fun _ => false).events =
        [(longestWait, .finished)] ∧
      longestWait < w.now + s.adapterDelay + s.enumerationDelay :=
  ⟨rfl, by decide⟩

end BluetoothDiscovery.Simulation
