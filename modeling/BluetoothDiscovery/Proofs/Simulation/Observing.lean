import BluetoothDiscovery.Proofs.Observations.Fold
import BluetoothDiscovery.Proofs.Schedule.Completion
import BluetoothDiscovery.Proofs.Simulation.Log

/-!
# What a run observes

As long as a run watches advertisements, nothing but the end of its time, the loss of its watcher or
a stop ends it.  Until then its devices are made by what it observes alone: the course of the run
with everything else left out makes the same devices, and announces them in the same way
(`sameDevices_timed`).  Besides the devices, only the failures are told that its course reports
(`Watches.failures_timed`).
-/

namespace BluetoothDiscovery

variable {extract : Payload → AdvertisementData} {c c' : Coordinator} {run : RunId} {a : Action}
  {course : List (Nat × Action)}

/-! ### Observations -/

/-- Whether an action is an observation: an advertisement, or a device that was looked up. -/
def Action.isObservation : Action → Bool
  | .resolved _ _ | .advertised _ _ => true
  | _ => false

/-- Whether an action is one of a run that goes on watching after it. -/
def Action.isCarriedOnBy (run : RunId) (a : Action) : Prop :=
  a.run? = some run ∧ a ≠ .timedOut run ∧ ∀ e, a ≠ .watcherLost run e

namespace Coordinator

/-- A run is under way, and watches advertisements. -/
def Watches (c : Coordinator) (run : RunId) : Prop :=
  ∃ r, c.phase = .running r ∧ r.id = run ∧ r.watching = true

theorem Watches.isRunning (h : c.Watches run) : c.isRunning run = true := by
  obtain ⟨r, running, rfl, -⟩ := h
  exact isRunning_of_running running

/-- A watching run goes on, and only reports. -/
theorem Watches.step (h : c.Watches run) (extract : Payload → AdvertisementData)
    (on : a.isCarriedOnBy run) :
    (c.step extract a).1.Watches run ∧ ∀ e ∈ (c.step extract a).2, e.isReport = true := by
  obtain ⟨r, running, rfl, watching⟩ := h
  obtain ⟨meant, inTime, notLost⟩ := on
  have notStop : a ≠ .stop := fun stopped => by
    rw [stopped] at meant
    cases meant
  obtain ⟨r', goesOn, number, still⟩ :=
    watching_step extract running watching notStop inTime notLost
  refine ⟨⟨r', goesOn, number, still⟩, ?_⟩
  rcases step_of_running running extract a with ⟨-, -, -, -, told⟩ | ⟨reports, last, hstep, -⟩
  · exact told
  · rw [hstep] at goesOn
    cases goesOn

/-- A watching run tells the failures that its course reports, each at its time, and no others. -/
theorem Watches.failures_timed (watches : c.Watches run) (extract : Payload → AdvertisementData)
    (on : ∀ x ∈ course, x.2.isCarriedOnBy run) :
    (c.timed extract course).2.filterMap (fun e => e.2.failure?.map (e.1, ·)) =
      course.filterMap fun x => x.2.failure?.map fun e => (x.1, e.kind) := by
  induction course generalizing c with
  | nil => rfl
  | cons x course ih =>
    obtain ⟨time, a⟩ := x
    have first := on (time, a) List.mem_cons_self
    have rest := ih (watches.step extract first).1 fun x mem => on x (List.mem_cons_of_mem _ mem)
    obtain ⟨r, running, number, -⟩ := watches
    have meant : a.run? = some r.id := number ▸ first.1
    rw [timed_cons, List.filterMap_append, rest, failures_at,
      failures_step_of_meant extract running meant, List.filterMap_cons]
    cases a.failure? <;> rfl

/-- Two coordinators are at the same run, and know the same devices. -/
def SameDevices (run : RunId) (c c' : Coordinator) : Prop :=
  c.store = c'.store ∧ ∃ r r', c.phase = .running r ∧ c'.phase = .running r' ∧ r.id = run ∧
    r'.id = run ∧ r.sightings = r'.sightings

/-- What a coordinator does with a device depends on the devices that it knows. -/
theorem register_congr (same : c.store = c'.store) (device : Device) :
    (c.register device).1.store = (c'.register device).1.store ∧
      (c.register device).2 = (c'.register device).2 := by
  constructor
  · rw [fst_register, fst_register, same]
  · unfold register announce
    rw [same]
    obtain ⟨store, outcome⟩ := c'.store.upsert device
    cases outcome with
    | inserted => rfl
    | merged changes =>
      dsimp only
      split <;> rfl

theorem advertise_congr (same : c.store = c'.store) {r r' : Run}
    (sightings : r.sightings = r'.sightings) (address : Address) (rssi : Int16)
    (data : AdvertisementData) :
    (c.advertise r address rssi data).1.store = (c'.advertise r' address rssi data).1.store ∧
      (c.advertise r address rssi data).2 = (c'.advertise r' address rssi data).2 := by
  constructor
  · rw [fst_advertise, fst_advertise, same, sightings]
  · unfold advertise announce
    rw [same, sightings]
    dsimp only
    cases (r'.sightings.observe address rssi data).2.2.announcement <;> rfl

theorem isSome_device?_of_mem_announce {address : Address} {event : Device → Event}
    (carries : ∀ d, (event d).device?.isSome = true) :
    ∀ e ∈ c.announce address event, e.device?.isSome = true := by
  intro e mem
  obtain ⟨d, -, rfl⟩ := List.mem_map.mp mem
  exact carries d

/-- An observation announces devices only. -/
theorem isSome_device?_of_mem_step {r : Run} (running : c.phase = .running r)
    (meant : a.run? = some r.id) (observes : a.isObservation = true) :
    ∀ e ∈ (c.step extract a).2, e.device?.isSome = true := by
  have none : ∀ e ∈ ([] : List Event), e.device?.isSome = true :=
    fun e mem => absurd mem List.not_mem_nil
  -- Two actions are observations, and each announces the device that it stores, or nothing.
  cases a with
  | resolved id resolution =>
    obtain rfl : id = r.id := Option.some.inj meant
    have step : c.step extract (.resolved r.id resolution) = c.register (r.deviceOf resolution) :=
      withRun_of_running running _
    rw [step]
    unfold register
    cases hu : (c.store.upsert (r.deviceOf resolution)).2 with
    | inserted =>
      simp only [hu]
      exact isSome_device?_of_mem_announce fun _ => rfl
    | merged changes =>
      simp only [hu]
      split
      · exact none
      · exact isSome_device?_of_mem_announce fun _ => rfl
  | advertised id report =>
    obtain rfl : id = r.id := Option.some.inj meant
    have step : c.step extract (.advertised r.id report) =
        c.advertise r report.address report.rssi (extract report.payload) :=
      withRun_of_running running _
    rw [step]
    unfold advertise
    dsimp only
    cases hc : (r.sightings.observe report.address report.rssi
        (extract report.payload)).2.2.announcement with
    | discovered => exact isSome_device?_of_mem_announce fun _ => rfl
    | updated fields => exact isSome_device?_of_mem_announce fun _ => rfl
    | suppressed => exact none
  | _ => cases observes

/-- An observation does the same to the same devices. -/
theorem SameDevices.step_of_isObservation (h : SameDevices run c c')
    (meant : a.run? = some run) (observes : a.isObservation = true) :
    SameDevices run (c.step extract a).1 (c'.step extract a).1 ∧
      (c.step extract a).2 = (c'.step extract a).2 := by
  obtain ⟨store, r, r', running, running', rfl, number, sightings⟩ := h
  -- What is stored depends on the store and on what the run has seen, and these are the same.
  cases a with
  | resolved id resolution =>
    obtain rfl : id = r.id := Option.some.inj meant
    have device : r.deviceOf resolution = r'.deviceOf resolution := by
      unfold Run.deviceOf
      rw [sightings]
    have step : c.step extract (.resolved r.id resolution) = c.register (r.deviceOf resolution) :=
      withRun_of_running running _
    have step' : c'.step extract (.resolved r.id resolution) =
        c'.register (r'.deviceOf resolution) := by
      rw [← number]
      exact withRun_of_running running' _
    obtain ⟨same, told⟩ := register_congr store (r'.deviceOf resolution)
    rw [step, step', device]
    refine ⟨⟨same, r, r', ?_, ?_, rfl, number, sightings⟩, told⟩
    · rw [fst_register]
      exact running
    · rw [fst_register]
      exact running'
  | advertised id report =>
    obtain rfl : id = r.id := Option.some.inj meant
    have step : c.step extract (.advertised r.id report) =
        c.advertise r report.address report.rssi (extract report.payload) :=
      withRun_of_running running _
    have step' : c'.step extract (.advertised r.id report) =
        c'.advertise r' report.address report.rssi (extract report.payload) := by
      rw [← number]
      exact withRun_of_running running' _
    obtain ⟨same, told⟩ := advertise_congr store sightings report.address report.rssi
      (extract report.payload)
    rw [step, step']
    refine ⟨⟨same, ?_⟩, told⟩
    rw [fst_advertise, fst_advertise]
    exact ⟨_, _, rfl, rfl, rfl, number, by rw [sightings]⟩
  | _ => cases observes

/-- What is no observation leaves the devices as they are, and announces none. -/
theorem SameDevices.step_of_not_isObservation (h : SameDevices run c c')
    (goesOn : (c.step extract a).1.Watches run) (blind : a.isObservation = false) :
    SameDevices run (c.step extract a).1 c' ∧
      ∀ e ∈ (c.step extract a).2, e.device? = none := by
  obtain ⟨store, r, r', running, running', rfl, number, sightings⟩ := h
  have intake := intake_step extract c a
  generalize c.step extract a = out at intake goesOn ⊢
  cases intake with
  | nothing same seen silent =>
    -- The run is still the one that was there, since it goes on watching.
    obtain ⟨after, present, sameRun, -⟩ := goesOn
    obtain ⟨before, running₀, kept⟩ := seen after present
    obtain rfl := Phase.running.inj (running.symm.trans running₀)
    exact ⟨⟨same.trans store, after, r', present, running', sameRun, number,
      kept.trans sightings⟩, silent⟩
  | began starting =>
    -- A run that is present is not begun again.
    rw [running] at starting
    cases starting
  | lookedUp _ resolution answer =>
    -- These two are observations.
    rw [answer] at blind
    cases blind
  | heard _ report advert =>
    rw [advert] at blind
    cases blind

/-- Of events that are all about devices none is left out. -/
theorem filter_device_of_forall {es : List Event} (devices : ∀ e ∈ es, e.device?.isSome = true)
    (time : Nat) : (es.map (time, ·)).filter (·.2.device?.isSome) = es.map (time, ·) := by
  refine List.filter_eq_self.mpr fun x mem => ?_
  obtain ⟨e, here, rfl⟩ := List.mem_map.mp mem
  exact devices e here

/-- Of events that are about no device nothing is left. -/
theorem filter_device_of_silent {es : List Event} (silent : ∀ e ∈ es, e.device? = none)
    (time : Nat) : (es.map (time, ·)).filter (·.2.device?.isSome) = [] := by
  refine List.filter_eq_nil_iff.mpr fun x mem => ?_
  obtain ⟨e, here, rfl⟩ := List.mem_map.mp mem
  rw [silent e here]
  exact Bool.false_ne_true

/-- **The devices of a watching run are made by what it observes**: everything else in its course
can be left out. -/
theorem sameDevices_timed (watches : c.Watches run) (h : SameDevices run c c')
    (on : ∀ x ∈ course, x.2.isCarriedOnBy run) :
    let out := c.timed extract course
    let out' := c'.timed extract (course.filter (·.2.isObservation))
    out.1.Watches run ∧ SameDevices run out.1 out'.1 ∧
      out.2.filter (·.2.device?.isSome) = out'.2 ∧ ∀ e ∈ out.2, e.2.isReport = true := by
  -- The second coordinator steps at observations only; the first one agrees with it throughout.
  induction course generalizing c c' with
  | nil => exact ⟨watches, h, rfl, fun e mem => absurd mem List.not_mem_nil⟩
  | cons x course ih =>
    obtain ⟨time, a⟩ := x
    have first := on (time, a) List.mem_cons_self
    have rest : ∀ x ∈ course, x.2.isCarriedOnBy run := fun x mem =>
      on x (List.mem_cons_of_mem _ mem)
    obtain ⟨watches', reports⟩ := watches.step extract first
    have told {es : List (Nat × Event)} (later : ∀ e ∈ es, e.2.isReport = true) :
        ∀ e ∈ (c.step extract a).2.map (time, ·) ++ es, e.2.isReport = true := by
      intro e mem
      rcases List.mem_append.mp mem with mem | mem
      · obtain ⟨e, here, rfl⟩ := List.mem_map.mp mem
        exact reports e here
      · exact later e mem
    rw [timed_cons]
    cases observes : a.isObservation with
    | true =>
      have both : SameDevices run (c.step extract a).1 (c'.step extract a).1 ∧ _ :=
        h.step_of_isObservation first.1 observes
      obtain ⟨same, equal⟩ := both
      obtain ⟨still, same', devices, later⟩ := ih watches' same rest
      obtain ⟨r, running, number, -⟩ := watches
      have meant : a.run? = some r.id := number ▸ first.1
      -- All that this step tells is about devices, so that the filter keeps it whole.
      have observed : ∀ e ∈ (c.step extract a).2, e.device?.isSome = true :=
        isSome_device?_of_mem_step running meant observes
      have taken : ((time, a) :: course).filter (·.2.isObservation) =
          (time, a) :: course.filter (·.2.isObservation) := List.filter_cons_of_pos observes
      rw [taken, timed_cons]
      refine ⟨still, same', ?_, told later⟩
      dsimp only
      rw [List.filter_append, filter_device_of_forall observed time, equal]
      exact congrArg (_ ++ ·) devices
    | false =>
      obtain ⟨same, silent⟩ := h.step_of_not_isObservation watches' observes
      obtain ⟨still, same', devices, later⟩ := ih watches' same rest
      -- None of what this step tells is about devices, so that the filter drops it.
      have skipped : ((time, a) :: course).filter (·.2.isObservation) =
          course.filter (·.2.isObservation) := List.filter_cons_of_neg (by simp [observes])
      rw [skipped]
      refine ⟨still, same', ?_, told later⟩
      dsimp only
      rw [List.filter_append, filter_device_of_silent silent time]
      exact devices

end Coordinator

end BluetoothDiscovery
