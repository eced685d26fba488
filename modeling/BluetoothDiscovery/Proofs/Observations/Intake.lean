import BluetoothDiscovery.Proofs.Observations.Observed

/-!
# What a step takes in

Few steps have to do with devices.  `Intake` says once which do: a run begins with no devices, a
device was looked up, or an advertisement was received; all other steps leave devices and sightings
alone and announce none.
-/

namespace BluetoothDiscovery

open Coordinator (Moment after)

variable {extract : Payload → AdvertisementData} {obs : List Observation} {c : Coordinator}
  {r : Run} {a : Action}

/-- The device that an event carries. -/
def Event.device? : Event → Option Device
  | .discovered d | .updated d _ => some d
  | _ => none

/-- Whether a run begins at a moment. -/
def Coordinator.Moment.begins (m : Moment) : Bool :=
  match m.action with
  | .adapterChecked id .ready => m.coordinator.isStarting id
  | _ => false

theorem observe_began {id : RunId} {methods : Methods} (h : c.phase = .starting id methods) :
    observe extract obs ⟨c, .adapterChecked id .ready⟩ = [] :=
  if_pos (Coordinator.isStarting_iff.mpr ⟨methods, h⟩)

theorem observe_resolved (h : c.phase = .running r) (resolution : Resolution) :
    observe extract obs ⟨c, .resolved r.id resolution⟩ = obs ++ [.lookUp resolution] :=
  if_pos (Coordinator.isRunning_iff.mpr ⟨r, h, rfl⟩)

theorem observe_advertised (h : c.phase = .running r) (report : AdvertisementReport) :
    observe extract obs ⟨c, .advertised r.id report⟩ =
      obs ++ [.advert report.address ⟨report.rssi, extract report.payload⟩] :=
  if_pos (Coordinator.isRunning_iff.mpr ⟨r, h, rfl⟩)

/-- A run begins with no devices. -/
theorem store_of_begins (h : Moment.begins ⟨c, a⟩ = true) : (c.step extract a).1.store = ∅ := by
  unfold Moment.begins at h
  split at h
  next id check =>
    obtain ⟨methods, starting⟩ := Coordinator.isStarting_iff.mp h
    replace check : a = .adapterChecked id .ready := check
    rw [check, Coordinator.step_adapterChecked_of_starting starting]
    rfl
  next => cases h

theorem sightings_countEnumerated (r : Run) (s : Selector) (n : Nat) :
    (r.countEnumerated s n).sightings = r.sightings := by
  cases s <;> rfl

theorem sightings_countLookup (r : Run) (s : Selector) :
    (r.countLookup s).sightings = r.sightings := by
  cases s <;> rfl

/-! ### Steps -/

/-- What a step has to do with devices: the coordinator after it and the events it announces. -/
inductive Intake (extract : Payload → AdvertisementData) (c : Coordinator) (a : Action) :
    Coordinator × List Event → Prop
  /-- Nothing. -/
  | nothing {out : Coordinator × List Event} (store : out.1.store = c.store)
      (sightings : ∀ r', out.1.phase = .running r' →
        ∃ r, c.phase = .running r ∧ r'.sightings = r.sightings)
      (silent : ∀ e ∈ out.2, e.device? = none)
      (unobserved : ∀ obs, observe extract obs ⟨c, a⟩ = obs) : Intake extract c a out
  | began {id : RunId} {methods : Methods} (starting : c.phase = .starting id methods)
      (check : a = .adapterChecked id .ready) :
      Intake extract c a ({ c with phase := .running (.begin id methods), store := ∅ }, [])
  | lookedUp {r : Run} (running : c.phase = .running r) (resolution : Resolution)
      (answer : a = .resolved r.id resolution) :
      Intake extract c a (c.register (r.deviceOf resolution))
  | heard {r : Run} (running : c.phase = .running r) (report : AdvertisementReport)
      (advert : a = .advertised r.id report) :
      Intake extract c a
        (c.advertise r report.address report.rssi (extract report.payload))

namespace Intake

theorem unchanged (unobserved : ∀ obs, observe extract obs ⟨c, a⟩ = obs) :
    Intake extract c a (c, []) :=
  .nothing rfl (fun r' h => ⟨r', h, rfl⟩) (by simp) unobserved

theorem finish (last : Event) (bare : last.device? = none)
    (unobserved : ∀ obs, observe extract obs ⟨c, a⟩ = obs) : Intake extract c a (c.finish last) :=
  .nothing rfl (fun _ h => by cases h) (by simpa [Coordinator.finish] using bare) unobserved

/-- A change to the work of the present run has nothing to do with devices, after reports that
carry none. -/
theorem continueRun (running : c.phase = .running r) {r' : Run}
    (same : r'.sightings = r.sightings) (reports : List Event)
    (bare : ∀ e ∈ reports, e.device? = none)
    (unobserved : ∀ obs, observe extract obs ⟨c, a⟩ = obs) :
    Intake extract c a ((c.continueRun r').1, reports ++ (c.continueRun r').2) := by
  unfold Coordinator.continueRun
  split
  · -- The run has nothing left to do and ends, so that no run is present after it.
    refine .nothing rfl (fun _ h => by cases h) (fun e he => ?_) unobserved
    rcases List.mem_append.mp he with he | he
    · exact bare e he
    · rw [List.mem_singleton.mp he]
      rfl
  · -- The run goes on, and has seen what it had seen before.
    refine .nothing rfl (fun s hs => ⟨r, running, ?_⟩) (by simpa using bare) unobserved
    cases hs
    exact same

theorem withRun {id : RunId} {f : Run → Coordinator × List Event}
    (unobserved : c.isRunning id = false → ∀ obs, observe extract obs ⟨c, a⟩ = obs)
    (h : ∀ r, c.phase = .running r → r.id = id → Intake extract c a (f r)) :
    Intake extract c a (c.withRun id f) := by
  cases hrun : c.isRunning id with
  | false =>
    rw [Coordinator.withRun_of_isRunning_eq_false hrun]
    exact unchanged (unobserved hrun)
  | true =>
    obtain ⟨r, hr, rfl⟩ := Coordinator.isRunning_iff.mp hrun
    rw [Coordinator.withRun_of_running hr]
    exact h r hr rfl

theorem adapterChecked (extract : Payload → AdvertisementData) (c : Coordinator) (id : RunId)
    (state : AdapterState) :
    Intake extract c (.adapterChecked id state) (c.step extract (.adapterChecked id state)) := by
  -- Only a check that the present start waits for does anything; any other is stale.
  cases hs : c.isStarting id with
  | true =>
    obtain ⟨methods, hp⟩ := Coordinator.isStarting_iff.mp hs
    rw [Coordinator.step_adapterChecked_of_starting hp]
    cases state with
    | ready => exact .began hp rfl
    | poweredOff => exact finish _ rfl fun _ => rfl
    | unavailable => exact finish _ rfl fun _ => rfl
  | false =>
    rw [Coordinator.step_adapterChecked_of_not_starting hs]
    cases state with
    | ready => exact unchanged fun _ => if_neg (Bool.eq_false_iff.mp hs)
    | poweredOff => exact unchanged fun _ => rfl
    | unavailable => exact unchanged fun _ => rfl

end Intake

/-- Every step takes in a look-up or an advertisement, or begins a run, or has nothing to do with
devices. -/
theorem intake_step (extract : Payload → AdvertisementData) (c : Coordinator) (a : Action) :
    Intake extract c a (c.step extract a) := by
  -- Three kinds of action: a request, a check or an end changes the phase alone; the callbacks of
  -- enumerations, look-ups and the watcher change its counters; two callbacks bring a device.
  cases a with
  | start methods =>
    simp only [Coordinator.step]
    split
    · exact .nothing rfl (fun _ h => by cases h) (by simp) fun _ => rfl
    · exact .unchanged fun _ => rfl
  | adapterChecked id state => exact .adapterChecked extract c id state
  | startAbandoned id =>
    show Intake extract c _ (if c.isStarting id then c.finish .canceled else (c, []))
    split
    · exact .finish _ rfl fun _ => rfl
    · exact .unchanged fun _ => rfl
  | stop =>
    show Intake extract c _ (if c.isActive then c.finish .canceled else (c, []))
    split
    · exact .finish _ rfl fun _ => rfl
    · exact .unchanged fun _ => rfl
  | enumerated id selector result =>
    refine .withRun (fun _ _ => rfl) fun r hr _ => ?_
    cases result with
    | ok handles =>
      exact .continueRun hr (sightings_countEnumerated r selector _) [] (by simp) fun _ => rfl
    | error e =>
      refine .continueRun hr (sightings_countEnumerated r selector 0) [.failed e.kind] ?_
        fun _ => rfl
      simp [Event.device?]
  | resolved id resolution =>
    -- A device is observed only where the callback names the run that is present, as in the step.
    refine .withRun (fun away _ => if_neg (Bool.eq_false_iff.mp away)) fun r hr hid => ?_
    exact .lookedUp hr resolution (by rw [hid])
  | resolutionFailed id e =>
    refine .withRun (fun _ _ => rfl) fun r hr _ => ?_
    exact .nothing rfl (fun r' h => ⟨r', h, rfl⟩) (by simp [Event.device?]) fun _ => rfl
  | lookupEnded id selector =>
    refine .withRun (fun _ _ => rfl) fun r hr _ => ?_
    -- The counters of look-ups are no part of what a run has seen.
    exact .continueRun hr (sightings_countLookup r selector) [] (by simp) fun _ => rfl
  | watcherOpened id =>
    refine .withRun (fun _ _ => rfl) fun r hr _ => ?_
    refine .nothing rfl (fun r' h => ⟨r, hr, ?_⟩) (by simp) fun _ => rfl
    cases h
    rfl
  | watcherLost id e =>
    refine .withRun (fun _ _ => rfl) fun r hr _ => ?_
    refine .continueRun hr ?_ [.failed e.kind] ?_ fun _ => rfl
    · rfl
    · simp [Event.device?]
  | advertised id report =>
    refine .withRun (fun away _ => if_neg (Bool.eq_false_iff.mp away)) fun r hr hid => ?_
    exact .heard hr report (by rw [hid])
  | timedOut id =>
    refine .withRun (fun _ _ => rfl) fun _ _ _ => ?_
    exact .finish _ rfl fun _ => rfl

/-- What a run has observed stays observed. -/
theorem mem_observe_of_running (running : c.phase = .running r) (a : Action) {o : Observation}
    (mem : o ∈ obs) : o ∈ observe extract obs ⟨c, a⟩ := by
  have intake := intake_step extract c a
  generalize c.step extract a = out at intake
  cases intake with
  | nothing _ _ _ unobserved => rwa [unobserved]
  | began starting =>
    rw [running] at starting
    cases starting
  | lookedUp present resolution answer =>
    rw [answer, observe_resolved present]
    exact List.mem_append_left _ mem
  | heard present report advert =>
    rw [advert, observe_advertised present]
    exact List.mem_append_left _ mem

end BluetoothDiscovery
