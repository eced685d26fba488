import BluetoothDiscovery.Proofs.Coordinator.RunEvents

/-!
# Failures that are announced

A failed call costs a run no more than what the call was for.  Three actions report one to a run: an
enumeration that failed, a look-up that failed, and the loss of the watcher.  Each announces it with
one event, and nothing else that happens to a run announces any (`failures_step_of_running`).
-/

namespace BluetoothDiscovery

variable {extract : Payload → AdvertisementData} {c : Coordinator} {r : Run}

/-- The failure that an event announces. -/
def Event.failure? : Event → Option ErrorKind
  | .failed kind => some kind
  | _ => none

/-- The failure that an action reports. -/
def Action.failure? : Action → Option PlatformError
  | .enumerated _ _ (.error e) | .resolutionFailed _ e | .watcherLost _ e => some e
  | _ => none

namespace Coordinator

theorem failures_continueRun (c : Coordinator) (r : Run) :
    (c.continueRun r).2.filterMap Event.failure? = [] := by
  unfold continueRun
  split <;> rfl

theorem failures_announce (c : Coordinator) (a : Address) {event : Device → Event}
    (device : ∀ d, (event d).failure? = none) :
    (c.announce a event).filterMap Event.failure? = [] := by
  refine List.filterMap_eq_nil_iff.mpr fun e he => ?_
  obtain ⟨d, -, rfl⟩ := List.mem_map.mp he
  exact device d

theorem failures_register (c : Coordinator) (device : Device) :
    (c.register device).2.filterMap Event.failure? = [] := by
  unfold register
  cases hu : (c.store.upsert device).2 with
  | inserted =>
    simp only [hu]
    exact failures_announce _ _ fun _ => rfl
  | merged changes =>
    simp only [hu]
    split
    · rfl
    · exact failures_announce _ _ fun _ => rfl

theorem failures_advertise (c : Coordinator) (r : Run) (address : Address) (rssi : Int16)
    (data : AdvertisementData) :
    (c.advertise r address rssi data).2.filterMap Event.failure? = [] := by
  unfold advertise
  obtain ⟨sightings, device, change⟩ := r.sightings.observe address rssi data
  cases hc : change.announcement with
  | discovered =>
    simp only [hc]
    exact failures_announce _ _ fun _ => rfl
  | updated fields =>
    simp only [hc]
    exact failures_announce _ _ fun _ => rfl
  | suppressed =>
    simp only [hc]
    rfl

theorem failures_withRun (running : c.phase = .running r) {f : Run → Coordinator × List Event}
    {kinds : List ErrorKind} (h : (f r).2.filterMap Event.failure? = kinds) :
    (c.withRun r.id f).2.filterMap Event.failure? = kinds := by
  rw [withRun_of_running running]
  exact h

/-- What is meant for the run that is under way announces the failure that it reports. -/
theorem failures_step_of_meant (extract : Payload → AdvertisementData)
    (running : c.phase = .running r) {a : Action} (meant : a.run? = some r.id) :
    (c.step extract a).2.filterMap Event.failure? = a.failure?.toList.map PlatformError.kind := by
  -- While a run is under way, an enumeration, a look-up and the watcher alone report failures.
  cases a with
  | start => cases meant
  | stop => cases meant
  | adapterChecked id state =>
    rw [step_adapterChecked_of_not_starting (isStarting_eq_false_of_running running id)]
    rfl
  | startAbandoned id =>
    rw [step_startAbandoned_of_not_starting (isStarting_eq_false_of_running running id)]
    rfl
  | enumerated id selector result =>
    obtain rfl : id = r.id := Option.some.inj meant
    cases result with
    | ok handles => exact failures_withRun running (failures_continueRun c _)
    | error e =>
      exact failures_withRun running (congrArg (e.kind :: ·) (failures_continueRun c _))
  | resolved id resolution =>
    obtain rfl : id = r.id := Option.some.inj meant
    exact failures_withRun running (failures_register c _)
  | resolutionFailed id e =>
    obtain rfl : id = r.id := Option.some.inj meant
    exact failures_withRun running rfl
  | lookupEnded id slot =>
    obtain rfl : id = r.id := Option.some.inj meant
    exact failures_withRun running (failures_continueRun c _)
  | watcherOpened id =>
    obtain rfl : id = r.id := Option.some.inj meant
    exact failures_withRun running rfl
  | watcherLost id e =>
    obtain rfl : id = r.id := Option.some.inj meant
    exact failures_withRun running (congrArg (e.kind :: ·) (failures_continueRun c _))
  | advertised id report =>
    obtain rfl : id = r.id := Option.some.inj meant
    exact failures_withRun running (failures_advertise c r _ _ _)
  | timedOut id =>
    obtain rfl : id = r.id := Option.some.inj meant
    exact failures_withRun running rfl

/-- While a run is under way, a step announces the failure that its action reports to the run, and
no other. -/
theorem failures_step_of_running (extract : Payload → AdvertisementData)
    (running : c.phase = .running r) (a : Action) :
    (c.step extract a).2.filterMap Event.failure? =
      if a.run? = some r.id then a.failure?.toList.map PlatformError.kind else [] := by
  by_cases meant : a.run? = some r.id
  · rw [if_pos meant]
    exact failures_step_of_meant extract running meant
  · rw [if_neg meant]
    -- What is not meant for the run is a request, which is refused, a stop, or comes too late.
    by_cases silent : (c.step extract a).2 = []
    · rw [silent]
      rfl
    · have owner : c.phase.owner = some r.id := by rw [running]; rfl
      rcases step_events_ne_nil silent with rfl | ⟨present, -⟩
      · rw [(step_stop c).1 (by rw [owner]; exact Option.some_ne_none _)]
        rfl
      · exact absurd (present.trans owner) meant

theorem step_resolutionFailed_of_running (running : c.phase = .running r) (e : PlatformError) :
    c.step extract (.resolutionFailed r.id e) = (c, [.failed e.kind]) :=
  withRun_of_running running _

end Coordinator

end BluetoothDiscovery
