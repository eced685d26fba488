import BluetoothDiscovery.Proofs.Schedule.Completion
import BluetoothDiscovery.Proofs.Schedule.Ledger

/-!
# The outcomes of a run

When a run finishes by itself none of its work is left, and so no device is being looked up: its
ledger is closed.  `Settled` is what that says of the devices that were found and of the errors that
were announced.
-/

namespace BluetoothDiscovery

open Coordinator (after eventsOf granted)

variable {extract : Payload → AdvertisementData} {c : Coordinator} {r : Run} {id : RunId}
  {tasks : Multiset Task} {s : System} {d : Deed} {ds : List Deed}

/-- What holds of the deeds `ds` of a system when a run has finished by itself with the last of
them. -/
structure Settled (extract : Payload → AdvertisementData) (ds : List Deed) (id : RunId) :
    Prop where
  /-- Every device that an enumeration of the run returned has come to one outcome, as often as it
  was returned. -/
  one_outcome :
    ((settlements (takenIn ds id)).map Settlement.candidate).Perm (found (takenIn ds id))
  /-- The outcome was told to the run, which was going on: a device, or the error of a call. -/
  told : ∀ d ∈ takenIn ds id, ∀ x, d.settles? = some x → d.coordinator.isRunning id = true ∧
    d.action = .ofOutcome id x.outcome
  /-- A device that was looked up is in the list. -/
  listed : ∀ x ∈ settlements (takenIn ds id), ∀ resolution, x.outcome = .ok resolution →
    resolution.identity.address ∈
      (after extract (ds.map Deed.action)).devices.map Device.address
  /-- A look-up that failed has announced its error, once and nothing else. -/
  announced : ∀ d ∈ takenIn ds id, ∀ x, d.settles? = some x → ∀ e, x.outcome = .error e →
    d.moment.events extract = [.failed (.platformCallFailed e.stage)]
  /-- The error names the call that failed, if failed calls name themselves. -/
  failedCall : ∀ x ∈ settlements (takenIn ds id), x.course.Candid → ∀ e, x.outcome = .error e →
    x.course.failedCall? = some e.stage
  /-- The run has announced the failures that were reported to it, one by one. -/
  failures_eq : (eventsOf extract (ds.map Deed.action) id).filterMap Event.failure? =
    (failures (takenIn ds id)).map PlatformError.kind
  length_failures :
    ((eventsOf extract (ds.map Deed.action) id).filterMap Event.failure?).length =
      (takenIn ds id).countP (·.action.isFailedEnumeration) +
        (settlements (takenIn ds id)).countP Settlement.failed +
        (takenIn ds id).countP (·.action.isLoss)
  losses_le : (takenIn ds id).countP (·.action.isLoss) ≤ 1

/-- The ledger of a run that has no work left is closed. -/
theorem Ledger.settled (h : Ledger extract ds tasks id) (done : Task.work tasks id = 0) :
    Settled extract ds id := by
  -- A look-up that is left would be work.
  have none : Task.lookups tasks id = 0 := by
    refine Multiset.eq_zero_of_forall_notMem fun x mem => ?_
    have left := Task.mem_work_of_mem_lookups mem
    rw [done] at left
    exact Multiset.notMem_zero _ left
  have present : ∀ d ∈ takenIn ds id, d.coordinator.isRunning id = true := fun d mem =>
    (Deed.counts_iff.mp (List.mem_filter.mp mem).2).1
  constructor
  case one_outcome =>
    -- With nothing left to look up, all that was found has its outcome.
    have all := h.found_eq
    rw [none, add_zero] at all
    exact Multiset.coe_eq_coe.mp all.symm
  case told => exact fun d mem x settled => ⟨present d mem, h.told d mem x settled⟩
  case listed =>
    intro x mem resolution ok
    have observed := h.mem_observed x mem resolution ok
    have stored := (faithful_after extract (ds.map Deed.action)).stored
    exact stored.mem_addresses.mpr (List.mem_map_of_mem observed)
  case announced =>
    intro d mem x settled e failed
    obtain ⟨r, running, rfl⟩ := Coordinator.isRunning_iff.mp (present d mem)
    have action := h.told d mem x settled
    rw [failed] at action
    show (d.coordinator.step extract d.action).2 = _
    rw [action]
    exact congrArg Prod.snd (Coordinator.step_resolutionFailed_of_running running e)
  case failedCall => exact fun x _ candid e failed => Course.failedCall?_eq candid failed
  case failures_eq => exact h.failures_eq
  case length_failures =>
    rw [h.failures_eq, List.length_map]
    exact h.length_failures
  case losses_le => exact (Nat.le_add_right _ _).trans h.losses_le

/-- A run does not finish with the outcome of a look-up. -/
theorem Coordinator.finished_not_mem_of_ofOutcome (running : c.phase = .running r) (id : RunId)
    (outcome : Except PlatformError Resolution) :
    .finished ∉ (c.step extract (.ofOutcome id outcome)).2 := by
  by_cases own : id = r.id
  · subst own
    -- Taking in a device or an error counts nothing off, so that the run goes on.
    have goesOn : (c.step extract (.ofOutcome r.id outcome)).1.phase = .running r := by
      cases outcome with
      | ok resolution =>
        show (c.withRun r.id _).1.phase = _
        rw [withRun_of_running running, fst_register]
        exact running
      | error e =>
        show (c.step extract (.resolutionFailed r.id e)).1.phase = _
        rw [step_resolutionFailed_of_running running]
        exact running
    rcases step_of_running running extract (.ofOutcome r.id outcome) with
      ⟨_, _, _, _, told⟩ | ⟨_, _, ended, _, _⟩
    · exact finished_not_mem_of_reports told
    · rw [ended] at goesOn
      cases goesOn
  · -- The outcome of another run is stale, and announces nothing at all.
    have past : c.phase.owner ≠ some id := by
      rw [running]
      exact fun owner => own (Option.some.inj owner).symm
    rw [step_of_run?_ne_owner (Action.run?_ofOutcome id outcome) past]
    exact List.not_mem_nil

/-- A run that finishes by itself has settled everything with the deeds before. -/
theorem System.Record.settled (record : System.Record extract (ds ++ [d]) s)
    (few : granted extract ((ds ++ [d]).map Deed.action) < 2 ^ 64)
    (running : d.coordinator.phase = .running r)
    (finished : .finished ∈ d.moment.events extract) (inTime : d.action ≠ .timedOut r.id) :
    Settled extract (ds ++ [d]) r.id := by
  obtain ⟨s₀, before, last⟩ := record.of_concat
  rw [last.coordinator_eq] at running
  have fewer := granted_lt_of_concat few
  have present := (sound_of_execution before.execution fewer).running r running
  have ledger := (before.ledger fewer running).step before.execution.coordinator_eq running last
  replace finished : .finished ∈ (s₀.coordinator.step extract d.action).2 := by
    rw [← last.coordinator_eq]
    exact finished
  exact ledger.settled (present.work_eq_zero_of_finished running last.step finished inTime)

/-- **Every device that is found comes to one outcome** before its run finishes by itself, and no
failure is lost or announced twice.  So it is whatever the tasks do in whatever order and whatever
the radio answers, as long as fewer than `2 ^ 64` runs are granted. -/
theorem settled_of_record (extract : Payload → AdvertisementData) {ds : List Deed} {d : Deed}
    {s : System} {r : Run} (record : System.Record extract (ds ++ [d]) s)
    (few : granted extract ((ds ++ [d]).map Deed.action) < 2 ^ 64)
    (running : d.coordinator.phase = .running r)
    (finished : .finished ∈ d.moment.events extract) (inTime : d.action ≠ .timedOut r.id) :
    d.settles? = none ∧ Settled extract (ds ++ [d]) r.id := by
  refine ⟨?_, record.settled few running finished inTime⟩
  refine Option.eq_none_iff_forall_ne_some.mpr fun x settles => ?_
  obtain ⟨s₀, -, last⟩ := record.of_concat
  obtain ⟨run, action⟩ := last.action_of_settles settles
  replace finished : .finished ∈ (d.coordinator.step extract d.action).2 := finished
  rw [action] at finished
  exact Coordinator.finished_not_mem_of_ofOutcome running run x.outcome finished

/-- Two devices are found.  The first is looked up, the services of the second cannot be listed, and
the run finishes when the look-up of the first ends, which is the last. -/
theorem settled_two_lookups :
    let a : Candidate := ⟨.classic, ⟨"a", .classic⟩⟩
    let b : Candidate := ⟨.classic, ⟨"b", .classic⟩⟩
    let identity : Identity := ⟨⟨7, by decide⟩, "Headset", 1028, true⟩
    ∃ ds d s, System.Record Payload.extract (ds ++ [d]) s ∧
      granted Payload.extract ((ds ++ [d]).map Deed.action) < 2 ^ 64 ∧
      .finished ∈ d.moment.events Payload.extract ∧
      ∃ r, d.coordinator.phase = .running r ∧ d.action ≠ .timedOut r.id ∧
        settlements (takenIn (ds ++ [d]) r.id) =
          [⟨a, .listed identity (.ok ⟨.success, []⟩)⟩,
            ⟨b, .listed identity (.ok ⟨.unreachable, []⟩)⟩] ∧
        d.settles? = none ∧ Settled Payload.extract (ds ++ [d]) r.id := by
  intro a b identity
  let lookUpA : Settlement := ⟨a, .listed identity (.ok ⟨.success, []⟩)⟩
  let lookUpB : Settlement := ⟨b, .listed identity (.ok ⟨.unreachable, []⟩)⟩
  have created : System.Record Payload.extract [] {} := .nil
  have started := created.concat (.request Methods.classic false)
  have ready := started.concat (.work (.check 1 Methods.classic false) 0 (by decide) rfl
    (.checked 1 Methods.classic false .ready))
  have found := ready.concat (.work (.enumeration 1 .classic) 0 (by decide) rfl
    (.enumerated 1 .classic (.ok [a.handle, b.handle])))
  have first := found.concat (.lookup 1 lookUpA {.lookup 1 .classic b.handle} (by decide))
  have second := first.concat (.lookup 1 lookUpB {.ending 1 .classic} (by decide))
  have ended := second.concat (.work (.ending 1 .classic) {.ending 1 .classic} (by decide) rfl
    (.ended 1 .classic))
  have last := ended.concat (.work (.ending 1 .classic) 0 (by decide) rfl (.ended 1 .classic))
  have few : granted Payload.extract [.start Methods.classic, .adapterChecked 1 .ready,
      .enumerated 1 .classic (.ok [a.handle, b.handle]), .ofOutcome 1 lookUpA.outcome,
      .ofOutcome 1 lookUpB.outcome, .lookupEnded 1 .classic, .lookupEnded 1 .classic] < 2 ^ 64 := by
    decide
  exact ⟨_, _, _, last, few, .head _, _, rfl, Action.noConfusion, rfl,
    settled_of_record Payload.extract last few rfl (.head _) Action.noConfusion⟩

end BluetoothDiscovery
