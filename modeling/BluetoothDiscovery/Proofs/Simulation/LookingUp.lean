import BluetoothDiscovery.Proofs.Observations.Fold
import BluetoothDiscovery.Proofs.Simulation.Waiting

/-!
# A run that looks up devices

Once its devices are enumerated, a run that searches for classic devices only takes in the outcomes
of their look-ups.  `OutcomesTold` is what a row of outcomes makes of the events and the device
list, in whatever order they come, and the run finishes with the last of them (`LooksUp.finishes`).
-/

namespace BluetoothDiscovery

open Simulation

variable {extract : Payload → AdvertisementData} {c : Coordinator} {run : RunId} {k : Nat}

/-! ### Outcomes -/

/-- A row of outcomes of look-ups, each with its time. -/
abbrev Simulation.Outcomes : Type := List (Nat × Except PlatformError Resolution)

namespace Simulation

/-- The address that a look-up finds, unless it fails. -/
def addressOf? : Except PlatformError Resolution → Option Address
  | .ok resolution => some resolution.identity.address
  | .error _ => none

/-- How a look-up fails, if it does. -/
def failureOf? : Except PlatformError Resolution → Option ErrorKind
  | .ok _ => none
  | .error e => some e.kind

/-- The course of a run that takes in outcomes. -/
def courseOfOutcomes (run : RunId) (row : Outcomes) : List (Nat × Action) :=
  courseOf run (row.map fun x => (x.1, .lookedUp .classic x.2))

/-- What a row of outcomes makes of the events and of a device list that had certain addresses: the
failures are told, each at its time, and the addresses that are found are added. -/
structure OutcomesTold (row : Outcomes) (before : List Address) (told : List (Nat × Event))
    (store : DeviceStore) : Prop where
  reports : ∀ e ∈ told, e.2.isReport = true
  failures : told.filterMap (fun e => e.2.failure?.map (e.1, ·)) =
    row.filterMap fun x => (failureOf? x.2).map (x.1, ·)
  addresses : store.addresses = (before ++ row.filterMap (addressOf? ·.2)).eraseDups

theorem OutcomesTold.append {row row' : Outcomes} {before : List Address}
    {told told' : List (Nat × Event)} {store store' : DeviceStore}
    (h : OutcomesTold row before told store)
    (h' : OutcomesTold row' (before ++ row.filterMap (addressOf? ·.2)) told' store') :
    OutcomesTold (row ++ row') before (told ++ told') store' where
  reports e mem := (List.mem_append.mp mem).elim (h.reports e) (h'.reports e)
  failures := by rw [List.filterMap_append, List.filterMap_append, h.failures, h'.failures]
  addresses := by rw [h'.addresses, List.filterMap_append, List.append_assoc]

end Simulation

namespace Coordinator

theorem isReport_of_mem_register (c : Coordinator) (device : Device) :
    ∀ e ∈ (c.register device).2, e.isReport = true := by
  unfold register
  cases hu : (c.store.upsert device).2 with
  | inserted =>
    simp only [hu]
    exact isReport_of_mem_announce fun _ => rfl
  | merged changes =>
    simp only [hu]
    split
    · exact fun e mem => absurd mem List.not_mem_nil
    · exact isReport_of_mem_announce fun _ => rfl

/-- The outcome of a look-up is told, and the run goes on. -/
theorem step_ofOutcome (extract : Payload → AdvertisementData) {r : Run}
    (running : c.phase = .running r) (time : Nat) (o : Except PlatformError Resolution)
    {before : List Address} (kept : c.store.addresses = before.eraseDups) :
    ∃ store, (c.step extract (.ofOutcome r.id o)).1 = { c with store } ∧
      OutcomesTold [(time, o)] before ((c.step extract (.ofOutcome r.id o)).2.map (time, ·))
        store := by
  have failures := failures_step_of_running extract running (.ofOutcome r.id o)
  rw [if_pos (Action.run?_ofOutcome r.id o)] at failures
  -- An error changes nothing and is reported; a device goes into the list, under its address.
  cases o with
  | error e =>
    have step : c.step extract (.ofOutcome r.id (.error e)) = (c, [.failed e.kind]) :=
      step_resolutionFailed_of_running running e
    refine ⟨c.store, by rw [step], ?_, ?_, ?_⟩
    · rw [step]
      intro e' mem
      obtain ⟨e', here, rfl⟩ := List.mem_map.mp mem
      exact isReport_failed e e' here
    · rw [failures_at, failures]
      rfl
    · rw [kept]
      exact congrArg List.eraseDups (List.append_nil _).symm
  | ok resolution =>
    have step : c.step extract (.ofOutcome r.id (.ok resolution)) =
        c.register (r.deviceOf resolution) := withRun_of_running running _
    refine ⟨_, by rw [step]; exact fst_register c _, ?_, ?_, ?_⟩
    · rw [step]
      intro e mem
      obtain ⟨e, here, rfl⟩ := List.mem_map.mp mem
      exact isReport_of_mem_register c _ e here
    · rw [failures_at, failures]
      rfl
    · show (c.store.upsert (r.deviceOf resolution)).1.addresses =
        (before ++ [resolution.identity.address]).eraseDups
      rw [DeviceStore.addresses_upsert, address_deviceOf, kept]
      split
      -- A device that is known keeps its place.
      next known => exact (eraseDups_concat_of_mem (List.mem_eraseDups.mp known)).symm
      next new =>
        exact (eraseDups_concat_of_not_mem (mt List.mem_eraseDups.mpr new)).symm

/-- A run that only waits for some look-ups of classic devices. -/
def LooksUp (c : Coordinator) (run : RunId) (pending : Nat) : Prop :=
  ∃ r, c.phase = .running r ∧ r.id = run ∧ r.openEnumerations = 0 ∧ r.watching = false ∧
    r.pendingLowEnergy = 0 ∧ r.pendingClassic = pending

/-- The outcome of a look-up is one less to wait for; the last finishes the run. -/
theorem LooksUp.outcome (h : c.LooksUp run (k + 1)) (extract : Payload → AdvertisementData)
    (time : Nat) (o : Except PlatformError Resolution) {before : List Address}
    (kept : c.store.addresses = before.eraseDups) :
    let out := c.timed extract (courseOfOutcomes run [(time, o)])
    ∃ told, OutcomesTold [(time, o)] before told out.1.store ∧
      if k = 0 then out.1.phase = .idle ∧ out.2 = told ++ [(time, .finished)]
      else out.1.LooksUp run k ∧ out.2 = told := by
  obtain ⟨r, running, rfl, enumerated, unwatched, alone, pending⟩ := h
  obtain ⟨store, taken, told⟩ := step_ofOutcome extract running time o kept
  have running' : ({ c with store } : Coordinator).phase = .running r := running
  have ended : ({ c with store } : Coordinator).step extract (.lookupEnded r.id .classic) =
      ({ c with store } : Coordinator).continueRun (r.countLookup .classic) :=
    withRun_of_running running' _
  -- The outcome is two actions: what it brings is taken in, and then the look-up is counted off.
  have out : c.timed extract (courseOfOutcomes r.id [(time, o)]) =
      ((({ c with store } : Coordinator).continueRun (r.countLookup .classic)).1,
        (c.step extract (.ofOutcome r.id o)).2.map (time, ·) ++
          (({ c with store } : Coordinator).continueRun
            (r.countLookup .classic)).2.map (time, ·)) := by
    have course : courseOfOutcomes r.id [(time, o)] =
        [(time, .ofOutcome r.id o), (time, .lookupEnded r.id .classic)] := rfl
    rw [course, timed_cons, timed_cons, taken, ended]
    show (_, _ ++ (_ ++ [])) = _
    rw [List.append_nil]
    rfl
  -- There is no enumeration, watcher or look-up of the other kind to wait for.
  have complete : (r.countLookup .classic).isComplete = decide (k = 0) := by
    unfold Run.isComplete Run.countLookup Run.pending
    simp [enumerated, unwatched, alone, pending]
    rfl
  rw [out]
  unfold continueRun
  rw [complete]
  refine ⟨(c.step extract (.ofOutcome r.id o)).2.map (time, ·), ?_, ?_⟩
  · by_cases last : k = 0 <;> simpa [last, finish] using told
  · by_cases last : k = 0
    · simp [last, finish]
    · simp only [last, decide_false, Bool.false_eq_true, if_false, List.map_nil, List.append_nil,
        and_true]
      refine ⟨_, rfl, ?_, ?_, ?_, ?_, ?_⟩ <;> unfold Run.countLookup <;> simp [*]

theorem LooksUp.row {row : Outcomes} (h : c.LooksUp run (row.length + k)) (more : k ≠ 0)
    (extract : Payload → AdvertisementData) {before : List Address}
    (kept : c.store.addresses = before.eraseDups) :
    let out := c.timed extract (courseOfOutcomes run row)
    out.1.LooksUp run k ∧ OutcomesTold row before out.2 out.1.store := by
  -- One outcome after another, with the addresses of those before it as what is listed already.
  induction row generalizing c before with
  | nil =>
    rw [List.length_nil, zero_add] at h
    refine ⟨h, fun e mem => absurd mem List.not_mem_nil, rfl, ?_⟩
    exact kept.trans (congrArg List.eraseDups (List.append_nil _).symm)
  | cons x row ih =>
    obtain ⟨time, o⟩ := x
    rw [List.length_cons, Nat.add_right_comm] at h
    obtain ⟨told, first, goesOn⟩ := h.outcome extract time o kept
    rw [if_neg (by omega)] at goesOn
    obtain ⟨waiting, events⟩ := goesOn
    obtain ⟨still, rest⟩ := ih waiting first.addresses
    have split : courseOfOutcomes run ((time, o) :: row) =
        courseOfOutcomes run [(time, o)] ++ courseOfOutcomes run row :=
      courseOf_append run [(time, .lookedUp .classic o)] _
    rw [split, timed_append]
    refine ⟨still, ?_⟩
    dsimp only
    rw [events]
    exact first.append rest

/-- A run finishes with the last outcome that it waits for. -/
theorem LooksUp.finishes {row : Outcomes} {last : Nat × Except PlatformError Resolution}
    (h : c.LooksUp run (row.length + 1)) (extract : Payload → AdvertisementData)
    {before : List Address}
    (kept : c.store.addresses = before.eraseDups) :
    let out := c.timed extract (courseOfOutcomes run (row ++ [last]))
    out.1.phase = .idle ∧ ∃ told, OutcomesTold (row ++ [last]) before told out.1.store ∧
      out.2 = told ++ [(last.1, .finished)] := by
  obtain ⟨waiting, first⟩ := h.row Nat.one_ne_zero extract kept
  obtain ⟨told, ends, finished⟩ := waiting.outcome (k := 0) extract last.1 last.2 first.addresses
  rw [if_pos rfl] at finished
  have split : courseOfOutcomes run (row ++ [last]) =
      courseOfOutcomes run row ++ courseOfOutcomes run [last] := by
    unfold courseOfOutcomes
    rw [List.map_append, courseOf_append]
  rw [split, timed_append]
  refine ⟨finished.1, _, first.append ends, ?_⟩
  dsimp only
  rw [List.append_assoc, finished.2]

end Coordinator

theorem Coordinator.LooksUp.isRunning (h : c.LooksUp run k) : c.isRunning run = true := by
  obtain ⟨r, running, rfl, -⟩ := h
  exact isRunning_of_running running

namespace Simulation

variable {s : Scenario} {time : Nat} {slot : Selector} {log : List (Nat × Doing)}

/-! ### The agenda of look-ups -/

/-- What a look-up comes to. -/
def Doing.outcome? : Doing → Option (Except PlatformError Resolution)
  | .lookedUp _ outcome => some outcome
  | _ => none

/-- What a look-up comes to, with its time. -/
def timedOutcome? (x : Nat × Doing) : Option (Nat × Except PlatformError Resolution) :=
  x.2.outcome?.map (x.1, ·)

theorem fst_eq_of_timedOutcome? {x : Nat × Doing} {o : Nat × Except PlatformError Resolution}
    (here : timedOutcome? x = some o) : o.1 = x.1 := by
  obtain ⟨_, -, rfl⟩ := Option.map_eq_some_iff.mp here
  rfl

/-- The outcomes in a log. -/
def outcomesOf (log : List (Nat × Doing)) : Outcomes := log.filterMap timedOutcome?

/-- Whether something is done as classic devices are looked up. -/
def Doing.isOfLookup (slot : Selector) : Doing → Bool
  | .asked _ => true
  | .lookedUp slot' _ => slot' == slot
  | _ => false

/-- Calls are not heard of, so that the outcomes are the course of a run that looks up devices. -/
theorem courseOf_eq_courseOfOutcomes (h : ∀ x ∈ log, x.2.isOfLookup .classic = true) :
    courseOf run log = courseOfOutcomes run (outcomesOf log) := by
  induction log with
  | nil => rfl
  | cons x log ih =>
    have rest := ih fun y mem => h y (List.mem_cons_of_mem x mem)
    have first := h x List.mem_cons_self
    obtain ⟨time, d⟩ := x
    cases d with
    | asked call => exact rest
    | lookedUp slot o =>
      obtain rfl : slot = .classic := eq_of_beq first
      have split : outcomesOf ((time, .lookedUp .classic o) :: log) =
          (time, o) :: outcomesOf log := rfl
      rw [split]
      exact congrArg (courseOf run [(time, .lookedUp .classic o)] ++ ·) rest
    | _ => cases first

/-- What a row of look-ups has on the agenda, as far as a function selects it. -/
theorem filterMap_agendaOfLookups {β : Type} {f : Nat × Doing → Option β}
    {g : ScriptedDevice → List β}
    (each : ∀ d ∈ s.devices slot, (s.agendaOfLookup time slot ⟨d.id, slot⟩).filterMap f = g d) :
    (s.agendaOfLookups time slot).filterMap f = ((s.devices slot).flatMap g : List β) := by
  unfold Scenario.agendaOfLookups
  generalize s.devices slot = ds at each
  induction ds with
  | nil => rfl
  | cons d ds ih =>
    rw [List.map_cons, List.sum_cons, Multiset.filterMap_add, each d List.mem_cons_self,
      ih fun d' mem => each d' (List.mem_cons_of_mem d mem)]
    rfl

/-- Every entry comes to the outcome of the device that it stands for. -/
theorem outcomes_agendaOfLookups :
    (s.agendaOfLookups time slot).filterMap timedOutcome? =
      ((s.devices slot).map fun d => (s.original slot d).settled slot time :
        List (Nat × Except PlatformError Resolution)) := by
  rw [List.map_eq_flatMap]
  refine filterMap_agendaOfLookups fun d mem => ?_
  rw [Scenario.agendaOfLookup_of_find? (Scenario.find?_of_mem mem)]
  dsimp only
  split <;> rfl

/-- Every entry is asked for its identity, and for its services unless that fails. -/
theorem calls_agendaOfLookups :
    (s.agendaOfLookups time slot).filterMap (·.2.call?) =
      ((s.devices slot).flatMap fun d => .identify ⟨d.id, slot⟩ ::
        if (s.original slot d).asksForServices slot then [.services ⟨d.id, slot⟩] else [] :
        List Call) := by
  refine filterMap_agendaOfLookups fun d mem => ?_
  rw [Scenario.agendaOfLookup_of_find? (Scenario.find?_of_mem mem)]
  dsimp only
  split <;> rfl

/-- There is nothing else on the agenda. -/
theorem isOfLookup_of_mem_agenda {x : Nat × Doing} (mem : x ∈ s.agendaOfLookups time slot) :
    x.2.isOfLookup slot = true := by
  obtain ⟨d, known, mem⟩ := mem_sum_map.mp mem
  rw [Scenario.agendaOfLookup_of_find? (Scenario.find?_of_mem known)] at mem
  rcases Multiset.mem_add.mp mem with mem | mem
  · rcases Multiset.mem_cons.mp mem with rfl | mem
    · rfl
    · dsimp only at mem
      split at mem
      · rw [Multiset.mem_singleton.mp mem]
        rfl
      · exact absurd mem (Multiset.notMem_zero x)
  · rw [Multiset.mem_singleton.mp mem]
    exact beq_self_eq_true slot

/-- The calls of look-ups are counted. -/
theorem tally_calls (t : Tally) (ds : List ScriptedDevice) :
    (ds.flatMap fun d => Call.identify ⟨d.id, slot⟩ ::
      if (s.original slot d).asksForServices slot then [.services ⟨d.id, slot⟩] else []).foldl
        Tally.count t =
      { t with
        resolve := t.resolve + ds.length
        services := t.services + ds.countP fun d => (s.original slot d).asksForServices slot } := by
  induction ds generalizing t with
  | nil => rfl
  | cons d ds ih =>
    rw [List.flatMap_cons, List.foldl_append, ih, List.length_cons, List.countP_cons]
    cases (s.original slot d).asksForServices slot with
    | true => simp [Tally.count]; omega
    | false => simp [Tally.count]; omega

/-- Calls may be counted in any order. -/
theorem tally_perm {calls calls' : List Call} (perm : calls.Perm calls') (t : Tally) :
    calls.foldl Tally.count t = calls'.foldl Tally.count t := by
  refine perm.foldl_eq' (fun x _ y _ t => ?_) t
  cases x <;> cases y <;> rfl

/-! ### At work -/

/-- A run that looks up all devices of a script since a time. -/
structure LookingUp (s : Scenario) (run : RunId) (n time : Nat) (b w : World)
    (log : List (Nat × Doing)) : Prop
    extends Working s run n Turn.isLookup b (s.agendaOfLookups time .classic) w log where
  work : ∀ x ∈ log, x.2.isWork = true

/-- Unless a look-up has nothing on its agenda, it has an outcome there. -/
theorem Turn.exists_outcome_of_isLookup {turn : Turn} (h : turn.isLookup = true)
    (some : turn.agenda s time ≠ 0) :
    ∃ x ∈ turn.agenda s time, (timedOutcome? x).isSome = true := by
  have ofListing {time : Nat} {slot : Selector} {handle : Handle} {identity : Identity}
      {result : Except PlatformError ServiceListing} :
      ∃ x ∈ Scenario.agendaOfListing time slot handle identity result,
        (timedOutcome? x).isSome = true := ⟨_, Multiset.mem_singleton_self _, rfl⟩
  -- Whatever the identity is, the look-up comes to an outcome, if only after the services.
  have ofIdentity {time : Nat} {slot : Selector} {handle : Handle}
      {result : Except PlatformError Identity} :
      ∃ x ∈ s.agendaOfIdentity time slot handle result, (timedOutcome? x).isSome = true := by
    cases result with
    | error e => exact ⟨_, Multiset.mem_singleton_self _, rfl⟩
    | ok identity =>
      unfold Scenario.agendaOfIdentity
      dsimp only
      split
      · obtain ⟨x, mem, here⟩ := ofListing
        exact ⟨x, Multiset.mem_cons_of_mem mem, here⟩
      · exact ⟨_, Multiset.mem_singleton_self _, rfl⟩
  cases turn with
  | call caller =>
    cases caller with
    | identity run slot handle =>
      obtain ⟨x, mem, here⟩ := ofIdentity
      exact ⟨x, Multiset.mem_cons_of_mem mem, here⟩
    | _ => cases h
  | take caller answer stopFirst =>
    cases caller with
    | identity run slot handle =>
      cases answer with
      | identity result => exact ofIdentity
      | _ => exact absurd rfl some
    | services run slot handle identity =>
      cases answer with
      | services result => exact ofListing
      | _ => exact absurd rfl some
    | _ => cases h
  | _ => cases h

namespace LookingUp

variable {n : Nat} {b w : World} {turn : Turn} {rest : List Turn}

theorem step (h : LookingUp s run n time b w log) (running : w.coordinator.isRunning run = true)
    (queue : w.queue = turn :: rest) :
    ∃ log', LookingUp s run n time b ({ w with queue := rest }.perform turn) log' ∧
      ({ w with queue := rest }.perform turn).effort < w.effort := by
  have head : (w.now, turn) ∈ w.line := by
    rw [World.line_of_queue queue]
    exact List.mem_cons_self
  -- A turn of this run is one for a look-up, and hands its agenda on.
  by_cases own : turn.run? = some run
  · have lookup := h.own _ head own
    have plain := Turn.isPlain_of_isLookup lookup
    obtain ⟨turned, -⟩ :=
      turned_of_plain (w := { w with queue := rest }) (n := n) h.radio plain own running
    have agenda : (turn.effect s w.now).agenda s w.now = turn.agenda s w.now :=
      Turn.agenda_effect plain
    have taken := h.toWorking.taken queue turned
      (fun _ => ⟨agenda, Turn.isLookup_of_mem_effect lookup⟩) (fun other => absurd own other)
    refine ⟨_, ⟨taken, fun x mem => ?_⟩, turned.effort_lt h.radio queue turned.effort⟩
    rcases List.mem_append.mp mem with old | new
    · exact h.work x old
    · obtain ⟨d, here, rfl⟩ := List.mem_map.mp new
      exact Turn.forall_doings_of_isLookup (P := fun d => d.isWork = true) lookup
        (fun _ => rfl) (fun _ _ => rfl) d here
  · -- A turn of another run is one of a run that is over, since this one is under way.
    have stale : w.coordinator.phase.owner ≠ turn.run? := by
      rw [Coordinator.owner_of_isRunning running]
      exact Ne.symm own
    obtain ⟨e, none, turned, -⟩ :=
      turned_of_stale (s := s) (w := { w with queue := rest }) (h.fair _ head) stale run
    have taken := h.toWorking.taken queue turned (fun mine => absurd mine own) (fun _ => none)
    refine ⟨_, ⟨taken, fun x mem => ?_⟩, turned.effort_lt h.radio queue turned.effort⟩
    rw [none, List.map_nil, List.append_nil] at mem
    exact h.work x mem

/-- Everything that is done is done for a look-up. -/
theorem isOfLookup (h : LookingUp s run n time b w log) :
    ∀ x ∈ log, x.2.isOfLookup .classic = true := by
  intro x mem
  have part : x ∈ s.agendaOfLookups time .classic := by
    rw [← h.account]
    refine Multiset.mem_add.mpr (.inl ?_)
    exact List.mem_filter.mpr ⟨mem, h.work x mem⟩
  exact isOfLookup_of_mem_agenda part

/-- What has come to an outcome and what is still to come to one are all entries. -/
theorem outcomes_eq (h : LookingUp s run n time b w log) :
    (outcomesOf log : Multiset (Nat × Except PlatformError Resolution)) +
        (agendaOf s run w.line).filterMap timedOutcome? =
      (s.classicDevices.map fun d => (s.original .classic d).settled .classic time :
        List (Nat × Except PlatformError Resolution)) := by
  have account := congrArg (Multiset.filterMap timedOutcome?) h.account
  rw [Multiset.filterMap_add, Multiset.filterMap_coe, outcomes_agendaOfLookups,
    List.filter_eq_self.mpr h.work] at account
  exact account

theorem length_outcomes_le (h : LookingUp s run n time b w log) :
    (outcomesOf log).length ≤ s.classicDevices.length := by
  have card := congrArg Multiset.card h.outcomes_eq
  rw [Multiset.card_add, Multiset.coe_card, Multiset.coe_card, List.length_map] at card
  omega

/-- The run goes on as long as an outcome is missing. -/
theorem looksUp (h : LookingUp s run n time b w log)
    (begins : b.coordinator.LooksUp run s.classicDevices.length)
    (empty : b.coordinator.store.addresses = [])
    (missing : (outcomesOf log).length < s.classicDevices.length) :
    w.coordinator.LooksUp run (s.classicDevices.length - (outcomesOf log).length) := by
  have parts : s.classicDevices.length =
      (outcomesOf log).length + (s.classicDevices.length - (outcomesOf log).length) := by omega
  have begins' : b.coordinator.LooksUp run
      ((outcomesOf log).length + (s.classicDevices.length - (outcomesOf log).length)) :=
    parts ▸ begins
  have empty' : b.coordinator.store.addresses = ([] : List Address).eraseDups := empty
  have left := (begins'.row (by omega) b.extract empty').1
  rw [h.logged.coordinator, courseOf_eq_courseOfOutcomes h.isOfLookup]
  exact left

/-- When no outcome is missing any more, nothing is left to be done. -/
theorem agenda_eq_zero (h : LookingUp s run n time b w log)
    (all : (outcomesOf log).length = s.classicDevices.length) : agendaOf s run w.line = 0 := by
  have card := congrArg Multiset.card h.outcomes_eq
  rw [Multiset.card_add, Multiset.coe_card, Multiset.coe_card, List.length_map, all] at card
  have none : (agendaOf s run w.line).filterMap timedOutcome? = 0 :=
    Multiset.card_eq_zero.mp (by omega)
  -- A turn of the run with anything on its agenda has an outcome to come.
  refine Multiset.eq_zero_of_forall_notMem fun y mem => ?_
  obtain ⟨x, here, own, there⟩ := mem_agendaOf_iff.mp mem
  have some : x.2.agenda s x.1 ≠ 0 := fun none => Multiset.notMem_zero y (none ▸ there)
  obtain ⟨z, part, outcome⟩ := Turn.exists_outcome_of_isLookup (h.own x here own) some
  obtain ⟨o, ho⟩ := Option.isSome_iff_exists.mp outcome
  have left : o ∈ (agendaOf s run w.line).filterMap timedOutcome? :=
    (Multiset.mem_filterMap _ _).mpr ⟨z, mem_agendaOf_iff.mpr ⟨x, here, own, part⟩, ho⟩
  rw [none] at left
  exact Multiset.notMem_zero o left

/-- An outcome that is missing is still to come, in time. -/
theorem exists_le_of_missing (h : LookingUp s run n time b w log)
    (missing : (outcomesOf log).length < s.classicDevices.length) :
    ∃ x ∈ w.line, x.1 ≤ time + s.lookupsTime .classic := by
  -- What is told and what is still on the agenda are all devices together, so that a missing
  -- outcome is on the agenda of a turn in the line.
  have card := congrArg Multiset.card h.outcomes_eq
  rw [Multiset.card_add, Multiset.coe_card, Multiset.coe_card, List.length_map] at card
  have left : 0 < ((agendaOf s run w.line).filterMap timedOutcome?).card := by omega
  obtain ⟨o, mem⟩ := Multiset.card_pos_iff_exists_mem.mp left
  have early : o.1 ≤ time + s.lookupsTime .classic := by
    have all : o ∈ (s.classicDevices.map fun d => (s.original .classic d).settled .classic time :
        List (Nat × Except PlatformError Resolution)) :=
      Multiset.mem_coe.mp (h.outcomes_eq ▸ Multiset.mem_add.mpr (.inr mem))
    obtain ⟨d, known, rfl⟩ := List.mem_map.mp all
    have known : d ∈ s.devices .classic := known
    exact Nat.add_le_add_left (Scenario.lookupTime_le_lookupsTime known) time
  obtain ⟨y, here, outcome⟩ := (Multiset.mem_filterMap _ _).mp mem
  obtain ⟨x, inLine, -, part⟩ := mem_agendaOf_iff.mp here
  rw [fst_eq_of_timedOutcome? outcome] at early
  exact ⟨x, inLine, (Turn.le_of_mem_agenda part).trans early⟩

theorem wake (h : LookingUp s run n time b w log) {t : Timer} {ts : List Timer}
    (empty : w.queue = []) (timers : w.timers = t :: ts) :
    LookingUp s run n time b (w.wake t.deadline) log :=
  ⟨h.toWorking.wake empty timers, h.work⟩

end LookingUp

/-- What is left when all classic devices of a script have been looked up, beginning at a time in a
world `b`.  The look-ups end in some order, each at its time. -/
structure LookedUp (s : Scenario) (time : Nat) (b w : World) : Prop where
  idle : w.coordinator.phase = .idle
  row : ∃ row : List ScriptedDevice, row.Perm (s.classicDevices.map (s.original .classic)) ∧
    row.Pairwise (·.lookupTime .classic ≤ ·.lookupTime .classic) ∧
    ∃ told, OutcomesTold (row.map (·.settled .classic time)) [] told w.coordinator.store ∧
      w.events = b.events ++ told ++ [(time + s.lookupsTime .classic, .finished)]
  tally : w.tally = { b.tally with
    resolve := b.tally.resolve + s.classicDevices.length
    services := b.tally.services +
      s.classicDevices.countP fun d => (s.original .classic d).asksForServices .classic }

/-- A row that has the members of another under a function is a row of them under that function. -/
theorem exists_map_of_perm {α β : Type} {f : α → β} {bs : List β} {as : List α}
    (perm : bs.Perm (as.map f)) : ∃ as' : List α, as'.Perm as ∧ bs = as'.map f := by
  induction bs generalizing as with
  | nil =>
    have none := List.map_eq_nil_iff.mp perm.symm.eq_nil
    exact ⟨[], by rw [none], rfl⟩
  | cons b bs ih =>
    obtain ⟨a, mem, rfl⟩ := List.mem_map.mp (perm.subset List.mem_cons_self)
    obtain ⟨before, behind, rfl⟩ := List.append_of_mem mem
    have middle : (before ++ a :: behind).Perm (a :: (before ++ behind)) := List.perm_middle
    obtain ⟨as', left, rfl⟩ := ih (perm.trans (middle.map f)).cons_inv
    exact ⟨a :: as', (left.cons a).trans middle.symm, rfl⟩

/-- The last of an ascending row is the largest. -/
theorem foldr_max_of_pairwise {ns init : List Nat} {last : Nat}
    (perm : (init ++ [last]).Perm ns) (ascending : (init ++ [last]).Pairwise (· ≤ ·)) :
    ns.foldr max 0 = last := by
  have largest : ∀ m ∈ init, m ≤ last := fun m mem =>
    (List.pairwise_append.mp ascending).2.2 m mem last List.mem_cons_self
  rw [← perm.foldr_eq, List.foldr_append]
  show init.foldr max (max last 0) = last
  rw [Nat.max_zero]
  clear perm ascending
  induction init with
  | nil => rfl
  | cons m init ih =>
    rw [List.foldr_cons, ih fun m' mem => largest m' (List.mem_cons_of_mem m mem)]
    exact Nat.max_eq_right (largest m List.mem_cons_self)

/-- The last look-up of an ascending row takes as long as all of them. -/
theorem lookupsTime_eq_of_perm {init : List ScriptedDevice} {last : ScriptedDevice}
    (perm : (init ++ [last]).Perm (s.classicDevices.map (s.original .classic)))
    (ascending : (init ++ [last]).Pairwise (·.lookupTime .classic ≤ ·.lookupTime .classic)) :
    s.lookupsTime .classic = last.lookupTime .classic := by
  have times := perm.map (·.lookupTime .classic)
  have ascending' := List.pairwise_map.mpr ascending
  rw [List.map_append, List.map_map] at times
  rw [List.map_append] at ascending'
  exact foldr_max_of_pairwise times ascending'

namespace LookingUp

variable {n : Nat} {b w : World}

/-- The outcomes, when none is missing any more, are those of all entries in an order in which their
look-ups can end. -/
theorem exists_row (h : LookingUp s run n time b w log)
    (all : (outcomesOf log).length = s.classicDevices.length) :
    ∃ row : List ScriptedDevice, row.Perm (s.classicDevices.map (s.original .classic)) ∧
      row.Pairwise (·.lookupTime .classic ≤ ·.lookupTime .classic) ∧
      outcomesOf log = row.map (·.settled .classic time) := by
  have outcomes : (outcomesOf log).Perm
      ((s.classicDevices.map (s.original .classic)).map (·.settled .classic time)) := by
    have eq := h.outcomes_eq
    rw [h.agenda_eq_zero all, Multiset.filterMap_zero, add_zero] at eq
    rw [List.map_map]
    exact Multiset.coe_eq_coe.mp eq
  obtain ⟨row, perm, same⟩ := exists_map_of_perm outcomes
  have ordered : (outcomesOf log).Pairwise (·.1 ≤ ·.1) := by
    refine h.ordered.filterMap _ fun x y le o ho o' ho' => ?_
    rw [fst_eq_of_timedOutcome? ho, fst_eq_of_timedOutcome? ho']
    exact le
  rw [same, List.pairwise_map] at ordered
  exact ⟨row, perm, ordered.imp fun le => Nat.le_of_add_le_add_left le, same⟩

/-- When no outcome is missing any more, all calls have been made. -/
theorem tally_eq (h : LookingUp s run n time b w log)
    (all : (outcomesOf log).length = s.classicDevices.length) :
    w.tally = { b.tally with
      resolve := b.tally.resolve + s.classicDevices.length
      services := b.tally.services +
        s.classicDevices.countP fun d => (s.original .classic d).asksForServices .classic } := by
  have done : (log : Multiset (Nat × Doing)) = s.agendaOfLookups time .classic := by
    have account := h.account
    rw [h.agenda_eq_zero all, add_zero, List.filter_eq_self.mpr h.work] at account
    exact account
  have calls : (s.agendaOfLookups time .classic).filterMap (·.2.call?) = _ := calls_agendaOfLookups
  rw [← done, Multiset.filterMap_coe] at calls
  rw [h.logged.tally, tally_perm (Multiset.coe_eq_coe.mp calls), tally_calls]
  rfl

theorem complete (h : LookingUp s run n time b w log)
    (begins : b.coordinator.LooksUp run s.classicDevices.length)
    (empty : b.coordinator.store.addresses = [])
    (all : (outcomesOf log).length = s.classicDevices.length) (known : s.classicDevices ≠ []) :
    LookedUp s time b w := by
  obtain ⟨row, perm, ascending, same⟩ := h.exists_row all
  -- The run finishes with the last of the row, so the row is taken apart from behind.
  rcases List.eq_nil_or_concat row with rfl | ⟨init, last, rfl⟩
  · rw [List.nil_perm, List.map_eq_nil_iff] at perm
    exact absurd perm known
  rw [List.concat_eq_append] at perm same ascending
  rw [List.map_append, List.map_singleton] at same
  have ends : b.coordinator.LooksUp run ((init.map (·.settled .classic time)).length + 1) := by
    have length := congrArg List.length same
    rw [all, List.length_append] at length
    rw [length] at begins
    exact begins
  have course : courseOf run log = courseOfOutcomes run (outcomesOf log) :=
    courseOf_eq_courseOfOutcomes h.isOfLookup
  have empty' : b.coordinator.store.addresses = ([] : List Address).eraseDups := empty
  obtain ⟨idle, told, tells, events⟩ := ends.finishes b.extract empty'
  rw [← same, ← course] at idle tells events
  rw [← h.logged.coordinator] at idle tells
  constructor
  case idle => exact idle
  case row =>
    refine ⟨init ++ [last], perm, ascending, told, ?_, ?_⟩
    · rw [List.map_append, List.map_singleton, ← same]
      exact tells
    · rw [h.logged.events, events, ← List.append_assoc, lookupsTime_eq_of_perm perm ascending]
      rfl
  case tally => exact h.tally_eq all

end LookingUp

end Simulation

end BluetoothDiscovery
