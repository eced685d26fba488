import BluetoothDiscovery.Proofs.Coordinator.Failures
import BluetoothDiscovery.Proofs.Observations.Fold
import BluetoothDiscovery.Proofs.Schedule.Invariant
import BluetoothDiscovery.Proofs.Schedule.Record

/-!
# The ledger of a run

A device that an enumeration returns is looked up by a task of its own, which tells what it came to
in one step and ends in another.  In between, and until then, anything may happen.  The `Ledger` of
the present run is what every step keeps nevertheless: of the devices that were returned, each has
either come to one outcome or is still being looked up, and each failure has announced one error.

A deed that the run takes in is entered by what it does to the tasks of the run (`Entry`); all other
deeds leave the ledger as it is.
-/

namespace BluetoothDiscovery

open Coordinator (after eventsOf granted told_of_granted_lt)

variable {extract : Payload → AdvertisementData} {c : Coordinator} {r : Run} {a : Action}
  {id : RunId} {t : Task} {more rest tasks : Multiset Task} {s s' : System} {d : Deed}
  {ds : List Deed}

/-! ### What tasks are at -/

namespace Task

/-- The device that a task looks up for a run. -/
def candidate? (id : RunId) : Task → Option Candidate
  | .lookup run slot handle => if run = id then some ⟨slot, handle⟩ else none
  | _ => none

theorem candidate?_eq_some_iff {x : Candidate} :
    t.candidate? id = some x ↔ t = .lookup id x.slot x.handle := by
  cases t with
  | lookup run slot handle =>
    obtain ⟨slot', handle'⟩ := x
    simp [candidate?]
  | _ => simp [candidate?]

/-- The devices that are being looked up for a run. -/
def lookups (tasks : Multiset Task) (id : RunId) : Multiset Candidate :=
  tasks.filterMap (candidate? id)

@[simp]
theorem lookups_add (ts us : Multiset Task) (id : RunId) :
    lookups (ts + us) id = lookups ts id + lookups us id :=
  Multiset.filterMap_add _ _ _

theorem lookups_cons_of_not_lookup (other : t.candidate? id = none) (ts : Multiset Task) :
    lookups (t ::ₘ ts) id = lookups ts id :=
  Multiset.filterMap_cons_none _ _ other

theorem lookups_cons_of_lookup {x : Candidate} (own : t.candidate? id = some x)
    (ts : Multiset Task) : lookups (t ::ₘ ts) id = x ::ₘ lookups ts id :=
  Multiset.filterMap_cons_some _ _ _ own

theorem lookups_eq_zero (others : ∀ t ∈ tasks, t.candidate? id = none) : lookups tasks id = 0 := by
  refine Multiset.eq_zero_of_forall_notMem fun x mem => ?_
  obtain ⟨t, there, own⟩ := (Multiset.mem_filterMap _ _).mp mem
  rw [others t there] at own
  cases own

theorem candidate?_of_not_lookup (other : t.isLookup = false) : t.candidate? id = none := by
  cases t with
  | lookup => cases other
  | _ => rfl

theorem candidate?_of_run_ne (other : t.run ≠ id) : t.candidate? id = none := by
  cases t with
  | lookup => exact if_neg other
  | _ => rfl

theorem lookups_cons_of_run_ne (other : t.run ≠ id) (ts : Multiset Task) :
    lookups (t ::ₘ ts) id = lookups ts id :=
  lookups_cons_of_not_lookup (candidate?_of_run_ne other) ts

/-- What is looked up is work. -/
theorem mem_work_of_mem_lookups {x : Candidate} (mem : x ∈ lookups tasks id) :
    .lookup x.slot ∈ work tasks id := by
  obtain ⟨t, there, own⟩ := (Multiset.mem_filterMap _ _).mp mem
  obtain rfl := candidate?_eq_some_iff.mp own
  exact mem_work_of_mem there rfl

/-- Every device that an enumeration returned is looked up. -/
theorem lookups_ofHandles (slot : Selector) (result : Except PlatformError (List Handle)) :
    lookups (ofHandles id slot result) id =
      (Action.found (.enumerated id slot result) : Multiset Candidate) := by
  cases result with
  | error e => rfl
  | ok handles =>
    induction handles with
    | nil => rfl
    | cons handle handles ih =>
      have cons : ofHandles id slot (.ok (handle :: handles)) =
          .lookup id slot handle ::ₘ ofHandles id slot (.ok handles) := rfl
      have own : (lookup id slot handle).candidate? id = some ⟨slot, handle⟩ :=
        candidate?_eq_some_iff.mpr rfl
      rw [cons, lookups_cons_of_lookup own, ih]
      rfl

/-- How many watchers are open or being opened for a run. -/
def watchers (tasks : Multiset Task) (id : RunId) : Nat :=
  (work tasks id).count .opening + (work tasks id).count .watching

@[simp]
theorem watchers_add (ts us : Multiset Task) (id : RunId) :
    watchers (ts + us) id = watchers ts id + watchers us id := by
  unfold watchers
  rw [work_add, Multiset.count_add, Multiset.count_add]
  omega

theorem watchers_cons (t : Task) (ts : Multiset Task) (id : RunId) :
    watchers (t ::ₘ ts) id = watchers {t} id + watchers ts id := by
  rw [← Multiset.singleton_add, watchers_add]

theorem watchers_cons_of_run_ne (other : t.run ≠ id) (ts : Multiset Task) :
    watchers (t ::ₘ ts) id = watchers ts id := by
  unfold watchers
  rw [work_cons, if_neg other, zero_add]

theorem watchers_of_work_eq_zero (none : work tasks id = 0) : watchers tasks id = 0 := by
  unfold watchers
  rw [none]
  rfl

/-- What a task other than a look-up does to the devices that are looked up for its run, and to the
watchers. -/
theorem Does.accounts (does : t.Does c a more) (own : t.run = id)
    (running : c.isRunning id = true) (other : t.isLookup = false) :
    lookups more id = (a.found : Multiset Candidate) ∧
      a.isLoss.toNat + watchers more id ≤ watchers {t} id := by
  -- Only an enumeration finds devices, and only the tasks of the watcher can lose it or keep it.
  cases does with
  | checked id' methods timed state =>
    obtain rfl : id' = id := own
    obtain ⟨r, present, -⟩ := Coordinator.isRunning_iff.mp running
    -- The run is under way, so that a check of its adapter comes too late to begin it.
    rw [Coordinator.isStarting_eq_false_of_running present]
    exact ⟨rfl, Nat.zero_le _⟩
  | gaveUp => exact ⟨rfl, Nat.zero_le _⟩
  | enumerated id' selector result =>
    obtain rfl : id' = id := own
    rw [if_pos running, lookups_ofHandles]
    refine ⟨rfl, ?_⟩
    cases result with
    | error e => exact Nat.zero_le _
    | ok handles =>
      -- The look-ups that are handed on are no watchers.
      unfold watchers
      rw [work_ofHandles, Multiset.count_replicate, Multiset.count_replicate]
      exact Nat.zero_le _
  | resolved => cases other
  | failed => cases other
  | dropped => cases other
  | ended => exact ⟨rfl, Nat.zero_le _⟩
  | opened id' =>
    obtain rfl : id' = id := own
    rw [if_pos running]
    refine ⟨rfl, ?_⟩
    simp [watchers, Action.isLoss, Task.run, pieces]
  | unopened id' e =>
    obtain rfl : id' = id := own
    refine ⟨rfl, ?_⟩
    simp [watchers, Action.isLoss, Task.run, pieces]
  | heard id' report => exact ⟨rfl, le_of_eq (Nat.zero_add _)⟩
  | closed id' e =>
    obtain rfl : id' = id := own
    refine ⟨rfl, ?_⟩
    simp [watchers, Action.isLoss, Task.run, pieces]
  | expired => exact ⟨rfl, Nat.zero_le _⟩

end Task

/-! ### One deed -/

/-- What a deed that a run takes in does to the tasks of the run. -/
structure Entry (d : Deed) (id : RunId) (tasks tasks' : Multiset Task) : Prop where
  found_eq : (d.action.found : Multiset Candidate) + Task.lookups tasks id =
    (d.settles?.toList.map Settlement.candidate : List Candidate) + Task.lookups tasks' id
  settles (x : Settlement) : d.settles? = some x → d.action = .ofOutcome id x.outcome
  unsettled (run : RunId) (e : PlatformError) :
    d.settles? = none → d.action ≠ .resolutionFailed run e
  losses_le : d.action.isLoss.toNat + Task.watchers tasks' id ≤ Task.watchers tasks id

theorem System.Recorded.entry (h : System.Recorded extract s d s')
    (running : s.coordinator.isRunning id = true) (meant : d.action.run? = some id) :
    Entry d id s.tasks s'.tasks := by
  cases h with
  | request => cases meant
  | stop => cases meant
  | @work t rest present other a more does =>
    have own : t.run = id := Option.some.inj (does.action_run.symm.trans meant)
    obtain ⟨lookups, losses⟩ := does.accounts own running other
    rw [present]
    constructor
    case found_eq =>
      rw [Task.lookups_cons_of_not_lookup (Task.candidate?_of_not_lookup other),
        Task.lookups_add, lookups]
      exact (zero_add _).symm
    case settles => exact fun x none => nomatch none
    case unsettled =>
      rintro run e - rfl
      cases does
      cases other
    case losses_le =>
      rw [Task.watchers_cons, Task.watchers_add, ← add_assoc]
      exact Nat.add_le_add_right losses _
  | lookup run x rest present =>
    rw [Action.run?_ofOutcome] at meant
    obtain rfl : run = id := Option.some.inj meant
    have candidate : (Task.lookup run x.candidate.slot x.candidate.handle).candidate? run =
        some x.candidate := Task.candidate?_eq_some_iff.mpr rfl
    have ending : (Task.ending run x.candidate.slot).candidate? run = none := rfl
    rw [present]
    constructor
    case found_eq =>
      rw [Action.found_ofOutcome, Task.lookups_cons_of_lookup candidate,
        Task.lookups_cons_of_not_lookup ending]
      exact (zero_add _).trans (Multiset.singleton_add _ _).symm
    case settles =>
      intro x' same
      obtain rfl := Option.some.inj same
      rfl
    case unsettled => exact fun _ _ none => nomatch none
    case losses_le =>
      rw [Action.isLoss_ofOutcome, Task.watchers_cons _ rest, Task.watchers_cons _ rest]
      simp [Task.watchers, Task.run, Task.pieces]
  | dropped run slot handle rest present past =>
    -- A look-up is dropped only after its run, and this one is under way.
    obtain rfl : run = id := Option.some.inj meant
    rw [running] at past
    cases past

/-- What a run does not take in leaves its look-ups and watchers as they are. -/
theorem System.Recorded.aside (h : System.Recorded extract s d s')
    (running : s.coordinator.phase = .running r) (other : d.action.run? ≠ some r.id) :
    Task.lookups s'.tasks r.id = Task.lookups s.tasks r.id ∧
      Task.watchers s'.tasks r.id = Task.watchers s.tasks r.id := by
  cases h with
  | request methods timed =>
    rw [System.checks, Coordinator.grants_eq_false_of_running running]
    simp
  | stop => exact ⟨rfl, rfl⟩
  | @work t rest present _ a more does =>
    -- A task works for one run, and what it hands on works for the same.
    have past : t.run ≠ r.id := by
      rintro own
      rw [does.action_run, own] at other
      exact other rfl
    have past' : ∀ u ∈ more, u.run ≠ r.id := fun u hu => does.run_of_mem hu ▸ past
    rw [present, Task.lookups_cons_of_run_ne past, Task.watchers_cons_of_run_ne past,
      Task.lookups_add, Task.watchers_add]
    constructor
    · rw [Task.lookups_eq_zero fun u hu => Task.candidate?_of_run_ne (past' u hu), zero_add]
    · rw [Task.watchers_of_work_eq_zero
        (Task.work_eq_zero fun u hu own => absurd own (past' u hu)), zero_add]
  | lookup run x rest present =>
    rw [Action.run?_ofOutcome] at other
    have past : (Task.lookup run x.candidate.slot x.candidate.handle).run ≠ r.id :=
      fun own => other (congrArg some own)
    have past' : (Task.ending run x.candidate.slot).run ≠ r.id := past
    rw [present, Task.lookups_cons_of_run_ne past, Task.watchers_cons_of_run_ne past]
    exact ⟨Task.lookups_cons_of_run_ne past' rest, Task.watchers_cons_of_run_ne past' rest⟩
  | dropped run slot handle rest present =>
    have past : (Task.lookup run slot handle).run ≠ r.id := fun own => other (congrArg some own)
    rw [present, Task.lookups_cons_of_run_ne past, Task.watchers_cons_of_run_ne past]
    exact ⟨rfl, rfl⟩

/-- What a deed reports is a failed enumeration, a failed look-up, or the loss of a watcher. -/
theorem Entry.length_failure {tasks' : Multiset Task} (h : Entry d id tasks tasks') :
    d.action.failure?.toList.length = d.action.isFailedEnumeration.toNat +
      d.settles?.toList.countP Settlement.failed + d.action.isLoss.toNat := by
  cases hs : d.settles? with
  | some x =>
    rw [h.settles x hs]
    unfold Option.toList
    rw [List.countP_singleton]
    unfold Settlement.failed
    cases x.outcome <;> rfl
  | none =>
    have other := h.unsettled
    cases ha : d.action with
    | resolutionFailed run e => exact absurd ha (other run e hs)
    | enumerated run slot result => cases result <;> rfl
    | _ => rfl

/-! ### Ledgers -/

/-- What the deeds that a run took in have to do with its tasks and with what it announced. -/
structure Ledger (extract : Payload → AdvertisementData) (ds : List Deed) (tasks : Multiset Task)
    (id : RunId) : Prop where
  /-- What was returned has come to an outcome or is being looked up. -/
  found_eq : (found (takenIn ds id) : Multiset Candidate) =
    ((settlements (takenIn ds id)).map Settlement.candidate : List Candidate) +
      Task.lookups tasks id
  told : ∀ d ∈ takenIn ds id, ∀ x, d.settles? = some x → d.action = .ofOutcome id x.outcome
  /-- What was looked up was observed. -/
  mem_observed : ∀ x ∈ settlements (takenIn ds id), ∀ resolution, x.outcome = .ok resolution →
    .lookUp resolution ∈ observed extract (ds.map Deed.action)
  failures_eq : (eventsOf extract (ds.map Deed.action) id).filterMap Event.failure? =
    (failures (takenIn ds id)).map PlatformError.kind
  length_failures : (failures (takenIn ds id)).length =
    (takenIn ds id).countP (·.action.isFailedEnumeration) +
      (settlements (takenIn ds id)).countP Settlement.failed +
      (takenIn ds id).countP (·.action.isLoss)
  losses_le : (takenIn ds id).countP (·.action.isLoss) + Task.watchers tasks id ≤ 1

namespace Ledger

/-- A run that has not taken in anything has an empty ledger. -/
theorem of_fresh (fresh : takenIn ds id = [])
    (silent : eventsOf extract (ds.map Deed.action) id = []) (lookups : Task.lookups tasks id = 0)
    (watchers : Task.watchers tasks id ≤ 1) : Ledger extract ds tasks id := by
  constructor
  case found_eq =>
    rw [fresh, lookups]
    rfl
  case told =>
    rw [fresh]
    exact fun d mem => absurd mem List.not_mem_nil
  case mem_observed =>
    rw [fresh]
    exact fun x mem => absurd mem List.not_mem_nil
  case failures_eq =>
    rw [fresh, silent]
    rfl
  case length_failures =>
    rw [fresh]
    rfl
  case losses_le =>
    rw [fresh]
    exact (Nat.zero_add _).trans_le watchers

variable {tasks' : Multiset Task}

/-- A deed that the run takes in is entered. -/
theorem concat (h : Ledger extract ds tasks r.id)
    (met : d.coordinator = after extract (ds.map Deed.action))
    (running : d.coordinator.phase = .running r) (meant : d.action.run? = some r.id)
    (entry : Entry d r.id tasks tasks') : Ledger extract (ds ++ [d]) tasks' r.id := by
  have counts : d.counts r.id = true :=
    Deed.counts_iff.mpr ⟨Coordinator.isRunning_of_running running, meant⟩
  have taken := takenIn_concat_of_counts ds counts
  have present : (after extract (ds.map Deed.action)).phase = .running r := by rwa [← met]
  constructor
  case found_eq =>
    -- Either side gets what the deed adds to it, and the look-ups in between make up for it.
    rw [taken, found_concat, settlements_concat, List.map_append, ← Multiset.coe_add,
      ← Multiset.coe_add, h.found_eq, add_assoc, add_comm (Task.lookups tasks r.id),
      entry.found_eq, add_assoc]
  case told =>
    rw [taken]
    intro d' mem
    rcases List.mem_append.mp mem with old | new
    · exact h.told d' old
    · rw [List.mem_singleton.mp new]
      exact entry.settles
  case mem_observed =>
    rw [taken, settlements_concat, actions_concat, observed_concat]
    intro x mem resolution ok
    rcases List.mem_append.mp mem with old | new
    · exact mem_observe_of_running present d.action (h.mem_observed x old resolution ok)
    · have settled : d.settles? = some x := Option.mem_toList.mp new
      rw [entry.settles x settled, ok]
      show _ ∈ observe extract _ ⟨_, .resolved r.id resolution⟩
      rw [observe_resolved present]
      exact List.mem_append_right _ (List.mem_singleton_self _)
  case failures_eq =>
    rw [actions_concat, Coordinator.eventsOf_concat_of_owner d.action (by rw [present]; rfl),
      List.filterMap_append, h.failures_eq,
      Coordinator.failures_step_of_meant extract present meant, taken, failures_concat,
      List.map_append]
  case length_failures =>
    rw [taken, failures_concat, settlements_concat, List.length_append, List.countP_append,
      List.countP_append, List.countP_append, h.length_failures, entry.length_failure,
      List.countP_singleton, List.countP_singleton]
    cases d.action.isFailedEnumeration <;> cases d.action.isLoss <;>
      simp only [Bool.toNat_true, Bool.toNat_false, if_true, Bool.false_eq_true, if_false] <;>
      omega
  case losses_le =>
    have before := h.losses_le
    have step := entry.losses_le
    rw [taken, List.countP_append, List.countP_singleton]
    -- A loss uses up the watcher, and a deed that opens one was counted as opening it before.
    cases loss : d.action.isLoss with
    | true =>
      rw [loss, Bool.toNat_true] at step
      rw [if_pos rfl]
      omega
    | false =>
      rw [loss, Bool.toNat_false] at step
      rw [if_neg Bool.false_ne_true]
      omega

/-- A deed that the run does not take in is passed over. -/
theorem concat_aside (h : Ledger extract ds tasks r.id)
    (met : d.coordinator = after extract (ds.map Deed.action))
    (running : d.coordinator.phase = .running r) (other : d.action.run? ≠ some r.id)
    (lookups : Task.lookups tasks' r.id = Task.lookups tasks r.id)
    (watchers : Task.watchers tasks' r.id = Task.watchers tasks r.id) :
    Ledger extract (ds ++ [d]) tasks' r.id := by
  have counts : d.counts r.id = false :=
    Bool.eq_false_iff.mpr fun counts => other (Deed.counts_iff.mp counts).2
  have taken := takenIn_concat_of_not_counts ds counts
  have present : (after extract (ds.map Deed.action)).phase = .running r := by rwa [← met]
  -- The row of deeds that the run takes in stays, and the run announces no failure with this one.
  constructor
  case found_eq =>
    rw [taken, lookups]
    exact h.found_eq
  case told =>
    rw [taken]
    exact h.told
  case mem_observed =>
    rw [taken, actions_concat, observed_concat]
    exact fun x mem resolution ok =>
      mem_observe_of_running present d.action (h.mem_observed x mem resolution ok)
  case failures_eq =>
    rw [taken, actions_concat, Coordinator.eventsOf_concat_of_owner d.action (by rw [present]; rfl),
      List.filterMap_append, Coordinator.failures_step_of_running extract present, if_neg other,
      List.append_nil]
    exact h.failures_eq
  case length_failures =>
    rw [taken]
    exact h.length_failures
  case losses_le =>
    rw [taken, watchers]
    exact h.losses_le

/-- Every step of a system keeps the ledger of the present run. -/
theorem step (h : Ledger extract ds s.tasks r.id)
    (met : s.coordinator = after extract (ds.map Deed.action))
    (running : s.coordinator.phase = .running r) (last : System.Recorded extract s d s') :
    Ledger extract (ds ++ [d]) s'.tasks r.id := by
  have same := last.coordinator_eq
  rw [← same] at met
  by_cases meant : d.action.run? = some r.id
  · have entry := last.entry (Coordinator.isRunning_of_running running) meant
    exact h.concat met (by rwa [same]) meant entry
  · obtain ⟨lookups, watchers⟩ := last.aside running meant
    exact h.concat_aside met (by rwa [same]) meant lookups watchers

/-- A run begins with an empty ledger, whatever earlier runs have left behind. -/
theorem begin (record : System.Record extract ds s) (last : System.Recorded extract s d s')
    (few : granted extract ((ds ++ [d]).map Deed.action) < 2 ^ 64) {methods : Methods}
    (starting : s.coordinator.phase = .starting id methods)
    (check : d.action = .adapterChecked id .ready) : Ledger extract (ds ++ [d]) s'.tasks id := by
  have met := record.execution.coordinator_eq
  have starting' : (after extract (ds.map Deed.action)).phase = .starting id methods := by
    rwa [← met]
  have fewer := granted_lt_of_concat few
  obtain ⟨silent, fresh⟩ := (told_of_granted_lt fewer).of_starting starting'
  have begun : s'.coordinator.phase = .running (.begin id methods) := by
    rw [last.step.coordinator_eq, check, Coordinator.step_adapterChecked_of_starting starting]
    rfl
  have present := (sound_of_execution (record.concat last).execution few).running _ begun
  apply of_fresh
  case fresh =>
    refine List.filter_eq_nil_iff.mpr fun d' mem counts => ?_
    have running := (Deed.counts_iff.mp counts).1
    rcases List.mem_append.mp mem with old | new
    · -- A run that has taken in anything has begun before.
      have moment : d'.moment ∈ Coordinator.history extract (ds.map Deed.action) := by
        rw [record.history_eq]
        exact List.mem_map_of_mem old
      exact fresh (Coordinator.hasBegun_of_mem_history moment running)
    · -- The check itself is made while the run is still starting.
      rw [List.mem_singleton.mp new, last.coordinator_eq] at running
      obtain ⟨r, hr, -⟩ := Coordinator.isRunning_iff.mp running
      rw [starting] at hr
      cases hr
  case silent =>
    rw [actions_concat, Coordinator.eventsOf_concat_of_owner d.action (by rw [starting']; rfl), silent,
      check, Coordinator.step_adapterChecked_of_starting starting']
    rfl
  case lookups =>
    -- By the books a run begins with no look-up, and none of an earlier run is taken for its own.
    refine Multiset.eq_zero_of_forall_notMem fun x mem => ?_
    have left := Multiset.count_pos.mpr (Task.mem_work_of_mem_lookups mem)
    have none : (Run.begin id methods).pendingOf x.slot = 0 := by cases x.slot <;> rfl
    rw [present.books.pendingOf_eq] at none
    exact left.ne' none
  case watchers => exact present.books.feasible.watcher_le.trans (Bool.toNat_le _)

end Ledger

/-- The ledger of the present run is right wherever a system gets to. -/
theorem System.Record.ledger (h : System.Record extract ds s)
    (few : granted extract (ds.map Deed.action) < 2 ^ 64)
    (running : s.coordinator.phase = .running r) : Ledger extract ds s.tasks r.id := by
  -- The induction is on the record.  A run that goes on has kept its ledger, and one that begins
  -- has an empty one because its number is new.
  induction h generalizing r with
  | nil => cases running
  | @concat ds s s' d before last ih =>
    have fewer := granted_lt_of_concat few
    have met := before.execution.coordinator_eq
    have hout := Coordinator.step_outcome extract s.coordinator d.action
    rw [last.step.coordinator_eq] at running
    generalize s.coordinator.grants d.action = granted at hout
    generalize s.coordinator.step extract d.action = out at hout running
    cases hout with
    | nothing away => exact absurd running (away r)
    | granted => cases running
    | refused => cases running
    | abandoned => cases running
    | ended => cases running
    | began starting check =>
      cases running
      exact .begin before last few starting check
    | @worked r₀ r' _ _ present goesOn _ work =>
      obtain rfl := Phase.running.inj (goesOn.symm.trans running)
      rw [Run.id_eq_of_progress work]
      exact (ih fewer present).step met present last

end BluetoothDiscovery
