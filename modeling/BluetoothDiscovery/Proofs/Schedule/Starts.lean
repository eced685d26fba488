import BluetoothDiscovery.Proofs.Coordinator.Isolation
import BluetoothDiscovery.Proofs.Observations.Fold
import BluetoothDiscovery.Proofs.Schedule.System

/-!
# Starts that come to nothing

A start takes two steps, and between them anything may happen: the adapter is checked for it, the
caller may stop it or give it up, and once it is stopped the next start may be on its way before the
adapter answers for the first.  A start that does not begin its run announces why, and that is all
that is ever heard of it (`InVain.silenced`): its number does not come back, and only a run that has
begun has tasks besides its check (`hasBegun_of_mem_tasks`).

The device list is emptied where a run begins and loses nothing anywhere else
(`store_of_begins`, `addresses_isPrefix_step`).
-/

namespace BluetoothDiscovery

open Coordinator (HasBegun Moment after granted history runNumbers told_of_granted_lt)

variable {extract : Payload → AdvertisementData} {c : Coordinator} {as : List Action} {a : Action}
  {id : RunId} {s s' : System} {t : Task}

/-! ### Devices -/

/-- A device that is put into the list takes no other from its place. -/
theorem DeviceStore.addresses_isPrefix_upsert (s : DeviceStore) (e : Device) :
    s.addresses <+: (s.upsert e).1.addresses := by
  rw [addresses_upsert]
  split
  · exact List.prefix_rfl
  · exact List.prefix_append _ _

theorem addresses_isPrefix_storeHeard (s : DeviceStore) (heard : Sightings × Device × Change) :
    s.addresses <+: (storeHeard s heard).addresses := by
  unfold storeHeard
  split
  · exact s.addresses_isPrefix_upsert _
  · rw [DeviceStore.addresses_update]
  · exact List.prefix_rfl

/-- No device leaves the list but where a run begins. -/
theorem addresses_isPrefix_step (extract : Payload → AdvertisementData)
    (goesOn : Moment.begins ⟨c, a⟩ = false) :
    c.store.addresses <+: (c.step extract a).1.store.addresses := by
  have intake := intake_step extract c a
  generalize c.step extract a = out at intake ⊢
  cases intake with
  | nothing store =>
    rw [store]
  | began starting check =>
    rw [check] at goesOn
    have begins : Moment.begins ⟨c, .adapterChecked _ .ready⟩ = true :=
      Coordinator.isStarting_iff.mpr ⟨_, starting⟩
    rw [begins] at goesOn
    cases goesOn
  | lookedUp running resolution answer =>
    rw [fst_register]
    exact c.store.addresses_isPrefix_upsert _
  | heard running report advert =>
    rw [fst_advertise]
    exact addresses_isPrefix_storeHeard _ _

/-- A run begins where a start that is checked becomes a run that is under way. -/
theorem begins_iff {m : Moment} : m.begins = true ↔ ∃ id methods r,
    m.coordinator.phase = .starting id methods ∧ (m.next extract).phase = .running r := by
  obtain ⟨c, a⟩ := m
  constructor
  · intro begins
    unfold Moment.begins at begins
    split at begins
    next id check =>
      -- The check comes for the start that is present, and lets its run begin.
      obtain ⟨methods, starting⟩ := Coordinator.isStarting_iff.mp begins
      replace check : a = .adapterChecked id .ready := check
      have next : (c.step extract a).1.phase = .running (.begin id methods) := by
        rw [check, Coordinator.step_adapterChecked_of_starting starting]
        rfl
      exact ⟨id, methods, _, starting, next⟩
    next => cases begins
  · -- Of all outcomes just one leads from starting to running.
    rintro ⟨id, methods, r, starting, running⟩
    replace starting : c.phase = .starting id methods := starting
    replace running : (c.step extract a).1.phase = .running r := running
    have outcome := Coordinator.step_outcome extract c a
    generalize c.grants a = granted at outcome
    generalize c.step extract a = out at outcome running
    cases outcome with
    | began present check =>
      show Moment.begins ⟨c, a⟩ = true
      rw [check]
      exact Coordinator.isStarting_iff.mpr ⟨_, present⟩
    | nothing =>
      have both := starting.symm.trans running
      cases both
    | worked before => cases starting.symm.trans before
    | _ => cases running

/-- Whether an action is one of a start: the request itself, an answer of the adapter, a caller that
gives up, or a stop. -/
def Action.isOfStart : Action → Bool
  | .start _ | .adapterChecked _ _ | .startAbandoned _ | .stop => true
  | _ => false

/-- What belongs to a start leaves the devices alone, unless a run begins. -/
theorem store_of_isOfStart (extract : Payload → AdvertisementData) (own : a.isOfStart = true)
    (goesOn : Moment.begins ⟨c, a⟩ = false) : (c.step extract a).1.store = c.store := by
  have intake := intake_step extract c a
  generalize c.step extract a = out at intake ⊢
  cases intake with
  | nothing store => exact store
  | began starting check =>
    rw [check] at goesOn
    have begins : Moment.begins ⟨c, .adapterChecked _ .ready⟩ = true :=
      Coordinator.isStarting_iff.mpr ⟨_, starting⟩
    rw [begins] at goesOn
    cases goesOn
  | lookedUp running resolution answer =>
    rw [answer] at own
    cases own
  | heard running report advert =>
    rw [advert] at own
    cases own

/-! ### Starts in vain -/

/-- The ways in which a start with a number ends before its run has begun, each with the event that
reports it. -/
inductive InVain (id : RunId) (c : Coordinator) : Action → Event → Prop
  | poweredOff (starting : c.isStarting id = true) :
      InVain id c (.adapterChecked id .poweredOff) (.failed .adapterPoweredOff)
  | unavailable (starting : c.isStarting id = true) :
      InVain id c (.adapterChecked id .unavailable) (.failed .adapterUnavailable)
  | stopped (starting : c.isStarting id = true) : InVain id c .stop .canceled
  | dropped (starting : c.isStarting id = true) : InVain id c (.startAbandoned id) .canceled

namespace InVain

variable {e : Event} {m : Moment}

theorem starting (h : InVain id c a e) : c.isStarting id = true := by
  cases h with
  | poweredOff starting => exact starting
  | unavailable starting => exact starting
  | stopped starting => exact starting
  | dropped starting => exact starting

/-- The report is all that a start in vain leaves behind: the coordinator is idle again, with the
devices that it had. -/
theorem step_eq (h : InVain id c a e) (extract : Payload → AdvertisementData) :
    c.step extract a = ({ c with phase := .idle }, [e]) := by
  obtain ⟨methods, phase⟩ := Coordinator.isStarting_iff.mp h.starting
  cases h with
  | poweredOff _ => exact Coordinator.step_adapterChecked_of_starting phase .poweredOff
  | unavailable _ => exact Coordinator.step_adapterChecked_of_starting phase .unavailable
  | dropped _ => exact Coordinator.step_startAbandoned_of_starting phase
  | stopped _ =>
    have active : c.isActive = true := by
      unfold Coordinator.isActive
      rw [phase]
    exact if_pos active

/-- A start in vain is past at once, and its run had not begun. -/
theorem ended (h : InVain id (after extract as) a e) (few : granted extract as < 2 ^ 64) :
    (after extract (as ++ [a])).phase.owner ≠ some id ∧
      id ∈ runNumbers (granted extract (as ++ [a])) ∧ ¬ HasBegun extract (as ++ [a]) id := by
  have told := told_of_granted_lt few
  obtain ⟨methods, phase⟩ := Coordinator.isStarting_iff.mp h.starting
  have owner : (after extract as).phase.owner = some id := by
    rw [phase]
    rfl
  have idle : (after extract (as ++ [a])).phase = .idle := by
    rw [Coordinator.after_concat, h.step_eq]
  have past : (after extract (as ++ [a])).phase.owner ≠ some id := by
    rw [idle]
    exact (Option.some_ne_none id).symm
  refine ⟨past, ?_, ?_⟩
  · have known : id ∈ runNumbers (granted extract as) := by
      obtain ⟨pos, rfl⟩ := told.present id owner
      exact Coordinator.mem_runNumbers.mpr ⟨_, pos, Nat.le_refl _, rfl⟩
    exact Coordinator.mem_runNumbers_mono known (Coordinator.granted_le_concat as a)
  · have fresh := (told.of_starting phase).2
    rw [Coordinator.hasBegun_concat_iff_of_owner_ne past]
    exact fresh

/-- Whatever happens later, a start in vain does not become the present one again, and its run does
not begin. -/
theorem silenced (mem : m ∈ history extract as) (h : InVain id m.coordinator m.action e)
    (few : granted extract as < 2 ^ 64) :
    (after extract as).phase.owner ≠ some id ∧ id ∈ runNumbers (granted extract as) ∧
      ¬ HasBegun extract as id := by
  induction as using List.reverseRecOn with
  | nil => cases mem
  | append_singleton as a ih =>
    have fewer := (Coordinator.granted_le_concat as a).trans_lt few
    rw [Coordinator.history_concat] at mem
    rcases List.mem_append.mp mem with earlier | last
    · obtain ⟨past, known, never⟩ := ih earlier fewer
      have past' := Coordinator.owner_ne_of_over few known past
      have known' := Coordinator.mem_runNumbers_mono known (Coordinator.granted_le_concat as a)
      have never' := mt (Coordinator.hasBegun_concat_iff_of_owner_ne past').mp never
      exact ⟨past', known', never'⟩
    · rw [List.mem_singleton.mp last] at h
      exact h.ended fewer

end InVain

/-! ### Tasks -/

/-- Whether a task only waits for a check of the adapter.  Every other task calls for devices, looks
one up, watches advertisements or waits for the end of their time. -/
def Task.isCheck : Task → Bool
  | .check _ _ _ => true
  | _ => false

/-- The tasks that a task leaves behind work for a run that had begun, or that begins now. -/
theorem Task.Does.hasBegun {more : Multiset Task} (does : t.Does (after extract as) a more)
    (begun : t.isCheck = false → HasBegun extract as t.run) {u : Task} (mem : u ∈ more) :
    HasBegun extract (as ++ [a]) u.run := by
  have same : u.run = t.run := does.run_of_mem mem
  cases ht : t.isCheck with
  | false =>
    rw [same]
    exact Coordinator.hasBegun_concat.mpr (.inl (begun ht))
  | true =>
    -- Only the check that finds the adapter ready leaves tasks behind.
    cases does with
    | checked id methods timed state =>
      split at mem
      next ready =>
        obtain ⟨starting, rfl⟩ := ready
        obtain ⟨methods', phase⟩ := Coordinator.isStarting_iff.mp starting
        have running : (after extract (as ++ [.adapterChecked id .ready])).isRunning id = true := by
          rw [Coordinator.after_concat, Coordinator.step_adapterChecked_of_starting phase]
          exact Coordinator.isRunning_iff.mpr ⟨_, rfl, rfl⟩
        rw [same]
        exact Coordinator.hasBegun_concat.mpr (.inr running)
      next => exact absurd mem (Multiset.notMem_zero u)
    | gaveUp => exact absurd mem (Multiset.notMem_zero u)
    | _ => cases ht

/-- Only a run that has begun has tasks besides its check. -/
theorem hasBegun_of_mem_tasks (execution : System.Execution extract {} as s) (mem : t ∈ s.tasks)
    (work : t.isCheck = false) : HasBegun extract as t.run := by
  induction execution generalizing t with
  | nil => exact absurd mem (Multiset.notMem_zero t)
  | @concat as s₁ s₂ a before last ih =>
    have earlier : t ∈ s₁.tasks → HasBegun extract (as ++ [a]) t.run := fun old =>
      Coordinator.hasBegun_concat.mpr (.inl (ih old work))
    cases last with
    | stop => exact earlier mem
    | request methods timed =>
      rcases Multiset.mem_add.mp mem with new | old
      · -- A request adds its check and nothing else.
        unfold System.checks at new
        split at new
        · rw [Multiset.mem_singleton.mp new] at work
          cases work
        · exact absurd new (Multiset.notMem_zero t)
      · exact earlier old
    | @work u rest present a more does =>
      rcases Multiset.mem_add.mp mem with new | old
      · -- What a task hands on is for its own run, which its check may just have begun.
        rw [before.coordinator_eq] at does
        have there : u ∈ s₁.tasks := present ▸ Multiset.mem_cons_self u rest
        exact does.hasBegun (fun other => ih there other) new
      · exact earlier (present ▸ Multiset.mem_cons_of_mem old)

theorem Coordinator.owner_of_isStarting (h : c.isStarting id = true) :
    c.phase.owner = some id := by
  obtain ⟨methods, phase⟩ := isStarting_iff.mp h
  rw [phase]
  rfl

namespace InVain

variable {e : Event} {m : Moment} {s' : System}

/-- The tasks of a start in vain are still waiting for the adapter. -/
theorem isCheck_of_mem_tasks (execution : System.Execution extract {} as s)
    (few : granted extract as < 2 ^ 64) (mem : m ∈ history extract as)
    (h : InVain id m.coordinator m.action e) (present : t ∈ s.tasks) (own : t.run = id) :
    t.isCheck = true := by
  by_contra other
  have begun := hasBegun_of_mem_tasks execution present (Bool.eq_false_iff.mpr other)
  rw [own] at begun
  exact (h.silenced mem few).2.2 begun

/-- Nothing new comes of the tasks of a start in vain. -/
theorem tasks_le (execution : System.Execution extract {} as s)
    (few : granted extract as < 2 ^ 64) (mem : m ∈ history extract as)
    (h : InVain id m.coordinator m.action e) (own : a.run? = some id)
    (st : System.Step extract s a s') : s'.tasks ≤ s.tasks := by
  cases st with
  | request methods timed => cases own
  | stop => cases own
  | @work t rest present _ more does =>
    have here : t ∈ s.tasks := present ▸ Multiset.mem_cons_self t rest
    have run : t.run = id := Option.some.inj (does.action_run.symm.trans own)
    -- The start never began its run, so that its check is all it has left.
    have check := h.isCheck_of_mem_tasks execution few mem here run
    have none : more = 0 := by
      cases does with
      | checked id' methods timed state =>
        refine if_neg fun ready => (h.silenced mem few).1 ?_
        rw [← execution.coordinator_eq, ← run]
        exact Coordinator.owner_of_isStarting ready.1
      | gaveUp => rfl
      | _ => cases check
    show more + rest ≤ s.tasks
    rw [none, zero_add, present]
    exact Multiset.le_cons_self rest t

end InVain

/-! ### At most one -/

/-- Of all the runs that were granted at most one is starting or under way. -/
theorem length_active_le_one (c : Coordinator) {n : Nat} (few : n < 2 ^ 64) :
    ((runNumbers n).filter fun id => c.isStarting id || c.isRunning id).length ≤ 1 := by
  have distinct : (runNumbers n).Nodup :=
    (Coordinator.pairwise_lt_runNumbers few).imp fun lt => UInt64.ne_of_lt lt
  have owners : ∀ id ∈ (runNumbers n).filter fun id => c.isStarting id || c.isRunning id,
      c.phase.owner = some id := by
    intro id mem
    have active := (List.mem_filter.mp mem).2
    rcases Bool.or_eq_true_iff.mp active with starting | running
    · exact Coordinator.owner_of_isStarting starting
    · exact Coordinator.owner_of_isRunning running
  have nodup := distinct.filter fun id => c.isStarting id || c.isRunning id
  generalize (runNumbers n).filter (fun id => c.isStarting id || c.isRunning id) = ids at *
  match ids, nodup, owners with
  | [], _, _ => exact Nat.zero_le 1
  | [_], _, _ => exact Nat.le_refl 1
  | i :: j :: _, nodup, owners =>
    have hi := owners i (.head _)
    have hj := owners j (.tail _ (.head _))
    have same : i = j := Option.some.inj (hi.symm.trans hj)
    exact absurd (same ▸ List.mem_cons_self) (List.nodup_cons.mp nodup).1

end BluetoothDiscovery
