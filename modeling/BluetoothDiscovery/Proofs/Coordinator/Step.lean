import BluetoothDiscovery.Coordinator
import Mathlib.Tactic.Common

/-!
# What a step does

A coordinator is driven by actions of many tasks, some of them of runs that are long over.
`Outcome` says once what one action can make of it: nothing, a run that is granted, refused, given
up or begun, a run that goes on with reports, or a run that ends.  `step_outcome` proves that there
is nothing else, so that statements about rows of actions need not look into the actions again.
-/

namespace BluetoothDiscovery

/-- The number of the run that a phase belongs to. -/
def Phase.owner : Phase → Option RunId
  | .idle => none
  | .starting id _ => some id
  | .running r => some r.id

/-- The run that an action is meant for; a request or a stop is not meant for any one run. -/
def Action.run? : Action → Option RunId
  | .start _ | .stop => none
  | .adapterChecked id _ | .startAbandoned id | .enumerated id _ _ | .resolved id _
  | .resolutionFailed id _ | .lookupEnded id _ | .watcherOpened id | .watcherLost id _
  | .advertised id _ | .timedOut id => some id

/-- Whether an event tells of the work of a run: a device, or a call that failed. -/
def Event.isReport : Event → Bool
  | .discovered _ | .updated _ _ | .failed (.platformCallFailed _) => true
  | _ => false

namespace Run

/-- What an action makes of the work of a run; one that is meant for another run makes nothing
of it. -/
def progress (r : Run) (a : Action) : Run :=
  if a.run? = some r.id then
    match a with
    | .enumerated _ selector (.ok handles) => r.countEnumerated selector handles.length
    | .enumerated _ selector (.error _) => r.countEnumerated selector 0
    | .lookupEnded _ selector => r.countLookup selector
    | .watcherOpened _ => { r with lowEnergy := .running }
    | .watcherLost _ _ => { r with watching := false, lowEnergy := .stopped }
    | _ => r
  else r

/-- The ways in which an action ends a run, with the event that tells it. -/
inductive EndsBy (r : Run) (a : Action) : Event → Prop
  /-- The action ended the last of the work. -/
  | complete (done : (r.progress a).isComplete) : EndsBy r a .finished
  | timeout (late : a = .timedOut r.id) : EndsBy r a .finished
  | stop (stopped : a = .stop) : EndsBy r a .canceled

theorem EndsBy.isTerminal {r : Run} {a : Action} {e : Event} (h : r.EndsBy a e) :
    e.isTerminal = true := by
  cases h <;> rfl

@[simp]
theorem countEnumerated_id (r : Run) (s : Selector) (n : Nat) :
    (r.countEnumerated s n).id = r.id := by
  cases s <;> rfl

@[simp]
theorem countEnumerated_methods (r : Run) (s : Selector) (n : Nat) :
    (r.countEnumerated s n).methods = r.methods := by
  cases s <;> rfl

@[simp]
theorem countLookup_id (r : Run) (s : Selector) : (r.countLookup s).id = r.id := by
  cases s <;> rfl

@[simp]
theorem countLookup_methods (r : Run) (s : Selector) : (r.countLookup s).methods = r.methods := by
  cases s <;> rfl

@[simp]
theorem progress_enumerated_ok (r : Run) (s : Selector) (handles : List Handle) :
    r.progress (.enumerated r.id s (.ok handles)) = r.countEnumerated s handles.length :=
  if_pos rfl

@[simp]
theorem progress_enumerated_error (r : Run) (s : Selector) (e : PlatformError) :
    r.progress (.enumerated r.id s (.error e)) = r.countEnumerated s 0 :=
  if_pos rfl

@[simp]
theorem progress_lookupEnded (r : Run) (s : Selector) :
    r.progress (.lookupEnded r.id s) = r.countLookup s :=
  if_pos rfl

@[simp]
theorem progress_watcherOpened (r : Run) :
    r.progress (.watcherOpened r.id) = { r with lowEnergy := .running } :=
  if_pos rfl

@[simp]
theorem progress_watcherLost (r : Run) (e : PlatformError) :
    r.progress (.watcherLost r.id e) = { r with watching := false, lowEnergy := .stopped } :=
  if_pos rfl

theorem progress_of_run?_ne {r : Run} {a : Action} (h : a.run? ≠ some r.id) : r.progress a = r :=
  if_neg h

@[simp]
theorem progress_id (r : Run) (a : Action) : (r.progress a).id = r.id := by
  unfold progress
  split
  · split <;> simp
  · rfl

@[simp]
theorem progress_methods (r : Run) (a : Action) : (r.progress a).methods = r.methods := by
  unfold progress
  split
  · split <;> simp
  · rfl

/-- A run stays the same run, whatever becomes of its work and its sightings. -/
theorem id_eq_of_progress {r r' : Run} {a : Action}
    (work : r' = { r.progress a with sightings := r'.sightings }) : r'.id = r.id := by
  rw [work]
  exact r.progress_id a

theorem methods_eq_of_progress {r r' : Run} {a : Action}
    (work : r' = { r.progress a with sightings := r'.sightings }) : r'.methods = r.methods := by
  rw [work]
  exact r.progress_methods a

/-- Only its loss ends the watching of advertisements. -/
theorem progress_watching {r : Run} {a : Action} (kept : ∀ e, a ≠ .watcherLost r.id e) :
    (r.progress a).watching = r.watching := by
  unfold progress
  split
  next meant =>
    split
    next s _ => cases s <;> rfl
    next s _ => cases s <;> rfl
    next s => cases s <;> rfl
    next => rfl
    next id e =>
      obtain rfl : id = r.id := Option.some.inj meant
      exact absurd rfl (kept e)
    next => rfl
  next => rfl

/-- A run that goes on watching watched before, and has not lost its watcher. -/
theorem watching_of_progress {r : Run} {a : Action} (h : (r.progress a).watching = true) :
    r.watching = true ∧ ∀ e, a ≠ .watcherLost r.id e := by
  have kept : ∀ e, a ≠ .watcherLost r.id e := by
    rintro e rfl
    rw [progress_watcherLost] at h
    cases h
  rw [progress_watching kept] at h
  exact ⟨h, kept⟩

end Run

namespace Coordinator

variable {extract : Payload → AdvertisementData} {c : Coordinator}

/-! ### The present run -/

theorem run?_eq_some_iff {id : RunId} {r : Run} :
    c.run? id = some r ↔ c.phase = .running r ∧ r.id = id := by
  unfold run?
  cases h : c.phase with
  | idle => simp
  | starting _ _ => simp
  | running s =>
    by_cases hs : s.id = id
    · simp only [hs, ite_true, Option.some.injEq, Phase.running.injEq]
      exact ⟨fun h => ⟨h, h ▸ hs⟩, fun h => h.1⟩
    · simp only [hs, ite_false, Phase.running.injEq, reduceCtorEq, false_iff, not_and]
      rintro rfl
      exact hs

theorem run?_of_running {r : Run} (h : c.phase = .running r) : c.run? r.id = some r :=
  run?_eq_some_iff.mpr ⟨h, rfl⟩

theorem isRunning_iff {id : RunId} :
    c.isRunning id = true ↔ ∃ r, c.phase = .running r ∧ r.id = id := by
  unfold isRunning
  rw [Option.isSome_iff_exists]
  simp only [run?_eq_some_iff]

theorem isRunning_of_running {r : Run} (h : c.phase = .running r) : c.isRunning r.id = true :=
  isRunning_iff.mpr ⟨r, h, rfl⟩

theorem owner_of_isRunning {id : RunId} (h : c.isRunning id = true) : c.phase.owner = some id := by
  obtain ⟨r, hr, rfl⟩ := isRunning_iff.mp h
  rw [hr]
  rfl

theorem isStarting_iff {id : RunId} :
    c.isStarting id = true ↔ ∃ methods, c.phase = .starting id methods := by
  unfold isStarting
  cases h : c.phase with
  | idle => simp
  | running _ => simp
  | starting current methods => simp [eq_comm]

theorem isStarting_eq_false_of_running {r : Run} (h : c.phase = .running r) (id : RunId) :
    c.isStarting id = false := by
  unfold isStarting
  rw [h]

theorem isActive_eq_false_iff : c.isActive = false ↔ c.phase = .idle := by
  unfold isActive
  cases h : c.phase <;> simp

theorem withRun_of_running {r : Run} (h : c.phase = .running r)
    (f : Run → Coordinator × List Event) : c.withRun r.id f = f r := by
  unfold withRun
  rw [run?_of_running h]

/-- What is meant for a run that is not the present one changes nothing. -/
theorem withRun_of_isRunning_eq_false {id : RunId} (h : c.isRunning id = false)
    (f : Run → Coordinator × List Event) : c.withRun id f = (c, []) := by
  unfold withRun
  rw [Option.isSome_eq_false_iff.mp h |> Option.isNone_iff_eq_none.mp]

theorem step_adapterChecked_of_starting {id : RunId} {methods : Methods}
    (h : c.phase = .starting id methods) (state : AdapterState) :
    c.step extract (.adapterChecked id state) = c.beginRun id methods state := by
  unfold step
  simp only [h, ite_true]

/-- The end of the time for advertisements finishes the present run. -/
theorem step_timedOut_of_running {r : Run} (h : c.phase = .running r) :
    c.step extract (.timedOut r.id) = c.finish .finished :=
  withRun_of_running h _

/-- What is said of the adapter counts only while it is being checked for the same run. -/
theorem step_adapterChecked_of_not_starting {id : RunId} (h : c.isStarting id = false)
    (state : AdapterState) : c.step extract (.adapterChecked id state) = (c, []) := by
  unfold isStarting at h
  unfold step
  cases hp : c.phase with
  | idle => rfl
  | running _ => rfl
  | starting current methods =>
    have hne : current ≠ id := by simpa [hp] using h
    exact if_neg hne

theorem step_startAbandoned_of_starting {id : RunId} {methods : Methods}
    (h : c.phase = .starting id methods) :
    c.step extract (.startAbandoned id) = c.finish .canceled :=
  if_pos (isStarting_iff.mpr ⟨methods, h⟩)

theorem step_startAbandoned_of_not_starting {id : RunId} (h : c.isStarting id = false) :
    c.step extract (.startAbandoned id) = (c, []) :=
  if_neg (Bool.eq_false_iff.mp h)

/-- An action that is meant for any run but the one that the phase belongs to changes nothing. -/
theorem step_of_run?_ne_owner {a : Action} {id : RunId} (h : a.run? = some id)
    (stale : c.phase.owner ≠ some id) : c.step extract a = (c, []) := by
  have notRunning : c.isRunning id = false := by
    rw [Bool.eq_false_iff]
    exact fun hr => stale (owner_of_isRunning hr)
  have notStarting : c.isStarting id = false := by
    rw [Bool.eq_false_iff]
    intro hs
    obtain ⟨methods, hp⟩ := isStarting_iff.mp hs
    exact stale (by rw [hp]; rfl)
  -- The callbacks are all guarded in one of two ways, and neither guard lets this number through.
  cases a with
  | start _ => simp [Action.run?] at h
  | stop => simp [Action.run?] at h
  | adapterChecked id' state =>
    obtain rfl : id' = id := Option.some.inj h
    exact step_adapterChecked_of_not_starting notStarting state
  | startAbandoned id' =>
    obtain rfl : id' = id := Option.some.inj h
    exact step_startAbandoned_of_not_starting notStarting
  | _ =>
    obtain rfl := Option.some.inj h
    exact withRun_of_isRunning_eq_false notRunning _

/-! ### Rows of actions -/

@[simp]
theorem steps_nil : c.steps extract [] = (c, []) := rfl

theorem steps_cons (a : Action) (as : List Action) :
    c.steps extract (a :: as) =
      (((c.step extract a).1.steps extract as).1,
        (c.step extract a).2 ++ ((c.step extract a).1.steps extract as).2) := rfl

theorem steps_append (as bs : List Action) :
    c.steps extract (as ++ bs) =
      (((c.steps extract as).1.steps extract bs).1,
        (c.steps extract as).2 ++ ((c.steps extract as).1.steps extract bs).2) := by
  induction as generalizing c with
  | nil => rfl
  | cons a as ih => simp only [List.cons_append, steps_cons, ih, List.append_assoc]

theorem steps_concat (as : List Action) (a : Action) :
    c.steps extract (as ++ [a]) =
      (((c.steps extract as).1.step extract a).1,
        (c.steps extract as).2 ++ ((c.steps extract as).1.step extract a).2) := by
  rw [steps_append, steps_cons, steps_nil, List.append_nil]

/-! ### Outcomes -/

/-- Whether an action is a request that is granted a run. -/
def grants (c : Coordinator) : Action → Bool
  | .start methods => !methods.isEmpty && !c.isActive
  | _ => false

/-- What can come of one action: the coordinator after it and the events it announces.  The flag
says whether a run was granted. -/
inductive Outcome (c : Coordinator) (a : Action) : Bool → Coordinator × List Event → Prop
  | nothing (away : ∀ r, c.phase ≠ .running r) : Outcome c a false (c, [])
  | granted {methods : Methods} (idle : c.phase = .idle) (asked : methods.isEmpty = false)
      (request : a = .start methods) :
      Outcome c a true
        ({ c with lastRun := c.lastRun + 1, phase := .starting (c.lastRun + 1) methods }, [])
  /-- The adapter cannot be used. -/
  | refused {id : RunId} {methods : Methods} {kind : ErrorKind}
      (starting : c.phase = .starting id methods)
      (why : kind = .adapterPoweredOff ∨ kind = .adapterUnavailable) :
      Outcome c a false ({ c with phase := .idle }, [.failed kind])
  /-- The run was stopped, or its caller gave up, before it began. -/
  | abandoned {id : RunId} {methods : Methods} (starting : c.phase = .starting id methods) :
      Outcome c a false ({ c with phase := .idle }, [.canceled])
  | began {id : RunId} {methods : Methods} (starting : c.phase = .starting id methods)
      (check : a = .adapterChecked id .ready) :
      Outcome c a false ({ c with phase := .running (.begin id methods), store := ∅ }, [])
  /-- The run goes on, with what the action made of its work.  Where there was work left, some is
  left now. -/
  | worked {r r' : Run} {c' : Coordinator} {reports : List Event} (running : c.phase = .running r)
      (goesOn : c'.phase = .running r') (lastRun : c'.lastRun = c.lastRun)
      (work : r' = { r.progress a with sightings := r'.sightings })
      (unfinished : r.isComplete = false → (r.progress a).isComplete = false)
      (told : ∀ e ∈ reports, e.isReport) :
      Outcome c a false (c', reports)
  | ended {r : Run} {reports : List Event} {last : Event} (running : c.phase = .running r)
      (told : ∀ e ∈ reports, e.isReport) (how : r.EndsBy a last) :
      Outcome c a false ({ c with phase := .idle }, reports ++ [last])

variable {a : Action}

/-- What changes nothing leaves the work of the present run as it is. -/
theorem outcome_unchanged (h : ∀ r, c.phase = .running r → r.progress a = r) :
    Outcome c a false (c, []) := by
  cases hp : c.phase with
  | idle => exact .nothing (by simp [hp])
  | starting _ _ => exact .nothing (by simp [hp])
  | running r =>
    have same := h r hp
    exact .worked hp hp rfl (by rw [same]) (by simp [same]) (by simp)

/-- What leaves the work of the present run as it is lets the run go on. -/
theorem outcome_of_progress_eq {r r' : Run} {out : Coordinator × List Event}
    (h : c.phase = .running r) (same : r.progress a = r) (goesOn : out.1.phase = .running r')
    (lastRun : out.1.lastRun = c.lastRun) (work : r' = { r with sightings := r'.sightings })
    (told : ∀ e ∈ out.2, e.isReport) : Outcome c a false out := by
  refine .worked h goesOn lastRun ?_ (by simp [same]) told
  rw [same]
  exact work

theorem outcome_finish {r : Run} (h : c.phase = .running r) {last : Event}
    (how : r.EndsBy a last) : Outcome c a false (c.finish last) := by
  show Outcome c a false (_, [] ++ [last])
  exact .ended h (by simp) how

/-- A change to the work of the present run lets it go on or ends it, after the reports that come
first. -/
theorem outcome_continueRun {r : Run} (h : c.phase = .running r) (reports : List Event)
    (told : ∀ e ∈ reports, e.isReport) {r' : Run} (change : r.progress a = r') :
    Outcome c a false ((c.continueRun r').1, reports ++ (c.continueRun r').2) := by
  subst change
  unfold continueRun
  -- The same test decides whether the run goes on and whether work is left.
  split
  next done => exact .ended h told (.complete done)
  next left =>
    rw [List.append_nil]
    exact .worked h rfl rfl rfl (fun _ => Bool.eq_false_iff.mpr left) told

theorem isReport_of_mem_announce {a : Address} {event : Device → Event}
    (report : ∀ d, (event d).isReport) : ∀ e ∈ c.announce a event, e.isReport := by
  intro e he
  obtain ⟨d, -, rfl⟩ := List.mem_map.mp he
  exact report d

theorem outcome_register {r : Run} (h : c.phase = .running r) (same : r.progress a = r)
    (device : Device) : Outcome c a false (c.register device) := by
  unfold register
  cases hu : (c.store.upsert device).2 with
  | inserted =>
    simp only [hu]
    exact outcome_of_progress_eq h same h rfl rfl (isReport_of_mem_announce fun _ => rfl)
  | merged changes =>
    simp only [hu]
    split
    · exact outcome_of_progress_eq h same h rfl rfl (by simp)
    · exact outcome_of_progress_eq h same h rfl rfl (isReport_of_mem_announce fun _ => rfl)

theorem outcome_advertise {r : Run} (h : c.phase = .running r) (same : r.progress a = r)
    (address : Address) (rssi : Int16) (data : AdvertisementData) :
    Outcome c a false (c.advertise r address rssi data) := by
  unfold advertise
  obtain ⟨sightings, device, change⟩ := r.sightings.observe address rssi data
  cases hc : change.announcement with
  | discovered =>
    simp only [hc]
    exact outcome_of_progress_eq h same rfl rfl rfl (isReport_of_mem_announce fun _ => rfl)
  | updated fields =>
    simp only [hc]
    exact outcome_of_progress_eq h same rfl rfl rfl (isReport_of_mem_announce fun _ => rfl)
  | suppressed =>
    simp only [hc]
    exact outcome_of_progress_eq h same rfl rfl rfl (by simp)

theorem outcome_withRun {id : RunId} (meant : a.run? = some id) {f : Run → Coordinator × List Event}
    (h : ∀ r, c.phase = .running r → r.id = id → Outcome c a false (f r)) :
    Outcome c a false (c.withRun id f) := by
  cases hrun : c.isRunning id with
  | false =>
    rw [withRun_of_isRunning_eq_false hrun]
    refine outcome_unchanged fun r hr => Run.progress_of_run?_ne fun he => ?_
    rw [meant, Option.some.injEq] at he
    rw [he, isRunning_of_running hr] at hrun
    cases hrun
  | true =>
    obtain ⟨r, hr, rfl⟩ := isRunning_iff.mp hrun
    rw [withRun_of_running hr]
    exact h r hr rfl

theorem outcome_start (methods : Methods) :
    Outcome c (.start methods) (c.grants (.start methods)) (c.step extract (.start methods)) := by
  unfold step startVerdict grants
  by_cases hm : methods.isEmpty = true
  · simp only [hm, ite_true, Bool.not_true, Bool.false_and]
    exact outcome_unchanged fun _ _ => rfl
  · rw [Bool.not_eq_true] at hm
    cases ha : c.isActive with
    | true =>
      simp only [hm, Bool.false_eq_true, ite_false, ite_true, Bool.not_true, Bool.and_false]
      exact outcome_unchanged fun _ _ => rfl
    | false =>
      simp only [hm, Bool.false_eq_true, ite_false, Bool.not_false, Bool.and_true]
      exact .granted (isActive_eq_false_iff.mp ha) hm rfl

theorem outcome_adapterChecked (id : RunId) (state : AdapterState) :
    Outcome c (.adapterChecked id state) false (c.step extract (.adapterChecked id state)) := by
  cases hs : c.isStarting id with
  | true =>
    obtain ⟨methods, hp⟩ := isStarting_iff.mp hs
    rw [step_adapterChecked_of_starting hp]
    cases state with
    | ready => exact .began hp rfl
    | poweredOff => exact .refused hp (.inl rfl)
    | unavailable => exact .refused hp (.inr rfl)
  | false =>
    rw [step_adapterChecked_of_not_starting hs]
    exact outcome_unchanged fun r _ => by simp [Run.progress]

theorem outcome_stop : Outcome c .stop false (c.step extract .stop) := by
  unfold step isActive
  cases hp : c.phase with
  | idle => exact .nothing (by simp [hp])
  | starting _ _ => exact .abandoned hp
  | running _ => exact outcome_finish hp (.stop rfl)

theorem outcome_startAbandoned (id : RunId) :
    Outcome c (.startAbandoned id) false (c.step extract (.startAbandoned id)) := by
  show Outcome c _ false (if c.isStarting id = true then c.finish .canceled else (c, []))
  by_cases hs : c.isStarting id = true
  · obtain ⟨_, hp⟩ := isStarting_iff.mp hs
    rw [if_pos hs]
    exact .abandoned hp
  · rw [if_neg hs]
    exact outcome_unchanged fun r _ => by simp [Run.progress]

theorem phase_step_stop (extract : Payload → AdvertisementData) (c : Coordinator) :
    (c.step extract .stop).1.phase = .idle := by
  unfold step isActive
  cases hp : c.phase with
  | idle => exact hp
  | starting _ _ => rfl
  | running _ => rfl

theorem step_start_of_not_grants {methods : Methods} (h : c.grants (.start methods) = false) :
    c.step extract (.start methods) = (c, []) := by
  unfold grants at h
  unfold step startVerdict
  by_cases hm : methods.isEmpty = true
  · simp only [hm, ite_true]
  · rw [Bool.not_eq_true] at hm
    have ha : c.isActive = true := by simpa [hm] using h
    simp only [hm, ha, Bool.false_eq_true, ite_false, ite_true]

theorem isReport_failed (e : PlatformError) : ∀ e' ∈ [Event.failed e.kind], e'.isReport := by
  rintro _ (_ | ⟨_, ⟨⟩⟩)
  rfl

/-- What comes of an action is one of the outcomes, and a run is granted exactly where `grants`
says so. -/
theorem step_outcome (extract : Payload → AdvertisementData) (c : Coordinator) (a : Action) :
    Outcome c a (c.grants a) (c.step extract a) := by
  cases a with
  | start methods => exact outcome_start methods
  | adapterChecked id state => exact outcome_adapterChecked id state
  | startAbandoned id => exact outcome_startAbandoned id
  | stop => exact outcome_stop
  | enumerated id selector result =>
    refine outcome_withRun rfl fun r hr hid => ?_
    subst hid
    cases result with
    | ok handles =>
      exact outcome_continueRun hr [] (by simp) (r.progress_enumerated_ok selector handles)
    | error e =>
      exact outcome_continueRun hr [.failed e.kind] (isReport_failed e)
        (r.progress_enumerated_error selector e)
  | resolved id resolution =>
    exact outcome_withRun rfl fun r hr _ => outcome_register hr (by simp [Run.progress]) _
  | resolutionFailed id e =>
    exact outcome_withRun rfl fun r hr _ =>
      outcome_of_progress_eq hr (by simp [Run.progress]) hr rfl rfl (isReport_failed e)
  | lookupEnded id selector =>
    refine outcome_withRun rfl fun r hr hid => ?_
    subst hid
    exact outcome_continueRun hr [] (by simp) (r.progress_lookupEnded selector)
  | watcherOpened id =>
    refine outcome_withRun rfl fun r hr hid => ?_
    subst hid
    refine .worked hr rfl rfl ?_ ?_ (by simp)
    · rw [r.progress_watcherOpened]
    · -- How far the search has come is no part of the work that is left.
      intro left
      rw [r.progress_watcherOpened]
      exact left
  | watcherLost id e =>
    refine outcome_withRun rfl fun r hr hid => ?_
    subst hid
    exact outcome_continueRun hr [.failed e.kind] (isReport_failed e) (r.progress_watcherLost e)
  | advertised id report =>
    exact outcome_withRun rfl fun r hr _ => outcome_advertise hr (by simp [Run.progress]) _ _ _
  | timedOut id =>
    exact outcome_withRun rfl fun r hr hid => outcome_finish hr (.timeout (congrArg _ hid.symm))

theorem grants_eq_false_of_running {r : Run} (h : c.phase = .running r) (a : Action) :
    c.grants a = false := by
  cases a <;> simp [grants, isActive, h]

/-- While a run is under way, an action lets it go on or ends it. -/
theorem step_of_running {r : Run} (h : c.phase = .running r)
    (extract : Payload → AdvertisementData) (a : Action) :
    (∃ r', (c.step extract a).1.phase = .running r' ∧
      r' = { r.progress a with sightings := r'.sightings } ∧
      (r.isComplete = false → (r.progress a).isComplete = false) ∧
      ∀ e ∈ (c.step extract a).2, e.isReport) ∨
    ∃ reports last, c.step extract a = ({ c with phase := .idle }, reports ++ [last]) ∧
      (∀ e ∈ reports, e.isReport) ∧ r.EndsBy a last := by
  have hout := step_outcome extract c a
  rw [grants_eq_false_of_running h] at hout
  generalize c.step extract a = out at hout ⊢
  -- No outcome that needs a request to be checked is possible while a run is present.
  cases hout with
  | nothing away => exact absurd h (away r)
  | refused starting => rw [h] at starting; cases starting
  | abandoned starting => rw [h] at starting; cases starting
  | began starting => rw [h] at starting; cases starting
  | worked running goesOn _ work unfinished told =>
    obtain rfl := Phase.running.inj (h.symm.trans running)
    exact .inl ⟨_, goesOn, work, unfinished, told⟩
  | ended running told how =>
    obtain rfl := Phase.running.inj (h.symm.trans running)
    exact .inr ⟨_, _, rfl, told, how⟩

end Coordinator

end BluetoothDiscovery
