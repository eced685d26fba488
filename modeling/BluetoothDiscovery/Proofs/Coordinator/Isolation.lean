import BluetoothDiscovery.Proofs.Coordinator.RunEvents
import Mathlib.Data.List.TakeWhile

/-!
# Runs are isolated

What is meant for a run that is not the present one is stale, and it is as if it had never come:
delete all of it from a row of actions, and every other moment is as it was
(`historyFrom_undisturbedFrom`).  The number of a run that is over does not come back
(`owner_ne_of_over`), so that whatever comes of it later is stale.

A run does not know what was before it either.  Its number is all that tells it from another run
with the same methods, and `step_renumber` says that a step does the same under another number.
What reaches a run while it is under way is its `course`; two runs with the same methods and the
same course, up to their numbers, announce the same and hold the same devices, whatever their
coordinators did before (`trace_prefix_of_course_prefix`).
-/

namespace BluetoothDiscovery

/-! ### Other numbers -/

/-- The action as it is for the run with another number. -/
def Action.forRun (n : RunId) : Action → Action
  | .start methods => .start methods
  | .adapterChecked _ state => .adapterChecked n state
  | .startAbandoned _ => .startAbandoned n
  | .stop => .stop
  | .enumerated _ selector result => .enumerated n selector result
  | .resolved _ resolution => .resolved n resolution
  | .resolutionFailed _ e => .resolutionFailed n e
  | .lookupEnded _ selector => .lookupEnded n selector
  | .watcherOpened _ => .watcherOpened n
  | .watcherLost _ e => .watcherLost n e
  | .advertised _ report => .advertised n report
  | .timedOut _ => .timedOut n

/-- Whether an action does anything to a run that is under way: it is meant for the run, or it is
a stop. -/
def Action.reaches (id : RunId) : Action → Bool
  | .stop => true
  | a => a.run? = some id

theorem Action.reaches_iff {id : RunId} {a : Action} :
    a.reaches id = true ↔ a = .stop ∨ a.run? = some id := by
  cases a <;> simp [Action.reaches, Action.run?]

/-- The run under another number. -/
def Run.renumber (n : RunId) (r : Run) : Run := { r with id := n }

/-- The phase with another number for its run. -/
def Phase.renumber (n : RunId) : Phase → Phase
  | .idle => .idle
  | .starting _ methods => .starting n methods
  | .running r => .running (r.renumber n)

@[simp]
theorem Run.countEnumerated_renumber (r : Run) (n : RunId) (s : Selector) (found : Nat) :
    (r.renumber n).countEnumerated s found = (r.countEnumerated s found).renumber n := by
  cases s <;> rfl

@[simp]
theorem Run.countLookup_renumber (r : Run) (n : RunId) (s : Selector) :
    (r.renumber n).countLookup s = (r.countLookup s).renumber n := by
  cases s <;> rfl

namespace Coordinator

variable {extract : Payload → AdvertisementData} {c : Coordinator} {r : Run} {n id : RunId}
  {a : Action}

/-- The coordinator as if its last run had another number. -/
def renumber (n : RunId) (c : Coordinator) : Coordinator where
  lastRun := n
  phase := c.phase.renumber n
  store := c.store

/-- What a step comes to as if its run had another number: the same events are announced. -/
def renumberOut (n : RunId) (out : Coordinator × List Event) : Coordinator × List Event :=
  (out.1.renumber n, out.2)

theorem renumber_running (running : c.phase = .running r) :
    (c.renumber n).phase = .running (r.renumber n) := by
  simp only [renumber, running, Phase.renumber]

theorem finish_renumber (c : Coordinator) (n : RunId) (last : Event) :
    (c.renumber n).finish last = renumberOut n (c.finish last) := rfl

theorem announcing_renumber (n : RunId) (e : Event) (out : Coordinator × List Event) :
    announcing e (renumberOut n out) = renumberOut n (announcing e out) := rfl

theorem continueRun_renumber (c : Coordinator) (r : Run) (n : RunId) :
    (c.renumber n).continueRun (r.renumber n) = renumberOut n (c.continueRun r) := by
  unfold continueRun
  have same : (r.renumber n).isComplete = r.isComplete := rfl
  rw [same]
  split <;> rfl

theorem register_renumber (c : Coordinator) (n : RunId) (d : Device) :
    (c.renumber n).register d = renumberOut n (c.register d) := by
  unfold register
  cases hu : (c.store.upsert d).2 with
  | inserted => simp only [renumber, hu]; rfl
  | merged changes =>
    simp only [renumber, hu]
    split <;> rfl

theorem advertise_renumber (c : Coordinator) (r : Run) (n : RunId) (address : Address)
    (rssi : Int16) (data : AdvertisementData) :
    (c.renumber n).advertise (r.renumber n) address rssi data =
      renumberOut n (c.advertise r address rssi data) := by
  unfold advertise
  have same : (r.renumber n).sightings = r.sightings := rfl
  rw [same]
  obtain ⟨sightings, device, change⟩ := r.sightings.observe address rssi data
  cases hc : change.announcement <;> simp only [hc] <;> rfl

/-- What is done with the present run is done with the renumbered one. -/
theorem withRun_renumber (running : c.phase = .running r) (n : RunId)
    {f g : Run → Coordinator × List Event} (same : g (r.renumber n) = renumberOut n (f r)) :
    (c.renumber n).withRun n g = renumberOut n (c.withRun r.id f) := by
  have running' : (c.renumber n).phase = .running (r.renumber n) := renumber_running running
  rw [withRun_of_running running, ← same]
  exact withRun_of_running running' g

/-- A run goes on in the same way under another number. -/
theorem step_renumber (running : c.phase = .running r) (reaches : a.reaches r.id = true)
    (extract : Payload → AdvertisementData) (n : RunId) :
    (c.renumber n).step extract (a.forRun n) = renumberOut n (c.step extract a) := by
  have running' : (c.renumber n).phase = .running (r.renumber n) := renumber_running running
  -- Apart from a stop and what belongs to a start, a step does something with the present run.
  have notStarting : c.isStarting r.id = false := by simp [isStarting, running]
  have notStarting' : (c.renumber n).isStarting n = false := by simp [isStarting, running']
  rcases Action.reaches_iff.mp reaches with rfl | own
  · have active : c.phase.owner ≠ none := by simp [running, Phase.owner]
    have active' : (c.renumber n).phase.owner ≠ none := by simp [running', Phase.owner]
    show (c.renumber n).step extract .stop = _
    rw [(step_stop c).1 active, (step_stop _).1 active']
    rfl
  · cases a with
    | start _ => cases own
    | stop => cases own
    | adapterChecked id state =>
      obtain rfl : id = r.id := Option.some.inj own
      rw [step_adapterChecked_of_not_starting notStarting]
      exact step_adapterChecked_of_not_starting notStarting' state
    | startAbandoned id =>
      obtain rfl : id = r.id := Option.some.inj own
      rw [step_startAbandoned_of_not_starting notStarting]
      exact step_startAbandoned_of_not_starting notStarting'
    | enumerated id selector result =>
      obtain rfl : id = r.id := Option.some.inj own
      refine withRun_renumber running n ?_
      cases result with
      | ok handles =>
        simp only [Run.countEnumerated_renumber]
        exact continueRun_renumber c _ n
      | error e =>
        simp only [Run.countEnumerated_renumber, continueRun_renumber, announcing_renumber]
    | resolved id resolution =>
      obtain rfl : id = r.id := Option.some.inj own
      exact withRun_renumber running n (register_renumber c n (r.deviceOf resolution))
    | resolutionFailed id e =>
      obtain rfl : id = r.id := Option.some.inj own
      exact withRun_renumber running n rfl
    | lookupEnded id selector =>
      obtain rfl : id = r.id := Option.some.inj own
      refine withRun_renumber running n ?_
      simp only [Run.countLookup_renumber]
      exact continueRun_renumber c _ n
    | watcherOpened id =>
      obtain rfl : id = r.id := Option.some.inj own
      exact withRun_renumber running n rfl
    | watcherLost id e =>
      obtain rfl : id = r.id := Option.some.inj own
      refine withRun_renumber running n ?_
      show announcing _ ((c.renumber n).continueRun
        (Run.renumber n { r with watching := false, lowEnergy := .stopped })) = _
      rw [continueRun_renumber, announcing_renumber]
    | advertised id report =>
      obtain rfl : id = r.id := Option.some.inj own
      exact withRun_renumber running n (advertise_renumber c r n _ _ _)
    | timedOut id =>
      obtain rfl : id = r.id := Option.some.inj own
      exact withRun_renumber running n (finish_renumber c n .finished)

/-- What does not reach the present run changes nothing. -/
theorem step_of_not_reaches (running : c.phase = .running r) (away : a.reaches r.id = false)
    (extract : Payload → AdvertisementData) : c.step extract a = (c, []) := by
  have other : ∀ id, a.run? = some id → c.phase.owner ≠ some id := by
    intro id meant present
    rw [running] at present
    have own : a.run? = some r.id := meant.trans present.symm
    rw [Action.reaches_iff.mpr (.inr own)] at away
    cases away
  cases hmeant : a.run? with
  | some id => exact step_of_run?_ne_owner hmeant (other id hmeant)
  | none =>
    cases a with
    | start methods => exact step_start_of_not_grants (grants_eq_false_of_running running _)
    | stop => cases away
    | _ => cases hmeant

/-! ### The course of a run -/

/-- What reaches a run from the moment at which a coordinator has it under way, until it is over. -/
def course (extract : Payload → AdvertisementData) (c : Coordinator) (id : RunId)
    (as : List Action) : List Moment :=
  ((historyFrom extract c as).takeWhile (·.coordinator.isRunning id)).filter (·.action.reaches id)

/-- What an action announces, and the devices after it. -/
def Moment.trace (extract : Payload → AdvertisementData) (m : Moment) : List Event × List Device :=
  (m.events extract, (m.next extract).devices)

theorem course_of_not_running (h : c.isRunning id = false) (as : List Action) :
    course extract c id as = [] := by
  unfold course
  cases as with
  | nil => rfl
  | cons a as => simp [historyFrom, h]

theorem course_cons_of_reaches (h : c.isRunning id = true) (reaches : a.reaches id = true)
    (as : List Action) : course extract c id (a :: as) =
      ⟨c, a⟩ :: course extract (c.step extract a).1 id as := by
  simp [course, historyFrom, h, reaches]

theorem course_cons_of_not_reaches (running : c.phase = .running r)
    (away : a.reaches r.id = false) (as : List Action) :
    course extract c r.id (a :: as) = course extract c r.id as := by
  have same := step_of_not_reaches running away extract
  simp [course, historyFrom, isRunning_of_running running, away, same]

/-- A run leaves the same trace as one that is played from its course alone, under any number. -/
theorem trace_course (extract : Payload → AdvertisementData) (c : Coordinator) (id n : RunId)
    (as : List Action) :
    (course extract c id as).map (Moment.trace extract) =
      (historyFrom extract (c.renumber n)
        ((course extract c id as).map (·.action.forRun n))).map (Moment.trace extract) := by
  -- Both coordinators make the same step wherever an action reaches the run, up to its number.
  induction as generalizing c with
  | nil => rfl
  | cons a as ih =>
    cases hrun : c.isRunning id with
    | false => simp only [course_of_not_running hrun, List.map_nil, historyFrom]
    | true =>
      obtain ⟨r, running, rfl⟩ := isRunning_iff.mp hrun
      cases hreach : a.reaches r.id with
      | false =>
        -- What does not reach the run is in neither course.
        rw [course_cons_of_not_reaches running hreach]
        exact ih c
      | true =>
        have step := step_renumber running hreach extract n
        have next : ((c.renumber n).step extract (a.forRun n)).1 =
            (c.step extract a).1.renumber n := congrArg Prod.fst step
        have trace : Moment.trace extract ⟨c.renumber n, a.forRun n⟩ =
            Moment.trace extract ⟨c, a⟩ := by
          simp only [Moment.trace, Moment.events, Moment.next, step]
          rfl
        rw [course_cons_of_reaches hrun hreach, List.map_cons, List.map_cons, historyFrom,
          List.map_cons, next, trace]
        exact congrArg _ (ih _)

theorem historyFrom_mono {as bs : List Action} (h : as <+: bs) (c : Coordinator) :
    historyFrom extract c as <+: historyFrom extract c bs := by
  obtain ⟨more, rfl⟩ := h
  induction as generalizing c with
  | nil => exact List.nil_prefix
  | cons a as ih => exact List.cons_prefix_cons.mpr ⟨rfl, ih _⟩

/-- Two runs that look the same but for their numbers leave the same trace as long as their courses
are the same. -/
theorem trace_prefix_of_course_prefix {d : Coordinator} {i j : RunId} {as bs : List Action}
    (alike : c.renumber n = d.renumber n)
    (same : (course extract c i as).map (·.action.forRun n) <+:
      (course extract d j bs).map (·.action.forRun n)) :
    (course extract c i as).map (Moment.trace extract) <+:
      (course extract d j bs).map (Moment.trace extract) := by
  rw [trace_course extract c i n, trace_course extract d j n, alike]
  exact (historyFrom_mono same _).map _

/-- A run begins with nothing of what was before it but its number. -/
theorem renumber_begin {methods : Methods} (starting : c.phase = .starting id methods)
    (extract : Payload → AdvertisementData) (n : RunId) :
    (c.step extract (.adapterChecked id .ready)).1.renumber n =
      { lastRun := n, phase := .running (.begin n methods) } := by
  rw [step_adapterChecked_of_starting starting]
  rfl

/-- What does not reach a run while it is under way changes nothing and announces nothing. -/
theorem unmoved_of_not_reaches {as : List Action} {m : Moment}
    (h : m ∈ (historyFrom extract c as).takeWhile (·.coordinator.isRunning id))
    (away : m.action.reaches id = false) :
    m.next extract = m.coordinator ∧ m.events extract = [] := by
  have under := List.mem_takeWhile_imp h
  obtain ⟨r, running, rfl⟩ := isRunning_iff.mp under
  have same := step_of_not_reaches running away extract
  exact ⟨congrArg Prod.fst same, congrArg Prod.snd same⟩

/-! ### Stale actions -/

/-- Whether an action is meant for a run that is not the present one. -/
def Moment.isStale (m : Moment) : Bool := m.action.run?.any fun id => m.owner ≠ some id

theorem Moment.isStale_iff {m : Moment} :
    m.isStale = true ↔ ∃ id, m.action.run? = some id ∧ m.owner ≠ some id := by
  simp [Moment.isStale, Option.any_eq_true]

theorem step_of_isStale (h : Moment.isStale ⟨c, a⟩ = true) : c.step extract a = (c, []) := by
  obtain ⟨id, meant, other⟩ := Moment.isStale_iff.mp h
  exact step_of_run?_ne_owner meant other

/-- The actions of a row that are not stale when they come. -/
def undisturbedFrom (extract : Payload → AdvertisementData) (c : Coordinator) (as : List Action) :
    List Action :=
  ((historyFrom extract c as).filter (!·.isStale)).map Moment.action

/-- The actions of a row since the creation of a coordinator that are not stale when they come. -/
def undisturbed (extract : Payload → AdvertisementData) (as : List Action) : List Action :=
  undisturbedFrom extract {} as

theorem undisturbedFrom_cons_of_isStale (h : Moment.isStale ⟨c, a⟩ = true) (as : List Action) :
    undisturbedFrom extract c (a :: as) = undisturbedFrom extract c as := by
  simp [undisturbedFrom, historyFrom, h, step_of_isStale h]

theorem undisturbedFrom_cons_of_not_isStale (h : Moment.isStale ⟨c, a⟩ = false)
    (as : List Action) : undisturbedFrom extract c (a :: as) =
      a :: undisturbedFrom extract (c.step extract a).1 as := by
  simp [undisturbedFrom, historyFrom, h]

/-- Without what is stale a row leads to the same place and announces the same. -/
theorem steps_undisturbedFrom (c : Coordinator) (as : List Action) :
    c.steps extract (undisturbedFrom extract c as) = c.steps extract as := by
  induction as generalizing c with
  | nil => rfl
  | cons a as ih =>
    cases h : Moment.isStale ⟨c, a⟩ with
    | true => rw [undisturbedFrom_cons_of_isStale h, ih, steps_cons, step_of_isStale h]; rfl
    | false => rw [undisturbedFrom_cons_of_not_isStale h, steps_cons, steps_cons, ih]

/-- Without what is stale every other action meets the coordinator that it met. -/
theorem historyFrom_undisturbedFrom (c : Coordinator) (as : List Action) :
    historyFrom extract c (undisturbedFrom extract c as) =
      (historyFrom extract c as).filter (!·.isStale) := by
  induction as generalizing c with
  | nil => rfl
  | cons a as ih =>
    cases h : Moment.isStale ⟨c, a⟩ with
    | true =>
      rw [undisturbedFrom_cons_of_isStale h, ih, historyFrom, step_of_isStale h,
        List.filter_cons_of_neg (by simp [h])]
    | false =>
      rw [undisturbedFrom_cons_of_not_isStale h, historyFrom, historyFrom, ih,
        List.filter_cons_of_pos (by simp [h])]

/-! ### Runs that are over -/

theorem mem_runNumbers_mono {m k : Nat} (h : id ∈ runNumbers m) (le : m ≤ k) :
    id ∈ runNumbers k := by
  obtain ⟨i, one_le, hi, rfl⟩ := mem_runNumbers.mp h
  exact mem_runNumbers.mpr ⟨i, one_le, Nat.le_trans hi le, rfl⟩

theorem granted_le_append (as bs : List Action) :
    granted extract as ≤ granted extract (as ++ bs) := by
  induction bs using List.reverseRecOn with
  | nil => exact Nat.le_of_eq (by rw [List.append_nil])
  | append_singleton bs b ih =>
    rw [← List.append_assoc]
    exact Nat.le_trans ih (granted_le_concat _ b)

/-- The number of a run that is over does not come back. -/
theorem owner_ne_of_over {as bs : List Action} (few : granted extract (as ++ bs) < 2 ^ 64)
    (known : id ∈ runNumbers (granted extract as))
    (ended : (after extract as).phase.owner ≠ some id) :
    (after extract (as ++ bs)).phase.owner ≠ some id := by
  induction bs using List.reverseRecOn with
  | nil => rwa [List.append_nil]
  | append_singleton bs b ih =>
    rw [← List.append_assoc] at few ⊢
    have fewer : granted extract (as ++ bs) < 2 ^ 64 :=
      Nat.lt_of_le_of_lt (granted_le_concat _ b) few
    have hout := step_outcome extract (after extract (as ++ bs)) b
    rw [after_concat]
    cases hgrant : (after extract (as ++ bs)).grants b with
    | false =>
      rw [hgrant] at hout
      exact hout.owner_ne (ih fewer)
    | true =>
      -- A run that is granted gets a number that none had before.
      rw [hgrant] at hout
      obtain ⟨methods, -, -, hstep⟩ := hout.of_granted
      rw [hstep]
      intro he
      have hid : (after extract (as ++ bs)).lastRun + 1 = id := Option.some.inj he
      have succ : granted extract (as ++ bs ++ [b]) = granted extract (as ++ bs) + 1 := by
        rw [granted_concat, hgrant]
        rfl
      have number : id = UInt64.ofNat (granted extract (as ++ bs) + 1) := by
        rw [← hid, (told_of_granted_lt fewer).lastRun, UInt64.ofNat_add]
        rfl
      have known' := mem_runNumbers_mono known (granted_le_append as bs)
      rw [number] at known'
      exact succ_not_mem_runNumbers (succ ▸ few) known'

theorem mem_historyFrom {as : List Action} {m : Moment} (h : m ∈ historyFrom extract c as) :
    ∃ before later, as = before ++ m.action :: later ∧
      m.coordinator = (c.steps extract before).1 := by
  induction as generalizing c with
  | nil => exact absurd h List.not_mem_nil
  | cons a as ih =>
    rcases List.mem_cons.mp h with rfl | h
    · exact ⟨[], as, rfl, rfl⟩
    · obtain ⟨before, later, rfl, hm⟩ := ih h
      exact ⟨a :: before, later, rfl, hm⟩

/-- Whatever comes of a run that is over is stale. -/
theorem isStale_of_over {as bs : List Action} (few : granted extract (as ++ bs) < 2 ^ 64)
    (known : id ∈ runNumbers (granted extract as))
    (ended : (after extract as).phase.owner ≠ some id)
    {m : Moment} (later : m ∈ historyFrom extract (after extract as) bs)
    (meant : m.action.run? = some id) : m.isStale = true := by
  obtain ⟨before, rest, rfl, hm⟩ := mem_historyFrom later
  refine Moment.isStale_iff.mpr ⟨id, meant, ?_⟩
  have few' : granted extract (as ++ before) < 2 ^ 64 := by
    refine Nat.lt_of_le_of_lt ?_ few
    rw [← List.append_assoc]
    exact granted_le_append _ _
  have past := owner_ne_of_over few' known ended
  rw [after_append, ← hm] at past
  exact past

/-! ### Isolation -/

/-- What is stale leaves no mark on a row of actions. -/
structure Undisturbed (extract : Payload → AdvertisementData) (as : List Action) : Prop where
  /-- To delete all that is stale changes neither the events nor the coordinator at the end. -/
  announced_eq : announced extract (undisturbed extract as) = announced extract as
  after_eq : after extract (undisturbed extract as) = after extract as
  /-- Each action that is left meets the coordinator that it met, so that it also leaves the same
  behind and announces the same. -/
  history_eq : history extract (undisturbed extract as) =
    (history extract as).filter (!·.isStale)
  /-- From the moment at which a run is over, all that comes of it is stale. -/
  ended : ∀ before later id, as = before ++ later → id ∈ runNumbers (granted extract before) →
    (after extract before).phase.owner ≠ some id →
    ∀ m ∈ historyFrom extract (after extract before) later, m.action.run? = some id →
      m.isStale = true

/-- **Runs are isolated.**  What is stale leaves no mark.  Where two coordinators begin a run with
the same methods, whatever was before, nothing is announced by it and no device is left; what does
not reach the run changes nothing while it is under way; and the two runs announce the same and
hold the same devices as long as the same reaches them. -/
theorem runs_isolated (extract : Payload → AdvertisementData) :
    (∀ as, granted extract as < 2 ^ 64 → Undisturbed extract as) ∧
      ∀ (c d : Coordinator) (i j : RunId) (methods : Methods),
        c.phase = .starting i methods → d.phase = .starting j methods →
        let begun := c.step extract (.adapterChecked i .ready)
        let begun' := d.step extract (.adapterChecked j .ready)
        begun.1.isRunning i = true ∧ begun.2 = [] ∧ begun.1.devices = [] ∧
          ∀ as, (∀ m ∈ (historyFrom extract begun.1 as).takeWhile (·.coordinator.isRunning i),
              m.action.reaches i = false →
                m.next extract = m.coordinator ∧ m.events extract = []) ∧
            ∀ bs, (course extract begun.1 i as).map (·.action.forRun 0) <+:
                (course extract begun'.1 j bs).map (·.action.forRun 0) →
              (course extract begun.1 i as).map (Moment.trace extract) <+:
                (course extract begun'.1 j bs).map (Moment.trace extract) := by
  constructor
  · intro as few
    constructor
    · exact congrArg Prod.snd (steps_undisturbedFrom {} as)
    · exact congrArg Prod.fst (steps_undisturbedFrom {} as)
    · exact historyFrom_undisturbedFrom {} as
    · rintro before later id rfl known ended m hm meant
      exact isStale_of_over few known ended hm meant
  · intro c d i j methods starting starting' begun begun'
    have hbegun : begun = c.beginRun i methods .ready := step_adapterChecked_of_starting starting _
    refine ⟨?_, congrArg Prod.snd hbegun, ?_, fun as => ⟨?_, fun bs same => ?_⟩⟩
    · rw [hbegun]
      exact isRunning_iff.mpr ⟨_, rfl, rfl⟩
    · rw [hbegun]
      rfl
    · -- While the run is under way, what does not reach it is stale or not granted.
      exact fun m hm away => unmoved_of_not_reaches hm away
    · -- Just begun, the two coordinators differ in the number of their run alone.
      have alike : begun.1.renumber 0 = begun'.1.renumber 0 := by
        rw [renumber_begin starting, renumber_begin starting']
      exact trace_prefix_of_course_prefix alike same

/-- A device is heard in a second run, after a late answer to the first, as it is heard in a run of
a new coordinator. -/
theorem runs_isolated_second_run :
    let heard (id : RunId) (rssi : Int16) : Action :=
      .advertised id ⟨⟨7, by decide⟩, rssi, .decoded {}⟩
    let c := after Payload.extract
      [.start Methods.lowEnergy, .adapterChecked 1 .ready, heard 1 (-40), .stop,
        .start Methods.lowEnergy]
    let d := after Payload.extract [.start Methods.lowEnergy]
    let begun := (c.step Payload.extract (.adapterChecked 2 .ready)).1
    let begun' := (d.step Payload.extract (.adapterChecked 1 .ready)).1
    let as : List Action := [.enumerated 1 .lowEnergy (.ok []), heard 2 (-50), heard 1 (-60)]
    c.devices ≠ d.devices ∧
      (course Payload.extract begun 2 as).map (Moment.trace Payload.extract) =
        (course Payload.extract begun' 1 [heard 1 (-50)]).map (Moment.trace Payload.extract) := by
  intro heard c d begun begun' as
  have alike := ((runs_isolated Payload.extract).2 c d 2 1 Methods.lowEnergy rfl rfl).2.2.2 as
  refine ⟨by decide, (alike.2 [heard 1 (-50)] ?_).eq_of_length ?_⟩
  · exact ⟨[], rfl⟩
  · rfl

end Coordinator

end BluetoothDiscovery
