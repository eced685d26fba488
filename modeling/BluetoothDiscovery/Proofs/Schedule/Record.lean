import BluetoothDiscovery.Proofs.Coordinator.Failures
import BluetoothDiscovery.Proofs.Schedule.System

/-!
# Records

The actions of a system do not say whose device was looked up, nor what the radio answered.  A
`Deed` is an action with the coordinator that it met and, if it tells what a look-up came to, with
the look-up.  A `System.Record` is a row of steps of a system that is taken down as its deeds.

Two things are settled here that an execution leaves open.  What a look-up comes to is settled by
the answers to the calls that it makes (`Course`).  And a look-up is not dropped without an outcome
as long as its run goes on: it gives up when it notices that its run has ended.
-/

namespace BluetoothDiscovery

open Coordinator (Moment granted history)

/-! ### Look-ups -/

/-- How a look-up went: what the radio answered to its first call, and to its second if it was
made.  Whether it was made is left open. -/
inductive Course where
  | unidentified (e : PlatformError)
  /-- The device was identified, and its services were not asked for. -/
  | identified (identity : Identity)
  /-- The device was identified, and its services were asked for. -/
  | listed (identity : Identity) (answer : Except PlatformError ServiceListing)

namespace Course

/-- What a look-up comes to. -/
def outcome (selector : Selector) : Course → Except PlatformError Resolution
  | .unidentified e => .error e
  | .identified identity => .ok ⟨selector, identity, none⟩
  | .listed identity answer => answer.bind (Resolution.ofListing selector identity)

/-- The call of a look-up that failed.  Services that are listed with another status than success
are a failure, too. -/
def failedCall? : Course → Option Stage
  | .unidentified _ => some .resolveDevice
  | .identified _ => none
  | .listed _ (.error _) => some .fetchServices
  | .listed _ (.ok listing) => if listing.status = .success then none else some .fetchServices

/-- Whether a call that fails says itself which call it was. -/
def Candid : Course → Prop
  | .unidentified e => e.stage = .resolveDevice
  | .listed _ (.error e) => e.stage = .fetchServices
  | _ => True

/-- The error of a look-up names the call that failed. -/
theorem failedCall?_eq {course : Course} (candid : course.Candid) {selector : Selector}
    {e : PlatformError} (failed : course.outcome selector = .error e) :
    course.failedCall? = some e.stage := by
  cases course with
  | unidentified e' =>
    obtain rfl : e' = e := Except.error.inj failed
    exact congrArg some candid.symm
  | identified identity => cases failed
  | listed identity answer =>
    cases answer with
    | error e' =>
      obtain rfl : e' = e := Except.error.inj failed
      exact congrArg some candid.symm
    | ok listing =>
      replace failed : Resolution.ofListing selector identity listing = .error e := failed
      unfold Resolution.ofListing at failed
      show (if listing.status = .success then none else some Stage.fetchServices) = _
      split at failed
      · cases failed
      next other =>
        rw [if_neg other, ← Except.error.inj failed]

end Course

/-- A device that an enumeration returned, to be looked up. -/
structure Candidate where
  slot : Selector
  handle : Handle
deriving DecidableEq

/-- A look-up that has come to its outcome. -/
structure Settlement where
  candidate : Candidate
  course : Course

/-- What a look-up came to. -/
def Settlement.outcome (x : Settlement) : Except PlatformError Resolution :=
  x.course.outcome x.candidate.handle.selector

/-- Whether a look-up failed. -/
def Settlement.failed (x : Settlement) : Bool :=
  match x.outcome with
  | .ok _ => false
  | .error _ => true

namespace Action

/-- The action that tells what a look-up came to. -/
def ofOutcome (id : RunId) : Except PlatformError Resolution → Action
  | .ok resolution => .resolved id resolution
  | .error e => .resolutionFailed id e

/-- The devices that an enumeration returned. -/
def found : Action → List Candidate
  | .enumerated _ slot (.ok handles) => handles.map (⟨slot, ·⟩)
  | _ => []

/-- Whether an enumeration failed. -/
def isFailedEnumeration : Action → Bool
  | .enumerated _ _ (.error _) => true
  | _ => false

/-- Whether a watcher is lost. -/
def isLoss : Action → Bool
  | .watcherLost _ _ => true
  | _ => false

@[simp]
theorem run?_ofOutcome (id : RunId) (o : Except PlatformError Resolution) :
    (ofOutcome id o).run? = some id := by
  cases o <;> rfl

@[simp]
theorem found_ofOutcome (id : RunId) (o : Except PlatformError Resolution) :
    (ofOutcome id o).found = [] := by
  cases o <;> rfl

@[simp]
theorem isLoss_ofOutcome (id : RunId) (o : Except PlatformError Resolution) :
    (ofOutcome id o).isLoss = false := by
  cases o <;> rfl

end Action

/-! ### Deeds -/

/-- An action with the coordinator that it met, and with the look-up whose outcome it tells. -/
structure Deed where
  coordinator : Coordinator
  action : Action
  settles? : Option Settlement := none

namespace Deed

/-- The moment of a deed. -/
def moment (d : Deed) : Moment := ⟨d.coordinator, d.action⟩

/-- Whether a deed is taken in by a run: it is meant for the run and finds it going on. -/
def counts (d : Deed) (id : RunId) : Bool :=
  d.coordinator.isRunning id && d.action.run? = some id

theorem counts_iff {d : Deed} {id : RunId} :
    d.counts id = true ↔ d.coordinator.isRunning id = true ∧ d.action.run? = some id := by
  unfold counts
  rw [Bool.and_eq_true, decide_eq_true_iff]

end Deed

/-- The deeds that were taken in by a run. -/
def takenIn (ds : List Deed) (id : RunId) : List Deed := ds.filter (·.counts id)

/-- The devices that enumerations returned. -/
def found (ds : List Deed) : List Candidate := ds.flatMap (·.action.found)

/-- The look-ups that came to an outcome. -/
def settlements (ds : List Deed) : List Settlement := ds.filterMap Deed.settles?

/-- The failures that were reported. -/
def failures (ds : List Deed) : List PlatformError := ds.filterMap (·.action.failure?)

section lists

variable {ds : List Deed} {d : Deed} {id : RunId}

theorem takenIn_concat_of_counts (ds : List Deed) (counts : d.counts id = true) :
    takenIn (ds ++ [d]) id = takenIn ds id ++ [d] := by
  unfold takenIn
  rw [List.filter_append, List.filter_singleton, counts]
  rfl

theorem takenIn_concat_of_not_counts (ds : List Deed) (past : d.counts id = false) :
    takenIn (ds ++ [d]) id = takenIn ds id := by
  unfold takenIn
  rw [List.filter_append, List.filter_singleton, past]
  exact List.append_nil _

theorem found_concat : found (ds ++ [d]) = found ds ++ d.action.found := by
  unfold found
  rw [List.flatMap_append, List.flatMap_singleton]

theorem settlements_concat : settlements (ds ++ [d]) = settlements ds ++ d.settles?.toList := by
  unfold settlements
  rw [List.filterMap_append]
  cases h : d.settles? <;> simp [h]

theorem failures_concat : failures (ds ++ [d]) = failures ds ++ d.action.failure?.toList := by
  unfold failures
  rw [List.filterMap_append]
  cases h : d.action.failure? <;> simp [h]

theorem actions_concat : (ds ++ [d]).map Deed.action = ds.map Deed.action ++ [d.action] :=
  List.map_append

theorem granted_lt_of_concat {extract : Payload → AdvertisementData} {n : Nat}
    (few : granted extract ((ds ++ [d]).map Deed.action) < n) :
    granted extract (ds.map Deed.action) < n := by
  rw [actions_concat] at few
  exact (Coordinator.granted_le_concat _ _).trans_lt few

end lists

/-! ### Records -/

/-- Whether a task looks up a device. -/
def Task.isLookup : Task → Bool
  | .lookup _ _ _ => true
  | _ => false

namespace System

/-- A step of a system as it is taken down. -/
inductive Recorded (extract : Payload → AdvertisementData) (s : System) : Deed → System → Prop
  | request (methods : Methods) (timed : Bool) :
      Recorded extract s ⟨s.coordinator, .start methods, none⟩
        ⟨(s.coordinator.step extract (.start methods)).1,
          checks s.coordinator methods timed + s.tasks⟩
  | stop :
      Recorded extract s ⟨s.coordinator, .stop, none⟩
        ⟨(s.coordinator.step extract .stop).1, s.tasks⟩
  | work (t : Task) (rest : Multiset Task) (present : s.tasks = t ::ₘ rest)
      (other : t.isLookup = false) {a : Action} {more : Multiset Task}
      (does : t.Does s.coordinator a more) :
      Recorded extract s ⟨s.coordinator, a, none⟩
        ⟨(s.coordinator.step extract a).1, more + rest⟩
  /-- A look-up comes to its outcome. -/
  | lookup (run : RunId) (x : Settlement) (rest : Multiset Task)
      (present : s.tasks = .lookup run x.candidate.slot x.candidate.handle ::ₘ rest) :
      Recorded extract s ⟨s.coordinator, .ofOutcome run x.outcome, some x⟩
        ⟨(s.coordinator.step extract (.ofOutcome run x.outcome)).1,
          .ending run x.candidate.slot ::ₘ rest⟩
  /-- A look-up gives up because its run has ended. -/
  | dropped (run : RunId) (slot : Selector) (handle : Handle) (rest : Multiset Task)
      (present : s.tasks = .lookup run slot handle ::ₘ rest)
      (past : s.coordinator.isRunning run = false) :
      Recorded extract s ⟨s.coordinator, .lookupEnded run slot, none⟩
        ⟨(s.coordinator.step extract (.lookupEnded run slot)).1, rest⟩

/-- A row of steps since the creation of a system, taken down as its deeds. -/
inductive Record (extract : Payload → AdvertisementData) : List Deed → System → Prop
  | nil : Record extract [] {}
  | concat {ds : List Deed} {s s' : System} {d : Deed} (before : Record extract ds s)
      (last : Recorded extract s d s') : Record extract (ds ++ [d]) s'

variable {extract : Payload → AdvertisementData} {s s' : System} {d : Deed} {ds : List Deed}

theorem Recorded.coordinator_eq (h : Recorded extract s d s') : d.coordinator = s.coordinator := by
  cases h <;> rfl

/-- What is taken down is a step. -/
theorem Recorded.step (h : Recorded extract s d s') : Step extract s d.action s' := by
  cases h with
  | request methods timed => exact .request methods timed
  | stop => exact .stop
  | work t rest present _ does => exact .work t rest present does
  | lookup run x rest present =>
    rw [← Multiset.singleton_add]
    refine .work _ rest present ?_
    cases x.outcome with
    | ok resolution => exact .resolved run _ _ resolution
    | error e => exact .failed run _ _ e
  | dropped run slot handle rest present _ =>
    rw [← zero_add rest]
    exact .work _ rest present (.dropped run slot handle)

/-- What a look-up came to is what its deed tells. -/
theorem Recorded.action_of_settles (h : Recorded extract s d s') {x : Settlement}
    (settles : d.settles? = some x) : ∃ run, d.action = .ofOutcome run x.outcome := by
  cases h with
  | lookup run y rest present =>
    obtain rfl := Option.some.inj settles
    exact ⟨run, rfl⟩
  | _ => cases settles

/-- A record is one of an execution. -/
theorem Record.execution (h : Record extract ds s) :
    Execution extract {} (ds.map Deed.action) s := by
  induction h with
  | nil => exact .nil
  | concat _ last ih =>
    rw [actions_concat]
    exact ih.concat last.step

/-- The coordinators that the deeds of a record met are those of its actions. -/
theorem Record.history_eq (h : Record extract ds s) :
    history extract (ds.map Deed.action) = ds.map Deed.moment := by
  induction h with
  | nil => rfl
  | concat before last ih =>
    have met := last.coordinator_eq.trans before.execution.coordinator_eq
    rw [actions_concat, Coordinator.history_concat, ih, List.map_append, ← met]
    rfl

/-- The last deed of a record was done in a system that the deeds before it led to. -/
theorem Record.of_concat (h : Record extract (ds ++ [d]) s') :
    ∃ s, Record extract ds s ∧ Recorded extract s d s' := by
  generalize whole : ds ++ [d] = all at h
  cases h with
  | nil => simp at whole
  | concat before last =>
    obtain ⟨rfl, same⟩ := List.append_inj' whole rfl
    cases same
    exact ⟨_, before, last⟩

/-- What was taken down first is a record, too. -/
theorem Record.of_prefix (h : Record extract ds s) {first : List Deed} (split : first <+: ds) :
    ∃ s', Record extract first s' := by
  induction h with
  | nil =>
    rw [List.prefix_nil.mp split]
    exact ⟨_, .nil⟩
  | concat before last ih =>
    rcases List.prefix_concat_iff.mp split with rfl | earlier
    · exact ⟨_, before.concat last⟩
    · exact ih earlier

end System

end BluetoothDiscovery
