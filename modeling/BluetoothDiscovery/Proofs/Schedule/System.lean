import BluetoothDiscovery.Proofs.Coordinator.RunEvents
import Mathlib.Data.Multiset.Bind

/-!
# The tasks beside a coordinator

A coordinator does nothing by itself.  Its actions come of tasks that work side by side: one for
each request whose adapter is checked, one for each enumeration, one for each device that is looked
up, one that watches advertisements and one that waits for their time to be over.  A `System` is a
coordinator with the tasks that are there; `System.Step` lets any one of them take its next action,
in any order and with any answer of the radio, or lets a caller ask for a run or stop.

A task that is never let on again stands for one that hangs, and also for one that notices that its
run has ended and gives up: neither is heard of any more.

`work` is what a run waits for: the tasks of the run, each by the piece of work that it is at.
-/

namespace BluetoothDiscovery

/-! ### Tasks -/

/-- A piece of work that a run waits for. -/
inductive Piece where
  /-- An enumeration that has not returned. -/
  | enumeration (selector : Selector)
  /-- A look-up that has not ended, by the enumeration it comes from. -/
  | lookup (slot : Selector)
  /-- A watcher that is being opened. -/
  | opening
  /-- An open watcher that has not been lost. -/
  | watching
deriving DecidableEq

/-- A task, by what it does next. -/
inductive Task where
  /-- The adapter is being checked for a request, which sets an end to advertisements if it is
  `timed`. -/
  | check (run : RunId) (methods : Methods) (timed : Bool)
  | enumeration (run : RunId) (selector : Selector)
  | lookup (run : RunId) (slot : Selector) (handle : Handle)
  /-- A look-up whose outcome is told and that is about to end. -/
  | ending (run : RunId) (slot : Selector)
  | opening (run : RunId)
  | watch (run : RunId)
  | timer (run : RunId)
deriving DecidableEq

namespace Task

/-- The run that a task works for. -/
def run : Task → RunId
  | .check run _ _ | .enumeration run _ | .lookup run _ _ | .ending run _ | .opening run
  | .watch run | .timer run => run

/-- The piece of work that a task is at.  No run waits for a check or a timer. -/
def pieces : Task → Multiset Piece
  | .enumeration _ selector => {.enumeration selector}
  | .lookup _ slot _ | .ending _ slot => {.lookup slot}
  | .opening _ => {.opening}
  | .watch _ => {.watching}
  | .check _ _ _ | .timer _ => 0

/-- The tasks that a run begins with. -/
def ofRun (id : RunId) (methods : Methods) (timed : Bool) : Multiset Task :=
  (if methods.contains Methods.classic then {.enumeration id .classic} else 0) +
    if methods.contains Methods.lowEnergy then
      {.enumeration id .lowEnergy, .opening id} + if timed then {.timer id} else 0
    else 0

/-- The tasks that look up what an enumeration returned. -/
def ofHandles (id : RunId) (slot : Selector) :
    Except PlatformError (List Handle) → Multiset Task
  | .ok handles => (handles.map (.lookup id slot) : List Task)
  | .error _ => 0

/-- What a task can do beside a coordinator: the action that it takes, and the tasks that are there
in its place afterwards. -/
inductive Does (c : Coordinator) : Task → Action → Multiset Task → Prop
  /-- The adapter is checked; unless the request was stopped meanwhile, its run begins. -/
  | checked (id : RunId) (methods : Methods) (timed : Bool) (state : AdapterState) :
      Does c (.check id methods timed) (.adapterChecked id state)
        (if c.isStarting id ∧ state = .ready then ofRun id methods timed else 0)
  /-- The caller gives up its request. -/
  | gaveUp (id : RunId) (methods : Methods) (timed : Bool) :
      Does c (.check id methods timed) (.startAbandoned id) 0
  /-- An enumeration returns, and what it found is looked up unless the run has ended. -/
  | enumerated (id : RunId) (selector : Selector) (result : Except PlatformError (List Handle)) :
      Does c (.enumeration id selector) (.enumerated id selector result)
        (if c.isRunning id then ofHandles id selector result else 0)
  | resolved (id : RunId) (slot : Selector) (handle : Handle) (resolution : Resolution) :
      Does c (.lookup id slot handle) (.resolved id resolution) {.ending id slot}
  | failed (id : RunId) (slot : Selector) (handle : Handle) (e : PlatformError) :
      Does c (.lookup id slot handle) (.resolutionFailed id e) {.ending id slot}
  | ended (id : RunId) (slot : Selector) : Does c (.ending id slot) (.lookupEnded id slot) 0
  /-- A look-up is dropped before it came to an outcome. -/
  | dropped (id : RunId) (slot : Selector) (handle : Handle) :
      Does c (.lookup id slot handle) (.lookupEnded id slot) 0
  /-- The watcher is open, and advertisements are read unless the run has ended. -/
  | opened (id : RunId) :
      Does c (.opening id) (.watcherOpened id) (if c.isRunning id then {.watch id} else 0)
  | unopened (id : RunId) (e : PlatformError) : Does c (.opening id) (.watcherLost id e) 0
  | heard (id : RunId) (report : AdvertisementReport) :
      Does c (.watch id) (.advertised id report) {.watch id}
  | closed (id : RunId) (e : PlatformError) : Does c (.watch id) (.watcherLost id e) 0
  | expired (id : RunId) : Does c (.timer id) (.timedOut id) 0

variable {c : Coordinator} {t : Task} {a : Action} {more : Multiset Task}

/-- A task acts for its run. -/
theorem Does.action_run (h : t.Does c a more) : a.run? = some t.run := by
  cases h <;> rfl

theorem run_of_mem_ofRun {id : RunId} {methods : Methods} {timed : Bool} {u : Task}
    (h : u ∈ ofRun id methods timed) : u.run = id := by
  unfold ofRun at h
  rcases Multiset.mem_add.mp h with h | h
  · split at h
    · rw [Multiset.mem_singleton.mp h]
      rfl
    · exact absurd h (Multiset.notMem_zero u)
  · split at h
    · rcases Multiset.mem_add.mp h with h | h
      · rcases Multiset.mem_cons.mp h with rfl | h
        · rfl
        · rw [Multiset.mem_singleton.mp h]
          rfl
      · split at h
        · rw [Multiset.mem_singleton.mp h]
          rfl
        · exact absurd h (Multiset.notMem_zero u)
    · exact absurd h (Multiset.notMem_zero u)

theorem run_of_mem_ofHandles {id : RunId} {slot : Selector}
    {result : Except PlatformError (List Handle)} {u : Task} (h : u ∈ ofHandles id slot result) :
    u.run = id := by
  cases result with
  | error e => exact absurd h (Multiset.notMem_zero u)
  | ok handles =>
    obtain ⟨handle, -, rfl⟩ := List.mem_map.mp (Multiset.mem_coe.mp h)
    rfl

/-- A task leaves tasks of its own run behind. -/
theorem Does.run_of_mem (h : t.Does c a more) {u : Task} (hu : u ∈ more) : u.run = t.run := by
  have none : u ∉ (0 : Multiset Task) := Multiset.notMem_zero u
  cases h with
  | checked =>
    split at hu
    · exact run_of_mem_ofRun hu
    · exact absurd hu none
  | enumerated =>
    split at hu
    · exact run_of_mem_ofHandles hu
    · exact absurd hu none
  | opened =>
    split at hu
    · rw [Multiset.mem_singleton.mp hu]
      rfl
    · exact absurd hu none
  | resolved => rw [Multiset.mem_singleton.mp hu]; rfl
  | failed => rw [Multiset.mem_singleton.mp hu]; rfl
  | heard => rw [Multiset.mem_singleton.mp hu]
  | _ => exact absurd hu none

/-! ### Work -/

/-- The pieces of work of a run that are not done, by the tasks that are at them. -/
def work (tasks : Multiset Task) (id : RunId) : Multiset Piece :=
  tasks.bind fun t => if t.run = id then t.pieces else 0

variable {tasks : Multiset Task} {id : RunId}

@[simp]
theorem work_zero : work 0 id = 0 := rfl

@[simp]
theorem work_add (ts us : Multiset Task) : work (ts + us) id = work ts id + work us id :=
  Multiset.add_bind _ _ _

theorem work_mono {ts us : Multiset Task} (h : ts ≤ us) (id : RunId) : work ts id ≤ work us id := by
  obtain ⟨more, rfl⟩ := Multiset.le_iff_exists_add.mp h
  unfold work
  rw [Multiset.add_bind]
  exact Multiset.le_add_right _ _

@[simp]
theorem work_cons (t : Task) (ts : Multiset Task) :
    work (t ::ₘ ts) id = (if t.run = id then t.pieces else 0) + work ts id :=
  Multiset.cons_bind _ _ _

@[simp]
theorem work_singleton (t : Task) : work {t} id = if t.run = id then t.pieces else 0 :=
  Multiset.singleton_bind _ _

/-- Tasks of other runs, and those that no run waits for, are no work of a run. -/
theorem work_eq_zero (h : ∀ t ∈ tasks, t.run = id → t.pieces = 0) : work tasks id = 0 := by
  induction tasks using Multiset.induction with
  | empty => rfl
  | cons t ts ih =>
    rw [work_cons, ih fun u hu => h u (Multiset.mem_cons_of_mem hu), add_zero]
    split
    · exact h t (Multiset.mem_cons_self t ts) ‹_›
    · rfl

/-- Every device that an enumeration returned is work of its own. -/
theorem work_ofHandles (slot : Selector) (handles : List Handle) :
    work (ofHandles id slot (.ok handles)) id =
      Multiset.replicate handles.length (.lookup slot) := by
  induction handles with
  | nil => rfl
  | cons handle handles ih =>
    have cons : ofHandles id slot (.ok (handle :: handles)) =
        .lookup id slot handle ::ₘ ofHandles id slot (.ok handles) := rfl
    rw [cons, work_cons, ih, List.length_cons, Multiset.replicate_succ]
    simp [run, pieces]

/-- A run begins with an enumeration for each requested method, and low energy also opens a
watcher. -/
theorem work_ofRun (methods : Methods) (timed : Bool) :
    work (ofRun id methods timed) id =
      (if methods.contains Methods.classic then {.enumeration .classic} else 0) +
        if methods.contains Methods.lowEnergy then {.enumeration .lowEnergy, .opening} else 0 := by
  unfold ofRun
  rw [work_add]
  congr 1
  · split
    · simp [run, pieces]
    · rfl
  · split
    · -- Nothing waits for the timer.
      cases timed <;> simp [run, pieces]
    · rfl

end Task

/-! ### Systems -/

/-- A coordinator with the tasks beside it. -/
structure System where
  coordinator : Coordinator := {}
  tasks : Multiset Task := 0

namespace System

/-- The task that a request leaves behind: the check of the adapter, if a run is granted. -/
def checks (c : Coordinator) (methods : Methods) (timed : Bool) : Multiset Task :=
  if c.grants (.start methods) then {.check (c.lastRun + 1) methods timed} else 0

/-- One step of a system: a caller asks for a run or stops, or one task takes its next action. -/
inductive Step (extract : Payload → AdvertisementData) (s : System) : Action → System → Prop
  | request (methods : Methods) (timed : Bool) :
      Step extract s (.start methods)
        ⟨(s.coordinator.step extract (.start methods)).1,
          checks s.coordinator methods timed + s.tasks⟩
  | stop : Step extract s .stop ⟨(s.coordinator.step extract .stop).1, s.tasks⟩
  | work (t : Task) (rest : Multiset Task) (present : s.tasks = t ::ₘ rest) {a : Action}
      {more : Multiset Task} (does : t.Does s.coordinator a more) :
      Step extract s a ⟨(s.coordinator.step extract a).1, more + rest⟩

/-- A row of steps, with the actions that are taken. -/
inductive Execution (extract : Payload → AdvertisementData) (s : System) :
    List Action → System → Prop
  | nil : Execution extract s [] s
  | concat {as : List Action} {s₁ s₂ : System} {a : Action} (before : Execution extract s as s₁)
      (last : Step extract s₁ a s₂) : Execution extract s (as ++ [a]) s₂

variable {extract : Payload → AdvertisementData} {s s' : System} {a : Action} {as : List Action}

theorem Step.coordinator_eq (h : Step extract s a s') :
    s'.coordinator = (s.coordinator.step extract a).1 := by
  cases h <;> rfl

/-- The coordinator of a system is where its actions lead. -/
theorem Execution.coordinator_eq (h : Execution extract {} as s) :
    s.coordinator = Coordinator.after extract as := by
  induction h with
  | nil => rfl
  | concat _ last ih => rw [last.coordinator_eq, Coordinator.after_concat, ih]

end System

end BluetoothDiscovery
