import BluetoothDiscovery.Proofs.Schedule.Books

/-!
# The invariant of a system

`Sound` is what every step of a system keeps: tasks work for runs that were granted, a run that is
being checked for has no task but its check, and the books of the present run agree with its tasks.
A task of an earlier run changes nothing, and its number is none that is still to be given out.  The
invariant gives `Bookkeeping`, which is what the numbers of the present run are good for.
-/

namespace BluetoothDiscovery

open Coordinator (granted runNumbers)

variable {extract : Payload → AdvertisementData} {c : Coordinator} {r : Run} {t : Task} {a : Action}
  {more rest : Multiset Task} {s s' : System} {n : Nat}

/-! ### One task -/

/-- A task that goes on with the same piece of work, by an action that does not count. -/
theorem Books.same {work : Multiset Piece} (h : Books r (t.pieces + work)) (own : t.run = r.id)
    (uncounted : r.progress a = r) {u : Task} (after : u.run = t.run)
    (pieces : u.pieces = t.pieces) :
    Books (r.progress a) (Task.work {u} r.id + work) := by
  rw [uncounted, Task.work_singleton, if_pos (after.trans own), pieces]
  exact h

/-- A task that no run waits for ends, by an action that does not count. -/
theorem Books.gone {work : Multiset Piece} (h : Books r (t.pieces + work))
    (uncounted : r.progress a = r) (none : t.pieces = 0) : Books (r.progress a) (0 + work) := by
  rw [uncounted, ← none]
  exact h

/-- What a task of the present run does keeps the books of the run. -/
theorem Books.does {work : Multiset Piece} (h : Books r (t.pieces + work))
    (running : c.phase = .running r) (own : t.run = r.id) (does : t.Does c a more) :
    Books (r.progress a) (Task.work more r.id + work) := by
  have isRunning : c.isRunning r.id = true := Coordinator.isRunning_of_running running
  have notStarting := Coordinator.isStarting_eq_false_of_running running r.id
  cases does with
  | checked id methods timed state =>
    obtain rfl : id = r.id := own
    rw [notStarting]
    -- The run has begun already, so that the check opens nothing more.
    simpa using h.gone (a := .adapterChecked r.id state) (by simp [Run.progress]) rfl
  | gaveUp id methods timed => exact h.gone (by simp [Run.progress]) rfl
  | enumerated id selector result =>
    obtain rfl : id = r.id := own
    rw [if_pos isRunning]
    cases result with
    | ok handles =>
      rw [Run.progress_enumerated_ok, Task.work_ofHandles]
      exact h.countEnumerated handles.length
    | error e =>
      rw [Run.progress_enumerated_error]
      exact h.countEnumerated 0
  | resolved id slot handle resolution => exact h.same own (by simp [Run.progress]) rfl rfl
  | failed id slot handle e => exact h.same own (by simp [Run.progress]) rfl rfl
  | ended id slot =>
    obtain rfl : id = r.id := own
    rw [Run.progress_lookupEnded, Task.work_zero, zero_add]
    exact h.countLookup
  | dropped id slot handle =>
    obtain rfl : id = r.id := own
    rw [Run.progress_lookupEnded, Task.work_zero, zero_add]
    exact h.countLookup
  | opened id =>
    obtain rfl : id = r.id := own
    rw [if_pos isRunning, Run.progress_watcherOpened, Task.work_singleton,
      if_pos (show (Task.watch r.id).run = r.id from rfl)]
    exact h.opened
  | unopened id e =>
    obtain rfl : id = r.id := own
    rw [Run.progress_watcherLost, Task.work_zero, zero_add]
    exact h.lost (.inl rfl)
  | heard id report => exact h.same own (by simp [Run.progress]) rfl rfl
  | closed id e =>
    obtain rfl : id = r.id := own
    rw [Run.progress_watcherLost, Task.work_zero, zero_add]
    exact h.lost (.inr rfl)
  | expired id => exact h.gone (by simp [Run.progress]) rfl

/-! ### The invariant -/

/-- What holds of the present run and the tasks that are there. -/
structure Present (r : Run) (tasks : Multiset Task) : Prop where
  asked : r.methods.isEmpty = false
  books : Books r (Task.work tasks r.id)
  /-- The run has not missed the end of its work. -/
  unfinished : r.methods.contains Methods.classic = true ∨
    r.methods.contains Methods.lowEnergy = true → r.isComplete = false

/-- What holds of a system in which a number of runs were granted. -/
structure Sound (n : Nat) (s : System) : Prop where
  issued : ∀ t ∈ s.tasks, t.run ∈ runNumbers n
  /-- A run that is being checked for has no task but its check. -/
  starting : ∀ id methods, s.coordinator.phase = .starting id methods →
    methods.isEmpty = false ∧ ∀ t ∈ s.tasks, t.run = id → ∃ timed, t = .check id methods timed
  running : ∀ r, s.coordinator.phase = .running r → Present r s.tasks

namespace Sound

theorem of_idle (issued : ∀ t ∈ s.tasks, t.run ∈ runNumbers n)
    (idle : s.coordinator.phase = .idle) : Sound n s where
  issued := issued
  starting id methods hp := by rw [idle] at hp; cases hp
  running r hp := by rw [idle] at hp; cases hp

theorem of_running (issued : ∀ t ∈ s.tasks, t.run ∈ runNumbers n)
    (running : s.coordinator.phase = .running r) (present : Present r s.tasks) : Sound n s where
  issued := issued
  starting id methods hp := by rw [running] at hp; cases hp
  running r' hp := Phase.running.inj (running.symm.trans hp) ▸ present

theorem init : Sound 0 {} := of_idle (by simp) rfl

/-- A request that is not granted leaves nothing behind. -/
theorem request_refused (h : Sound n s) {methods : Methods} {timed : Bool}
    (refused : s.coordinator.grants (.start methods) = false) :
    Sound n ⟨(s.coordinator.step extract (.start methods)).1,
      System.checks s.coordinator methods timed + s.tasks⟩ := by
  rw [Coordinator.step_start_of_not_grants refused, System.checks, refused]
  simpa using h

/-- A run that is granted has a new number, so that none of the tasks that are there is its own. -/
theorem request_granted (h : Sound n s) (few : n + 1 < 2 ^ 64)
    (lastRun : s.coordinator.lastRun = UInt64.ofNat n) {methods : Methods} {timed : Bool}
    (granted : s.coordinator.grants (.start methods) = true) :
    Sound (n + 1) ⟨(s.coordinator.step extract (.start methods)).1,
      System.checks s.coordinator methods timed + s.tasks⟩ := by
  have hout := Coordinator.step_outcome extract s.coordinator (.start methods)
  rw [granted] at hout
  have number : s.coordinator.lastRun + 1 = UInt64.ofNat (n + 1) := by
    rw [lastRun, UInt64.ofNat_add]
    rfl
  rw [System.checks, granted, if_pos rfl, number]
  generalize s.coordinator.step extract (.start methods) = out at hout ⊢
  cases hout with
  | granted idle asked request =>
    cases request
    rw [number]
    -- Every task has a number that was given out, and of the new number there is just the check.
    constructor
    · intro t ht
      rw [Coordinator.runNumbers_succ, List.mem_append, List.mem_singleton]
      rcases Multiset.mem_add.mp ht with ht | ht
      · right
        rw [Multiset.mem_singleton.mp ht]
        rfl
      · exact .inl (h.issued t ht)
    · intro id methods' hp
      cases hp
      refine ⟨asked, fun t ht own => ?_⟩
      rcases Multiset.mem_add.mp ht with ht | ht
      · exact ⟨timed, Multiset.mem_singleton.mp ht⟩
      · -- A task that was there before works for a number that was given out before.
        have old := h.issued t ht
        rw [own] at old
        exact absurd old (Coordinator.succ_not_mem_runNumbers few)
    · intro r hp
      cases hp

theorem stop (h : Sound n s) : Sound n ⟨(s.coordinator.step extract .stop).1, s.tasks⟩ :=
  of_idle h.issued (Coordinator.phase_step_stop extract s.coordinator)

theorem issued_does (h : Sound n s) (present : s.tasks = t ::ₘ rest)
    (does : t.Does s.coordinator a more) : ∀ u ∈ more + rest, u.run ∈ runNumbers n := by
  intro u hu
  rcases Multiset.mem_add.mp hu with hu | hu
  · rw [does.run_of_mem hu]
    exact h.issued t (present ▸ Multiset.mem_cons_self t rest)
  · exact h.issued u (present ▸ Multiset.mem_cons_of_mem hu)

/-- A task of any run but the one that the phase belongs to changes nothing. -/
theorem stale (h : Sound n s) (present : s.tasks = t ::ₘ rest) (does : t.Does s.coordinator a more)
    (past : s.coordinator.phase.owner ≠ some t.run) :
    Sound n ⟨(s.coordinator.step extract a).1, more + rest⟩ := by
  rw [Coordinator.step_of_run?_ne_owner does.action_run past]
  constructor
  · exact h.issued_does present does
  · intro id methods hp
    obtain ⟨asked, checks⟩ := h.starting id methods hp
    refine ⟨asked, fun u hu own => ?_⟩
    rcases Multiset.mem_add.mp hu with hu | hu
    · rw [← does.run_of_mem hu, own, hp] at past
      exact absurd rfl past
    · exact checks u (present ▸ Multiset.mem_cons_of_mem hu) own
  · intro r hp
    obtain ⟨asked, books, unfinished⟩ := h.running r hp
    have other : t.run ≠ r.id := by
      rintro own
      rw [own, hp] at past
      exact past rfl
    refine ⟨asked, ?_, unfinished⟩
    -- What the task leaves behind is no work of the present run, as the task was none.
    have none : Task.work more r.id = 0 := by
      refine Task.work_eq_zero fun u hu own => ?_
      exact absurd ((does.run_of_mem hu).symm.trans own) other
    rw [present, Task.work_cons, if_neg other] at books
    show Books r (Task.work (more + rest) r.id)
    rw [Task.work_add, none]
    exact books

/-- The check of the adapter lets the run begin with its first tasks, or ends it. -/
theorem checked (h : Sound n s) (present : s.tasks = t ::ₘ rest)
    (does : t.Does s.coordinator a more) {id : RunId} {methods : Methods}
    (starting : s.coordinator.phase = .starting id methods) (own : t.run = id) :
    Sound n ⟨(s.coordinator.step extract a).1, more + rest⟩ := by
  have issued := h.issued_does present does
  obtain ⟨asked, checks⟩ := h.starting id methods starting
  obtain ⟨timed, rfl⟩ := checks t (present ▸ Multiset.mem_cons_self t rest) own
  cases does with
  | gaveUp =>
    rw [Coordinator.step_startAbandoned_of_starting starting]
    exact of_idle issued rfl
  | checked id methods timed state =>
    rw [Coordinator.step_adapterChecked_of_starting starting]
    cases state with
    | poweredOff => exact of_idle issued rfl
    | unavailable => exact of_idle issued rfl
    | ready =>
      have isStarting := Coordinator.isStarting_iff.mpr ⟨methods, starting⟩
      rw [if_pos ⟨isStarting, rfl⟩] at issued ⊢
      -- What was there before are checks, which no run waits for.
      have none : Task.work rest id = 0 := by
        refine Task.work_eq_zero fun u hu own => ?_
        obtain ⟨timed, rfl⟩ := checks u (present ▸ Multiset.mem_cons_of_mem hu) own
        rfl
      refine of_running issued rfl ⟨asked, ?_, Run.isComplete_begin⟩
      show Books _ (Task.work (Task.ofRun id methods timed + rest) id)
      rw [Task.work_add, none, add_zero]
      exact .begin id methods timed

/-- What a task of the present run does lets the run go on with its books kept, or ends it. -/
theorem worked (h : Sound n s) (present : s.tasks = t ::ₘ rest)
    (does : t.Does s.coordinator a more) {r : Run} (running : s.coordinator.phase = .running r)
    (own : t.run = r.id) : Sound n ⟨(s.coordinator.step extract a).1, more + rest⟩ := by
  have issued := h.issued_does present does
  obtain ⟨asked, books, unfinished⟩ := h.running r running
  rw [present, Task.work_cons, if_pos own] at books
  rcases Coordinator.step_of_running running extract a with
    ⟨r', goesOn, work, left, -⟩ | ⟨reports, last, hstep, -, -⟩
  · have hid := Run.id_eq_of_progress work
    have hmethods := Run.methods_eq_of_progress work
    refine of_running issued goesOn ⟨hmethods ▸ asked, ?_, fun requested => ?_⟩
    · rw [hid]
      show Books r' (Task.work (more + rest) r.id)
      rw [Task.work_add]
      exact (books.does running own does).of_work work
    · rw [hmethods] at requested
      rw [work]
      exact left (unfinished requested)
  · rw [hstep]
    exact of_idle issued rfl

/-- Every step keeps the invariant. -/
theorem step {as : List Action} (h : Sound (granted extract as) s)
    (coordinator : s.coordinator = Coordinator.after extract as)
    (few : granted extract (as ++ [a]) < 2 ^ 64) (st : System.Step extract s a s') :
    Sound (granted extract (as ++ [a])) s' := by
  have told : Coordinator.Told extract as :=
    Coordinator.told_of_granted_lt ((Coordinator.granted_le_concat as a).trans_lt few)
  rw [Coordinator.granted_concat, ← coordinator] at few ⊢
  cases st with
  | request methods timed =>
    cases hg : s.coordinator.grants (.start methods) with
    | false => exact h.request_refused hg
    | true =>
      rw [hg] at few
      exact h.request_granted few (coordinator ▸ told.lastRun) hg
  | stop => exact h.stop
  | @work t rest present a more does =>
    have notGranted : s.coordinator.grants a = false := by cases does <;> rfl
    rw [notGranted]
    -- A task counts only if it works for the run that the phase belongs to.
    by_cases past : s.coordinator.phase.owner = some t.run
    · cases hp : s.coordinator.phase with
      | idle =>
        rw [hp] at past
        cases past
      | starting id methods =>
        rw [hp] at past
        exact h.checked present does hp (Option.some.inj past).symm
      | running r =>
        rw [hp] at past
        exact h.worked present does hp (Option.some.inj past).symm
    · exact h.stale present does past

end Sound

/-- The invariant holds wherever a system gets to. -/
theorem sound_of_execution {as : List Action} (h : System.Execution extract {} as s)
    (few : granted extract as < 2 ^ 64) : Sound (granted extract as) s := by
  induction h with
  | nil => exact .init
  | concat before last ih =>
    have fewer := (Coordinator.granted_le_concat _ _).trans_lt few
    exact (ih fewer).step before.coordinator_eq few last

/-! ### Bookkeeping -/

/-- The look-ups of one enumeration that have not ended, by the numbers of a run. -/
def Run.pendingOf (r : Run) : Selector → Nat
  | .classic => r.pendingClassic
  | .lowEnergy => r.pendingLowEnergy

/-- What the numbers of the present run and the states of its searches have to do with the tasks
that are there. -/
structure Bookkeeping (extract : Payload → AdvertisementData) (s : System) (r : Run) : Prop where
  pending (slot : Selector) : r.pendingOf slot = (Task.work s.tasks r.id).count (.lookup slot)
  openEnumerations : r.openEnumerations = (Task.work s.tasks r.id).count (.enumeration .classic) +
    (Task.work s.tasks r.id).count (.enumeration .lowEnergy)
  /-- No number is ever taken below zero. -/
  pos_of_enumerated (selector : Selector) (result : Except PlatformError (List Handle))
    (s' : System) : System.Step extract s (.enumerated r.id selector result) s' →
      0 < r.openEnumerations
  pos_of_lookupEnded (slot : Selector) (s' : System) :
    System.Step extract s (.lookupEnded r.id slot) s' → 0 < r.pendingOf slot
  classic_idle_iff : s.coordinator.sessionState .classic = .idle ↔
    r.methods.contains Methods.classic = false
  classic_starting_iff : s.coordinator.sessionState .classic = .starting ↔
    .enumeration .classic ∈ Task.work s.tasks r.id
  classic_running_iff : s.coordinator.sessionState .classic = .running ↔
    r.methods.contains Methods.classic = true ∧
      .enumeration .classic ∉ Task.work s.tasks r.id ∧ 0 < r.pendingOf .classic
  classic_stopped_iff : s.coordinator.sessionState .classic = .stopped ↔
    r.methods.contains Methods.classic = true ∧
      .enumeration .classic ∉ Task.work s.tasks r.id ∧ r.pendingOf .classic = 0
  lowEnergy_idle_iff : s.coordinator.sessionState .lowEnergy = .idle ↔
    r.methods.contains Methods.lowEnergy = false
  lowEnergy_starting_iff : s.coordinator.sessionState .lowEnergy = .starting ↔
    .opening ∈ Task.work s.tasks r.id
  lowEnergy_running_iff : s.coordinator.sessionState .lowEnergy = .running ↔
    .watching ∈ Task.work s.tasks r.id
  lowEnergy_stopped_iff : s.coordinator.sessionState .lowEnergy = .stopped ↔
    r.methods.contains Methods.lowEnergy = true ∧
      .opening ∉ Task.work s.tasks r.id ∧ .watching ∉ Task.work s.tasks r.id

theorem Books.pendingOf_eq {work : Multiset Piece} (h : Books r work) (slot : Selector) :
    r.pendingOf slot = work.count (.lookup slot) := by
  rw [h.run_eq]
  cases slot <;> rfl

theorem Books.openEnumerations_eq {work : Multiset Piece} (h : Books r work) :
    r.openEnumerations =
      work.count (.enumeration .classic) + work.count (.enumeration .lowEnergy) := by
  rw [h.run_eq]
  rfl

theorem Books.watching_eq {work : Multiset Piece} (h : Books r work) :
    r.watching = decide (0 < work.count .opening + work.count .watching) := by
  rw [h.run_eq]
  rfl

theorem Books.classic_eq {work : Multiset Piece} (h : Books r work) :
    r.classic = searchState (r.methods.contains Methods.classic)
      (work.count (.enumeration .classic)) (work.count (.lookup .classic)) := by
  rw [h.run_eq]
  rfl

theorem Books.lowEnergy_eq {work : Multiset Piece} (h : Books r work) :
    r.lowEnergy = searchState (r.methods.contains Methods.lowEnergy)
      (work.count .opening) (work.count .watching) := by
  rw [h.run_eq]
  rfl

/-- A task that is at a piece of work is counted. -/
theorem Task.mem_work_of_mem {tasks : Multiset Task} {p : Piece} (there : t ∈ tasks)
    (pieces : t.pieces = {p}) : p ∈ Task.work tasks t.run := by
  obtain ⟨rest, rfl⟩ := Multiset.exists_cons_of_mem there
  rw [Task.work_cons, if_pos rfl, pieces]
  exact Multiset.mem_add.mpr (.inl (Multiset.mem_singleton_self p))

/-- Only an enumeration that has not returned can return. -/
theorem System.Step.enumeration_mem {id : RunId} {selector : Selector}
    {result : Except PlatformError (List Handle)}
    (h : System.Step extract s (.enumerated id selector result) s') :
    .enumeration selector ∈ Task.work s.tasks id := by
  cases h with
  | @work t rest present a more does =>
    have there : t ∈ s.tasks := present ▸ Multiset.mem_cons_self t rest
    cases does
    exact Task.mem_work_of_mem there rfl

/-- Only a look-up that has not ended can end. -/
theorem System.Step.lookup_mem {id : RunId} {slot : Selector}
    (h : System.Step extract s (.lookupEnded id slot) s') :
    .lookup slot ∈ Task.work s.tasks id := by
  cases h with
  | @work t rest present a more does =>
    have there : t ∈ s.tasks := present ▸ Multiset.mem_cons_self t rest
    cases does <;> exact Task.mem_work_of_mem there rfl

theorem Present.bookkeeping (h : Present r s.tasks) (running : s.coordinator.phase = .running r) :
    Bookkeeping extract s r := by
  have classic : s.coordinator.sessionState .classic = r.classic := by
    unfold Coordinator.sessionState
    rw [running]
  have lowEnergy : s.coordinator.sessionState .lowEnergy = r.lowEnergy := by
    unfold Coordinator.sessionState
    rw [running]
  -- The books say what each state is in terms of the counts of work, so that every clause below is
  -- a fact about `searchState` and the count it looks at.
  rw [h.books.classic_eq] at classic
  rw [h.books.lowEnergy_eq] at lowEnergy
  have pending := h.books.pendingOf_eq
  constructor
  case pending => exact pending
  case openEnumerations => exact h.books.openEnumerations_eq
  case pos_of_enumerated =>
    -- The enumeration that returns is one of the pieces of work, so that none is counted off twice.
    intro selector result s' st
    have := Multiset.count_pos.mpr st.enumeration_mem
    rw [h.books.openEnumerations_eq]
    cases selector <;> omega
  case pos_of_lookupEnded =>
    intro slot s' st
    rw [pending]
    exact Multiset.count_pos.mpr st.lookup_mem
  case classic_idle_iff => rw [classic, searchState_eq_idle_iff]
  case classic_starting_iff =>
    -- An enumeration is there only if its method was asked for, which makes that half redundant.
    rw [classic, searchState_eq_starting_iff, ← Multiset.count_pos, and_iff_right_of_imp]
    exact h.books.feasible.asked_of_enumeration .classic
  case classic_running_iff =>
    rw [classic, searchState_eq_running_iff, ← Multiset.count_eq_zero, pending]
  case classic_stopped_iff =>
    rw [classic, searchState_eq_stopped_iff, ← Multiset.count_eq_zero, pending]
  case lowEnergy_idle_iff => rw [lowEnergy, searchState_eq_idle_iff]
  case lowEnergy_starting_iff =>
    rw [lowEnergy, searchState_eq_starting_iff, ← Multiset.count_pos, and_iff_right_of_imp]
    intro opening
    exact h.books.feasible.asked_of_watcher (.inl opening)
  case lowEnergy_running_iff =>
    rw [lowEnergy, searchState_eq_running_iff, ← Multiset.count_pos]
    constructor
    · -- The state is running only while the watcher is being fed.
      exact fun hw => hw.2.2
    · -- There is one watcher at most, so that one that is fed is not still being opened.
      intro watching
      have asked := h.books.feasible.asked_of_watcher (.inr watching)
      have one := h.books.feasible.watcher_le
      rw [asked, Bool.toNat_true] at one
      exact ⟨asked, by omega, watching⟩
  case lowEnergy_stopped_iff =>
    rw [lowEnergy, searchState_eq_stopped_iff, Multiset.count_eq_zero, Multiset.count_eq_zero]

/-- **The books** are right wherever a system gets to, whatever its tasks do in whatever order, as
long as fewer than `2 ^ 64` runs are granted.  After that many a number comes round, and a task that
has hung ever since would be taken for one of the new run. -/
theorem bookkeeping_of_execution (extract : Payload → AdvertisementData) {as : List Action}
    {s : System} (h : System.Execution extract {} as s) (few : granted extract as < 2 ^ 64) :
    (∀ selector, s.coordinator.sessionState selector ≠ .stoppingByTimeout ∧
      s.coordinator.sessionState selector ≠ .stoppingByCancel) ∧
      ∀ r, s.coordinator.phase = .running r → Bookkeeping extract s r := by
  have sound := sound_of_execution h few
  refine ⟨fun selector => ?_, fun r running => (sound.running r running).bookkeeping running⟩
  -- No phase gives a state of stopping: a request is idle or starting, and a run has its books.
  cases hp : s.coordinator.phase with
  | idle => simp [Coordinator.sessionState, hp]
  | starting id methods =>
    have starting : s.coordinator.sessionState selector =
        if methods.contains selector.method then .starting else .idle := by
      unfold Coordinator.sessionState
      rw [hp]
    rw [starting]
    cases methods.contains selector.method <;> simp
  | running r =>
    have books := (sound.running r hp).books
    unfold Coordinator.sessionState
    rw [hp]
    cases selector with
    | classic =>
      show r.classic ≠ _ ∧ r.classic ≠ _
      rw [books.classic_eq]
      exact searchState_ne_stopping _ _ _
    | lowEnergy =>
      show r.lowEnergy ≠ _ ∧ r.lowEnergy ≠ _
      rw [books.lowEnergy_eq]
      exact searchState_ne_stopping _ _ _

/-- Two devices are found, and the look-up of the first is dropped. -/
theorem bookkeeping_two_lookups :
    let as : List Action := [.start Methods.classic, .adapterChecked 1 .ready,
      .enumerated 1 .classic (.ok [⟨"a", .classic⟩, ⟨"b", .classic⟩]), .lookupEnded 1 .classic]
    ∃ s, System.Execution Payload.extract {} as s ∧ granted Payload.extract as < 2 ^ 64 ∧
      ∃ r, s.coordinator.phase = .running r ∧ r.pendingClassic = 1 ∧
        Bookkeeping Payload.extract s r := by
  intro as
  have created : System.Execution Payload.extract {} [] {} := .nil
  have started := created.concat (.request Methods.classic false)
  have ready := started.concat (.work (.check 1 Methods.classic false) 0 (by decide)
    (.checked 1 Methods.classic false .ready))
  have found := ready.concat (.work (.enumeration 1 .classic) 0 (by decide)
    (.enumerated 1 .classic (.ok [⟨"a", .classic⟩, ⟨"b", .classic⟩])))
  have dropped := found.concat (.work (.lookup 1 .classic ⟨"a", .classic⟩)
    {.lookup 1 .classic ⟨"b", .classic⟩} (by decide) (.dropped 1 .classic ⟨"a", .classic⟩))
  have few : granted Payload.extract as < 2 ^ 64 := by decide
  have books := bookkeeping_of_execution Payload.extract dropped few
  exact ⟨_, dropped, few, _, rfl, rfl, books.2 _ rfl⟩

end BluetoothDiscovery
