import BluetoothDiscovery.Proofs.Schedule.Invariant

/-!
# The end of a run

A run ends by itself with the step that ends the last of its work, neither earlier nor later.  Until
then only a stop or the end of the time for advertisements can end it, and as long as advertisements
are watched nothing else ever does.
-/

namespace BluetoothDiscovery

open Coordinator (granted after)

variable {extract : Payload → AdvertisementData} {c : Coordinator} {r : Run} {a : Action}
  {s s' : System}

/-! ### Methods with names -/

/-- A set of methods that has a bit, and none without a name, has one of the two methods. -/
theorem Methods.contains_of_unnamed_eq_zero (methods : Methods) (named : methods.unnamed = 0)
    (asked : methods.isEmpty = false) : methods.contains Methods.classic = true ∨
      methods.contains Methods.lowEnergy = true := by
  have all : ∀ bits : Fin 256, (⟨⟨⟨bits⟩⟩⟩ : Methods).unnamed = 0 →
      (⟨⟨⟨bits⟩⟩⟩ : Methods).isEmpty = false →
      (⟨⟨⟨bits⟩⟩⟩ : Methods).contains Methods.classic = true ∨
        (⟨⟨⟨bits⟩⟩⟩ : Methods).contains Methods.lowEnergy = true := by
    decide +kernel
  exact all methods.bits.toBitVec.toFin named asked

/-! ### The last piece of work -/

theorem Coordinator.finished_not_mem_of_reports {reports : List Event}
    (told : ∀ e ∈ reports, e.isReport) : Event.finished ∉ reports := by
  intro h
  cases told _ h

/-- A run with named methods has work as long as it goes on. -/
theorem Present.work_ne_zero {tasks : Multiset Task} (h : Present r tasks)
    (named : r.methods.unnamed = 0) : Task.work tasks r.id ≠ 0 := by
  intro done
  have complete := h.books.isComplete_iff.mpr done
  rw [h.unfinished (r.methods.contains_of_unnamed_eq_zero named h.asked)] at complete
  cases complete

/-- A run that finishes other than by the end of the time leaves no work behind. -/
theorem Present.work_eq_zero_of_finished (h : Present r s.tasks)
    (running : s.coordinator.phase = .running r) (st : System.Step extract s a s')
    (finished : .finished ∈ (s.coordinator.step extract a).2) (inTime : a ≠ .timedOut r.id) :
    Task.work s'.tasks r.id = 0 := by
  cases st with
  | request methods timed =>
    -- A request is not granted while a run is present.
    rw [Coordinator.step_start_of_not_grants
      (Coordinator.grants_eq_false_of_running running _)] at finished
    cases finished
  | stop =>
    have active : s.coordinator.phase.owner ≠ none := by rw [running]; exact Option.some_ne_none _
    -- A stop cancels.
    rw [(Coordinator.step_stop s.coordinator).1 active] at finished
    cases List.mem_singleton.mp finished
  | @work t rest present a more does =>
    by_cases own : t.run = r.id
    · -- The books are kept up by what the task does, and a finished run is complete by its books.
      have books := h.books
      rw [present, Task.work_cons, if_pos own] at books
      show Task.work (more + rest) r.id = 0
      rw [Task.work_add]
      refine (books.does running own does).isComplete_iff.mp ?_
      rcases Coordinator.step_of_running running extract a with
        ⟨_, _, _, _, told⟩ | ⟨_, _, _, _, how⟩
      · exact absurd finished (Coordinator.finished_not_mem_of_reports told)
      · cases how with
        | complete done => exact done
        | timeout late => exact absurd late inTime
        | stop stopped =>
          subst stopped
          cases does
    · -- What a task of another run does is stale.
      have past : s.coordinator.phase.owner ≠ some t.run := by
        rw [running]
        exact fun he => own (Option.some.inj he).symm
      rw [Coordinator.step_of_run?_ne_owner does.action_run past] at finished
      cases finished

/-- What a task of the present run does finishes the run if it ends the last of its work. -/
theorem Present.finished_of_own {t : Task} {rest more : Multiset Task}
    (h : Present r s.tasks) (named : r.methods.unnamed = 0)
    (running : s.coordinator.phase = .running r) (present : s.tasks = t ::ₘ rest)
    (own : t.run = r.id) (does : t.Does s.coordinator a more)
    (done : Task.work (more + rest) r.id = 0) :
    .finished ∈ (s.coordinator.step extract a).2 ∧ a ≠ .timedOut r.id := by
  have unfinished := h.unfinished (r.methods.contains_of_unnamed_eq_zero named h.asked)
  have books := h.books
  rw [present, Task.work_cons, if_pos own] at books
  rw [Task.work_add] at done
  have complete := (books.does running own does).isComplete_iff.mpr done
  -- The end of the time takes no work away, and there was some before.
  have inTime : a ≠ .timedOut r.id := by
    rintro rfl
    have same : r.progress (.timedOut r.id) = r := by simp [Run.progress]
    rw [same, unfinished] at complete
    cases complete
  refine ⟨?_, inTime⟩
  -- A run does not go on once it is complete, if it was not complete before.
  rcases Coordinator.step_of_running running extract a with
    ⟨r', -, -, left, -⟩ | ⟨reports, last, hstep, -, how⟩
  · rw [left unfinished] at complete
    cases complete
  · rw [hstep]
    cases how with
    | complete => simp
    | timeout late => exact absurd late inTime
    | stop stopped =>
      subst stopped
      cases does

/-- A step finishes the present run, other than by the end of the time, exactly if no work of the
run is left behind it. -/
theorem Present.finished_iff (h : Present r s.tasks) (named : r.methods.unnamed = 0)
    (running : s.coordinator.phase = .running r) (st : System.Step extract s a s') :
    (.finished ∈ (s.coordinator.step extract a).2 ∧ a ≠ .timedOut r.id) ↔
      Task.work s'.tasks r.id = 0 := by
  refine ⟨fun hf => h.work_eq_zero_of_finished running st hf.1 hf.2, fun done => ?_⟩
  have left := h.work_ne_zero named
  cases st with
  | request methods timed =>
    have refused : s.coordinator.grants (.start methods) = false :=
      Coordinator.grants_eq_false_of_running running _
    rw [System.checks, refused] at done
    simp at done
    exact absurd done left
  -- A stop leaves the tasks as they are.
  | stop => exact absurd done left
  | @work t rest present a more does =>
    by_cases own : t.run = r.id
    · exact h.finished_of_own named running present own does done
    · -- A task of another run does not change the work of this one.
      have none : Task.work more r.id = 0 :=
        Task.work_eq_zero fun u hu hown => absurd ((does.run_of_mem hu).symm.trans hown) own
      rw [present, Task.work_cons, if_neg own, zero_add] at left
      rw [Task.work_add, none, zero_add] at done
      exact absurd done left

/-- A step ends the present run exactly if it is a stop, if it leaves no work of the run, or if it
is the end of the time for advertisements. -/
theorem Present.ends_iff (h : Present r s.tasks) (named : r.methods.unnamed = 0)
    (running : s.coordinator.phase = .running r) (st : System.Step extract s a s') :
    s'.coordinator.isRunning r.id = false ↔
      a = .stop ∨ Task.work s'.tasks r.id = 0 ∨ a = .timedOut r.id := by
  have finished := h.finished_iff named running st
  rw [st.coordinator_eq]
  -- A run that goes on meets none of the three, and one that ends does so by one of them.
  rcases Coordinator.step_of_running running extract a with
    ⟨r', goesOn, work, -, told⟩ | ⟨reports, last, hstep, -, how⟩
  · have on := Coordinator.isRunning_of_running goesOn
    rw [Run.id_eq_of_progress work] at on
    refine iff_of_false (by simp [on]) ?_
    rintro (rfl | done | rfl)
    · rw [Coordinator.phase_step_stop] at goesOn
      cases goesOn
    · exact Coordinator.finished_not_mem_of_reports told (finished.mpr done).1
    · rw [Coordinator.step_timedOut_of_running running] at goesOn
      cases goesOn
  · rw [hstep] at finished ⊢
    refine iff_of_true rfl ?_
    cases how with
    | complete =>
      by_cases late : a = .timedOut r.id
      · exact .inr (.inr late)
      · exact .inr (.inl (finished.mp ⟨by simp, late⟩))
    | timeout late => exact .inr (.inr late)
    | stop stopped => exact .inl stopped

/-! ### Watching -/

/-- The present run goes on watching through everything but a stop, the end of the time and the
loss of the watcher. -/
theorem Coordinator.watching_step (extract : Payload → AdvertisementData)
    (running : c.phase = .running r) (watching : r.watching = true) (notStop : a ≠ .stop)
    (inTime : a ≠ .timedOut r.id) (notLost : ∀ e, a ≠ .watcherLost r.id e) :
    ∃ r', (c.step extract a).1.phase = .running r' ∧ r'.id = r.id ∧ r'.watching = true := by
  have progress : (r.progress a).watching = true := by
    rw [Run.progress_watching notLost]
    exact watching
  rcases step_of_running running extract a with
    ⟨r', goesOn, work, -, -⟩ | ⟨reports, last, -, -, how⟩
  · exact ⟨r', goesOn, Run.id_eq_of_progress work, by rw [work]; exact progress⟩
  · cases how with
    | complete done =>
      unfold Run.isComplete at done
      rw [progress] at done
      cases done
    | timeout late => exact absurd late inTime
    | stop stopped => exact absurd stopped notStop

/-- Through a row of actions without any of these the run goes on. -/
theorem Coordinator.watching_steps (running : c.phase = .running r) (watching : r.watching = true)
    {bs : List Action} (notStopped : .stop ∉ bs) (inTime : .timedOut r.id ∉ bs)
    (notLost : ∀ e, .watcherLost r.id e ∉ bs) : (c.steps extract bs).1.isRunning r.id = true := by
  induction bs generalizing c r with
  | nil => exact isRunning_of_running running
  | cons b bs ih =>
    obtain ⟨r', goesOn, number, watching'⟩ := watching_step extract running watching
      (fun h => notStopped (h ▸ List.mem_cons_self))
      (fun h => inTime (h ▸ List.mem_cons_self))
      (fun e h => notLost e (h ▸ List.mem_cons_self))
    rw [← number] at inTime notLost ⊢
    rw [steps_cons]
    exact ih goesOn watching' (fun h => notStopped (List.mem_cons_of_mem b h))
      (fun h => inTime (List.mem_cons_of_mem b h))
      (fun e h => notLost e (List.mem_cons_of_mem b h))

/-- A run that asked for advertisements watches them until the watcher is reported lost. -/
theorem Coordinator.watching_of_not_lost {as : List Action}
    (running : (after extract as).phase = .running r)
    (asked : r.methods.contains Methods.lowEnergy = true)
    (notLost : ∀ e, .watcherLost r.id e ∉ as) : r.watching = true := by
  induction as using List.reverseRecOn generalizing r with
  | nil => cases running
  | append_singleton as a ih =>
    rw [after_concat] at running
    have hout := step_outcome extract (after extract as) a
    generalize (after extract as).grants a = granted at hout
    generalize (after extract as).step extract a = out at hout running
    -- A run watches when it begins, and works on without a loss.
    cases hout with
    | nothing away => exact absurd running (away r)
    | granted => cases running
    | refused => cases running
    | abandoned => cases running
    | ended => cases running
    | began starting check =>
      cases running
      exact asked
    | @worked r₀ r' _ _ before goesOn _ work =>
      obtain rfl := Phase.running.inj (goesOn.symm.trans running)
      rw [Run.methods_eq_of_progress work] at asked
      rw [Run.id_eq_of_progress work] at notLost
      have watching := ih before asked fun e h => notLost e (List.mem_append_left _ h)
      have kept : ∀ e, a ≠ .watcherLost r₀.id e := by
        rintro e rfl
        exact notLost e (List.mem_append_right _ (List.mem_singleton_self _))
      rw [work]
      exact (Run.progress_watching kept).trans watching

/-! ### Completion -/

/-- What ends the present run `r` of a system that took the actions `as`. -/
structure Completion (extract : Payload → AdvertisementData) (as : List Action) (s : System)
    (r : Run) : Prop where
  /-- The run does not outlive its work. -/
  work_ne_zero : Task.work s.tasks r.id ≠ 0
  /-- The run finishes by itself with the step that leaves none of its work, and with no other. -/
  finished_iff (a : Action) (s' : System) : System.Step extract s a s' →
    ((.finished ∈ (s.coordinator.step extract a).2 ∧ a ≠ .timedOut r.id) ↔
      Task.work s'.tasks r.id = 0)
  /-- As long as a watcher that was asked for is not lost, only a stop or the end of the time for
  advertisements ends the run. -/
  isRunning_of_not_lost (bs : List Action) :
    r.methods.contains Methods.lowEnergy = true → (∀ e, .watcherLost r.id e ∉ as ++ bs) →
      .stop ∉ bs → .timedOut r.id ∉ bs → (after extract (as ++ bs)).isRunning r.id = true

/-- **Completion** is neither early nor missed, whatever the tasks do in whatever order, as long as
fewer than `2 ^ 64` runs are granted, so that no number comes round. -/
theorem completion_of_execution (extract : Payload → AdvertisementData) {as : List Action}
    {s : System} {r : Run} (h : System.Execution extract {} as s)
    (few : granted extract as < 2 ^ 64) (running : s.coordinator.phase = .running r)
    (named : r.methods.unnamed = 0) : Completion extract as s r := by
  have present := (sound_of_execution h few).running r running
  constructor
  · exact present.work_ne_zero named
  · intro a s' st
    exact present.finished_iff named running st
  · intro bs asked notLost notStopped inTime
    rw [h.coordinator_eq] at running
    have watching := Coordinator.watching_of_not_lost running asked
      fun e he => notLost e (List.mem_append_left _ he)
    rw [Coordinator.after_append]
    exact Coordinator.watching_steps running watching notStopped inTime
      fun e he => notLost e (List.mem_append_right _ he)

/-- The classic search of a run is over, and its watcher is open. -/
theorem completion_watching :
    let as : List Action := [.start (Methods.classic ∪ Methods.lowEnergy),
      .adapterChecked 1 .ready, .enumerated 1 .classic (.ok []), .watcherOpened 1]
    ∃ s, System.Execution Payload.extract {} as s ∧ granted Payload.extract as < 2 ^ 64 ∧
      ∃ r, s.coordinator.phase = .running r ∧ r.methods.unnamed = 0 ∧
        Completion Payload.extract as s r := by
  intro as
  have created : System.Execution Payload.extract {} [] {} := .nil
  have started := created.concat (.request (Methods.classic ∪ Methods.lowEnergy) true)
  have ready := started.concat
    (.work (.check 1 (Methods.classic ∪ Methods.lowEnergy) true) 0 (by decide)
      (.checked 1 (Methods.classic ∪ Methods.lowEnergy) true .ready))
  have found := ready.concat
    (.work (.enumeration 1 .classic) {.enumeration 1 .lowEnergy, .opening 1, .timer 1}
      (by decide) (.enumerated 1 .classic (.ok [])))
  have opened := found.concat
    (.work (.opening 1) {.enumeration 1 .lowEnergy, .timer 1} (by decide) (.opened 1))
  have few : granted Payload.extract as < 2 ^ 64 := by decide
  exact ⟨_, opened, few, _, rfl, by decide,
    completion_of_execution Payload.extract opened few rfl (by decide)⟩

end BluetoothDiscovery
