import BluetoothDiscovery.Proofs.Simulation.LookingUp
import BluetoothDiscovery.Proofs.Simulation.Searching

/-!
# What a run takes in

A run that ends with the time for advertisements has taken in what the script had for it before: the
advertisements that were due, and the devices that were found (`TakenIn`).  This can be read off the
log of the run: what has been heard so far, and the account of what is done and what is still to be
done (`takenIn_of_log`).
-/

namespace BluetoothDiscovery

/-- The advertisement that an action hands over. -/
def Action.report? : Action → Option AdvertisementReport
  | .advertised _ report => some report
  | _ => none

/-- What an action hands over of a device that was looked up. -/
def Action.resolution? : Action → Option Resolution
  | .resolved _ resolution => some resolution
  | _ => none

/-- Advertisements are no search for nothing. -/
theorem Methods.isEmpty_eq_false_of_contains_lowEnergy {methods : Methods}
    (asked : methods.contains Methods.lowEnergy = true) : methods.isEmpty = false := by
  by_contra empty
  rw [Bool.not_eq_false] at empty
  have none : methods.bits = 0 := eq_of_beq empty
  unfold Flags.contains at asked
  rw [none] at asked
  exact absurd asked (by decide)

namespace Simulation

variable {s : Scenario} {s₀ : Starting} {w₀ w : World} {timeout ms : Nat}
  {log : List (Nat × Doing)} {told given rest : List ScriptedAdvertisement}

/-- The observations of a run that begins at a time and ends some milliseconds later: all that the
script has for it before the end, and nothing else. -/
structure TakenIn (s : Scenario) (methods : Methods) (run : RunId) (began ms : Nat)
    (intake : List (Nat × Action)) : Prop where
  ascending : intake.Pairwise (·.1 ≤ ·.1)
  observes : ∀ x ∈ intake, x.2.run? = some run ∧ x.2.isObservation = true
  heard : intake.filterMap (fun x => x.2.report?.map (x.1, ·)) =
    (s.timeline.filter (·.time < ms)).map (heardAt began)
  found : (intake.filterMap fun x => x.2.resolution?.map (x.1, ·)).Perm
    (((s.outcomes methods).filter (·.1 < ms)).filterMap fun x =>
      x.2.toOption.map (began + x.1, ·))

/-- Nothing is taken in if the script has nothing for a run before its end. -/
theorem TakenIn.eq_nil {methods : Methods} {run : RunId} {began : Nat}
    {intake : List (Nat × Action)} (h : TakenIn s methods run began ms intake)
    (unheard : ∀ a ∈ s.timeline, ¬ a.time < ms) (undone : ∀ x ∈ s.outcomes methods, ¬ x.1 < ms) :
    intake = [] := by
  have heard := h.heard
  have found := h.found
  rw [List.filter_eq_nil_iff.mpr fun a mem => mt of_decide_eq_true (unheard a mem), List.map_nil,
    List.filterMap_eq_nil_iff] at heard
  rw [List.filter_eq_nil_iff.mpr fun x mem => mt of_decide_eq_true (undone x mem),
    List.filterMap_nil, List.perm_nil, List.filterMap_eq_nil_iff] at found
  refine List.eq_nil_iff_forall_not_mem.mpr fun x mem => ?_
  have observes := (h.observes x mem).2
  have unread := heard x mem
  have unfound := found x mem
  obtain ⟨time, a⟩ := x
  cases a with
  | advertised => cases unread
  | resolved => cases unfound
  | _ => cases observes

/-! ### The course of a run -/

theorem reports_courseOf (run : RunId) (log : List (Nat × Doing)) :
    ((courseOf run log).filter (·.2.isObservation)).filterMap
      (fun x => x.2.report?.map (x.1, ·)) = heardOf log := by
  induction log with
  | nil => rfl
  | cons x log ih =>
    obtain ⟨time, d⟩ := x
    have split : courseOf run ((time, d) :: log) =
        (d.actions run).map (time, ·) ++ courseOf run log := List.flatMap_cons
    rw [split, List.filter_append, List.filterMap_append, ih]
    cases d with
    | lookedUp slot outcome => cases outcome <;> rfl
    | _ => rfl

theorem resolutions_courseOf (run : RunId) (log : List (Nat × Doing)) :
    ((courseOf run log).filter (·.2.isObservation)).filterMap
        (fun x => x.2.resolution?.map (x.1, ·)) =
      (outcomesOf log).filterMap fun x => x.2.toOption.map (x.1, ·) := by
  induction log with
  | nil => rfl
  | cons x log ih =>
    obtain ⟨time, d⟩ := x
    have split : courseOf run ((time, d) :: log) =
        (d.actions run).map (time, ·) ++ courseOf run log := List.flatMap_cons
    rw [split, List.filter_append, List.filterMap_append, ih]
    cases d with
    | lookedUp slot outcome => cases outcome <;> rfl
    | _ => rfl

theorem pairwise_courseOf (ordered : log.Pairwise (·.1 ≤ ·.1)) :
    (courseOf run log).Pairwise (·.1 ≤ ·.1) := by
  unfold courseOf
  refine List.pairwise_flatMap.mpr ⟨fun x _ => ?_, ordered.imp fun le y hy z hz => ?_⟩
  · exact List.pairwise_map.mpr (List.pairwise_of_forall fun _ _ => Nat.le_refl _)
  · obtain ⟨_, -, rfl⟩ := List.mem_map.mp hy
    obtain ⟨_, -, rfl⟩ := List.mem_map.mp hz
    exact le

/-! ### The agenda of a run -/

/-- All outcomes of an enumeration are on its agenda. -/
theorem outcomes_agendaOfEnumeration (began : Nat) (selector : Selector) :
    (s.agendaOfEnumeration began selector).filterMap timedOutcome? =
      ((s.outcomesOf s.settledAfter selector).map fun x => (began + x.1, x.2) :
        List (Nat × Except PlatformError Resolution)) := by
  unfold Scenario.agendaOfEnumeration Scenario.outcomesOf
  rw [Multiset.filterMap_cons_none _ _ rfl]
  by_cases failing : selector ∈ s.failingEnumerations
  · rw [if_pos failing]
    unfold Scenario.enumerate
    rw [if_pos failing]
    rfl
  · rw [if_neg failing, Scenario.agendaOfHandles_of_ok failing,
      Multiset.filterMap_cons_none _ _ rfl, outcomes_agendaOfLookups, List.map_map]
    congr 1
    refine List.map_congr_left fun d _ => ?_
    exact Prod.ext (Nat.add_assoc _ _ _) rfl

/-- What is on the agenda of the tasks of a run is on that of its enumerations, unless it has to do
with the watcher or the time. -/
theorem filterMap_tasks {β : Type} {began : Nat} {f : Nat × Doing → Option β}
    {g : Selector → List β}
    (each : ∀ selector, (s.agendaOfEnumeration began selector).filterMap f = g selector)
    (opened : ∀ time, f (time, .opened) = none) (timedOut : ∀ time, f (time, .timedOut) = none) :
    (((World.tasks s₀).map (Turn.agenda s began)).sum).filterMap f =
      ((if s₀.methods.contains Methods.classic then g .classic else []) ++
        if s₀.methods.contains Methods.lowEnergy then g .lowEnergy else [] : List β) := by
  unfold World.tasks
  rw [List.map_append, List.sum_append, Multiset.filterMap_add, ← Multiset.coe_add]
  congr 1
  · split
    · rw [List.map_singleton, List.sum_singleton]
      exact each .classic
    · rfl
  · split
    · rw [List.map_cons, List.sum_cons, List.map_cons, List.sum_cons, Multiset.filterMap_add,
        Multiset.filterMap_add]
      -- After the enumeration come the watcher and the time, of which nothing is selected.
      refine (congrArg (_ + ·) ?_).trans ((add_zero _).trans (each .lowEnergy))
      have unselected (time : Nat) (d : Doing) (none : f (time, d) = none) :
          ({(time, d)} : Agenda).filterMap f = 0 := Multiset.filterMap_cons_none _ _ none
      have watcher : (Turn.agenda s began (.call (.watcher s₀.run))).filterMap f = 0 :=
        unselected began .opened (opened began)
      rw [watcher, zero_add]
      cases s₀.timeout with
      | none => rfl
      | some timeout =>
        dsimp only
        split
        · rfl
        · rw [List.map_singleton, List.sum_singleton]
          exact unselected _ .timedOut (timedOut _)
    · rfl

/-- All outcomes of a run are on the agenda of its tasks. -/
theorem outcomes_tasks (s : Scenario) (s₀ : Starting) (began : Nat) :
    (((World.tasks s₀).map (Turn.agenda s began)).sum).filterMap timedOutcome? =
      ((s.settled s₀.methods).map fun x => (began + x.1, x.2) :
        List (Nat × Except PlatformError Resolution)) := by
  have each := outcomes_agendaOfEnumeration (s := s) began
  rw [filterMap_tasks each (fun _ => rfl) fun _ => rfl]
  unfold Scenario.settled Scenario.outcomesBy
  rw [List.map_append, apply_ite (List.map _), apply_ite (List.map _)]
  rfl

/-- The tasks of a run that watches advertisements for some time. -/
theorem tasks_eq (asked : s₀.methods.contains Methods.lowEnergy = true)
    (timed : s₀.timeout = some timeout) (lasts : timeout ≠ 0) :
    World.tasks s₀ =
      (if s₀.methods.contains Methods.classic then
        [.call (.enumeration s₀.run .classic)] else []) ++
        [.call (.enumeration s₀.run .lowEnergy), .call (.watcher s₀.run), .arm s₀.run timeout] := by
  unfold World.tasks
  rw [if_pos asked, timed]
  dsimp only
  rw [if_neg lasts]

/-! ### What a run has taken in -/

/-- A search since the beginning of its run. -/
abbrev SearchingSince (s : Scenario) (w₀ : World) (s₀ : Starting) (w : World)
    (log : List (Nat × Doing)) : Prop :=
  Searching s s₀.run s₀.request (w₀.begun s₀)
    (((World.tasks s₀).map (Turn.agenda s (w₀.now + s.adapterTime))).sum) w log

/-- A run that asks for advertisements begins to watch. -/
theorem watches_begun (asked : s₀.methods.contains Methods.lowEnergy = true) :
    (w₀.begun s₀).coordinator.Watches s₀.run :=
  ⟨_, rfl, rfl, asked⟩

/-- What is selected of the log is that part of the whole work with a property, if all of it has the
property and nothing has it that is still to be done.  No advertisement is selected, since those are
not on the agenda. -/
theorem SearchingSince.selected_eq {β : Type} {f : Nat × Doing → Option β} {p : β → Prop}
    [DecidablePred p] (h : SearchingSince s w₀ s₀ w log)
    (unheard : ∀ time r, f (time, .heard r) = none) (done : ∀ x ∈ log, ∀ y ∈ f x, p y)
    (left : ∀ x ∈ agendaOf s s₀.run w.line, ∀ y ∈ f x, ¬ p y) :
    (log.filterMap f : Multiset β) =
      ((((World.tasks s₀).map (Turn.agenda s (w₀.now + s.adapterTime))).sum).filterMap f).filter
        p := by
  have worked : (log.filter (·.2.isWork)).filterMap f = log.filterMap f := by
    rw [List.filterMap_filter]
    refine List.filterMap_congr fun x _ => ?_
    obtain ⟨time, d⟩ := x
    cases d with
    | heard r => exact (unheard time r).symm
    | _ => rfl
  have kept : (log.filterMap f : Multiset β).filter p = log.filterMap f := by
    refine Multiset.filter_eq_self.mpr fun y mem => ?_
    obtain ⟨x, here, selected⟩ := List.mem_filterMap.mp mem
    exact done x here y selected
  have none : ((agendaOf s s₀.run w.line).filterMap f).filter p = 0 := by
    refine Multiset.filter_eq_nil.mpr fun y mem => ?_
    obtain ⟨x, here, selected⟩ := (Multiset.mem_filterMap _ _).mp mem
    exact left x here y selected
  rw [← h.account, Multiset.filterMap_add, Multiset.filter_add, Multiset.filterMap_coe, worked, kept,
    none, add_zero]

/-- Nothing but observations comes to an outcome. -/
theorem isObservation_of_timedOutcome? {x : Nat × Doing}
    {o : Nat × Except PlatformError Resolution} (here : timedOutcome? x = some o) :
    x.2.isObservation = true := by
  obtain ⟨time, d⟩ := x
  cases d with
  | lookedUp => rfl
  | _ => cases here

/-- When a time has come, just the outcomes are there that were due before. -/
theorem SearchingSince.outcomes_perm (h : SearchingSince s w₀ s₀ w log)
    (early : ∀ x ∈ log, x.2.isObservation = true → x.1 < w.now) :
    (outcomesOf log).Perm
      (((s.settled s₀.methods).map fun x => (w₀.now + s.adapterTime + x.1, x.2)).filter
        (·.1 < w.now)) := by
  have selected := h.selected_eq (f := timedOutcome?) (p := fun o => o.1 < w.now)
    (fun _ _ => rfl) ?_ ?_
  · rw [outcomes_tasks, Multiset.filter_coe] at selected
    exact Multiset.coe_eq_coe.mp selected
  · intro x here o outcome
    rw [fst_eq_of_timedOutcome? outcome]
    exact early x here (isObservation_of_timedOutcome? outcome)
  · -- What is still on the agenda is not due before now.
    intro y here o outcome
    obtain ⟨x, inLine, -, part⟩ := mem_agendaOf_iff.mp here
    have notLate := World.le_of_mem_line h.future inLine
    rw [fst_eq_of_timedOutcome? outcome]
    exact Nat.not_lt_of_le (notLate.trans (Turn.le_of_mem_agenda part))

/-- What a function selects of the outcomes, when some milliseconds have passed since a run began,
it selects of those that the script sets before. -/
theorem SearchingSince.outcomes_before {β : Type} (h : SearchingSince s w₀ s₀ w log)
    (early : ∀ x ∈ log, x.2.isObservation = true → x.1 < w.now)
    (now : w.now = w₀.now + s.adapterTime + ms) (short : ms ≤ longestWait)
    (f : Except PlatformError Resolution → Option β) :
    ((outcomesOf log).filterMap fun x => (f x.2).map (x.1, ·)).Perm
      (((s.outcomes s₀.methods).filter (·.1 < ms)).filterMap fun x =>
        (f x.2).map (w₀.now + s.adapterTime + x.1, ·)) := by
  have perm := (h.outcomes_perm early).filterMap fun x => (f x.2).map (x.1, ·)
  rw [List.filter_map, List.filterMap_map, now] at perm
  refine perm.trans (List.Perm.of_eq ?_)
  rw [← Scenario.filter_settled short]
  congr 1
  refine List.filter_congr fun x _ => ?_
  simp

/-- When the time of a run is over, it has taken in what the script had for it before. -/
theorem takenIn_of_log (short : ms ≤ longestWait) (h : SearchingSince s w₀ s₀ w log)
    (fed : Fed s s₀.run (w₀.now + s.adapterTime) w log told given rest)
    (early : ∀ x ∈ log, x.2.isObservation = true → x.1 < w.now)
    (now : w.now = w₀.now + s.adapterTime + ms) :
    TakenIn s s₀.methods s₀.run (w₀.now + s.adapterTime) ms
      ((courseOf s₀.run log).filter (·.2.isObservation)) where
  ascending := (pairwise_courseOf h.ordered).sublist List.filter_sublist
  observes x mem := by
    obtain ⟨here, observes⟩ := List.mem_filter.mp mem
    exact ⟨(isCarriedOnBy_of_mem_courseOf h.inTime x here).1, observes⟩
  heard := by
    -- What is heard is observed, and so it was heard before the end.
    have before : ∀ x ∈ heardOf log, x.1 < w.now := by
      intro x mem
      obtain ⟨⟨time, d⟩, here, report⟩ := List.mem_filterMap.mp mem
      obtain ⟨r, heard, rfl⟩ := Option.map_eq_some_iff.mp report
      refine early (time, d) here ?_
      cases d with
      | heard => rfl
      | _ => cases heard
    -- All that was heard by then is that part of the timeline which was due before.
    rw [reports_courseOf, fed.heard, fed.told_eq h.future before, now]
    congr 1
    refine List.filter_congr fun a _ => ?_
    simp
  found := by
    rw [resolutions_courseOf]
    exact h.outcomes_before early now short Except.toOption

end Simulation

end BluetoothDiscovery
