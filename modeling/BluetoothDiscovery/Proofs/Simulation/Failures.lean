import BluetoothDiscovery.Proofs.Simulation.EndOfTime
import BluetoothDiscovery.Proofs.Simulation.TakenIn

/-!
# What fails in a run

A run tells of every enumeration and every look-up that fails, when it fails.  When the time for
advertisements is over, those are in its log that the script lets fail before, and an enumeration
that fails just then; nothing else has failed (`SearchingSince.failures_perm`).
-/

namespace BluetoothDiscovery

open Simulation

namespace Scenario

/-- How the enumeration of the known devices of a kind fails, if it does, with the milliseconds that
it takes. -/
def enumerationFailuresOf (s : Scenario) (selector : Selector) : List (Nat × ErrorKind) :=
  if selector ∈ s.failingEnumerations then
    [(s.enumerationTime, .platformCallFailed .enumerate)]
  else []

/-- How the enumerations of a run fail, each with the milliseconds that it takes. -/
def enumerationFailures (s : Scenario) (methods : Methods) : List (Nat × ErrorKind) :=
  (if methods.contains Methods.classic then s.enumerationFailuresOf .classic else []) ++
    if methods.contains Methods.lowEnergy then s.enumerationFailuresOf .lowEnergy else []

/-- What fails in a run that lasts some milliseconds: the look-ups that fail before the end, and the
enumerations that fail before the end or just with it. -/
def failuresWithin (s : Scenario) (methods : Methods) (ms : Nat) : List (Nat × ErrorKind) :=
  (s.enumerationFailures methods).filter (·.1 ≤ ms) ++
    ((s.outcomes methods).filter (·.1 < ms)).filterMap fun x => (failureOf? x.2).map (x.1, ·)

end Scenario

namespace Simulation

variable {s : Scenario} {s₀ : Starting} {w₀ w : World} {run : RunId} {turn : Turn} {time ms : Nat}
  {slot selector : Selector} {log : List (Nat × Doing)}

/-! ### Failures in a log -/

/-- How a doing fails, if it does. -/
def Doing.failure? : Doing → Option ErrorKind
  | .enumerated _ (.error e) => some e.kind
  | .lookedUp _ outcome => failureOf? outcome
  | _ => none

/-- The failures in a log, each with its time. -/
def failuresOf (log : List (Nat × Doing)) : List (Nat × ErrorKind) :=
  log.filterMap fun x => x.2.failure?.map (x.1, ·)

/-- How an enumeration fails, with its time. -/
def timedRefusal? (x : Nat × Doing) : Option (Nat × ErrorKind) :=
  match x.2 with
  | .enumerated _ (.error e) => some (x.1, e.kind)
  | _ => none

theorem exists_of_timedRefusal? {x : Nat × Doing} {f : Nat × ErrorKind}
    (here : timedRefusal? x = some f) :
    f.1 = x.1 ∧ ∃ selector result, x.2 = .enumerated selector result := by
  obtain ⟨time, d⟩ := x
  cases d with
  | enumerated selector result =>
    cases result with
    | ok => cases here
    | error e =>
      cases here
      exact ⟨rfl, selector, .error e, rfl⟩
  | _ => cases here

/-- The course of a run reports what has failed. -/
theorem failures_courseOf (run : RunId) (log : List (Nat × Doing)) :
    (courseOf run log).filterMap (fun x => x.2.failure?.map fun e => (x.1, e.kind)) =
      failuresOf log := by
  induction log with
  | nil => rfl
  | cons x log ih =>
    obtain ⟨time, d⟩ := x
    have split : courseOf run ((time, d) :: log) =
        (d.actions run).map (time, ·) ++ courseOf run log := List.flatMap_cons
    rw [split, List.filterMap_append, ih]
    cases d with
    | enumerated selector result => cases result <;> rfl
    | lookedUp slot outcome => cases outcome <;> rfl
    | _ => rfl

/-- What fails is an enumeration or a look-up. -/
theorem failuresOf_perm (log : List (Nat × Doing)) :
    (failuresOf log).Perm (log.filterMap timedRefusal? ++
      (outcomesOf log).filterMap fun x => (failureOf? x.2).map (x.1, ·)) := by
  induction log with
  | nil => exact .refl _
  | cons x log ih =>
    obtain ⟨time, d⟩ := x
    cases d with
    | enumerated selector result =>
      cases result with
      | ok => exact ih
      | error e => exact ih.cons (time, e.kind)
    | lookedUp slot outcome =>
      cases outcome with
      | ok => exact ih
      | error e => exact (ih.cons (time, e.kind)).trans List.perm_middle.symm
    | _ => exact ih

/-! ### Failures on an agenda -/

/-- No enumeration is on the agenda of a look-up. -/
theorem not_enumerated_of_mem_agendaOfIdentity {handle : Handle}
    {result : Except PlatformError Identity} {x : Nat × Doing}
    (mem : x ∈ s.agendaOfIdentity time slot handle result)
    {answer : Except PlatformError (List Handle)} : x.2 ≠ .enumerated selector answer := by
  intro enumerated
  unfold Scenario.agendaOfIdentity Scenario.agendaOfListing at mem
  split at mem
  · rw [Multiset.mem_singleton.mp mem] at enumerated
    cases enumerated
  · split at mem
    · rcases Multiset.mem_cons.mp mem with rfl | mem
      · cases enumerated
      · rw [Multiset.mem_singleton.mp mem] at enumerated
        cases enumerated
    · rw [Multiset.mem_singleton.mp mem] at enumerated
      cases enumerated

/-- Only enumerations have an enumeration on their agenda. -/
theorem Turn.isEnumeration_of_mem_agenda {x : Nat × Doing}
    {answer : Except PlatformError (List Handle)} (mem : x ∈ turn.agenda s time)
    (enumerated : x.2 = .enumerated selector answer) : turn.isEnumeration = true := by
  unfold Turn.agenda at mem
  split at mem
  · rfl
  · rcases Multiset.mem_cons.mp mem with rfl | mem
    · cases enumerated
    · exact absurd enumerated (not_enumerated_of_mem_agendaOfIdentity mem)
  · rw [Multiset.mem_singleton.mp mem] at enumerated
    cases enumerated
  · rfl
  · exact absurd enumerated (not_enumerated_of_mem_agendaOfIdentity mem)
  · rw [Multiset.mem_singleton.mp mem] at enumerated
    cases enumerated
  · rw [Multiset.mem_singleton.mp mem] at enumerated
    cases enumerated
  · rw [Multiset.mem_singleton.mp mem] at enumerated
    cases enumerated
  · exact absurd mem (Multiset.notMem_zero x)

/-- An enumeration fails as the script has it, and look-ups do not come into it. -/
theorem refusals_agendaOfEnumeration (began : Nat) (selector : Selector) :
    (s.agendaOfEnumeration began selector).filterMap timedRefusal? =
      ((s.enumerationFailuresOf selector).map fun x => (began + x.1, x.2) :
        List (Nat × ErrorKind)) := by
  unfold Scenario.agendaOfEnumeration Scenario.enumerationFailuresOf
  rw [Multiset.filterMap_cons_none _ _ rfl]
  by_cases failing : selector ∈ s.failingEnumerations
  · rw [if_pos failing]
    unfold Scenario.enumerate
    rw [if_pos failing]
    rfl
  · have enumerate : s.enumerate selector = .ok _ := if_neg failing
    rw [if_neg failing, Scenario.agendaOfHandles_of_ok failing, enumerate,
      Multiset.filterMap_cons_none _ _ rfl]
    refine Multiset.eq_zero_of_forall_notMem fun f mem => ?_
    obtain ⟨x, here, refusal⟩ := (Multiset.mem_filterMap _ _).mp mem
    obtain ⟨-, _, _, enumerated⟩ := exists_of_timedRefusal? refusal
    have lookup := isOfLookup_of_mem_agenda here
    rw [enumerated] at lookup
    cases lookup

theorem refusals_tasks (s : Scenario) (s₀ : Starting) (began : Nat) :
    (((World.tasks s₀).map (Turn.agenda s began)).sum).filterMap timedRefusal? =
      ((s.enumerationFailures s₀.methods).map fun x => (began + x.1, x.2) :
        List (Nat × ErrorKind)) := by
  have each := refusals_agendaOfEnumeration (s := s) began
  rw [filterMap_tasks each (fun _ => rfl) fun _ => rfl]
  unfold Scenario.enumerationFailures
  rw [List.map_append, apply_ite (List.map _), apply_ite (List.map _)]
  rfl

/-! ### Failures of a run -/

/-- When some milliseconds have passed since a run began, and the enumerations are due later that
are still to be answered, the others have failed that fail. -/
theorem SearchingSince.refusals_perm (h : SearchingSince s w₀ s₀ w log)
    (answered : ∀ x ∈ w.line, x.2.run? = some s₀.run → x.2.isEnumeration = true → w.now < x.1)
    (now : w.now = w₀.now + s.adapterTime + ms) :
    (log.filterMap timedRefusal?).Perm
      (((s.enumerationFailures s₀.methods).filter (·.1 ≤ ms)).map fun x =>
        (w₀.now + s.adapterTime + x.1, x.2)) := by
  have selected := h.selected_eq (f := timedRefusal?) (p := fun f => f.1 ≤ w.now)
    (fun _ _ => rfl) ?_ ?_
  · rw [refusals_tasks, Multiset.filter_coe, List.filter_map, now] at selected
    refine (Multiset.coe_eq_coe.mp selected).trans (List.Perm.of_eq ?_)
    congr 1
    refine List.filter_congr fun x _ => ?_
    simp
  · intro x here f refusal
    rw [(exists_of_timedRefusal? refusal).1]
    exact h.past x here
  · -- A turn that still has an enumeration on its agenda is one, and so it is due later.
    intro y here f refusal
    obtain ⟨same, _, _, enumerated⟩ := exists_of_timedRefusal? refusal
    obtain ⟨x, inLine, own, part⟩ := mem_agendaOf_iff.mp here
    have later := answered x inLine own (Turn.isEnumeration_of_mem_agenda part enumerated)
    rw [same]
    exact Nat.not_le_of_lt (later.trans_le (Turn.le_of_mem_agenda part))

/-- **When the time of a run is over**, just that has failed which the script lets fail by then. -/
theorem SearchingSince.failures_perm (h : SearchingSince s w₀ s₀ w log)
    (early : ∀ x ∈ log, x.2.isObservation = true → x.1 < w.now)
    (answered : ∀ x ∈ w.line, x.2.run? = some s₀.run → x.2.isEnumeration = true → w.now < x.1)
    (now : w.now = w₀.now + s.adapterTime + ms) (short : ms ≤ longestWait) :
    (failuresOf log).Perm ((s.failuresWithin s₀.methods ms).map fun x =>
      (w₀.now + s.adapterTime + x.1, x.2)) := by
  unfold Scenario.failuresWithin
  rw [List.map_append, List.map_filterMap]
  refine (failuresOf_perm log).trans ((h.refusals_perm answered now).append ?_)
  refine (h.outcomes_before early now short failureOf?).trans (List.Perm.of_eq ?_)
  refine List.filterMap_congr fun x _ => ?_
  rw [Option.map_map]
  rfl

/-- An enumeration that fails with the end is told, a look-up is not. -/
example : ({ enumerationDelay := 10
             failingEnumerations := [.lowEnergy]
             classicDevices := [{ failAt := some .resolveDevice }] } : Scenario).failuresWithin
    (Methods.classic ∪ Methods.lowEnergy) 10 = [(10, .platformCallFailed .enumerate)] := by
  decide

end Simulation

end BluetoothDiscovery
