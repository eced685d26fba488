import BluetoothDiscovery.Proofs.Simulation.Doings
import Mathlib.Algebra.BigOperators.Group.Multiset.Basic
import Mathlib.Data.Multiset.AddSub
import Mathlib.Data.Multiset.Bind

/-!
# What is still to be done

The agenda of a turn is everything that will be done because of it, each doing with its time: what
the turn does itself, and the agenda of the turns that come of it.  The answers and their delays are
in the script, so that the agenda of a turn is known as soon as it is known when the turn is taken.

A turn that is taken hands its agenda on, less what it does (`agenda_effect`).  What a run has done
and what it still has to do is therefore always the same together.
-/

namespace BluetoothDiscovery

open Simulation

/-- What is done at which time. -/
abbrev Simulation.Agenda : Type := Multiset (Nat × Doing)

namespace Scenario

variable (s : Scenario) (time : Nat)

/-- The agenda of the second answer to a look-up. -/
def agendaOfListing (slot : Selector) (handle : Handle) (identity : Identity)
    (result : Except PlatformError ServiceListing) : Agenda :=
  {(time, .lookedUp slot (result.bind (Resolution.ofListing handle.selector identity)))}

/-- The agenda of the first answer to a look-up. -/
def agendaOfIdentity (slot : Selector) (handle : Handle) : Except PlatformError Identity → Agenda
  | .error e => {(time, .lookedUp slot (.error e))}
  | .ok identity =>
    if Resolution.asksForServices handle.selector identity then
      (time, .asked (.services handle)) ::ₘ
        agendaOfListing (time + min (s.listingOf handle).1 longestWait) slot handle identity
          (s.listingOf handle).2
    else {(time, .lookedUp slot (.ok ⟨handle.selector, identity, none⟩))}

/-- The agenda of a look-up. -/
def agendaOfLookup (slot : Selector) (handle : Handle) : Agenda :=
  (time, .asked (.identify handle)) ::ₘ
    s.agendaOfIdentity (time + min (s.identityOf handle).1 longestWait) slot handle
      (s.identityOf handle).2

/-- The agenda of the look-ups of all known devices of a kind. -/
def agendaOfLookups (selector : Selector) : Agenda :=
  ((s.devices selector).map fun d => s.agendaOfLookup time selector ⟨d.id, selector⟩).sum

/-- The agenda of the answer to an enumeration. -/
def agendaOfHandles (selector : Selector) (result : Except PlatformError (List Handle)) : Agenda :=
  (time, .enumerated selector result) ::ₘ match result with
    | .ok handles => (handles.map (s.agendaOfLookup time selector)).sum
    | .error _ => 0

/-- The agenda of an enumeration. -/
def agendaOfEnumeration (selector : Selector) : Agenda :=
  (time, .asked (.enumerate selector)) ::ₘ
    s.agendaOfHandles (time + min s.enumerationDelay longestWait) selector (s.enumerate selector)

end Scenario

/-- Everything is on the agenda of a row that is on the agenda of one of its members. -/
theorem Simulation.mem_sum_map {α : Type} {f : α → Agenda} {as : List α} {x : Nat × Doing} :
    x ∈ (as.map f).sum ↔ ∃ a ∈ as, x ∈ f a := by
  rw [← Multiset.sum_coe]
  refine Multiset.mem_join.trans ?_
  simp only [Multiset.mem_coe, List.mem_map, exists_exists_and_eq_and]

namespace Scenario

variable {s : Scenario} {time : Nat} {slot selector : Selector} {handle : Handle}
  {x : Nat × Doing}

/-- What is on the agenda of the look-up of a device. -/
theorem agendaOfLookup_of_find? {d : ScriptedDevice} (found : s.find? handle = some d)
    (slot : Selector) :
    s.agendaOfLookup time slot handle =
      (time, .asked (.identify handle)) ::ₘ
        (if d.asksForServices handle.selector then
          {(time + min d.resolveDelay longestWait, .asked (.services handle))} else 0) +
        {(time + d.lookupTime handle.selector, .lookedUp slot (d.outcome handle.selector))} := by
  unfold agendaOfLookup agendaOfIdentity agendaOfListing ScriptedDevice.lookupTime
    ScriptedDevice.outcome ScriptedDevice.asksForServices
  rw [identityOf_of_find? found, listingOf_of_find? found]
  dsimp only
  by_cases unidentified : d.failAt = some .resolveDevice
  · simp [unidentified]
  · rw [if_neg unidentified, if_neg unidentified]
    dsimp only
    cases asks : Resolution.asksForServices handle.selector d.identity
    · simp
    · by_cases unlisted : d.failAt = some .fetchServices
      · simp [unlisted, Except.bind, Nat.add_assoc, Multiset.singleton_add]
      · simp [unidentified, unlisted, Except.bind, Nat.add_assoc, Multiset.singleton_add]

/-- An enumeration that does not fail has all known devices looked up. -/
theorem agendaOfHandles_of_ok (found : selector ∉ s.failingEnumerations) :
    s.agendaOfHandles time selector (s.enumerate selector) =
      (time, .enumerated selector (s.enumerate selector)) ::ₘ s.agendaOfLookups time selector := by
  have handles : s.enumerate selector =
      .ok ((s.devices selector).map fun d => ⟨d.id, selector⟩) := if_neg found
  unfold agendaOfHandles agendaOfLookups
  rw [handles]
  dsimp only
  rw [List.map_map]
  rfl

theorem le_of_mem_agendaOfIdentity {result : Except PlatformError Identity}
    (mem : x ∈ s.agendaOfIdentity time slot handle result) : time ≤ x.1 := by
  unfold agendaOfIdentity at mem
  split at mem
  · rw [Multiset.mem_singleton.mp mem]
  · split at mem
    · rcases Multiset.mem_cons.mp mem with rfl | mem
      · exact Nat.le_refl _
      · rw [Multiset.mem_singleton.mp mem]
        exact Nat.le_add_right _ _
    · rw [Multiset.mem_singleton.mp mem]

theorem le_of_mem_agendaOfLookup (mem : x ∈ s.agendaOfLookup time slot handle) : time ≤ x.1 := by
  rcases Multiset.mem_cons.mp mem with rfl | mem
  · exact Nat.le_refl _
  · exact (Nat.le_add_right _ _).trans (le_of_mem_agendaOfIdentity mem)

theorem le_of_mem_agendaOfHandles {result : Except PlatformError (List Handle)}
    (mem : x ∈ s.agendaOfHandles time selector result) : time ≤ x.1 := by
  rcases Multiset.mem_cons.mp mem with rfl | mem
  · exact Nat.le_refl _
  · cases result with
    | error e => exact absurd mem (Multiset.notMem_zero x)
    | ok handles =>
      obtain ⟨handle, -, here⟩ := mem_sum_map.mp mem
      exact le_of_mem_agendaOfLookup here

theorem le_of_mem_agendaOfEnumeration (mem : x ∈ s.agendaOfEnumeration time selector) :
    time ≤ x.1 := by
  rcases Multiset.mem_cons.mp mem with rfl | mem
  · exact Nat.le_refl _
  · exact (Nat.le_add_right _ _).trans (le_of_mem_agendaOfHandles mem)

end Scenario

namespace Simulation

variable {s : Scenario} {now : Nat} {turn : Turn}

/-- What will be done because of a turn that is taken at a time.  Advertisements are not counted. -/
def Turn.agenda (s : Scenario) (time : Nat) : Turn → Agenda
  | .call (.enumeration _ selector) => s.agendaOfEnumeration time selector
  | .call (.identity _ slot handle) => s.agendaOfLookup time slot handle
  | .call (.watcher _) => {(time, .opened)}
  | .take (.enumeration _ selector) (.handles result) _ => s.agendaOfHandles time selector result
  | .take (.identity _ slot handle) (.identity result) _ =>
    s.agendaOfIdentity time slot handle result
  | .take (.services _ slot handle identity) (.services result) _ =>
    Scenario.agendaOfListing time slot handle identity result
  | .arm _ timeout => {(time + min timeout longestWait, .timedOut)}
  | .expire _ => {(time, .timedOut)}
  | _ => 0

namespace Effect

/-- What an effect does and what will be done because of it.  Advertisements are not counted. -/
def agenda (s : Scenario) (now : Nat) (e : Effect) : Agenda :=
  ((e.doings.filter Doing.isWork).map (now, ·) : List (Nat × Doing)) +
    (e.more.map (Turn.agenda s now)).sum + e.later.elim 0 fun t => t.turn.agenda s t.deadline

/-- How many turns may come of an effect, at most. -/
def effort (s : Scenario) (now : Nat) (e : Effect) : Nat :=
  (e.more.map (Turn.effort s now)).sum + e.later.elim 0 fun t => t.turn.effort s t.deadline

/-- The agenda of a call is that of its answer at the time when the answer comes. -/
theorem agenda_ofCall {caller : Caller} {answer : Answer} {taken : Effect} (delay : Nat)
    (h : taken.agenda s now = (Turn.take caller answer false).agenda s now) :
    (ofCall now caller delay answer taken).agenda s now =
      (now, .asked caller.call) ::ₘ
        (Turn.take caller answer false).agenda s (now + min delay longestWait) := by
  unfold ofCall
  split
  next atOnce =>
    have asked : (Doing.asked caller.call :: taken.doings).filter Doing.isWork =
        .asked caller.call :: taken.doings.filter Doing.isWork := rfl
    rw [atOnce, Nat.zero_min, Nat.add_zero, ← h]
    unfold agenda
    rw [asked, List.map_cons, ← Multiset.cons_coe, Multiset.cons_add, Multiset.cons_add]
  next =>
    show ({(now, .asked caller.call)} : Agenda) + 0 +
      (Turn.take caller answer false).agenda s (now + min delay longestWait) = _
    rw [add_zero, Multiset.singleton_add]

end Effect

namespace Effect

variable {run : RunId} {slot selector : Selector} {handle : Handle}

theorem agenda_ofListing (identity : Identity) (result : Except PlatformError ServiceListing) :
    (ofListing slot handle identity result).agenda s now =
      Scenario.agendaOfListing now slot handle identity result := rfl

theorem agenda_ofIdentity (result : Except PlatformError Identity) :
    (ofIdentity s now run slot handle result).agenda s now =
      s.agendaOfIdentity now slot handle result := by
  cases result with
  | error e => rfl
  | ok identity =>
    unfold ofIdentity Scenario.agendaOfIdentity
    dsimp only
    split
    · exact agenda_ofCall _ (agenda_ofListing identity _)
    · rfl

theorem agenda_ofHandles (result : Except PlatformError (List Handle)) :
    (ofHandles run selector result).agenda s now = s.agendaOfHandles now selector result := by
  unfold agenda ofHandles Scenario.agendaOfHandles
  cases result with
  | error e => rfl
  | ok handles =>
    simp only [List.map_map, Option.elim_none, add_zero]
    rfl

end Effect

/-- A plain turn hands its agenda on. -/
theorem Turn.agenda_effect (plain : turn.isPlain = true) :
    (turn.effect s now).agenda s now = turn.agenda s now := by
  -- Each stage of an enumeration or a look-up hands what is left of it to the next one.
  cases turn with
  | call caller =>
    cases caller with
    | enumeration run selector => exact Effect.agenda_ofCall _ (Effect.agenda_ofHandles _)
    | identity run slot handle => exact Effect.agenda_ofCall _ (Effect.agenda_ofIdentity _)
    | _ => cases plain
  | take caller answer stopFirst =>
    cases caller with
    | enumeration run selector =>
      cases answer with
      | handles result => exact Effect.agenda_ofHandles result
      | _ => rfl
    | identity run slot handle =>
      cases answer with
      | identity result => exact Effect.agenda_ofIdentity result
      | _ => rfl
    | services run slot handle identity =>
      cases answer with
      | services result => exact Effect.agenda_ofListing identity result
      | _ => rfl
    | _ => cases stopFirst <;> cases plain
  | arm run timeout => exact zero_add _
  | expire run => rfl
  | _ => cases plain

/-! ### Times -/

/-- What is on the agenda of a turn is not done before the turn. -/
theorem Turn.le_of_mem_agenda {x : Nat × Doing} (mem : x ∈ turn.agenda s now) : now ≤ x.1 := by
  unfold Turn.agenda at mem
  split at mem
  · exact Scenario.le_of_mem_agendaOfEnumeration mem
  · exact Scenario.le_of_mem_agendaOfLookup mem
  · rw [Multiset.mem_singleton.mp mem]
  · exact Scenario.le_of_mem_agendaOfHandles mem
  · exact Scenario.le_of_mem_agendaOfIdentity mem
  · rw [Multiset.mem_singleton.mp mem]
  · rw [Multiset.mem_singleton.mp mem]
    exact Nat.le_add_right _ _
  · rw [Multiset.mem_singleton.mp mem]
  · exact absurd mem (Multiset.notMem_zero x)

/-! ### Effort -/

namespace Effect

variable {run : RunId} {slot selector : Selector} {handle : Handle}

theorem effort_ofCall_le {caller : Caller} {answer : Answer} {taken : Effect} {n : Nat}
    (delay : Nat) (h : taken.effort s now ≤ n)
    (waiting : (Turn.take caller answer false).work s ≤ n) :
    (ofCall now caller delay answer taken).effort s now ≤ n := by
  unfold ofCall
  split
  · exact h
  · show ([] : List Nat).sum + (Turn.take caller answer false).work s ≤ n
    rw [List.sum_nil, zero_add]
    exact waiting

theorem effort_ofIdentity_le (result : Except PlatformError Identity) :
    (ofIdentity s now run slot handle result).effort s now ≤ 1 := by
  cases result with
  | error e => exact Nat.zero_le 1
  | ok identity =>
    unfold ofIdentity
    dsimp only
    split
    · exact effort_ofCall_le _ (Nat.zero_le 1) (Nat.le_refl 1)
    · exact Nat.zero_le 1

/-- Every device that is found is looked up in three turns at most. -/
theorem effort_ofHandles (result : Except PlatformError (List Handle)) :
    (ofHandles run selector result).effort s now =
      match result with
      | .ok handles => 3 * handles.length
      | .error _ => 0 := by
  cases result with
  | error e => rfl
  | ok handles =>
    unfold effort ofHandles
    show (((handles.map fun h => Turn.call (.identity run selector h)).map (Turn.effort s now)).sum)
      + 0 = 3 * handles.length
    rw [add_zero]
    induction handles with
    | nil => rfl
    | cons handle handles ih =>
      rw [List.map_cons, List.map_cons, List.sum_cons, ih, List.length_cons]
      show 3 + _ = _
      omega

end Effect

theorem Turn.work_pos (s : Scenario) (turn : Turn) : 0 < turn.work s := by
  have caller (c : Caller) : 0 < c.work s := by
    cases c <;> simp only [Caller.work] <;> omega
  unfold Turn.work
  split
  case h_4 => exact caller _
  all_goals omega

theorem Turn.effort_pos (s : Scenario) (time : Nat) (turn : Turn) : 0 < turn.effort s time :=
  (turn.work_pos s).trans_le (turn.work_le_effort s time)

/-- What comes of a plain turn is less effort than the turn. -/
theorem Turn.effort_effect_lt (plain : turn.isPlain = true) :
    (turn.effect s now).effort s now < turn.effort s now := by
  -- A call pays for taking its answer, and an enumeration for the look-ups that it may hand on.
  cases turn with
  | call caller =>
    cases caller with
    | enumeration run selector =>
      show _ < 1 + (1 + 3 * (s.devices selector).length)
      refine Nat.lt_of_le_of_lt (Effect.effort_ofCall_le _ ?_ ?_)
        (Nat.lt_add_of_pos_left Nat.one_pos)
      · -- The answer is taken at once: as many look-ups as there are devices.
        rw [Effect.effort_ofHandles]
        unfold Scenario.enumerate
        split_ifs
        · exact Nat.zero_le _
        · dsimp only
          rw [List.length_map]
          exact Nat.le_add_left _ 1
      · -- The answer waits for its time, and is then as much work as it has handles.
        unfold Scenario.enumerate
        split <;> simp [Turn.work, Caller.work]
    | identity run slot handle =>
      have taken :
          (Effect.ofIdentity s now run slot handle (s.identityOf handle).2).effort s now ≤ 2 :=
        (Effect.effort_ofIdentity_le _).trans (by decide)
      exact Nat.lt_of_le_of_lt (Effect.effort_ofCall_le _ taken (Nat.le_refl 2))
        (Nat.lt_succ_self 2)
    | _ => cases plain
  | take caller answer stopFirst =>
    cases caller with
    | enumeration run selector =>
      cases answer with
      | handles result =>
        show (Effect.ofHandles run selector result).effort s now < _
        rw [Effect.effort_ofHandles]
        cases result with
        | ok handles => exact Nat.lt_add_of_pos_left Nat.one_pos
        | error e => exact Turn.effort_pos s now _
      | _ => exact Turn.effort_pos s now _
    | identity run slot handle =>
      cases answer with
      | identity result => exact Nat.lt_succ_of_le (Effect.effort_ofIdentity_le result)
      | _ => exact Turn.effort_pos s now _
    | services run slot handle identity =>
      cases answer <;> exact Turn.effort_pos s now _
    | _ => cases stopFirst <;> cases plain
  | arm run timeout => exact Nat.one_lt_two
  | expire run => exact Nat.one_pos
  | _ => cases plain

end Simulation

end BluetoothDiscovery
