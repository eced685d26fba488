import BluetoothDiscovery.Simulation.World
import Mathlib.Data.List.MinMax
import Mathlib.Order.Nat

/-!
# What a script makes of a look-up

A look-up makes one call or two, and the script answers each after some time.  How long it takes to
look up a device, and what comes of it, can be read off the device (`ScriptedDevice.lookupTime`,
`ScriptedDevice.outcome`).  No call is waited for any longer than `longestWait`.
-/

namespace BluetoothDiscovery

open Simulation (longestWait)

namespace ScriptedDevice

variable (selector : Selector) (d : ScriptedDevice)

/-- How a device answers the first call of its look-up, unless the call fails. -/
def identity : Identity := ⟨d.address, d.name, d.classOfDevice, d.paired⟩

/-- How a device answers the second call of its look-up, unless the call fails. -/
def listing : ServiceListing := ⟨d.serviceStatus, d.services⟩

/-- Whether the second call is made at all. -/
def asksForServices : Bool :=
  d.failAt != some .resolveDevice && Resolution.asksForServices selector d.identity

/-- How many milliseconds it takes to look up a device. -/
def lookupTime : Nat :=
  min d.resolveDelay longestWait +
    if d.asksForServices selector then min d.servicesDelay longestWait else 0

/-- How many milliseconds the script sets for the look-up of a device. -/
def lookupDelay : Nat :=
  d.resolveDelay + if d.asksForServices selector then d.servicesDelay else 0

/-- A call that the script lets fail. -/
def failure (stage : Stage) : PlatformError := ⟨stage, s!"scripted failure for '{d.id}'"⟩

/-- What the look-up of a device comes to. -/
def outcome : Except PlatformError Resolution :=
  if d.failAt = some .resolveDevice then .error (d.failure .resolveDevice)
  else if Resolution.asksForServices selector d.identity then
    if d.failAt = some .fetchServices then .error (d.failure .fetchServices)
    else Resolution.ofListing selector d.identity d.listing
  else .ok ⟨selector, d.identity, none⟩

/-- The look-up of a device that begins at a time: when it ends, and what it comes to. -/
def settled (time : Nat) : Nat × Except PlatformError Resolution :=
  (time + d.lookupTime selector, d.outcome selector)

/-- The call that fails when a classic device is looked up.  Services that are listed with another
status than success are a failure, too. -/
def classicFailure? : Option Stage :=
  if d.failAt = some .resolveDevice then some .resolveDevice
  else if d.failAt = some .fetchServices ∨ d.serviceStatus ≠ .success then some .fetchServices
  else none

/-- A classic device is found unless one of its calls fails. -/
theorem outcome_classic :
    match d.classicFailure? with
    | some stage => ∃ e, d.outcome .classic = .error e ∧ e.stage = stage
    | none => d.outcome .classic = .ok ⟨.classic, d.identity, some d.services⟩ := by
  have asks : Resolution.asksForServices .classic d.identity = true := rfl
  unfold classicFailure? outcome
  rw [if_pos asks]
  by_cases unidentified : d.failAt = some .resolveDevice
  · rw [if_pos unidentified, if_pos unidentified]
    exact ⟨_, rfl, rfl⟩
  · rw [if_neg unidentified, if_neg unidentified]
    by_cases unlisted : d.failAt = some .fetchServices
    · rw [if_pos unlisted, if_pos (.inl unlisted)]
      exact ⟨_, rfl, rfl⟩
    · rw [if_neg unlisted]
      by_cases listed : d.serviceStatus = .success
      · rw [if_neg (by simp [unlisted, listed])]
        exact if_pos listed
      · rw [if_pos (.inr listed)]
        exact ⟨_, if_neg listed, rfl⟩

end ScriptedDevice

namespace Scenario

/-- The answer to the first call of a look-up, and after how many milliseconds it comes. -/
def identityOf (s : Scenario) (h : Handle) : Nat × Except PlatformError Identity :=
  s.lookUp h .resolveDevice (·.resolveDelay) (·.identity)

/-- The answer to the second call of a look-up, and after how many milliseconds it comes. -/
def listingOf (s : Scenario) (h : Handle) : Nat × Except PlatformError ServiceListing :=
  s.lookUp h .fetchServices (·.servicesDelay) (·.listing)

/-- The device that an entry of a script is looked up as: the first entry with its name. -/
def original (s : Scenario) (selector : Selector) (d : ScriptedDevice) : ScriptedDevice :=
  (s.find? ⟨d.id, selector⟩).getD d

/-- How many milliseconds it takes to check the adapter. -/
def adapterTime (s : Scenario) : Nat := min s.adapterDelay longestWait

/-- How many milliseconds it takes to enumerate the known devices of a kind. -/
def enumerationTime (s : Scenario) : Nat := min s.enumerationDelay longestWait

/-- How many milliseconds it takes until all known devices of a kind are looked up. -/
def lookupsTime (s : Scenario) (selector : Selector) : Nat :=
  ((s.devices selector).map fun d => (s.original selector d).lookupTime selector).foldr max 0

/-- What the look-ups of all known devices of a kind come to, each with a time. -/
def outcomesOf (s : Scenario) (time : Selector → ScriptedDevice → Nat) (selector : Selector) :
    List (Nat × Except PlatformError Resolution) :=
  if selector ∈ s.failingEnumerations then []
  else (s.devices selector).map fun d =>
    (time selector (s.original selector d), (s.original selector d).outcome selector)

/-- What all look-ups of a run come to, each with a time. -/
def outcomesBy (s : Scenario) (time : Selector → ScriptedDevice → Nat) (methods : Methods) :
    List (Nat × Except PlatformError Resolution) :=
  (if methods.contains Methods.classic then s.outcomesOf time .classic else []) ++
    if methods.contains Methods.lowEnergy then s.outcomesOf time .lowEnergy else []

/-- What all look-ups of a run come to, each with the milliseconds that the script sets for it,
counted from the beginning of the run. -/
def outcomes (s : Scenario) : Methods → List (Nat × Except PlatformError Resolution) :=
  s.outcomesBy fun selector d => s.enumerationDelay + d.lookupDelay selector

/-- After how many milliseconds the look-up of a device comes to its outcome. -/
def settledAfter (s : Scenario) (selector : Selector) (d : ScriptedDevice) : Nat :=
  s.enumerationTime + d.lookupTime selector

/-- What all look-ups of a run come to, each with the milliseconds that it takes. -/
def settled (s : Scenario) : Methods → List (Nat × Except PlatformError Resolution) :=
  s.outcomesBy s.settledAfter

variable {s : Scenario} {selector : Selector} {d : ScriptedDevice} {h : Handle}

/-- The advertisements of a script come in the order of their times. -/
theorem pairwise_timeline (s : Scenario) : s.timeline.Pairwise (·.time ≤ ·.time) := by
  have sorted : s.timeline.Pairwise fun a b => decide (a.time ≤ b.time) = true :=
    List.pairwise_mergeSort (fun a b c h h' => decide_eq_true
        ((of_decide_eq_true h).trans (of_decide_eq_true h')))
      (fun a b => by simpa using Nat.le_total a.time b.time) s.advertisements
  exact sorted.imp of_decide_eq_true

theorem find?_of_mem (mem : d ∈ s.devices selector) :
    s.find? ⟨d.id, selector⟩ = some (s.original selector d) := by
  have found : (s.find? ⟨d.id, selector⟩).isSome = true :=
    List.find?_isSome.mpr ⟨d, mem, beq_self_eq_true d.id⟩
  obtain ⟨d', hd'⟩ := Option.isSome_iff_exists.mp found
  unfold original
  rw [hd']
  rfl

theorem lookupTime_le_lookupsTime (mem : d ∈ s.devices selector) :
    (s.original selector d).lookupTime selector ≤ s.lookupsTime selector :=
  List.le_max_of_le (List.mem_map_of_mem mem) (Nat.le_refl _)

theorem identityOf_of_find? (found : s.find? h = some d) :
    s.identityOf h = (d.resolveDelay,
      if d.failAt = some .resolveDevice then .error (d.failure .resolveDevice)
      else .ok d.identity) := by
  unfold identityOf lookUp
  rw [found]
  rfl

theorem listingOf_of_find? (found : s.find? h = some d) :
    s.listingOf h = (d.servicesDelay,
      if d.failAt = some .fetchServices then .error (d.failure .fetchServices)
      else .ok d.listing) := by
  unfold listingOf lookUp
  rw [found]
  rfl

/-- What comes before a time is the same by two clocks that tell the same times up to it. -/
theorem filter_outcomesBy {time time' : Selector → ScriptedDevice → Nat} {ms : Nat}
    (same : ∀ selector d, time selector d < ms ∨ time' selector d < ms →
      time selector d = time' selector d) (methods : Methods) :
    (s.outcomesBy time methods).filter (·.1 < ms) =
      (s.outcomesBy time' methods).filter (·.1 < ms) := by
  have one (selector : Selector) : (s.outcomesOf time selector).filter (·.1 < ms) =
      (s.outcomesOf time' selector).filter (·.1 < ms) := by
    unfold outcomesOf
    split
    · rfl
    · induction s.devices selector with
      | nil => rfl
      | cons d ds ih =>
        rw [List.map_cons, List.map_cons, List.filter_cons, List.filter_cons, ih]
        have agree := same selector (s.original selector d)
        by_cases early : time selector (s.original selector d) < ms
        · rw [agree (.inl early)]
        · -- Neither clock has the outcome in time.
          have late : ¬ time' selector (s.original selector d) < ms := fun early' =>
            early (agree (.inr early') ▸ early')
          simp [early, late]
  unfold outcomesBy
  rw [List.filter_append, List.filter_append]
  congr 1
  · split
    · exact one .classic
    · rfl
  · split
    · exact one .lowEnergy
    · rfl

/-- As long as nothing waits too long, everything takes as long as the script says. -/
theorem filter_settled {ms : Nat} (short : ms ≤ longestWait) (methods : Methods) :
    (s.settled methods).filter (·.1 < ms) = (s.outcomes methods).filter (·.1 < ms) := by
  refine filter_outcomesBy (fun selector d early => ?_) methods
  revert early
  unfold settledAfter enumerationTime ScriptedDevice.lookupTime ScriptedDevice.lookupDelay
  cases d.asksForServices selector <;> simp only [Bool.false_eq_true, if_true, if_false] <;> omega

end Scenario

end BluetoothDiscovery
