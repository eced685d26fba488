import BluetoothDiscovery.Proofs.Schedule.System

/-!
# The books of a run

A run does not know its tasks.  It keeps numbers: how many enumerations have not returned, how many
look-ups of each enumeration have not ended, whether advertisements are watched.  `Books` says that
these numbers agree with the tasks that are there, and that how far each search has come is settled
by them.  Every step of a system keeps the books of the present run, whatever the tasks of earlier
runs still do (`sound_of_execution`).
-/

namespace BluetoothDiscovery

/-! ### Runs as functions of their work -/

/-- How far a search has come that was asked for or not, by the numbers of tasks that are still to
start it and of those that carry it on. -/
def searchState (asked : Bool) (starting working : Nat) : SessionState :=
  if asked = false then .idle
  else if 0 < starting then .starting
  else if 0 < working then .running
  else .stopped

section searchState

variable (asked : Bool) (starting working : Nat)

theorem searchState_eq_idle_iff : searchState asked starting working = .idle ↔ asked = false := by
  cases asked <;> cases starting <;> cases working <;> simp [searchState]

theorem searchState_eq_starting_iff :
    searchState asked starting working = .starting ↔ asked = true ∧ 0 < starting := by
  cases asked <;> cases starting <;> cases working <;> simp [searchState]

theorem searchState_eq_running_iff :
    searchState asked starting working = .running ↔
      asked = true ∧ starting = 0 ∧ 0 < working := by
  cases asked <;> cases starting <;> cases working <;> simp [searchState]

theorem searchState_eq_stopped_iff :
    searchState asked starting working = .stopped ↔
      asked = true ∧ starting = 0 ∧ working = 0 := by
  cases asked <;> cases starting <;> cases working <;> simp [searchState]

/-- No search is ever found stopping. -/
theorem searchState_ne_stopping :
    searchState asked starting working ≠ .stoppingByTimeout ∧
      searchState asked starting working ≠ .stoppingByCancel := by
  cases asked <;> cases starting <;> cases working <;> simp [searchState]

/-- The search after one of the tasks that carry it on has ended. -/
theorem searchState_ended :
    (if working = 0 ∧ searchState asked starting (working + 1) = .running then .stopped
      else searchState asked starting (working + 1)) = searchState asked starting working := by
  cases asked <;> cases starting <;> cases working <;> simp [searchState]

end searchState

/-- The search once it has started. -/
theorem searchState_started (n : Nat) :
    (if n = 0 then SessionState.stopped else .running) = searchState true 0 n := by
  cases n <;> rfl

/-- The run with the books that a row of pieces of work asks for. -/
def Run.ofWork (id : RunId) (methods : Methods) (work : Multiset Piece) (sightings : Sightings) :
    Run where
  id := id
  methods := methods
  pendingClassic := work.count (.lookup .classic)
  pendingLowEnergy := work.count (.lookup .lowEnergy)
  openEnumerations := work.count (.enumeration .classic) + work.count (.enumeration .lowEnergy)
  watching := decide (0 < work.count .opening + work.count .watching)
  classic := searchState (methods.contains Methods.classic)
    (work.count (.enumeration .classic)) (work.count (.lookup .classic))
  lowEnergy := searchState (methods.contains Methods.lowEnergy)
    (work.count .opening) (work.count .watching)
  sightings := sightings

/-- Work that a run with given methods can have: it enumerates and watches what was asked for, and
once, and looks up nothing before the enumeration has returned. -/
structure Feasible (methods : Methods) (work : Multiset Piece) : Prop where
  enumeration_le (s : Selector) :
    work.count (.enumeration s) ≤ (methods.contains s.method).toNat
  watcher_le : work.count .opening + work.count .watching ≤
    (methods.contains Methods.lowEnergy).toNat
  lookup_eq_zero (s : Selector) :
    0 < work.count (.enumeration s) → work.count (.lookup s) = 0

namespace Feasible

variable {methods : Methods} {work : Multiset Piece} {s : Selector}

/-- The work that a run begins with. -/
theorem begin (id : RunId) (methods : Methods) (timed : Bool) :
    Feasible methods (Task.work (Task.ofRun id methods timed) id) := by
  rw [Task.work_ofRun]
  constructor
  · intro s
    cases s <;> cases hc : methods.contains Methods.classic <;>
      cases hl : methods.contains Methods.lowEnergy <;> simp [Selector.method, hc, hl]
  · cases methods.contains Methods.classic <;> cases methods.contains Methods.lowEnergy <;> simp
  · intro s _
    cases methods.contains Methods.classic <;> cases methods.contains Methods.lowEnergy <;> simp

/-- Work may be done in any order. -/
theorem mono {work' : Multiset Piece} (h : Feasible methods work) (le : work' ≤ work) :
    Feasible methods work' where
  enumeration_le s := (Multiset.count_le_of_le _ le).trans (h.enumeration_le s)
  watcher_le := by
    have ho := Multiset.count_le_of_le .opening le
    have hw := Multiset.count_le_of_le .watching le
    have := h.watcher_le
    omega
  lookup_eq_zero s hs := by
    have hl := Multiset.count_le_of_le (.lookup s) le
    have := h.lookup_eq_zero s (hs.trans_le (Multiset.count_le_of_le _ le))
    omega

/-- Only what was asked for is enumerated. -/
theorem asked_of_enumeration (h : Feasible methods work) (s : Selector)
    (left : 0 < work.count (.enumeration s)) : methods.contains s.method = true := by
  have hle := h.enumeration_le s
  cases hs : methods.contains s.method with
  | true => rfl
  | false =>
    rw [hs, Bool.toNat_false] at hle
    omega

/-- A watcher is there only if it was asked for. -/
theorem asked_of_watcher (h : Feasible methods work)
    (left : 0 < work.count .opening ∨ 0 < work.count .watching) :
    methods.contains Methods.lowEnergy = true := by
  have hle := h.watcher_le
  cases hs : methods.contains Methods.lowEnergy with
  | true => rfl
  | false =>
    rw [hs, Bool.toNat_false] at hle
    omega

/-- What is still enumerated was asked for and is enumerated once, and nothing of it is looked
up. -/
theorem of_enumeration (h : Feasible methods (.enumeration s ::ₘ work)) :
    methods.contains s.method = true ∧ work.count (.enumeration s) = 0 ∧
      work.count (.lookup s) = 0 := by
  have asked := h.asked_of_enumeration s (by simp)
  have hle := h.enumeration_le s
  have hlookup := h.lookup_eq_zero s (by simp)
  rw [Multiset.count_cons_self, asked, Bool.toNat_true] at hle
  rw [Multiset.count_cons_of_ne (by simp)] at hlookup
  exact ⟨asked, by omega, hlookup⟩

/-- A watcher was asked for, and there is no other. -/
theorem of_watcher {p : Piece} (h : Feasible methods (p ::ₘ work))
    (watcher : p = .opening ∨ p = .watching) :
    methods.contains Methods.lowEnergy = true ∧ work.count .opening = 0 ∧
      work.count .watching = 0 := by
  have asked : methods.contains Methods.lowEnergy = true := by
    rcases watcher with rfl | rfl
    · exact h.asked_of_watcher (.inl (by simp))
    · exact h.asked_of_watcher (.inr (by simp))
  have hle := h.watcher_le
  rw [asked, Bool.toNat_true] at hle
  rcases watcher with rfl | rfl
  · rw [Multiset.count_cons_self, Multiset.count_cons_of_ne (by simp)] at hle
    exact ⟨asked, by omega, by omega⟩
  · rw [Multiset.count_cons_self, Multiset.count_cons_of_ne (by simp)] at hle
    exact ⟨asked, by omega, by omega⟩

/-- What an enumeration found may be looked up once it has returned. -/
theorem enumerated (h : Feasible methods (.enumeration s ::ₘ work)) (n : Nat) :
    Feasible methods (Multiset.replicate n (.lookup s) + work) := by
  have returned := h.of_enumeration.2.1
  have less : Feasible methods work := h.mono (Multiset.le_cons_self work _)
  constructor
  · intro s'
    simpa [Multiset.count_replicate] using less.enumeration_le s'
  · simpa [Multiset.count_replicate] using less.watcher_le
  · intro s' hs'
    have hs' : 0 < work.count (.enumeration s') := by simpa [Multiset.count_replicate] using hs'
    have hne : s ≠ s' := by
      rintro rfl
      omega
    simp only [Multiset.count_add, Multiset.count_replicate, Piece.lookup.injEq, hne, if_false,
      zero_add]
    exact less.lookup_eq_zero s' hs'

/-- A watcher may be read once it is open. -/
theorem opened (h : Feasible methods (.opening ::ₘ work)) :
    Feasible methods (.watching ::ₘ work) := by
  constructor
  · intro s'
    simpa using h.enumeration_le s'
  · simpa [Nat.add_right_comm, Nat.add_assoc] using h.watcher_le
  · intro s' hs'
    simpa [-Multiset.count_eq_zero] using h.lookup_eq_zero s' (by simpa using hs')

end Feasible

namespace Run

variable {id : RunId} {methods : Methods} {work : Multiset Piece} {sightings : Sightings}

theorem begin_eq_ofWork (id : RunId) (methods : Methods) (timed : Bool) :
    Run.begin id methods = ofWork id methods (Task.work (Task.ofRun id methods timed) id) ∅ := by
  rw [Task.work_ofRun]
  unfold Run.begin ofWork searchState
  cases methods.contains Methods.classic <;> cases methods.contains Methods.lowEnergy <;> simp

/-- A run that was asked for anything has work when it begins. -/
theorem isComplete_begin (asked : methods.contains Methods.classic = true ∨
    methods.contains Methods.lowEnergy = true) : (Run.begin id methods).isComplete = false := by
  unfold Run.begin isComplete
  rcases asked with h | h <;> simp [h]

/-- An enumeration returns, and what it found is to be looked up. -/
theorem countEnumerated_ofWork {s : Selector}
    (h : Feasible methods (.enumeration s ::ₘ work)) (n : Nat) :
    (ofWork id methods (.enumeration s ::ₘ work) sightings).countEnumerated s n =
      ofWork id methods (Multiset.replicate n (.lookup s) + work) sightings := by
  obtain ⟨asked, returned, unlooked⟩ := h.of_enumeration
  cases s with
  | classic =>
    have asked : methods.contains Methods.classic = true := asked
    simp [ofWork, countEnumerated, Multiset.count_replicate, returned, unlooked, asked,
      searchState_started]
  | lowEnergy => simp [ofWork, countEnumerated, Multiset.count_replicate, returned, unlooked]

/-- A look-up ends. -/
theorem countLookup_ofWork (s : Selector) :
    (ofWork id methods (.lookup s ::ₘ work) sightings).countLookup s =
      ofWork id methods work sightings := by
  cases s with
  | classic => simp [-Multiset.count_eq_zero, ofWork, countLookup, searchState_ended]
  | lowEnergy => simp [ofWork, countLookup]

/-- The watcher is open. -/
theorem opened_ofWork (h : Feasible methods (.opening ::ₘ work)) :
    { ofWork id methods (.opening ::ₘ work) sightings with lowEnergy := .running } =
      ofWork id methods (.watching ::ₘ work) sightings := by
  obtain ⟨asked, noneOpening, noneWatching⟩ := h.of_watcher (.inl rfl)
  simp [ofWork, searchState, asked, noneOpening, noneWatching]

/-- The watcher could not be opened, or is lost. -/
theorem lost_ofWork {p : Piece} (h : Feasible methods (p ::ₘ work))
    (watcher : p = .opening ∨ p = .watching) :
    { ofWork id methods (p ::ₘ work) sightings with watching := false, lowEnergy := .stopped } =
      ofWork id methods work sightings := by
  obtain ⟨asked, noneOpening, noneWatching⟩ := h.of_watcher watcher
  rcases watcher with rfl | rfl <;>
    simp [-Multiset.count_eq_zero, ofWork, searchState, asked, noneOpening, noneWatching]

/-- No work is left in the books exactly where no task is at any. -/
theorem isComplete_ofWork : (ofWork id methods work sightings).isComplete = true ↔ work = 0 := by
  constructor
  · intro done
    have zero : work.count .opening + work.count .watching = 0 ∧
        work.count (.enumeration .classic) + work.count (.enumeration .lowEnergy) = 0 ∧
        work.count (.lookup .classic) + work.count (.lookup .lowEnergy) = 0 := by
      simpa [isComplete, ofWork, pending, -Multiset.count_eq_zero,
        and_assoc] using done
    refine Multiset.eq_zero_of_forall_notMem fun p => Multiset.count_eq_zero.mp ?_
    cases p with
    | enumeration s => cases s <;> omega
    | lookup s => cases s <;> omega
    | opening => omega
    | watching => omega
  · rintro rfl
    rfl

end Run

/-! ### Books -/

/-- The numbers that a run keeps are those that the work asks for. -/
structure Books (r : Run) (work : Multiset Piece) : Prop where
  feasible : Feasible r.methods work
  run_eq : r = Run.ofWork r.id r.methods work r.sightings

namespace Books

variable {r r' : Run} {work : Multiset Piece} {s : Selector}

/-- What was heard of devices is not in the books. -/
theorem of_work (h : Books r work) (same : r' = { r with sightings := r'.sightings }) :
    Books r' work := by
  rw [same]
  refine ⟨h.feasible, ?_⟩
  have := h.run_eq
  rw [this]
  rfl

theorem begin (id : RunId) (methods : Methods) (timed : Bool) :
    Books (Run.begin id methods) (Task.work (Task.ofRun id methods timed) id) := by
  rw [Run.begin_eq_ofWork id methods timed]
  exact ⟨.begin id methods timed, rfl⟩

theorem countEnumerated (h : Books r (.enumeration s ::ₘ work)) (n : Nat) :
    Books (r.countEnumerated s n) (Multiset.replicate n (.lookup s) + work) := by
  rw [h.run_eq, Run.countEnumerated_ofWork h.feasible]
  exact ⟨h.feasible.enumerated n, rfl⟩

theorem countLookup (h : Books r (.lookup s ::ₘ work)) : Books (r.countLookup s) work := by
  rw [h.run_eq, Run.countLookup_ofWork]
  exact ⟨h.feasible.mono (Multiset.le_cons_self work _), rfl⟩

theorem opened (h : Books r (.opening ::ₘ work)) :
    Books { r with lowEnergy := .running } (.watching ::ₘ work) := by
  rw [h.run_eq, Run.opened_ofWork h.feasible]
  exact ⟨h.feasible.opened, rfl⟩

theorem lost {p : Piece} (h : Books r (p ::ₘ work)) (watcher : p = .opening ∨ p = .watching) :
    Books { r with watching := false, lowEnergy := .stopped } work := by
  rw [h.run_eq, Run.lost_ofWork h.feasible watcher]
  exact ⟨h.feasible.mono (Multiset.le_cons_self work _), rfl⟩

theorem isComplete_iff (h : Books r work) : r.isComplete = true ↔ work = 0 := by
  rw [h.run_eq]
  exact Run.isComplete_ofWork

end Books

end BluetoothDiscovery
