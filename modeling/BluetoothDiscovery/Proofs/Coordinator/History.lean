import BluetoothDiscovery.Proofs.Coordinator.Step
import Mathlib.Data.List.Induction

/-!
# Histories

A coordinator is created idle, and everything about it is settled by the row of actions since then.
`after` is where a row leads and `announced` what it tells; `history` keeps each action together
with the coordinator that it met, so that one can ask which run was the present one at the time.
-/

namespace BluetoothDiscovery.Coordinator

variable {extract : Payload → AdvertisementData}

/-- The coordinator after a row of actions since its creation. -/
def after (extract : Payload → AdvertisementData) (as : List Action) : Coordinator :=
  (({} : Coordinator).steps extract as).1

/-- The events announced in a row of actions since the creation of a coordinator. -/
def announced (extract : Payload → AdvertisementData) (as : List Action) : List Event :=
  (({} : Coordinator).steps extract as).2

@[simp]
theorem after_nil : after extract [] = {} := rfl

@[simp]
theorem announced_nil : announced extract [] = [] := rfl

theorem after_concat (as : List Action) (a : Action) :
    after extract (as ++ [a]) = ((after extract as).step extract a).1 := by
  unfold after
  rw [steps_concat]

theorem after_append (as bs : List Action) :
    after extract (as ++ bs) = ((after extract as).steps extract bs).1 := by
  unfold after
  rw [steps_append]

theorem announced_concat (as : List Action) (a : Action) :
    announced extract (as ++ [a]) =
      announced extract as ++ ((after extract as).step extract a).2 := by
  unfold announced after
  rw [steps_concat]

/-! ### Moments -/

/-- An action with the coordinator that it met. -/
structure Moment where
  coordinator : Coordinator
  action : Action

namespace Moment

/-- The coordinator that an action leaves behind. -/
def next (extract : Payload → AdvertisementData) (m : Moment) : Coordinator :=
  (m.coordinator.step extract m.action).1

/-- The events that an action announces. -/
def events (extract : Payload → AdvertisementData) (m : Moment) : List Event :=
  (m.coordinator.step extract m.action).2

/-- The run that was checked for or under way. -/
def owner (m : Moment) : Option RunId := m.coordinator.phase.owner

/-- Whether a run was granted. -/
def grants (m : Moment) : Bool := m.coordinator.grants m.action

end Moment

/-- The moments of a row of actions, the oldest first. -/
def historyFrom (extract : Payload → AdvertisementData) : Coordinator → List Action → List Moment
  | _, [] => []
  | c, a :: as => ⟨c, a⟩ :: historyFrom extract (c.step extract a).1 as

/-- The moments of a row of actions since the creation of a coordinator. -/
def history (extract : Payload → AdvertisementData) (as : List Action) : List Moment :=
  historyFrom extract {} as

@[simp]
theorem history_nil : history extract [] = [] := rfl

theorem historyFrom_concat (c : Coordinator) (as : List Action) (a : Action) :
    historyFrom extract c (as ++ [a]) =
      historyFrom extract c as ++ [⟨(c.steps extract as).1, a⟩] := by
  induction as generalizing c with
  | nil => rfl
  | cons b as ih => simp only [List.cons_append, historyFrom, ih, steps_cons]

theorem history_concat (as : List Action) (a : Action) :
    history extract (as ++ [a]) = history extract as ++ [⟨after extract as, a⟩] :=
  historyFrom_concat {} as a

/-! ### Runs -/

/-- The number of runs that were granted. -/
def granted (extract : Payload → AdvertisementData) (as : List Action) : Nat :=
  (history extract as).countP Moment.grants

@[simp]
theorem granted_nil : granted extract [] = 0 := rfl

theorem granted_concat (as : List Action) (a : Action) :
    granted extract (as ++ [a]) = granted extract as + ((after extract as).grants a).toNat := by
  unfold granted
  rw [history_concat, List.countP_append, List.countP_singleton]
  show _ = _ + ((after extract as).grants a).toNat
  cases h : (after extract as).grants a <;> simp [Moment.grants, h]

theorem granted_le_concat (as : List Action) (a : Action) :
    granted extract as ≤ granted extract (as ++ [a]) := by
  rw [granted_concat]
  omega

theorem granted_le_of_prefix {as bs : List Action} (split : as <+: bs) :
    granted extract as ≤ granted extract bs := by
  induction bs using List.reverseRecOn with
  | nil =>
    obtain rfl := List.prefix_nil.mp split
    exact Nat.le_refl _
  | append_singleton bs b ih =>
    rcases List.prefix_concat_iff.mp split with rfl | earlier
    · exact Nat.le_refl _
    · exact Nat.le_trans (ih earlier) (granted_le_concat bs b)

/-- Whether a run has got past the check of the adapter. -/
def HasBegun (extract : Payload → AdvertisementData) (as : List Action) (id : RunId) : Prop :=
  ∃ m ∈ history extract as, (m.next extract).isRunning id = true

theorem not_hasBegun_nil (id : RunId) : ¬ HasBegun extract [] id := by
  rintro ⟨m, hm, -⟩
  exact List.not_mem_nil hm

theorem hasBegun_concat {as : List Action} {a : Action} {id : RunId} :
    HasBegun extract (as ++ [a]) id ↔
      HasBegun extract as id ∨ (after extract (as ++ [a])).isRunning id = true := by
  unfold HasBegun
  rw [history_concat, after_concat]
  simp only [List.mem_append, List.mem_singleton, or_and_right, exists_or, exists_eq_left]
  rfl

theorem hasBegun_of_isRunning {as : List Action} {id : RunId}
    (running : (after extract as).isRunning id = true) : HasBegun extract as id := by
  induction as using List.reverseRecOn with
  | nil => cases running
  | append_singleton as a _ => exact hasBegun_concat.mpr (.inr running)

/-- A run that was once found going on has begun. -/
theorem hasBegun_of_mem_history {as : List Action} {m : Moment} {id : RunId}
    (mem : m ∈ history extract as) (running : m.coordinator.isRunning id = true) :
    HasBegun extract as id := by
  induction as using List.reverseRecOn with
  | nil => cases mem
  | append_singleton as a ih =>
    rw [history_concat] at mem
    refine hasBegun_concat.mpr (.inl ?_)
    rcases List.mem_append.mp mem with before | last
    · exact ih before
    · rw [List.mem_singleton.mp last] at running
      exact hasBegun_of_isRunning running

/-- The events announced while a run was checked for or under way. -/
def eventsOf (extract : Payload → AdvertisementData) (as : List Action) (id : RunId) : List Event :=
  ((history extract as).filter (·.owner = some id)).flatMap (·.events extract)

@[simp]
theorem eventsOf_nil (id : RunId) : eventsOf extract [] id = [] := rfl

theorem eventsOf_concat_of_owner {as : List Action} (a : Action) {id : RunId}
    (h : (after extract as).phase.owner = some id) :
    eventsOf extract (as ++ [a]) id =
      eventsOf extract as id ++ ((after extract as).step extract a).2 := by
  unfold eventsOf
  have h' : Moment.owner ⟨after extract as, a⟩ = some id := h
  rw [history_concat, List.filter_append, List.flatMap_append, List.filter_cons_of_pos (by simpa)]
  simp [Moment.events]

theorem eventsOf_concat_of_ne_owner {as : List Action} (a : Action) {id : RunId}
    (h : (after extract as).phase.owner ≠ some id) :
    eventsOf extract (as ++ [a]) id = eventsOf extract as id := by
  unfold eventsOf
  have h' : Moment.owner ⟨after extract as, a⟩ ≠ some id := h
  rw [history_concat, List.filter_append, List.flatMap_append, List.filter_cons_of_neg (by simpa)]
  simp

end BluetoothDiscovery.Coordinator
