import BluetoothDiscovery.Proofs.Simulation.Turns

/-!
# Waiting for an answer

As long as a run is not told anything, a world shows nothing new, however many turns of earlier runs
are taken.  `Waiting` is a world of which only certain turns, the ones set `aside`, will be heard.
-/

namespace BluetoothDiscovery.Simulation

variable {s : Scenario} {mine : Option RunId} {run : RunId} {n : Nat} {b b' w w' : World}
  {turn : Turn} {rest : List Turn} {aside : List (Nat × Turn)} {t : Timer} {ts : List Timer}

/-- A world `w` still shows what a world `b` has shown.  Only the turns that are set aside are for
the run that is looked at; all others are for runs that are over. -/
structure Waiting (s : Scenario) (mine : Option RunId) (n : Nat) (b : World)
    (aside : List (Nat × Turn)) (w : World) : Prop where
  radio : w.radio = .scripted s
  alike : b.Alike w
  requests : w.requests.any (·.request = n) = b.requests.any (·.request = n)
  owner : b.coordinator.phase.owner = none ∨ b.coordinator.phase.owner = mine
  line : ∃ others, w.line.Perm (aside ++ others) ∧
    ∀ x ∈ others, x.2.isFair n = true ∧ x.2.run? ≠ mine
  sorted : w.timers.Pairwise (·.deadline ≤ ·.deadline)
  future : ∀ t ∈ w.timers, w.now < t.deadline

theorem Turn.run?_ne_none (fair : turn.isFair n = true) : turn.run? ≠ none := by
  cases turn with
  | request => cases fair
  | _ => exact Option.some_ne_none _

namespace Waiting

/-- The turns that are set aside are in line. -/
theorem mem_line (h : Waiting s mine n b aside w) {x : Nat × Turn} (mem : x ∈ aside) :
    x ∈ w.line := by
  obtain ⟨others, perm, -⟩ := h.line
  exact perm.symm.subset (List.mem_append_left others mem)

/-- A turn that is not set aside is not heard of. -/
theorem stale (h : Waiting s mine n b aside w) (queue : w.queue = turn :: rest)
    (other : (w.now, turn) ∉ aside) :
    Waiting s mine n b aside ({ w with queue := rest }.perform turn) ∧
      ({ w with queue := rest }.perform turn).effort < w.effort := by
  obtain ⟨others, perm, still⟩ := h.line
  have head : (w.now, turn) ∈ others := by
    have here : (w.now, turn) ∈ w.line := by
      rw [World.line_of_queue queue]
      exact List.mem_cons_self
    exact (List.mem_append.mp (perm.subset here)).resolve_left other
  obtain ⟨fair, away⟩ := still _ head
  have stale : w.coordinator.phase.owner ≠ turn.run? := by
    rw [h.alike.coordinator]
    rcases h.owner with none | same
    · rw [none]
      exact (Turn.run?_ne_none fair).symm
    · rw [same]
      exact away.symm
  obtain ⟨e, -, turned, passed⟩ := turned_of_stale (w := { w with queue := rest }) fair stale 0
  refine ⟨?_, turned.effort_lt h.radio queue turned.effort⟩
  constructor
  case radio => exact turned.radio.trans h.radio
  case alike =>
    have popped : w.Alike { w with queue := rest } := ⟨rfl, rfl, rfl, rfl⟩
    exact h.alike.trans (popped.trans passed.alike)
  case requests => exact passed.requests.trans h.requests
  case owner => exact h.owner
  case sorted => exact turned.sorted h.sorted
  case future => exact turned.future h.future
  case line =>
    -- The turn is one of the others: it goes, and what comes of it belongs to the same run.
    obtain ⟨before, behind, split⟩ := List.append_of_mem head
    have left : { w with queue := rest }.line.Perm (aside ++ (before ++ behind)) := by
      rw [World.line_of_queue queue, split] at perm
      refine (perm.trans ?_).cons_inv
      exact (List.perm_middle.append_left aside).trans List.perm_middle
    refine ⟨before ++ behind ++ e.line w.now, ?_, fun x mem => ?_⟩
    · rw [← List.append_assoc]
      exact turned.perm_line.trans (left.append_right _)
    · rcases List.mem_append.mp mem with old | new
      · refine still x ?_
        rw [split]
        exact List.perm_middle.symm.subset (List.mem_cons_of_mem _ old)
      · obtain ⟨same, fair⟩ := turned.turns x new
        exact ⟨fair, same.symm ▸ away⟩

/-- The clock changes nothing. -/
theorem wake (h : Waiting s mine n b aside w) (empty : w.queue = []) (timers : w.timers = t :: ts) :
    Waiting s mine n b aside (w.wake t.deadline) where
  radio := h.radio
  alike := h.alike.trans ⟨rfl, rfl, rfl, rfl⟩
  requests := h.requests
  owner := h.owner
  line := by
    rw [World.line_wake empty timers h.sorted]
    exact h.line
  sorted := World.sorted_wake t.deadline h.sorted
  future _ mem := World.lt_of_mem_dropWhile h.sorted mem

/-- The turn that was set aside leaves the line. -/
theorem popped (h : Waiting s mine n b [(w.now, turn)] w) (queue : w.queue = turn :: rest) :
    Waiting s mine n b [] { w with queue := rest } where
  radio := h.radio
  alike := h.alike.trans ⟨rfl, rfl, rfl, rfl⟩
  requests := h.requests
  owner := h.owner
  line := by
    obtain ⟨others, perm, still⟩ := h.line
    rw [World.line_of_queue queue] at perm
    exact ⟨others, perm.cons_inv, still⟩
  sorted := h.sorted
  future := h.future

/-- Either the turn that is set aside is taken, or one that is not heard of. -/
theorem step {x : Nat × Turn} (h : Waiting s mine n b [x] w) (queue : w.queue = turn :: rest) :
    (Waiting s mine n b [x] ({ w with queue := rest }.perform turn) ∧
      ({ w with queue := rest }.perform turn).effort < w.effort) ∨
    x = (w.now, turn) ∧ Waiting s mine n b [] { w with queue := rest } := by
  by_cases here : x = (w.now, turn)
  · rw [here] at h
    exact .inr ⟨here, h.popped queue⟩
  · refine .inl (h.stale queue fun mem => ?_)
    exact here (List.mem_singleton.mp mem).symm

/-- Further turns are set aside as they take their places. -/
theorem placed {e : Effect} (h : Waiting s mine n b [] w) (placed : w.Placed w' e)
    (alike : b'.Alike w')
    (requests : w'.requests.any (·.request = n) = b'.requests.any (·.request = n))
    (owner : b'.coordinator.phase.owner = none ∨ b'.coordinator.phase.owner = mine) :
    Waiting s mine n b' (e.line w.now) w' where
  radio := placed.radio.trans h.radio
  alike := alike
  requests := requests
  owner := owner
  line := by
    obtain ⟨others, perm, still⟩ := h.line
    refine ⟨others, ?_, still⟩
    exact (placed.perm_line.trans (perm.append_right _)).trans List.perm_append_comm
  sorted := placed.sorted h.sorted
  future := placed.future h.future

/-- Once a run is over, nothing is heard of any turn. -/
theorem of_idle (radio : w.radio = .scripted s) (idle : w.coordinator.phase = .idle)
    (fair : ∀ x ∈ w.line, x.2.isFair n = true)
    (sorted : w.timers.Pairwise (·.deadline ≤ ·.deadline))
    (future : ∀ t ∈ w.timers, w.now < t.deadline) : Waiting s none n w [] w where
  radio := radio
  alike := .refl w
  requests := rfl
  owner := by
    rw [idle]
    exact .inl rfl
  line := ⟨w.line, .refl _, fun x mem => ⟨fair x mem, Turn.run?_ne_none (fair x mem)⟩⟩
  sorted := sorted
  future := future

/-- A run begins to look up devices with those turns of its own that it has set aside. -/
theorem working {kind : Turn → Bool} (h : Waiting s (some run) n b aside w)
    (own : ∀ x ∈ aside, x.2.run? = some run ∧ x.2.isFair n = true ∧ kind x.2 = true) :
    Working s run n kind b (aside.map fun x => x.2.agenda s x.1).sum w [] := by
  obtain ⟨others, perm, still⟩ := h.line
  constructor
  case radio => exact h.radio
  case logged => exact (Logged.refl run b).same h.alike
  case account =>
    -- The agenda of the run is that of the turns set aside, since the others are not of this run.
    rw [agendaOf_perm perm, agendaOf_append, agendaOf_own fun x mem => (own x mem).1,
      agendaOf_other fun x mem => (still x mem).2, add_zero]
    exact zero_add _
  case ordered => exact .nil
  case past => exact fun x mem => absurd mem List.not_mem_nil
  case sorted => exact h.sorted
  case future => exact h.future
  case fair =>
    intro x mem
    rcases List.mem_append.mp (perm.subset mem) with mem | mem
    · exact (own x mem).2.1
    · exact (still x mem).1
  case own =>
    intro x mem mine
    rcases List.mem_append.mp (perm.subset mem) with mem | mem
    · exact (own x mem).2.2
    · exact absurd mine (still x mem).2

/-- If none is set aside, all turns are for runs that are over. -/
theorem others (h : Waiting s mine n b [] w) :
    ∀ x ∈ w.line, x.2.isFair n = true ∧ x.2.run? ≠ mine := by
  obtain ⟨others, perm, still⟩ := h.line
  exact fun x mem => still x (perm.subset mem)

end Waiting

end BluetoothDiscovery.Simulation
