import BluetoothDiscovery.Simulation.Clock
import Mathlib.Algebra.BigOperators.Group.List.Basic
import Mathlib.Algebra.GroupWithZero.Nat
import Mathlib.Data.List.TakeWhile

/-!
# Worlds come to rest

`World.runUntil` takes turns until none can be taken any more before its time is over.  It does so
with fuel, and `Turn.effort` says why the fuel is enough: whatever comes of a turn is less effort
than the turn was.  This is so in every world that the simulation gets to, but not in all worlds, so
that it is asked of the worlds at hand: what every turn and every jump of the clock keeps, with less
effort left after each turn, holds when the world has come to rest (`runUntil_rests`).
-/

namespace BluetoothDiscovery.Simulation

/-! ### Timers -/

namespace World

variable {w : World} {t u : Timer} {ts : List Timer} {time : Nat}

theorem perm_insertTimer (t : Timer) (ts : List Timer) : (insertTimer t ts).Perm (t :: ts) := by
  induction ts with
  | nil => exact .refl _
  | cons u us ih =>
    unfold insertTimer
    split
    · exact .refl _
    · exact (ih.cons u).trans (.swap t u us)

theorem mem_insertTimer : u ∈ insertTimer t ts ↔ u = t ∨ u ∈ ts := by
  rw [(perm_insertTimer t ts).mem_iff, List.mem_cons]

/-- What is too early for the first timer is too early for all. -/
theorem lt_of_lt_first (sorted : (t :: ts).Pairwise (·.deadline ≤ ·.deadline))
    (early : time < t.deadline) (mem : u ∈ t :: ts) : time < u.deadline := by
  rcases List.mem_cons.mp mem with rfl | mem
  · exact early
  · exact early.trans_le ((List.pairwise_cons.mp sorted).1 u mem)

/-- Timers stay in the order of their deadlines. -/
theorem pairwise_insertTimer (sorted : ts.Pairwise (·.deadline ≤ ·.deadline)) :
    (insertTimer t ts).Pairwise (·.deadline ≤ ·.deadline) := by
  induction ts with
  | nil => exact List.pairwise_singleton _ t
  | cons u us ih =>
    obtain ⟨first, later⟩ := List.pairwise_cons.mp sorted
    unfold insertTimer
    split
    next before =>
      exact List.pairwise_cons.mpr
        ⟨fun v mem => Nat.le_of_lt (lt_of_lt_first sorted before mem), sorted⟩
    next behind =>
      refine List.pairwise_cons.mpr ⟨fun v mem => ?_, ih later⟩
      rcases mem_insertTimer.mp mem with rfl | mem
      · exact Nat.le_of_not_lt behind
      · exact first v mem

/-! ### Turns in line -/

/-- The turns of a world in the order in which they are taken, each with its time: those of the
queue can be taken now, the others wait for their deadline. -/
def line (w : World) : List (Nat × Turn) :=
  w.queue.map (w.now, ·) ++ w.timers.map fun t => (t.deadline, t.turn)

/-- The clock does not change the line when it jumps to the time of the first turn. -/
theorem line_wake (empty : w.queue = []) (timers : w.timers = t :: ts)
    (sorted : w.timers.Pairwise (·.deadline ≤ ·.deadline)) :
    (w.wake t.deadline).line = w.line := by
  have least : ∀ u ∈ w.timers, t.deadline ≤ u.deadline := by
    rw [timers] at sorted ⊢
    intro u mem
    rcases List.mem_cons.mp mem with rfl | mem
    · exact Nat.le_refl _
    · exact (List.pairwise_cons.mp sorted).1 u mem
  -- The turns that are woken have waited for just this time.
  have woken : ((w.timers.takeWhile (·.deadline ≤ t.deadline)).map (·.turn)).map (t.deadline, ·) =
      (w.timers.takeWhile (·.deadline ≤ t.deadline)).map fun u => (u.deadline, u.turn) := by
    rw [List.map_map]
    refine List.map_congr_left fun u mem => ?_
    have due := List.mem_takeWhile_imp mem
    have same := Nat.le_antisymm (of_decide_eq_true due)
      (least u ((List.takeWhile_sublist _).mem mem))
    exact Prod.ext same.symm rfl
  unfold line wake
  rw [empty, List.nil_append, woken, ← List.map_append, List.takeWhile_append_dropWhile]
  rfl

/-- Nothing in line is late. -/
theorem le_of_mem_line (future : ∀ t ∈ w.timers, w.now < t.deadline) {x : Nat × Turn}
    (mem : x ∈ w.line) : w.now ≤ x.1 := by
  rcases List.mem_append.mp mem with mem | mem
  · obtain ⟨turn, -, rfl⟩ := List.mem_map.mp mem
    exact Nat.le_refl _
  · obtain ⟨t, here, rfl⟩ := List.mem_map.mp mem
    exact Nat.le_of_lt (future t here)

/-- Only what is due after a time still waits for it. -/
theorem lt_of_mem_dropWhile (sorted : ts.Pairwise (·.deadline ≤ ·.deadline))
    (mem : u ∈ ts.dropWhile (·.deadline ≤ time)) : time < u.deadline := by
  induction ts with
  | nil => cases mem
  | cons v vs ih =>
    rw [List.dropWhile_cons] at mem
    split at mem
    · exact ih (List.pairwise_cons.mp sorted).2 mem
    next notDue =>
      have late : time < v.deadline := by simpa using notDue
      exact lt_of_lt_first sorted late mem

theorem sorted_wake (time : Nat) (sorted : w.timers.Pairwise (·.deadline ≤ ·.deadline)) :
    (w.wake time).timers.Pairwise (·.deadline ≤ ·.deadline) :=
  sorted.sublist (List.dropWhile_sublist _)

end World

/-! ### Effort -/

/-- How many turns may come of a turn that is taken at a time, at most.  Advertisements that are not
due cost one turn more, in which they begin to wait. -/
def Turn.effort (s : Scenario) (time : Nat) : Turn → Nat
  | .feed run opened (a :: rest) =>
    if opened + a.time ≤ time then (Turn.feed run opened (a :: rest)).work s
    else (Turn.feed run opened (a :: rest)).work s + 1
  | turn => turn.work s

theorem Turn.work_le_effort (s : Scenario) (time : Nat) (turn : Turn) :
    turn.work s ≤ turn.effort s time := by
  unfold effort
  split
  · split
    · exact Nat.le_refl _
    · exact Nat.le_succ _
  · exact Nat.le_refl _

theorem Turn.effort_le_succ_work (s : Scenario) (time : Nat) (turn : Turn) :
    turn.effort s time ≤ turn.work s + 1 := by
  unfold effort
  split
  · split
    · exact Nat.le_succ _
    · exact Nat.le_refl _
  · exact Nat.le_succ _

namespace World

variable {w : World} {time : Nat}

/-- How many turns may still be taken, at most. -/
def effort (w : World) : Nat := (w.line.map fun x => x.2.effort w.script x.1).sum

/-- What turns and jumps of the clock keep up to a time, with less effort left after each turn. -/
structure Steady (time : Nat) (I : World → Prop) : Prop where
  sorted {w : World} : I w → w.timers.Pairwise (·.deadline ≤ ·.deadline)
  turn {w : World} {turn : Turn} {rest : List Turn} : I w → w.queue = turn :: rest →
    I ({ w with queue := rest }.perform turn) ∧
      ({ w with queue := rest }.perform turn).effort < w.effort
  wake {w : World} {t : Timer} {ts : List Timer} : I w → w.queue = [] → w.timers = t :: ts →
    t.deadline ≤ time → I (w.wake t.deadline)

/-- A world comes to rest: no turn can be taken, and none waits for a time that is not over yet. -/
structure Rests (time : Nat) (w : World) : Prop where
  queue : w.queue = []
  timers : ∀ t ∈ w.timers, time < t.deadline

/-- What is in line at rest is too late. -/
theorem Rests.lt_of_mem_line (h : w.Rests time) {x : Nat × Turn} (mem : x ∈ w.line) :
    time < x.1 := by
  unfold line at mem
  rw [h.queue, List.map_nil, List.nil_append] at mem
  obtain ⟨t, here, rfl⟩ := List.mem_map.mp mem
  exact h.timers t here

theorem Steady.runFor {I : World → Prop} (steady : Steady time I) (h : I w) {fuel : Nat}
    (enough : 2 * w.effort + (if w.queue = [] then 1 else 0) < fuel) :
    ∃ w', I w' ∧ w'.Rests time ∧
      runFor time (fun _ => false) fuel w = { w' with now := max w'.now time } := by
  induction fuel generalizing w with
  | zero => exact absurd enough (Nat.not_lt_zero _)
  | succ fuel ih =>
    unfold World.runFor
    split
    next turn rest queue =>
      obtain ⟨kept, less⟩ := steady.turn h queue
      refine ih kept ?_
      rw [queue, if_neg (List.cons_ne_nil turn rest)] at enough
      split <;> omega
    next queue =>
      have sorted := steady.sorted h
      rw [queue, if_pos rfl] at enough
      rw [if_neg Bool.false_ne_true]
      split
      next t ts timers =>
        split
        next due =>
          have same : (w.wake t.deadline).effort = w.effort := by
            unfold effort
            rw [line_wake queue timers sorted]
            rfl
          -- The jump leaves as much effort, but the timer that is due joins the queue, so that no
          -- two jumps follow each other.
          have woken : (w.wake t.deadline).queue ≠ [] := by
            unfold World.wake
            rw [queue, timers]
            simp
          refine ih (steady.wake h queue timers due) ?_
          rw [same, if_neg woken]
          omega
        next late =>
          refine ⟨w, h, ⟨queue, fun u mem => ?_⟩, rfl⟩
          rw [timers] at sorted mem
          rcases List.mem_cons.mp mem with rfl | mem
          · exact Nat.lt_of_not_le late
          · exact (Nat.lt_of_not_le late).trans_le ((List.pairwise_cons.mp sorted).1 u mem)
      next timers =>
        refine ⟨w, h, ⟨queue, fun t mem => ?_⟩, rfl⟩
        rw [timers] at mem
        cases mem

/-- The fuel is enough, and what is kept holds at rest. -/
theorem Steady.runUntil {I : World → Prop} (steady : Steady time I) (h : I w)
    (enough : w.effort ≤ w.work) :
    ∃ w', I w' ∧ w'.Rests time ∧
      w.runUntil time (fun _ => false) = { w' with now := max w'.now time } := by
  refine steady.runFor h ?_
  split <;> omega

end World

end BluetoothDiscovery.Simulation
