import BluetoothDiscovery.Proofs.Simulation.Agenda
import BluetoothDiscovery.Proofs.Simulation.Log

/-!
# A run at work

While a run is under way, the turns of its world are its own and those that earlier runs have left
behind.  `Working` says how such a world stands to the log of the run: what the run has done and
what is still on the agenda is its whole work, and everything is done in the order of time.

`Turned` is what a turn does to such a world, whosever turn it is.  Turns and jumps of the clock
keep `Working` (`Working.taken`, `Working.wake`), and every turn leaves less effort.
-/

namespace BluetoothDiscovery.Simulation

variable {s : Scenario} {run : RunId} {n : Nat} {b w w' : World} {turn : Turn} {e : Effect}
  {log : List (Nat × Doing)} {whole : Agenda} {t : Timer} {ts : List Timer} {kind : Turn → Bool}

/-! ### Turns -/

/-- Whether a turn is none of a caller: it makes no request and does not answer the request with a
number, and nobody stops the run with it. -/
def Turn.isFair (n : Nat) : Turn → Bool
  | .request _ _ _ => false
  | .call caller => caller.request? == none
  | .take caller _ stopFirst => !stopFirst && caller.request? != some n
  | _ => true

/-- The turns that come of a turn, each with its time. -/
def Effect.line (now : Nat) (e : Effect) : List (Nat × Turn) :=
  e.more.map (now, ·) ++ e.later.toList.map fun t => (t.deadline, t.turn)

/-- A world `w'` has the turns of `w` in its places, and those that an effect puts there. -/
structure World.Placed (w w' : World) (e : Effect) : Prop where
  radio : w'.radio = w.radio
  now : w'.now = w.now
  queue : w'.queue = w.queue ++ e.more
  timers : w'.timers = e.later.elim w.timers (World.insertTimer · w.timers)
  /-- What waits, waits for a later time. -/
  later : ∀ t ∈ e.later, w.now < t.deadline

/-- What a turn makes of a world `w`: its effect, as far as a run is concerned that is under way. -/
structure Turned (s : Scenario) (run : RunId) (n : Nat) (w : World) (turn : Turn) (w' : World)
    (e : Effect) : Prop extends World.Placed w w' e where
  logged (b : World) (log : List (Nat × Doing)) :
    Logged run b w log → Logged run b w' (log ++ e.doings.map (w.now, ·))
  /-- What comes of a turn is for the run of the turn. -/
  turns : ∀ x ∈ e.line w.now, x.2.run? = turn.run? ∧ x.2.isFair n = true
  effort : e.effort s w.now < turn.effort s w.now

/-- The agenda of a run in a line of turns. -/
def agendaOf (s : Scenario) (run : RunId) (line : List (Nat × Turn)) : Agenda :=
  (line.map fun x => if x.2.run? = some run then x.2.agenda s x.1 else 0).sum

/-- How a world in which a run is at work, with turns of a kind, stands to the log of the run. -/
structure Working (s : Scenario) (run : RunId) (n : Nat) (kind : Turn → Bool) (b : World)
    (whole : Agenda) (w : World) (log : List (Nat × Doing)) : Prop where
  radio : w.radio = .scripted s
  logged : Logged run b w log
  /-- What is done and what is still to be done is the whole work. -/
  account : (log.filter (·.2.isWork) : List (Nat × Doing)) + agendaOf s run w.line = whole
  ordered : log.Pairwise (·.1 ≤ ·.1)
  past : ∀ x ∈ log, x.1 ≤ w.now
  sorted : w.timers.Pairwise (·.deadline ≤ ·.deadline)
  future : ∀ t ∈ w.timers, w.now < t.deadline
  fair : ∀ x ∈ w.line, x.2.isFair n = true
  own : ∀ x ∈ w.line, x.2.run? = some run → kind x.2 = true

/-- What is on the agenda of a run is on that of one of its turns. -/
theorem mem_agendaOf_iff {line : List (Nat × Turn)} {y : Nat × Doing} :
    y ∈ agendaOf s run line ↔ ∃ x ∈ line, x.2.run? = some run ∧ y ∈ x.2.agenda s x.1 := by
  refine mem_sum_map.trans (exists_congr fun x => and_congr_right fun _ => ?_)
  by_cases own : x.2.run? = some run
  · rw [if_pos own, and_iff_right own]
  · rw [if_neg own]
    exact iff_of_false (Multiset.notMem_zero y) fun h => own h.1

theorem agendaOf_cons (x : Nat × Turn) (line : List (Nat × Turn)) :
    agendaOf s run (x :: line) =
      (if x.2.run? = some run then x.2.agenda s x.1 else 0) + agendaOf s run line :=
  List.sum_cons

theorem agendaOf_append (line more : List (Nat × Turn)) :
    agendaOf s run (line ++ more) = agendaOf s run line + agendaOf s run more := by
  unfold agendaOf
  rw [List.map_append, List.sum_append]

theorem agendaOf_perm {line line' : List (Nat × Turn)} (perm : line.Perm line') :
    agendaOf s run line = agendaOf s run line' :=
  (perm.map _).sum_eq

/-- The agenda of turns of the run. -/
theorem agendaOf_own {line : List (Nat × Turn)} (own : ∀ x ∈ line, x.2.run? = some run) :
    agendaOf s run line = (line.map fun x => x.2.agenda s x.1).sum := by
  unfold agendaOf
  congr 1
  exact List.map_congr_left fun x mem => if_pos (own x mem)

theorem agendaOf_other {line : List (Nat × Turn)} (other : ∀ x ∈ line, x.2.run? ≠ some run) :
    agendaOf s run line = 0 := by
  unfold agendaOf
  refine List.sum_eq_zero fun a mem => ?_
  obtain ⟨x, hx, rfl⟩ := List.mem_map.mp mem
  exact if_neg (other x hx)

namespace Effect

theorem mem_line_of_mem_more {now : Nat} (mem : turn ∈ e.more) : (now, turn) ∈ e.line now :=
  List.mem_append_left _ (List.mem_map_of_mem mem)

theorem mem_line_of_mem_later {now : Nat} (mem : t ∈ e.later) :
    (t.deadline, t.turn) ∈ e.line now :=
  List.mem_append_right _
    (List.mem_map_of_mem (f := fun t => (t.deadline, t.turn)) (Option.mem_toList.mpr mem))

/-- The agenda of an effect is what it does and the agenda of its turns. -/
theorem agenda_eq (s : Scenario) (now : Nat) (e : Effect) :
    e.agenda s now = ((e.doings.filter Doing.isWork).map (now, ·) : List (Nat × Doing)) +
      ((e.line now).map fun x => x.2.agenda s x.1).sum := by
  unfold agenda line
  rw [List.map_append, List.sum_append, List.map_map, add_assoc]
  congr 1
  cases e.later with
  | none => rfl
  | some t => simp [Function.comp_def]

theorem effort_eq (s : Scenario) (now : Nat) (e : Effect) :
    e.effort s now = ((e.line now).map fun x => x.2.effort s x.1).sum := by
  unfold effort line
  rw [List.map_append, List.sum_append, List.map_map]
  congr 1
  cases e.later with
  | none => rfl
  | some t => simp

end Effect

/-! ### Steps -/

theorem World.line_of_queue {rest : List Turn} (queue : w.queue = turn :: rest) :
    w.line = (w.now, turn) :: { w with queue := rest }.line := by
  unfold line
  rw [queue]
  rfl

namespace World.Placed

theorem perm_line (h : w.Placed w' e) : w'.line.Perm (w.line ++ e.line w.now) := by
  have timers : (w'.timers.map fun t => (t.deadline, t.turn)).Perm
      ((w.timers.map fun t => (t.deadline, t.turn)) ++
        e.later.toList.map fun t => (t.deadline, t.turn)) := by
    rw [h.timers]
    cases e.later with
    | none => simp
    | some t =>
      refine ((World.perm_insertTimer t w.timers).map _).trans ?_
      exact (List.perm_append_singleton _ _).symm
  unfold World.line Effect.line
  rw [h.queue, h.now]
  simp only [List.map_append, List.append_assoc]
  refine List.Perm.append_left _ ((List.Perm.append_left _ timers).trans ?_)
  rw [← List.append_assoc, ← List.append_assoc]
  exact List.Perm.append_right _ List.perm_append_comm

theorem sorted (h : w.Placed w' e) (sorted : w.timers.Pairwise (·.deadline ≤ ·.deadline)) :
    w'.timers.Pairwise (·.deadline ≤ ·.deadline) := by
  rw [h.timers]
  cases e.later with
  | none => exact sorted
  | some t => exact World.pairwise_insertTimer sorted

theorem future (h : w.Placed w' e) (future : ∀ t ∈ w.timers, w.now < t.deadline) :
    ∀ t ∈ w'.timers, w'.now < t.deadline := by
  intro t mem
  rw [h.now]
  rw [h.timers] at mem
  have later := h.later
  generalize e.later = later? at mem later
  cases later? with
  | none => exact future t mem
  | some u =>
    rcases World.mem_insertTimer.mp mem with rfl | mem
    · exact later t rfl
    · exact future t mem

/-- A turn that has an effect of less effort leaves less effort. -/
theorem effort_lt {rest : List Turn} (h : { w with queue := rest }.Placed w' e)
    (radio : w.radio = .scripted s) (queue : w.queue = turn :: rest)
    (less : e.effort s w.now < turn.effort s w.now) : w'.effort < w.effort := by
  have script : w.script = s := by
    unfold World.script
    rw [radio]
  have script' : w'.script = s := by
    unfold World.script
    rw [h.radio]
    exact script
  have sum := (h.perm_line.map fun x => x.2.effort s x.1).sum_eq
  rw [List.map_append, List.sum_append, ← Effect.effort_eq] at sum
  unfold World.effort
  rw [script, script', World.line_of_queue queue, List.map_cons, List.sum_cons]
  dsimp only at sum ⊢
  omega

end World.Placed

namespace Turned

variable {rest : List Turn}

/-- What a turn does goes from the agenda to the log. -/
theorem account (h : Turned s run n { w with queue := rest } turn w' e)
    (queue : w.queue = turn :: rest)
    (own : turn.run? = some run → e.agenda s w.now = turn.agenda s w.now)
    (other : turn.run? ≠ some run → e.doings = []) :
    ((e.doings.filter Doing.isWork).map (w.now, ·) : List (Nat × Doing)) +
      agendaOf s run w'.line = agendaOf s run w.line := by
  have left : agendaOf s run w'.line = agendaOf s run { w with queue := rest }.line +
      agendaOf s run (e.line w.now) := by
    rw [← agendaOf_append]
    exact agendaOf_perm h.perm_line
  rw [World.line_of_queue queue, agendaOf_cons, left]
  dsimp only
  by_cases mine : turn.run? = some run
  · -- The agenda of the turn is split into what is done now and what comes of it.
    rw [if_pos mine, ← own mine, Effect.agenda_eq,
      agendaOf_own fun x mem => (h.turns x mem).1.trans mine]
    ac_rfl
  · rw [if_neg mine, other mine,
      agendaOf_other fun x mem => fun this => mine ((h.turns x mem).1.symm.trans this), add_zero]
    rfl

end Turned

namespace Working

variable {rest : List Turn}

/-- A turn keeps the account and the order. -/
theorem taken (h : Working s run n kind b whole w log) (queue : w.queue = turn :: rest)
    (turned : Turned s run n { w with queue := rest } turn w' e)
    (own : turn.run? = some run →
      e.agenda s w.now = turn.agenda s w.now ∧ ∀ x ∈ e.line w.now, kind x.2 = true)
    (other : turn.run? ≠ some run → e.doings = []) :
    Working s run n kind b whole w' (log ++ e.doings.map (w.now, ·)) := by
  -- What waits now waited before, or comes of this turn.
  have new {x : Nat × Turn} (mem : x ∈ w'.line) : x ∈ w.line ∨ x ∈ e.line w.now := by
    rw [World.line_of_queue queue]
    exact (List.mem_append.mp (turned.perm_line.subset mem)).imp_left (List.mem_cons_of_mem _)
  have now : w'.now = w.now := turned.now
  constructor
  case radio => exact turned.radio.trans h.radio
  case logged => exact turned.logged b log (h.logged.same ⟨rfl, rfl, rfl, rfl⟩)
  case account =>
    have done : (log ++ e.doings.map (w.now, ·)).filter (·.2.isWork) =
        log.filter (·.2.isWork) ++ (e.doings.filter Doing.isWork).map (w.now, ·) := by
      rw [List.filter_append, List.filter_map]
      rfl
    rw [done, ← Multiset.coe_add, add_assoc, turned.account queue (fun mine => (own mine).1) other]
    exact h.account
  case ordered =>
    refine List.pairwise_append.mpr ⟨h.ordered, ?_, fun x hx y hy => ?_⟩
    · exact List.pairwise_map.mpr (List.pairwise_of_forall fun _ _ => Nat.le_refl _)
    · obtain ⟨d, -, rfl⟩ := List.mem_map.mp hy
      exact h.past x hx
  case past =>
    intro x mem
    rw [now]
    rcases List.mem_append.mp mem with mem | mem
    · exact h.past x mem
    · obtain ⟨d, -, rfl⟩ := List.mem_map.mp mem
      exact Nat.le_refl _
  case sorted => exact turned.sorted h.sorted
  case future => exact turned.future h.future
  case fair =>
    intro x mem
    rcases new mem with old | mem
    · exact h.fair x old
    · exact (turned.turns x mem).2
  case own =>
    intro x mem mine
    rcases new mem with old | mem
    · exact h.own x old mine
    · exact (own ((turned.turns x mem).1.symm.trans mine)).2 x mem

/-- A jump of the clock changes nothing but the time. -/
theorem wake (h : Working s run n kind b whole w log) (empty : w.queue = [])
    (timers : w.timers = t :: ts) : Working s run n kind b whole (w.wake t.deadline) log := by
  have line := World.line_wake empty timers h.sorted
  have later : w.now < t.deadline := h.future t (timers ▸ List.mem_cons_self)
  constructor
  case radio => exact h.radio
  case logged => exact h.logged.same ⟨rfl, rfl, rfl, rfl⟩
  case account =>
    rw [line]
    exact h.account
  case ordered => exact h.ordered
  case past => exact fun x mem => (h.past x mem).trans (Nat.le_of_lt later)
  case sorted => exact World.sorted_wake t.deadline h.sorted
  case future => exact fun u mem => World.lt_of_mem_dropWhile h.sorted mem
  case fair =>
    rw [line]
    exact h.fair
  case own =>
    rw [line]
    exact h.own

end Working

end BluetoothDiscovery.Simulation
