import BluetoothDiscovery.Proofs.Simulation.Searching

/-!
# The end of the time for advertisements

Once the time of a run is set, its end waits on a timer, and no turn of the run that is due then or
later comes before it: turns that are due at the same time are taken in the order in which they have
begun to wait.  Only enumerations have begun before the time was set, so that an enumeration which
ends just with the time is still in time.  `TimeSet` says so of a line of turns, and turns keep it.
-/

namespace BluetoothDiscovery.Simulation

variable {run : RunId} {time deadline : Nat} {w w' : World} {turn : Turn} {queue : List Turn}
  {e : Effect} {t : Timer} {ts : List Timer}

/-! ### Late turns -/

/-- Whether a turn does not come before the end of the time for advertisements, unless it is just
that.  Enumerations that end at the same time may have begun before, and come before it. -/
def isLate (run : RunId) (deadline : Nat) (x : Nat × Turn) : Bool :=
  x.2.run? == some run && (x.2.isOnce || deadline ≤ x.1 && !x.2.isEnumeration)

theorem isLate_eq_false_of_early {x : Nat × Turn} (often : x.2.run? = some run → x.2.isOnce = false)
    (early : x.1 < deadline) : isLate run deadline x = false := by
  unfold isLate
  by_cases own : x.2.run? = some run
  · simp [often own, Nat.not_le_of_lt early]
  · simp [own]

theorem isLate_eq_false_of_isEnumeration {x : Nat × Turn}
    (enumeration : x.2.run? = some run → x.2.isEnumeration = true) :
    isLate run deadline x = false := by
  unfold isLate
  by_cases own : x.2.run? = some run
  · simp [enumeration own, Turn.isOnce_eq_false_of_isEnumeration (enumeration own)]
  · simp [own]

/-- What is not late comes often, and before the end unless it is an enumeration. -/
theorem of_isLate_eq_false (early : isLate run deadline (time, turn) = false)
    (own : turn.run? = some run) :
    turn.isOnce = false ∧ (turn.isEnumeration = false → time < deadline) := by
  unfold isLate at early
  simp only [own, beq_self_eq_true, Bool.true_and, Bool.or_eq_false_iff] at early
  obtain ⟨often, notLate⟩ := early
  refine ⟨often, fun other => ?_⟩
  rw [other, Bool.not_false, Bool.and_true] at notLate
  exact Nat.lt_of_not_le (of_decide_eq_false notLate)

/-- A timer that is none too early for the first of some kind does not come before it. -/
theorem find?_insertTimer {p : Nat × Turn → Bool} {x : Nat × Turn}
    (sorted : ts.Pairwise (·.deadline ≤ ·.deadline))
    (found : (ts.map fun t => (t.deadline, t.turn)).find? p = some x)
    (later : p (t.deadline, t.turn) = true → x.1 ≤ t.deadline) :
    ((World.insertTimer t ts).map fun t => (t.deadline, t.turn)).find? p = some x := by
  induction ts with
  | nil => cases found
  | cons u us ih =>
    unfold World.insertTimer
    split
    next before =>
      -- The new timer stands before all others, which it cannot do if it is of the kind.
      have behind : t.deadline < x.1 := by
        obtain ⟨v, mem, rfl⟩ := List.mem_map.mp (List.mem_of_find?_eq_some found)
        exact World.lt_of_lt_first sorted before mem
      have skipped : ¬ p (t.deadline, t.turn) = true := fun here =>
        Nat.not_lt_of_le (later here) behind
      rw [List.map_cons, List.find?_cons_of_neg skipped]
      exact found
    next =>
      rw [List.map_cons] at found ⊢
      by_cases here : p (u.deadline, u.turn) = true
      · rw [List.find?_cons_of_pos here] at found ⊢
        exact found
      · rw [List.find?_cons_of_neg here] at found ⊢
        exact ih (List.pairwise_cons.mp sorted).2 found

/-- A timer is the first of some kind if there was none. -/
theorem find?_insertTimer_self {p : Nat × Turn → Bool}
    (none : ∀ u ∈ ts, p (u.deadline, u.turn) = false) (here : p (t.deadline, t.turn) = true) :
    ((World.insertTimer t ts).map fun t => (t.deadline, t.turn)).find? p =
      some (t.deadline, t.turn) := by
  induction ts with
  | nil => exact List.find?_cons_of_pos here
  | cons u us ih =>
    unfold World.insertTimer
    split
    · exact List.find?_cons_of_pos here
    · have skipped : ¬ p (u.deadline, u.turn) = true := by
        rw [none u List.mem_cons_self]
        exact Bool.false_ne_true
      rw [List.map_cons, List.find?_cons_of_neg skipped]
      exact ih fun v mem => none v (List.mem_cons_of_mem u mem)

theorem find?_isLate_of_line {queue : List Turn} (early : w.now < deadline)
    (often : ∀ turn ∈ queue, turn.run? = some run → turn.isOnce = false) :
    (queue.map (w.now, ·)).find? (isLate run deadline) = none := by
  refine List.find?_eq_none.mpr fun x mem => ?_
  obtain ⟨turn, here, rfl⟩ := List.mem_map.mp mem
  rw [isLate_eq_false_of_early (often turn here) early]
  exact Bool.false_ne_true

/-- No turn of a run that comes of another comes between the run and the end of its time. -/
theorem find?_isLate_placed
    (ends : w.line.find? (isLate run deadline) = some (deadline, .expire run))
    (sorted : w.timers.Pairwise (·.deadline ≤ ·.deadline))
    (future : ∀ t ∈ w.timers, w.now < t.deadline) (placed : w.Placed w' e)
    (often : ∀ x ∈ e.line w.now, x.2.run? = some run → x.2.isOnce = false) :
    w'.line.find? (isLate run deadline) = some (deadline, .expire run) := by
  unfold World.line at ends ⊢
  rw [List.find?_append] at ends
  rw [placed.queue, placed.now, List.map_append, List.append_assoc, List.find?_append]
  cases here : (w.queue.map (w.now, ·)).find? (isLate run deadline) with
  | some x =>
    -- The time is over now, and what is new in the queue waits behind its end.
    rw [here] at ends
    exact ends
  | none =>
    -- The end waits on a timer.  What is new in the queue is early, and a new timer with the same
    -- deadline goes off behind it.
    rw [here, Option.none_or] at ends
    have early : w.now < deadline := by
      obtain ⟨t, mem, same⟩ := List.mem_map.mp (List.mem_of_find?_eq_some ends)
      have late := future t mem
      rwa [(Prod.mk.inj same).1] at late
    have new : (e.more.map (w.now, ·)).find? (isLate run deadline) = none :=
      find?_isLate_of_line early fun turn mem =>
        often (w.now, turn) (Effect.mem_line_of_mem_more mem)
    rw [Option.none_or, List.find?_append, new, Option.none_or, placed.timers]
    cases waits : e.later with
    | none => exact ends
    | some t =>
      refine find?_insertTimer sorted ends fun late => ?_
      have mem : (t.deadline, t.turn) ∈ e.line w.now :=
        Effect.mem_line_of_mem_later (Option.mem_def.mpr waits)
      by_contra before
      rw [isLate_eq_false_of_early (often _ mem) (Nat.lt_of_not_le before)] at late
      cases late

/-! ### Enumerations in time -/

/-- Whether a turn is an enumeration of a run, or the end of its time. -/
def isAwaited (run : RunId) (x : Nat × Turn) : Bool :=
  x.2.run? == some run && (x.2.isEnumeration || x.2.isExpiry)

theorem isAwaited_iff {x : Nat × Turn} : isAwaited run x = true ↔
    x.2.run? = some run ∧ (x.2.isEnumeration = true ∨ x.2.isExpiry = true) := by
  unfold isAwaited
  rw [Bool.and_eq_true, beq_iff_eq, Bool.or_eq_true]

theorem isAwaited_eq_false {x : Nat × Turn} (often : x.2.run? = some run → x.2.isOnce = false)
    (fresh : x.2.run? = some run → x.2.isEnumeration = false) : isAwaited run x = false := by
  by_contra awaited
  rw [Bool.not_eq_false] at awaited
  obtain ⟨own, enumeration | expiry⟩ := isAwaited_iff.mp awaited
  · rw [fresh own] at enumeration
    cases enumeration
  · cases (Turn.isOnce_of_isExpiry expiry).symm.trans (often own)

/-- A timer that is not of some kind leaves those of the kind as they are. -/
theorem filter_insertTimer {p : Nat × Turn → Bool} (other : p (t.deadline, t.turn) = false)
    (ts : List Timer) :
    ((World.insertTimer t ts).map fun t => (t.deadline, t.turn)).filter p =
      (ts.map fun t => (t.deadline, t.turn)).filter p := by
  induction ts with
  | nil => exact List.filter_cons_of_neg (by simp [other])
  | cons u us ih =>
    unfold World.insertTimer
    split
    · exact List.filter_cons_of_neg (by simp [other])
    · rw [List.map_cons, List.map_cons, List.filter_cons, List.filter_cons, ih]

/-- A timer goes off behind those of its kind that are due no later, and before all others. -/
theorem filter_insertTimer_self {p : Nat × Turn → Bool} (here : p (t.deadline, t.turn) = true)
    (sorted : ts.Pairwise (·.deadline ≤ ·.deadline)) :
    ∃ before behind,
      ((World.insertTimer t ts).map fun t => (t.deadline, t.turn)).filter p =
        before ++ (t.deadline, t.turn) :: behind ∧
      before ++ behind = (ts.map fun t => (t.deadline, t.turn)).filter p ∧
      ∀ x ∈ behind, t.deadline < x.1 := by
  induction ts with
  | nil => exact ⟨[], [], List.filter_cons_of_pos here, rfl, fun x mem => by cases mem⟩
  | cons u us ih =>
    unfold World.insertTimer
    split
    next before =>
      -- All timers from here on are due later.
      refine ⟨[], _, List.filter_cons_of_pos here, rfl, fun x mem => ?_⟩
      obtain ⟨v, waits, rfl⟩ := List.mem_map.mp (List.mem_filter.mp mem).1
      exact World.lt_of_lt_first sorted before waits
    next =>
      obtain ⟨before, behind, split, parts, later⟩ := ih (List.pairwise_cons.mp sorted).2
      rw [List.map_cons, List.map_cons, List.filter_cons, List.filter_cons, split, ← parts]
      split
      · exact ⟨(u.deadline, u.turn) :: before, behind, rfl, rfl, later⟩
      · exact ⟨before, behind, rfl, rfl, later⟩

/-- What comes of a turn leaves the turns of some kind as they are if it is not of the kind. -/
theorem World.Placed.filter_line {p : Nat × Turn → Bool} (placed : w.Placed w' e)
    (other : ∀ x ∈ e.line w.now, p x = false) : w'.line.filter p = w.line.filter p := by
  have more : (e.more.map (w.now, ·)).filter p = [] := by
    refine List.filter_eq_nil_iff.mpr fun x mem => ?_
    rw [other x (List.mem_append_left _ mem)]
    exact Bool.false_ne_true
  unfold line
  rw [placed.queue, placed.now, placed.timers, List.map_append, List.filter_append,
    List.filter_append, List.filter_append, more, List.append_nil]
  congr 1
  cases waits : e.later with
  | none => rfl
  | some t => exact filter_insertTimer (other _ (Effect.mem_line_of_mem_later waits)) w.timers

/-- The time of a run is set, in a line of turns.  Its end is the first turn that is late.  All
enumerations of the run have begun, and those that are behind the end are due after it. -/
structure TimeSet (run : RunId) (deadline : Nat) (line : List (Nat × Turn)) : Prop where
  ends : line.find? (isLate run deadline) = some (deadline, .expire run)
  ahead : ∃ before behind,
    line.filter (isAwaited run) = before ++ (deadline, .expire run) :: behind ∧
    (∀ x ∈ before ++ behind, x.2.endsEnumeration = true) ∧ ∀ x ∈ behind, deadline < x.1

namespace TimeSet

/-- The time stays set whatever comes of a turn, unless an enumeration begins or the run does what
it does only once. -/
theorem placed (h : TimeSet run deadline w.line)
    (sorted : w.timers.Pairwise (·.deadline ≤ ·.deadline))
    (future : ∀ t ∈ w.timers, w.now < t.deadline) (placed : w.Placed w' e)
    (often : ∀ x ∈ e.line w.now, x.2.run? = some run → x.2.isOnce = false)
    (fresh : ∀ x ∈ e.line w.now, x.2.run? = some run → x.2.isEnumeration = false) :
    TimeSet run deadline w'.line where
  ends := find?_isLate_placed h.ends sorted future placed often
  ahead := by
    rw [placed.filter_line fun x mem => isAwaited_eq_false (often x mem) (fresh x mem)]
    exact h.ahead

/-- The time stays set when a turn is taken before its end.  If the turn is an enumeration, it takes
in the answer. -/
theorem popped (h : TimeSet run deadline w.line) (head : w.queue = turn :: queue)
    (early : isLate run deadline (w.now, turn) = false) :
    TimeSet run deadline { w with queue }.line ∧
      (turn.run? = some run → turn.isEnumeration = true → turn.endsEnumeration = true) := by
  rw [World.line_of_queue head] at h
  obtain ⟨before, behind, split, answers, later⟩ := h.ahead
  have ends := h.ends
  rw [List.find?_cons_of_neg (by simp [early])] at ends
  by_cases awaited : isAwaited run (w.now, turn) = true
  · rw [List.filter_cons_of_pos awaited] at split
    cases before with
    | nil =>
      -- The turn is not the end of the time, which would be late.
      obtain ⟨same, -⟩ := List.cons.inj split
      rw [same] at early
      cases (of_isLate_eq_false early rfl).1
    | cons x before =>
      obtain ⟨rfl, rest⟩ := List.cons.inj split
      refine ⟨⟨ends, before, behind, rest, fun y mem => ?_, later⟩, fun _ _ => ?_⟩
      · exact answers y (List.mem_cons_of_mem _ mem)
      · exact answers _ List.mem_cons_self
  · rw [List.filter_cons_of_neg awaited] at split
    refine ⟨⟨ends, before, behind, split, answers, later⟩, fun own enumeration => ?_⟩
    exact absurd (isAwaited_iff.mpr ⟨own, .inl enumeration⟩) awaited

/-- When the time is over, the enumerations are due later that are still to be answered. -/
theorem expired (h : TimeSet run deadline w.line) (head : w.queue = .expire run :: queue) :
    ∀ x ∈ w.line, x.2.run? = some run → x.2.isEnumeration = true → deadline < x.1 := by
  intro x mem own enumeration
  rw [World.line_of_queue head] at mem
  replace mem : x ∈ { w with queue }.line := (List.mem_cons.mp mem).resolve_left fun same => by
    rw [same] at enumeration
    cases enumeration
  obtain ⟨before, behind, split, answers, later⟩ := h.ahead
  have here : isAwaited run (w.now, .expire run) = true := isAwaited_iff.mpr ⟨rfl, .inr rfl⟩
  rw [World.line_of_queue head, List.filter_cons_of_pos here] at split
  cases before with
  | nil =>
    obtain ⟨-, rest⟩ := List.cons.inj split
    refine later x ?_
    rw [← rest]
    exact List.mem_filter.mpr ⟨mem, isAwaited_iff.mpr ⟨own, .inl enumeration⟩⟩
  | cons y before =>
    -- Nothing but answers to enumerations comes before the end of the time.
    obtain ⟨rfl, -⟩ := List.cons.inj split
    cases answers _ List.mem_cons_self

end TimeSet

/-- When the time is set, nothing of the run comes before its end but the answers to enumerations
that end in time. -/
theorem World.Setting.timeSet (h : w.Setting run time []) (early : time < deadline)
    (sorted : w.timers.Pairwise (·.deadline ≤ ·.deadline))
    (begun : ∀ turn ∈ w.queue, turn.run? = some run → turn.isEnumeration = false)
    (placed : w.Placed w' { later := some ⟨deadline, .expire run⟩ }) :
    TimeSet run deadline w'.line := by
  -- All that the queue has of the run is behind the turns that were to come next, and none of
  -- those is left.
  have often : ∀ turn ∈ w.queue, turn.run? = some run → turn.isOnce = false := by
    intro turn mem own
    obtain ⟨more, split, often⟩ := h.queue
    refine often turn ?_
    rw [← List.nil_append more, ← split]
    exact List.mem_filter.mpr ⟨mem, Turn.isOther_iff.mpr ⟨own, begun turn mem own⟩⟩
  have line : w'.line = w.queue.map (w.now, ·) ++
      (insertTimer ⟨deadline, .expire run⟩ w.timers).map fun t => (t.deadline, t.turn) := by
    unfold World.line
    rw [placed.queue, placed.now, List.append_nil]
    exact congrArg (_ ++ List.map _ ·) placed.timers
  rw [line]
  constructor
  case ends =>
    rw [List.find?_append, find?_isLate_of_line (h.now.symm ▸ early) often, Option.none_or]
    -- Whatever of the run waits for a timer is an answer to an enumeration, which is not late.
    refine find?_insertTimer_self (t := ⟨deadline, .expire run⟩) (fun u mem => ?_) ?_
    · exact isLate_eq_false_of_isEnumeration fun own =>
        Turn.isEnumeration_of_endsEnumeration (h.waiting u mem own)
    · unfold isLate
      simp [Turn.run?, Turn.isOnce]
  case ahead =>
    have queued : (w.queue.map (w.now, ·)).filter (isAwaited run) = [] := by
      refine List.filter_eq_nil_iff.mpr fun x mem => ?_
      obtain ⟨turn, here, rfl⟩ := List.mem_map.mp mem
      rw [isAwaited_eq_false (often turn here) (begun turn here)]
      exact Bool.false_ne_true
    -- The end goes behind the answers that are due by then, since their timers were made first.
    have here : isAwaited run (deadline, .expire run) = true :=
      isAwaited_iff.mpr ⟨rfl, .inr rfl⟩
    obtain ⟨before, behind, split, parts, later⟩ :=
      filter_insertTimer_self (t := ⟨deadline, .expire run⟩) here sorted
    refine ⟨before, behind, ?_, fun x mem => ?_, later⟩
    · rw [List.filter_append, queued, List.nil_append]
      exact split
    · rw [parts] at mem
      obtain ⟨waits, awaited⟩ := List.mem_filter.mp mem
      obtain ⟨u, here, rfl⟩ := List.mem_map.mp waits
      exact h.waiting u here (isAwaited_iff.mp awaited).1

end BluetoothDiscovery.Simulation
