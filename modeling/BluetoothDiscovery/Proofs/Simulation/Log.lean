import BluetoothDiscovery.Proofs.Simulation.Doings

/-!
# What a run has done

A log is what was done for a run since it began, each doing with its time.  The coordinator of a
world, the events it has announced and the calls it has made follow from the log (`Logged`): nothing
else changes them.
-/

namespace BluetoothDiscovery

/-! ### Actions at their times -/

namespace Coordinator

variable {extract : Payload → AdvertisementData}

/-- What a row of actions does, each at its time: the new state, and the events with their times. -/
def timed (extract : Payload → AdvertisementData) (c : Coordinator) :
    List (Nat × Action) → Coordinator × List (Nat × Event)
  | [] => (c, [])
  | (time, a) :: course =>
    let (c, now) := c.step extract a
    let (c, later) := c.timed extract course
    (c, now.map (time, ·) ++ later)

theorem timed_cons (c : Coordinator) (time : Nat) (a : Action) (course : List (Nat × Action)) :
    c.timed extract ((time, a) :: course) =
      (((c.step extract a).1.timed extract course).1,
        (c.step extract a).2.map (time, ·) ++ ((c.step extract a).1.timed extract course).2) := rfl

theorem timed_append (c : Coordinator) (course more : List (Nat × Action)) :
    c.timed extract (course ++ more) =
      (((c.timed extract course).1.timed extract more).1,
        (c.timed extract course).2 ++ ((c.timed extract course).1.timed extract more).2) := by
  induction course generalizing c with
  | nil => rfl
  | cons x course ih =>
    obtain ⟨time, a⟩ := x
    rw [List.cons_append, timed_cons, ih, timed_cons, List.append_assoc]

/-- Events have the times of the actions that they come of. -/
theorem exists_of_mem_timed {c : Coordinator} {course : List (Nat × Action)} {e : Nat × Event}
    (mem : e ∈ (c.timed extract course).2) : ∃ x ∈ course, x.1 = e.1 := by
  induction course generalizing c with
  | nil => cases mem
  | cons x course ih =>
    rcases List.mem_append.mp mem with now | later
    · obtain ⟨_, -, rfl⟩ := List.mem_map.mp now
      exact ⟨x, List.mem_cons_self, rfl⟩
    · obtain ⟨y, here, same⟩ := ih later
      exact ⟨y, List.mem_cons_of_mem x here, same⟩

/-- Events come in the order of time if the actions do. -/
theorem pairwise_timed {course : List (Nat × Action)} (ordered : course.Pairwise (·.1 ≤ ·.1))
    (c : Coordinator) : (c.timed extract course).2.Pairwise (·.1 ≤ ·.1) := by
  induction course generalizing c with
  | nil => exact .nil
  | cons x course ih =>
    obtain ⟨first, rest⟩ := List.pairwise_cons.mp ordered
    refine List.pairwise_append.mpr ⟨?_, ih rest _, fun e now e' later => ?_⟩
    · exact List.pairwise_map.mpr (List.pairwise_of_forall fun _ _ => Nat.le_refl _)
    · obtain ⟨_, -, rfl⟩ := List.mem_map.mp now
      obtain ⟨y, here, same⟩ := exists_of_mem_timed later
      rw [← same]
      exact first y here

/-- The failures that are told in one step have its time. -/
theorem failures_at (time : Nat) (es : List Event) :
    (es.map (time, ·)).filterMap (fun e => e.2.failure?.map (e.1, ·)) =
      (es.filterMap Event.failure?).map (time, ·) := by
  rw [List.filterMap_map, List.map_filterMap]
  rfl

end Coordinator

namespace Simulation

/-- What was done for a run, as actions. -/
def courseOf (run : RunId) (log : List (Nat × Doing)) : List (Nat × Action) :=
  log.flatMap fun x => (x.2.actions run).map (x.1, ·)

theorem courseOf_append (run : RunId) (log more : List (Nat × Doing)) :
    courseOf run (log ++ more) = courseOf run log ++ courseOf run more :=
  List.flatMap_append

/-- A world `w` shows what a log has made of a world `b`. -/
structure Logged (run : RunId) (b w : World) (log : List (Nat × Doing)) : Prop where
  extract : w.extract = b.extract
  coordinator : w.coordinator = (b.coordinator.timed b.extract (courseOf run log)).1
  events : w.events = b.events ++ (b.coordinator.timed b.extract (courseOf run log)).2
  tally : w.tally = (log.filterMap (·.2.call?)).foldl Tally.count b.tally

/-- Two worlds show the same: the coordinator, the events it has announced and the calls it has
made. -/
structure World.Alike (w w' : World) : Prop where
  extract : w'.extract = w.extract
  coordinator : w'.coordinator = w.coordinator
  events : w'.events = w.events
  tally : w'.tally = w.tally

theorem World.Alike.refl (w : World) : Alike w w := ⟨rfl, rfl, rfl, rfl⟩

theorem World.Alike.trans {w w' w'' : World} (h : Alike w w') (h' : Alike w' w'') :
    Alike w w'' where
  extract := h'.extract.trans h.extract
  coordinator := h'.coordinator.trans h.coordinator
  events := h'.events.trans h.events
  tally := h'.tally.trans h.tally

/-- What is beside the coordinator stays as it was. -/
structure World.Beside (w w' : World) : Prop where
  radio : w'.radio = w.radio
  now : w'.now = w.now
  queue : w'.queue = w.queue
  timers : w'.timers = w.timers
  watcher : w'.watcher = w.watcher
  requests : w'.requests = w.requests

namespace World

variable {run : RunId} {b w w' : World} {log : List (Nat × Doing)}

theorem Beside.refl (w : World) : Beside w w := ⟨rfl, rfl, rfl, rfl, rfl, rfl⟩

theorem Beside.trans {w'' : World} (h : Beside w w') (h' : Beside w' w'') : Beside w w'' where
  radio := h'.radio.trans h.radio
  now := h'.now.trans h.now
  queue := h'.queue.trans h.queue
  timers := h'.timers.trans h.timers
  watcher := h'.watcher.trans h.watcher
  requests := h'.requests.trans h.requests

theorem beside_doing (run : RunId) (w : World) (d : Doing) : Beside w (w.doing run d) := by
  cases d with
  | lookedUp slot outcome => cases outcome <;> exact ⟨rfl, rfl, rfl, rfl, rfl, rfl⟩
  | _ => exact ⟨rfl, rfl, rfl, rfl, rfl, rfl⟩

theorem beside_doings (run : RunId) (w : World) (ds : List Doing) :
    Beside w (ds.foldl (doing run) w) := by
  induction ds generalizing w with
  | nil => exact .refl w
  | cons d ds ih => exact (beside_doing run w d).trans (ih (w.doing run d))

end World

namespace World

variable {w : World} {run : RunId}

/-- Actions that happen in one turn happen at one time. -/
theorem timed_acts (w : World) (as : List Action) :
    (as.foldl act w).extract = w.extract ∧ (as.foldl act w).tally = w.tally ∧
      (as.foldl act w).coordinator = (w.coordinator.timed w.extract (as.map (w.now, ·))).1 ∧
      (as.foldl act w).events =
        w.events ++ (w.coordinator.timed w.extract (as.map (w.now, ·))).2 := by
  induction as generalizing w with
  | nil => exact ⟨rfl, rfl, rfl, (List.append_nil _).symm⟩
  | cons a as ih =>
    obtain ⟨extract, tally, coordinator, events⟩ := ih (w.act a)
    refine ⟨extract, tally, coordinator, ?_⟩
    rw [List.foldl_cons, events, List.map_cons, Coordinator.timed_cons, ← List.append_assoc]
    rfl

/-- A doing is its actions, unless it is a call. -/
theorem doing_eq_acts {d : Doing} (silent : d.call? = none) :
    w.doing run d = (d.actions run).foldl act w := by
  cases d with
  | asked call => cases silent
  | lookedUp slot outcome => cases outcome <;> rfl
  | _ => rfl

end World

namespace Logged

variable {run : RunId} {b w w' : World} {log : List (Nat × Doing)}

theorem refl (run : RunId) (b : World) : Logged run b b [] :=
  ⟨rfl, rfl, (List.append_nil _).symm, rfl⟩

/-- What is done is added to the log. -/
theorem doing (h : Logged run b w log) (d : Doing) :
    Logged run b (w.doing run d) (log ++ [(w.now, d)]) := by
  have course : courseOf run (log ++ [(w.now, d)]) =
      courseOf run log ++ (d.actions run).map (w.now, ·) := by
    rw [courseOf_append]
    exact congrArg (_ ++ ·) (List.append_nil _)
  -- A call is counted and does nothing else; all other doings are actions, and are not counted.
  cases silent : d.call? with
  | some call =>
    cases d with
    | asked call' =>
      cases silent
      constructor
      case extract => exact h.extract
      case tally =>
        rw [List.filterMap_append, List.foldl_append, ← h.tally]
        rfl
      all_goals
        rw [course, Doing.actions, List.map_nil, List.append_nil]
      · exact h.coordinator
      · exact h.events
    | _ => cases silent
  | none =>
    obtain ⟨extract, tally, coordinator, events⟩ := w.timed_acts (d.actions run)
    rw [World.doing_eq_acts silent]
    constructor
    case extract => exact extract.trans h.extract
    case coordinator =>
      rw [course, Coordinator.timed_append, ← h.coordinator, ← h.extract]
      exact coordinator
    case events =>
      rw [course, Coordinator.timed_append, ← h.coordinator, ← h.extract, ← List.append_assoc,
        h.extract, ← h.events, ← h.extract]
      exact events
    case tally =>
      have none : [(w.now, d)].filterMap (·.2.call?) = [] := by simp [silent]
      rw [List.filterMap_append, none, List.append_nil]
      exact tally.trans h.tally

theorem doings (h : Logged run b w log) (ds : List Doing) :
    Logged run b (ds.foldl (World.doing run) w) (log ++ ds.map (w.now, ·)) := by
  induction ds generalizing w log with
  | nil =>
    rw [List.map_nil, List.append_nil]
    exact h
  | cons d ds ih =>
    have rest := ih (h.doing d)
    rw [(w.beside_doing run d).now, List.append_assoc] at rest
    exact rest

/-- What changes nothing that is shown is not in the log. -/
theorem same (h : Logged run b w log) (alike : w.Alike w') : Logged run b w' log where
  extract := alike.extract.trans h.extract
  coordinator := alike.coordinator.trans h.coordinator
  events := alike.events.trans h.events
  tally := alike.tally.trans h.tally

end Logged

end Simulation

end BluetoothDiscovery
