import BluetoothDiscovery.Proofs.Simulation.Beginning
import BluetoothDiscovery.Proofs.Simulation.Feeding

/-!
# Searches that watch

A run that watches advertisements searches until its time is over.  `Searching` is a world in which
it does, and a turn that is `Routine` keeps it: those of enumerations and look-ups, and those that
earlier runs have left behind.

A run begins by opening its watcher and then setting its time.  Until then nothing but enumerations
comes in between (`World.Setting`).
-/

namespace BluetoothDiscovery.Simulation

variable {s : Scenario} {run : RunId} {n time : Nat} {b w w' : World} {turn first : Turn}
  {queue next : List Turn} {e : Effect} {log : List (Nat × Doing)} {whole : Agenda} {t : Timer}
  {ts : List Timer}

/-! ### Kinds of turns and doings -/

namespace Turn

/-- Whether a turn enumerates known devices. -/
def isEnumeration : Turn → Bool
  | .call (.enumeration _ _) | .take (.enumeration _ _) _ _ => true
  | _ => false

/-- Whether a turn takes in the answer to an enumeration. -/
def endsEnumeration : Turn → Bool
  | .take (.enumeration _ _) _ _ => true
  | _ => false

/-- Whether a turn is the end of the time for advertisements. -/
def isExpiry : Turn → Bool
  | .expire _ => true
  | _ => false

/-- Whether a turn is one that a run takes only once: it opens the watcher, or has to do with the
time for advertisements. -/
def isOnce : Turn → Bool
  | .call (.watcher _) | .arm _ _ | .expire _ => true
  | _ => false

/-- Whether a turn is one of a search over a script. -/
def isOfSearch : Turn → Bool
  | .call (.watcher _) | .feed _ _ _ | .read _ => true
  | turn => turn.isPlain

theorem isOfSearch_of_isPlain (plain : turn.isPlain = true) : turn.isOfSearch = true := by
  cases turn with
  | call caller => cases caller <;> first | rfl | cases plain
  | feed => rfl
  | read => rfl
  | _ => exact plain

theorem isPlain_of_isEnumeration (search : turn.isOfSearch = true)
    (enumeration : turn.isEnumeration = true) : turn.isPlain = true := by
  cases turn with
  | call caller => cases caller <;> first | rfl | cases enumeration
  | take => exact search
  | _ => cases enumeration

/-- A plain turn enumerates devices or looks one up, unless it has to do with the time. -/
theorem isLookup_of_isPlain (plain : turn.isPlain = true) (often : turn.isOnce = false)
    (other : turn.isEnumeration = false) : turn.isLookup = true := by
  cases turn with
  | call caller =>
    cases caller with
    | identity => rfl
    | enumeration => cases other
    | _ => cases plain
  | take caller answer stopFirst =>
    cases caller with
    | identity | services => exact plain
    | enumeration => cases other
    | _ => cases stopFirst <;> cases plain
  | arm => cases often
  | expire => cases often
  | _ => cases plain

theorem isEnumeration_of_endsEnumeration (ends : turn.endsEnumeration = true) :
    turn.isEnumeration = true := by
  cases turn with
  | take caller answer stopFirst => cases caller <;> first | rfl | cases ends
  | _ => cases ends

theorem isEnumeration_eq_false_of_isLookup (lookup : turn.isLookup = true) :
    turn.isEnumeration = false := by
  cases turn with
  | call caller => cases caller <;> first | rfl | cases lookup
  | take caller answer stopFirst => cases caller <;> first | rfl | cases lookup
  | _ => rfl

theorem isOnce_of_isExpiry (expiry : turn.isExpiry = true) : turn.isOnce = true := by
  cases turn with
  | expire => rfl
  | _ => cases expiry

theorem isOnce_eq_false_of_isEnumeration (enumeration : turn.isEnumeration = true) :
    turn.isOnce = false := by
  cases turn with
  | call caller => cases caller <;> first | rfl | cases enumeration
  | take => rfl
  | _ => cases enumeration

theorem isOnce_eq_false_of_isLookup (lookup : turn.isLookup = true) : turn.isOnce = false := by
  cases turn with
  | call caller => cases caller <;> first | rfl | cases lookup
  | take => rfl
  | _ => cases lookup

/-- A turn of a run that searches is plain, unless it is one of its watcher. -/
theorem isPlain_of_isOfSearch (search : turn.isOfSearch = true) (often : turn.isOnce = false)
    (own : turn.run? = some run) (unfed : turn.isFeedOf run = false) (unread : turn ≠ .read run) :
    turn.isPlain = true := by
  cases turn with
  | call caller =>
    cases caller with
    | watcher => cases often
    | _ => exact search
  | feed run' opened ads =>
    obtain rfl : run' = run := Option.some.inj own
    exact absurd rfl (beq_eq_false_iff_ne.mp unfed)
  | read run' =>
    obtain rfl : run' = run := Option.some.inj own
    exact absurd rfl unread
  | _ => exact search

theorem isFeedOf_eq_false_of_isPlain (plain : turn.isPlain = true) (run : RunId) :
    turn.isFeedOf run = false := by
  cases turn with
  | feed => cases plain
  | _ => rfl

theorem isFeedOf_eq_false_of_ne (other : turn.run? ≠ some run) : turn.isFeedOf run = false := by
  cases turn with
  | feed run' opened rest => exact beq_eq_false_iff_ne.mpr fun same => other (congrArg some same)
  | _ => rfl

end Turn

/-- Whether a doing is an observation of devices. -/
def Doing.isObservation : Doing → Bool
  | .heard _ | .lookedUp _ _ => true
  | _ => false

/-- Whether a doing is the end of the time for advertisements. -/
def Doing.isTimeOut : Doing → Bool
  | .timedOut => true
  | _ => false

namespace Effect

variable {P : Doing → Prop}

theorem forall_doings_ofHandles {selector : Selector} {result : Except PlatformError (List Handle)}
    (enumerated : P (.enumerated selector result)) :
    ∀ d ∈ (ofHandles run selector result).doings, P d := by
  intro d mem
  rw [List.mem_singleton.mp mem]
  exact enumerated

end Effect

namespace Turn

/-- An enumeration makes a call and takes in the answer. -/
theorem forall_doings_of_isEnumeration {P : Doing → Prop} (h : turn.isEnumeration = true)
    (asked : ∀ call, P (.asked call))
    (enumerated : ∀ selector result, P (.enumerated selector result)) :
    ∀ d ∈ (turn.effect s time).doings, P d := by
  cases turn with
  | call caller =>
    cases caller with
    | enumeration run selector =>
      exact Effect.forall_doings_ofCall (asked _)
        (Effect.forall_doings_ofHandles (enumerated _ _))
    | _ => cases h
  | take caller answer stopFirst =>
    cases caller with
    | enumeration run selector =>
      cases answer with
      | handles result => exact Effect.forall_doings_ofHandles (enumerated _ _)
      | _ => exact fun d mem => absurd mem List.not_mem_nil
    | _ => cases h
  | _ => cases h

/-- What comes of an enumeration looks devices up, or takes in the answer later. -/
theorem of_mem_effect_of_isEnumeration (h : turn.isEnumeration = true) :
    (∀ turn' ∈ (turn.effect s time).more, turn'.isLookup = true) ∧
      ∀ t ∈ (turn.effect s time).later, t.turn.endsEnumeration = true := by
  have ofHandles (run : RunId) (selector : Selector) (result : Except PlatformError (List Handle)) :
      (∀ turn' ∈ (Effect.ofHandles run selector result).more, turn'.isLookup = true) ∧
        ∀ t ∈ (Effect.ofHandles run selector result).later, t.turn.endsEnumeration = true := by
    refine ⟨fun turn' mem => ?_, fun t mem => by cases mem⟩
    cases result with
    | error e => exact absurd mem List.not_mem_nil
    | ok handles =>
      obtain ⟨handle, -, rfl⟩ := List.mem_map.mp mem
      rfl
  cases turn with
  | call caller =>
    cases caller with
    | enumeration run selector =>
      have taken := ofHandles run selector (s.enumerate selector)
      show (∀ turn' ∈ (Effect.ofCall time (.enumeration run selector) s.enumerationDelay _ _).more,
        _) ∧ ∀ t ∈ (Effect.ofCall time (.enumeration run selector) s.enumerationDelay _ _).later, _
      unfold Effect.ofCall
      -- The answer is there at once, and its handles with it; or it is waited for.
      split
      · exact taken
      · refine ⟨fun turn' mem => absurd mem List.not_mem_nil, fun t mem => ?_⟩
        obtain rfl := Option.some.inj mem
        rfl
    | _ => cases h
  | take caller answer stopFirst =>
    cases caller with
    | enumeration run selector =>
      cases answer with
      | handles result => exact ofHandles run selector result
      | _ => exact ⟨fun turn' mem => absurd mem List.not_mem_nil, fun t mem => by cases mem⟩
    | _ => cases h
  | _ => cases h

/-- Nothing is waited for once the answer to an enumeration is taken in. -/
theorem later_effect_of_endsEnumeration (ends : turn.endsEnumeration = true) :
    (turn.effect s time).later = none := by
  cases turn with
  | take caller answer stopFirst =>
    cases caller with
    | enumeration run selector => cases answer <;> rfl
    | _ => cases ends
  | _ => cases ends

/-- What comes of an enumeration or a look-up comes often. -/
theorem isOnce_eq_false_of_mem_effect (plain : turn.isPlain = true) (often : turn.isOnce = false) :
    ∀ x ∈ (turn.effect s time).line time, x.2.isOnce = false := by
  intro x mem
  cases enumeration : turn.isEnumeration with
  | true =>
    have made : (∀ turn' ∈ (turn.effect s time).more, turn'.isLookup = true) ∧ _ :=
      of_mem_effect_of_isEnumeration enumeration
    obtain ⟨more, later⟩ := made
    rcases List.mem_append.mp mem with mem | mem
    · obtain ⟨turn', here, rfl⟩ := List.mem_map.mp mem
      exact isOnce_eq_false_of_isLookup (more turn' here)
    · obtain ⟨t, here, rfl⟩ := List.mem_map.mp mem
      exact isOnce_eq_false_of_isEnumeration
        (isEnumeration_of_endsEnumeration (later t (Option.mem_toList.mp here)))
  | false =>
    have lookup := isLookup_of_isPlain plain often enumeration
    exact isOnce_eq_false_of_isLookup (isLookup_of_mem_effect lookup x mem)

/-- What comes of an enumeration or a look-up at once looks devices up. -/
theorem isEnumeration_eq_false_of_mem_more (plain : turn.isPlain = true)
    (often : turn.isOnce = false) {turn' : Turn} (mem : turn' ∈ (turn.effect s time).more) :
    turn'.isEnumeration = false := by
  refine isEnumeration_eq_false_of_isLookup ?_
  cases enumeration : turn.isEnumeration with
  | true => exact (of_mem_effect_of_isEnumeration enumeration).1 turn' mem
  | false =>
    have lookup := isLookup_of_isPlain plain often enumeration
    exact isLookup_of_mem_effect lookup (time, turn') (Effect.mem_line_of_mem_more mem)

/-- What comes later of an enumeration that has begun, or of a look-up, is no enumeration. -/
theorem isEnumeration_eq_false_of_mem_later (plain : turn.isPlain = true)
    (often : turn.isOnce = false)
    (answered : turn.isEnumeration = true → turn.endsEnumeration = true)
    (mem : t ∈ (turn.effect s time).later) : t.turn.isEnumeration = false := by
  cases enumeration : turn.isEnumeration with
  | true =>
    rw [later_effect_of_endsEnumeration (answered enumeration)] at mem
    cases mem
  | false =>
    have lookup := isLookup_of_isPlain plain often enumeration
    exact isEnumeration_eq_false_of_isLookup
      (isLookup_of_mem_effect lookup (t.deadline, t.turn) (Effect.mem_line_of_mem_later mem))

end Turn

/-! ### Searching -/

/-- A run searches, and its time is not over. -/
structure Searching (s : Scenario) (run : RunId) (n : Nat) (b : World) (whole : Agenda) (w : World)
    (log : List (Nat × Doing)) : Prop extends Working s run n Turn.isOfSearch b whole w log where
  inTime : ∀ x ∈ log, x.2.isTimeOut = false

/-- What a turn does that neither concerns the watcher nor the time of a run that searches. -/
structure Routine (s : Scenario) (run : RunId) (n : Nat) (w : World) (turn : Turn) (w' : World)
    (e : Effect) : Prop extends Turned s run n w turn w' e where
  watcher : (∀ x ∈ w.watcher, x.run = run) → w'.watcher = w.watcher
  often : ∀ x ∈ e.line w.now, x.2.run? = some run → x.2.isOnce = false
  unfed : ∀ x ∈ e.line w.now, x.2.isFeedOf run = false
  silent : ∀ d ∈ e.doings, d.heard? = none ∧ d.isTimeOut = false
  blind : (turn.run? = some run → turn.isEnumeration = true) →
    ∀ d ∈ e.doings, d.isObservation = false
  /-- No enumeration begins with what can be taken at once. -/
  fresh : ∀ turn' ∈ e.more, turn'.run? = some run → turn'.isEnumeration = false
  /-- An enumeration waits for its answer. -/
  still : (turn.run? = some run → turn.isEnumeration = true) →
    ∀ t ∈ e.later, t.turn.run? = some run → t.turn.endsEnumeration = true
  /-- Only an enumeration that begins waits for its answer. -/
  answered : (turn.run? = some run → turn.isEnumeration = true → turn.endsEnumeration = true) →
    ∀ t ∈ e.later, t.turn.run? = some run → t.turn.isEnumeration = false

/-- No enumeration comes of a turn that does not begin one. -/
theorem Routine.isEnumeration_eq_false (h : Routine s run n w turn w' e)
    (answered : turn.run? = some run → turn.isEnumeration = true → turn.endsEnumeration = true) :
    ∀ x ∈ e.line w.now, x.2.run? = some run → x.2.isEnumeration = false := by
  intro x mem
  rcases List.mem_append.mp mem with more | later
  · obtain ⟨turn', here, rfl⟩ := List.mem_map.mp more
    exact h.fresh turn' here
  · obtain ⟨t, here, rfl⟩ := List.mem_map.mp later
    exact h.answered answered t (Option.mem_toList.mp here)

/-- Everything that is done for a run but the end of its time is carried on by a watching run. -/
theorem isCarriedOnBy_of_mem_courseOf (inTime : ∀ x ∈ log, x.2.isTimeOut = false) :
    ∀ x ∈ courseOf run log, x.2.isCarriedOnBy run := by
  intro x mem
  obtain ⟨⟨time, d⟩, here, mem⟩ := List.mem_flatMap.mp mem
  obtain ⟨a, act, rfl⟩ := List.mem_map.mp mem
  have goesOn := inTime _ here
  have one {a' : Action} (mem : a ∈ [a']) (on : a'.isCarriedOnBy run) : a.isCarriedOnBy run := by
    rw [List.mem_singleton.mp mem]
    exact on
  cases d with
  | asked call => cases act
  | enumerated selector result =>
    exact one act ⟨rfl, Action.noConfusion, fun _ => Action.noConfusion⟩
  | lookedUp slot outcome =>
    rcases List.mem_cons.mp act with rfl | act
    · cases outcome <;> exact ⟨rfl, Action.noConfusion, fun _ => Action.noConfusion⟩
    · exact one act ⟨rfl, Action.noConfusion, fun _ => Action.noConfusion⟩
  | opened => exact one act ⟨rfl, Action.noConfusion, fun _ => Action.noConfusion⟩
  | heard report => exact one act ⟨rfl, Action.noConfusion, fun _ => Action.noConfusion⟩
  | timedOut => cases goesOn

namespace Searching

theorem watches (h : Searching s run n b whole w log) (begins : b.coordinator.Watches run) :
    w.coordinator.Watches run := by
  have same : Coordinator.SameDevices run b.coordinator b.coordinator := by
    obtain ⟨r, running, number, -⟩ := begins
    exact ⟨rfl, r, r, running, running, number, number, rfl⟩
  rw [h.logged.coordinator]
  exact (Coordinator.sameDevices_timed begins same
    (isCarriedOnBy_of_mem_courseOf h.inTime)).1

/-- A turn keeps the search, if it does not end its time. -/
theorem taken (h : Searching s run n b whole w log) (head : w.queue = turn :: queue)
    (turned : Turned s run n { w with queue } turn w' e)
    (own : turn.run? = some run →
      e.agenda s w.now = turn.agenda s w.now ∧ ∀ x ∈ e.line w.now, x.2.isOfSearch = true)
    (other : turn.run? ≠ some run → e.doings = [])
    (inTime : ∀ d ∈ e.doings, d.isTimeOut = false) :
    Searching s run n b whole w' (log ++ e.doings.map (w.now, ·)) := by
  refine ⟨h.toWorking.taken head turned own other, fun x mem => ?_⟩
  rcases List.mem_append.mp mem with old | new
  · exact h.inTime x old
  · obtain ⟨d, here, rfl⟩ := List.mem_map.mp new
    exact inTime d here

theorem wake (h : Searching s run n b whole w log) (empty : w.queue = [])
    (timers : w.timers = t :: ts) : Searching s run n b whole (w.wake t.deadline) log :=
  ⟨h.toWorking.wake empty timers, h.inTime⟩

/-- The turns for enumerations and look-ups are routine. -/
theorem routine_of_plain (h : Searching s run n b whole w log)
    (begins : b.coordinator.Watches run) (head : w.queue = turn :: queue)
    (own : turn.run? = some run) (plain : turn.isPlain = true) (often : turn.isOnce = false) :
    ∃ e, Routine s run n { w with queue } turn ({ w with queue }.perform turn) e ∧
      Searching s run n b whole ({ w with queue }.perform turn)
        (log ++ e.doings.map (w.now, ·)) := by
  obtain ⟨turned, watcher⟩ := turned_of_plain (w := { w with queue }) (n := n) h.radio plain own
    (h.watches begins).isRunning
  -- An enumeration and a look-up ask and answer; neither hears an advertisement nor ends the time.
  have doings : ∀ d ∈ (turn.effect s w.now).doings, d.heard? = none ∧ d.isTimeOut = false := by
    cases enumeration : turn.isEnumeration with
    | true =>
      exact Turn.forall_doings_of_isEnumeration enumeration (fun _ => ⟨rfl, rfl⟩)
        fun _ _ => ⟨rfl, rfl⟩
    | false =>
      exact Turn.forall_doings_of_isLookup (Turn.isLookup_of_isPlain plain often enumeration)
        (fun _ => ⟨rfl, rfl⟩) fun _ _ => ⟨rfl, rfl⟩
  have plain' (x : Nat × Turn) (mem : x ∈ (turn.effect s w.now).line w.now) :
      x.2.isPlain = true := (Turn.of_mem_effect (n := n) plain x mem).1
  refine ⟨turn.effect s w.now, ?_, ?_⟩
  · constructor
    case toTurned => exact turned
    case watcher => exact fun _ => watcher
    case often => exact fun x mem _ => Turn.isOnce_eq_false_of_mem_effect plain often x mem
    case unfed => exact fun x mem => Turn.isFeedOf_eq_false_of_isPlain (plain' x mem) run
    case silent => exact doings
    case blind =>
      exact fun enumeration => Turn.forall_doings_of_isEnumeration
        (P := fun d => d.isObservation = false) (enumeration own) (fun _ => rfl) fun _ _ => rfl
    case fresh => exact fun turn' mem _ => Turn.isEnumeration_eq_false_of_mem_more plain often mem
    case still =>
      exact fun enumeration t mem _ =>
        (Turn.of_mem_effect_of_isEnumeration (enumeration own)).2 t mem
    case answered =>
      exact fun answered t mem _ =>
        Turn.isEnumeration_eq_false_of_mem_later plain often (answered own) mem
  · exact h.taken head turned
      (fun _ => ⟨Turn.agenda_effect plain, fun x mem => Turn.isOfSearch_of_isPlain (plain' x mem)⟩)
      (fun other => absurd own other) fun d mem => (doings d mem).2

/-- The turns of other runs are routine: those runs are over. -/
theorem routine_of_other (h : Searching s run n b whole w log)
    (begins : b.coordinator.Watches run) (head : w.queue = turn :: queue)
    (other : turn.run? ≠ some run) :
    ∃ e, Routine s run n { w with queue } turn ({ w with queue }.perform turn) e ∧
      Searching s run n b whole ({ w with queue }.perform turn)
        (log ++ e.doings.map (w.now, ·)) := by
  -- This run is under way, so that any other is over.
  have stale : w.coordinator.phase.owner ≠ turn.run? := by
    rw [Coordinator.owner_of_isRunning (h.watches begins).isRunning]
    exact Ne.symm other
  have here : (w.now, turn) ∈ w.line := by
    rw [World.line_of_queue head]
    exact List.mem_cons_self
  obtain ⟨e, nothing, turned, passed⟩ :=
    turned_of_stale (s := s) (w := { w with queue }) (h.fair _ here) stale run
  have none : ∀ d ∈ e.doings, d.heard? = none ∧ d.isTimeOut = false := fun d mem =>
    absurd (nothing ▸ mem) List.not_mem_nil
  have away (x : Nat × Turn) (mem : x ∈ e.line w.now) : x.2.run? ≠ some run := by
    rw [(turned.turns x mem).1]
    exact other
  refine ⟨e, ?_, ?_⟩
  · -- Nothing is done, and what comes of the turn is for its own run.
    constructor
    case toTurned => exact turned
    case watcher =>
      intro mine
      refine passed.watcher fun x known => ?_
      rw [mine x known]
      exact other
    case often => exact fun x mem mine => absurd mine (away x mem)
    case unfed => exact fun x mem => Turn.isFeedOf_eq_false_of_ne (away x mem)
    case silent => exact none
    case blind => exact fun _ d mem => absurd (nothing ▸ mem) List.not_mem_nil
    case fresh =>
      exact fun turn' mem mine => absurd mine (away _ (Effect.mem_line_of_mem_more mem))
    case still =>
      exact fun _ t mem mine => absurd mine (away _ (Effect.mem_line_of_mem_later mem))
    case answered =>
      exact fun _ t mem mine => absurd mine (away _ (Effect.mem_line_of_mem_later mem))
  · exact h.taken head turned (fun mine => absurd mine other) (fun _ => nothing)
      fun d mem => (none d mem).2

/-- The turns of other runs, and those for enumerations and look-ups, are routine. -/
theorem routine (h : Searching s run n b whole w log) (begins : b.coordinator.Watches run)
    (head : w.queue = turn :: queue)
    (usual : turn.run? = some run → turn.isPlain = true ∧ turn.isOnce = false) :
    ∃ e, Routine s run n { w with queue } turn ({ w with queue }.perform turn) e ∧
      Searching s run n b whole ({ w with queue }.perform turn)
        (log ++ e.doings.map (w.now, ·)) := by
  by_cases own : turn.run? = some run
  · obtain ⟨plain, often⟩ := usual own
    exact h.routine_of_plain begins head own plain often
  · exact h.routine_of_other begins head own

end Searching

/-! ### The beginning of a search -/

/-- Whether a turn is one of a run, but not for an enumeration. -/
def Turn.isOther (run : RunId) (turn : Turn) : Bool :=
  turn.run? == some run && !turn.isEnumeration

theorem Turn.isOther_iff : turn.isOther run = true ↔
    turn.run? = some run ∧ turn.isEnumeration = false := by
  unfold isOther
  rw [Bool.and_eq_true, beq_iff_eq, Bool.not_eq_true']

theorem Turn.isEnumeration_of_not_isOther (h : turn.isOther run = false)
    (own : turn.run? = some run) : turn.isEnumeration = true := by
  by_contra other
  rw [Bool.not_eq_true] at other
  rw [isOther_iff.mpr ⟨own, other⟩] at h
  cases h

/-- The turns of a watcher are no enumerations. -/
theorem Turn.not_watcher_of_not_isOther (h : turn.isOther run = false) :
    turn.isFeedOf run = false ∧ turn ≠ .read run := by
  cases turn with
  | feed run' opened ads =>
    have same : (Turn.feed run' opened ads).isOther run = (some run' == some run) := Bool.and_true _
    rw [same] at h
    exact ⟨h, Turn.noConfusion⟩
  | read run' =>
    refine ⟨rfl, fun same => ?_⟩
    rw [same] at h
    unfold isOther run? isEnumeration at h
    simp at h
  | _ => exact ⟨rfl, Turn.noConfusion⟩

/-- A world at the time when a run has begun, in which, but for enumerations, certain turns of the
run come next. -/
structure World.Setting (run : RunId) (time : Nat) (next : List Turn) (w : World) : Prop where
  now : w.now = time
  waiting : ∀ t ∈ w.timers, t.turn.run? = some run → t.turn.endsEnumeration = true
  /-- No enumeration begins behind another turn of the run. -/
  ahead : w.queue.Pairwise fun first turn =>
    first.isOther run = true → turn.run? = some run → turn.isEnumeration = false
  queue : ∃ more, w.queue.filter (·.isOther run) = next ++ more ∧
    ∀ turn ∈ more, turn.isOnce = false

namespace World.Setting

/-- Turns that come of other turns wait behind. -/
theorem placed (h : w.Setting run time next) (placed : w.Placed w' e)
    (often : ∀ turn ∈ e.more, turn.run? = some run → turn.isOnce = false)
    (fresh : ∀ turn ∈ e.more, turn.run? = some run → turn.isEnumeration = false)
    (later : ∀ t ∈ e.later, t.turn.run? = some run → t.turn.endsEnumeration = true) :
    w'.Setting run time next where
  now := placed.now.trans h.now
  waiting t mem := by
    rw [placed.timers] at mem
    cases waits : e.later with
    | none =>
      rw [waits] at mem
      exact h.waiting t mem
    | some u =>
      rw [waits] at mem later
      rcases World.mem_insertTimer.mp mem with rfl | mem
      · exact later t rfl
      · exact h.waiting t mem
  ahead := by
    rw [placed.queue]
    -- What is new in the queue is no enumeration of this run, wherever it stands.
    refine List.pairwise_append.mpr ⟨h.ahead, ?_, fun _ _ turn mem _ => fresh turn mem⟩
    exact List.pairwise_of_forall_mem_list fun _ _ turn mem _ => fresh turn mem
  queue := by
    obtain ⟨more, split, old⟩ := h.queue
    refine ⟨more ++ e.more.filter (·.isOther run), ?_, fun turn mem => ?_⟩
    · rw [placed.queue, List.filter_append, split, List.append_assoc]
    · rcases List.mem_append.mp mem with mem | mem
      · exact old turn mem
      · obtain ⟨new, other⟩ := List.mem_filter.mp mem
        exact often turn new (Turn.isOther_iff.mp other).1

/-- An enumeration, or a turn of another run, leaves the queue. -/
theorem passed (h : w.Setting run time next) (head : w.queue = turn :: queue)
    (passed : turn.isOther run = false) : { w with queue }.Setting run time next where
  now := h.now
  waiting := h.waiting
  ahead := by
    have ahead := h.ahead
    rw [head] at ahead
    exact (List.pairwise_cons.mp ahead).2
  queue := by
    obtain ⟨more, split, often⟩ := h.queue
    rw [head, List.filter_cons_of_neg (by simp [passed])] at split
    exact ⟨more, split, often⟩

/-- Another turn of the run is the next, and then no more enumerations begin. -/
theorem popped (h : w.Setting run time (first :: next)) (head : w.queue = turn :: queue)
    (other : turn.isOther run = true) :
    turn = first ∧ { w with queue }.Setting run time next ∧
      ∀ turn ∈ queue, turn.run? = some run → turn.isEnumeration = false := by
  obtain ⟨more, split, often⟩ := h.queue
  have ahead := h.ahead
  rw [head] at ahead
  obtain ⟨begun, rest⟩ := List.pairwise_cons.mp ahead
  rw [head, List.filter_cons_of_pos other] at split
  obtain ⟨same, left⟩ := List.cons.inj split
  exact ⟨same, ⟨h.now, h.waiting, rest, more, left, often⟩, fun turn mem => begun turn mem other⟩

theorem ne_nil (h : w.Setting run time (first :: next)) : w.queue ≠ [] := by
  intro empty
  obtain ⟨more, split, -⟩ := h.queue
  rw [empty] at split
  cases split

end World.Setting

end BluetoothDiscovery.Simulation
