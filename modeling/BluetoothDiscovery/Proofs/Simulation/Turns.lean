import BluetoothDiscovery.Proofs.Schedule.Starts
import BluetoothDiscovery.Proofs.Simulation.Scheduled
import BluetoothDiscovery.Proofs.Simulation.Working

/-!
# Whose turn it is

A turn of the run that is under way has its effect (`turned_of_plain`).  A turn that an earlier run
has left behind is stale: it still hands advertisements on to a watcher that nobody reads, but is
not heard of (`turned_of_stale`).
-/

namespace BluetoothDiscovery.Simulation

variable {s : Scenario} {run : RunId} {n now : Nat} {w w' : World} {turn : Turn}

/-! ### Turns that come of turns -/

namespace Effect

/-- What comes of a call comes of its answer, or is that the answer is taken. -/
theorem forall_line_ofCall {P : Nat × Turn → Prop} {caller : Caller} {delay : Nat} {answer : Answer}
    {taken : Effect} (atOnce : ∀ x ∈ taken.line now, P x)
    (later : delay ≠ 0 → P (now + min delay longestWait, .take caller answer false)) :
    ∀ x ∈ (ofCall now caller delay answer taken).line now, P x := by
  unfold ofCall
  split
  · exact atOnce
  next delayed =>
    intro x mem
    rw [List.mem_singleton.mp mem]
    exact later delayed

theorem forall_line_ofIdentity {P : Nat × Turn → Prop} {slot : Selector} {handle : Handle}
    {result : Except PlatformError Identity}
    (later : ∀ identity, (s.listingOf handle).1 ≠ 0 →
      P (now + min (s.listingOf handle).1 longestWait,
        .take (.services run slot handle identity) (.services (s.listingOf handle).2) false)) :
    ∀ x ∈ (ofIdentity s now run slot handle result).line now, P x := by
  have none : ∀ x ∈ ([] : List (Nat × Turn)), P x := fun x mem => absurd mem List.not_mem_nil
  cases result with
  | error e => exact none
  | ok identity =>
    unfold ofIdentity
    dsimp only
    split
    · exact forall_line_ofCall none (later identity)
    · exact none

theorem forall_line_ofHandles {P : Nat × Turn → Prop} {selector : Selector}
    {result : Except PlatformError (List Handle)}
    (each : ∀ handle, P (now, .call (.identity run selector handle))) :
    ∀ x ∈ (ofHandles run selector result).line now, P x := by
  intro x mem
  cases result with
  | error e => exact absurd mem List.not_mem_nil
  | ok handles =>
    unfold line ofHandles at mem
    simp only [List.map_map, Option.toList_none, List.map_nil, List.append_nil] at mem
    obtain ⟨handle, -, rfl⟩ := List.mem_map.mp mem
    exact each handle

theorem lt_add_wait {delay : Nat} (waits : delay ≠ 0) : now < now + min delay longestWait :=
  Nat.lt_add_of_pos_right (Nat.lt_min.mpr ⟨Nat.pos_of_ne_zero waits, by decide⟩)

/-- What a call lets wait, waits for a later time if what comes of its answer does. -/
theorem lt_later_ofCall {caller : Caller} {delay : Nat} {answer : Answer} {taken : Effect}
    (atOnce : ∀ t ∈ taken.later, now < t.deadline) :
    ∀ t ∈ (ofCall now caller delay answer taken).later, now < t.deadline := by
  unfold ofCall
  split
  · exact atOnce
  next delayed =>
    intro t mem
    obtain rfl := Option.some.inj mem
    exact lt_add_wait delayed

theorem lt_later_ofIdentity {slot : Selector} {handle : Handle}
    {result : Except PlatformError Identity} :
    ∀ t ∈ (ofIdentity s now run slot handle result).later, now < t.deadline := by
  have none : ∀ t ∈ (none : Option Timer), now < t.deadline := fun t mem => absurd mem (by simp)
  cases result with
  | error e => exact none
  | ok identity =>
    unfold ofIdentity
    dsimp only
    split
    · exact lt_later_ofCall none
    · exact none

end Effect

namespace Turn

/-- Whether a turn looks up a device. -/
def isLookup : Turn → Bool
  | .call (.identity _ _ _) => true
  | .take (.identity _ _ _) _ stopFirst | .take (.services _ _ _ _) _ stopFirst => !stopFirst
  | _ => false

theorem isPlain_of_isLookup (h : turn.isLookup = true) : turn.isPlain = true := by
  cases turn with
  | call caller => cases caller <;> first | rfl | cases h
  | take caller answer stopFirst => cases caller <;> first | exact h | cases h
  | _ => cases h

/-- What comes of a look-up looks up. -/
theorem isLookup_of_mem_effect (h : turn.isLookup = true) :
    ∀ x ∈ (turn.effect s now).line now, x.2.isLookup = true := by
  have none : ∀ x ∈ ([] : List (Nat × Turn)), x.2.isLookup = true :=
    fun x mem => absurd mem List.not_mem_nil
  cases turn with
  | call caller =>
    cases caller with
    | identity run slot handle =>
      exact Effect.forall_line_ofCall (Effect.forall_line_ofIdentity fun _ _ => rfl) fun _ => rfl
    | _ => cases h
  | take caller answer stopFirst =>
    cases caller with
    | identity run slot handle =>
      cases answer with
      | identity result => exact Effect.forall_line_ofIdentity fun _ _ => rfl
      | _ => exact none
    | services run slot handle identity => cases answer <;> exact none
    | _ => cases h
  | _ => cases h

/-- What comes of a plain turn is plain, for the same run and comes later. -/
theorem of_mem_effect (plain : turn.isPlain = true) :
    ∀ x ∈ (turn.effect s now).line now,
      x.2.isPlain = true ∧ x.2.run? = turn.run? ∧ x.2.isFair n = true := by
  have none (turn : Turn) : ∀ x ∈ ([] : List (Nat × Turn)),
      x.2.isPlain = true ∧ x.2.run? = turn.run? ∧ x.2.isFair n = true :=
    fun x mem => absurd mem List.not_mem_nil
  -- A turn hands on the answer to its call, the next stage of a look-up, or a timer.
  cases turn with
  | call caller =>
    cases caller with
    | enumeration run selector =>
      exact Effect.forall_line_ofCall (Effect.forall_line_ofHandles fun _ => ⟨rfl, rfl, rfl⟩)
        fun _ => ⟨rfl, rfl, rfl⟩
    | identity run slot handle =>
      exact Effect.forall_line_ofCall (Effect.forall_line_ofIdentity fun _ _ => ⟨rfl, rfl, rfl⟩)
        fun _ => ⟨rfl, rfl, rfl⟩
    | _ => cases plain
  | take caller answer stopFirst =>
    cases caller with
    | enumeration run selector =>
      cases answer with
      | handles result => exact Effect.forall_line_ofHandles fun _ => ⟨rfl, rfl, rfl⟩
      | _ => exact none _
    | identity run slot handle =>
      cases answer with
      | identity result => exact Effect.forall_line_ofIdentity fun _ _ => ⟨rfl, rfl, rfl⟩
      | _ => exact none _
    | services run slot handle identity => cases answer <;> exact none _
    | _ => cases stopFirst <;> cases plain
  | arm run timeout =>
    intro x mem
    rw [List.mem_singleton.mp mem]
    exact ⟨rfl, rfl, rfl⟩
  | expire run => exact none _
  | _ => cases plain

/-- What a plain turn lets wait, waits for a later time. -/
theorem lt_later_effect (plain : turn.isPlain = true) :
    ∀ t ∈ (turn.effect s now).later, now < t.deadline := by
  have none : ∀ t ∈ (none : Option Timer), now < t.deadline := fun t mem => absurd mem (by simp)
  -- Only calls that wait for their answer and a time that is set leave a timer, and neither waits
  -- for no time at all.
  cases turn with
  | call caller =>
    cases caller with
    | enumeration run selector => exact Effect.lt_later_ofCall none
    | identity run slot handle => exact Effect.lt_later_ofCall Effect.lt_later_ofIdentity
    | _ => cases plain
  | take caller answer stopFirst =>
    cases caller with
    | identity run slot handle =>
      cases answer with
      | identity result => exact Effect.lt_later_ofIdentity
      | _ => exact none
    | enumeration run selector => cases answer <;> exact none
    | services run slot handle identity => cases answer <;> exact none
    | _ => cases stopFirst <;> cases plain
  | arm run timeout =>
    intro t mem
    obtain rfl := Option.some.inj mem
    exact Effect.lt_add_wait (bne_iff_ne.mp plain)
  | expire run => exact none
  | _ => cases plain

end Turn

/-! ### What turns do -/

namespace Effect

variable {P : Doing → Prop}

theorem forall_doings_ofCall {caller : Caller} {delay : Nat} {answer : Answer} {taken : Effect}
    (asked : P (.asked caller.call)) (atOnce : ∀ d ∈ taken.doings, P d) :
    ∀ d ∈ (ofCall now caller delay answer taken).doings, P d := by
  intro d mem
  unfold ofCall at mem
  split at mem
  · rcases List.mem_cons.mp mem with rfl | mem
    · exact asked
    · exact atOnce d mem
  · rw [List.mem_singleton.mp mem]
    exact asked

theorem forall_doings_ofIdentity {slot : Selector} {handle : Handle}
    {result : Except PlatformError Identity} (asked : P (.asked (.services handle)))
    (ended : ∀ outcome, P (.lookedUp slot outcome)) :
    ∀ d ∈ (ofIdentity s now run slot handle result).doings, P d := by
  have one (outcome : Except PlatformError Resolution) :
      ∀ d ∈ [Doing.lookedUp slot outcome], P d := by
    intro d mem
    rw [List.mem_singleton.mp mem]
    exact ended outcome
  cases result with
  | error e => exact one _
  | ok identity =>
    unfold ofIdentity
    dsimp only
    split
    · exact forall_doings_ofCall asked (one _)
    · exact one _

end Effect

namespace Turn

variable {P : Doing → Prop}

/-- A look-up makes calls and comes to its outcome. -/
theorem forall_doings_of_isLookup (h : turn.isLookup = true) (asked : ∀ call, P (.asked call))
    (ended : ∀ slot outcome, P (.lookedUp slot outcome)) :
    ∀ d ∈ (turn.effect s now).doings, P d := by
  have none : ∀ d ∈ ([] : List Doing), P d := fun d mem => absurd mem List.not_mem_nil
  -- A look-up asks for the identity and then, at most, for the services.
  cases turn with
  | call caller =>
    cases caller with
    | identity run slot handle =>
      exact Effect.forall_doings_ofCall (asked _)
        (Effect.forall_doings_ofIdentity (asked _) (ended slot))
    | _ => cases h
  | take caller answer stopFirst =>
    cases caller with
    | identity run slot handle =>
      cases answer with
      | identity result => exact Effect.forall_doings_ofIdentity (asked _) (ended slot)
      | _ => exact none
    | services run slot handle identity =>
      cases answer with
      | services result =>
        intro d mem
        rw [List.mem_singleton.mp mem]
        exact ended _ _
      | _ => exact none
    | _ => cases h
  | _ => cases h

end Turn

/-! ### Turns of the run -/

theorem placed_apply {e : Effect} (later : ∀ t ∈ e.later, w.now < t.deadline) :
    w.Placed (w.apply run e) e := by
  have beside := w.beside_doings run e.doings
  constructor
  case radio => exact beside.radio
  case now => exact beside.now
  case queue => exact congrArg (· ++ e.more) beside.queue
  case timers =>
    show e.later.elim (e.doings.foldl (World.doing run) w).timers _ = _
    rw [beside.timers]
  case later => exact later

/-- A world after an effect is the world that the effect makes of it. -/
theorem turned_apply {e : Effect} (later : ∀ t ∈ e.later, w.now < t.deadline)
    (turns : ∀ x ∈ e.line w.now, x.2.run? = turn.run? ∧ x.2.isFair n = true)
    (effort : e.effort s w.now < turn.effort s w.now) :
    Turned s run n w turn (w.apply run e) e where
  toPlaced := placed_apply later
  logged _ _ logged := (logged.doings e.doings).same ⟨rfl, rfl, rfl, rfl⟩
  turns := turns
  effort := effort

/-- A plain turn of the run that is under way has its effect, and leaves watcher and requests
alone. -/
theorem turned_of_plain (radio : w.radio = .scripted s) (plain : turn.isPlain = true)
    (own : turn.run? = some run) (running : w.coordinator.isRunning run = true) :
    Turned s run n w turn (w.perform turn) (turn.effect s w.now) ∧
      (w.perform turn).watcher = w.watcher := by
  rw [World.perform_of_plain radio plain own running]
  refine ⟨turned_apply (Turn.lt_later_effect plain) (fun x mem => ?_) (Turn.effort_effect_lt plain),
    (w.beside_doings run (turn.effect s w.now).doings).watcher⟩
  exact (Turn.of_mem_effect plain x mem).2

/-! ### Feeding -/

/-- Whether an advertisement is due at a time for a watcher that was opened at another. -/
def isDue (opened now : Nat) (a : ScriptedAdvertisement) : Bool := opened + a.time ≤ now

/-- A watcher that more advertisements were delivered to. -/
def Watcher.given (x : Watcher) (due : List ScriptedAdvertisement) : Watcher :=
  { x with
    inbox := x.inbox ++ due.map fun a => (.report a.report, false)
    awaited := x.awaited && due.isEmpty }

theorem Watcher.given_nil (x : Watcher) : x.given [] = x := by
  unfold Watcher.given
  rw [List.map_nil, List.append_nil, List.isEmpty_nil, Bool.and_true]

/-- The effect of feeding a watcher: it is read if its task waits for that, and the first
advertisement that is not due is waited for. -/
def Effect.ofFeed (run : RunId) (opened now : Nat) (awaited : Bool)
    (ads : List ScriptedAdvertisement) : Effect where
  more := if awaited && !(ads.takeWhile (isDue opened now)).isEmpty then [.read run] else []
  later := match ads.dropWhile (isDue opened now) with
    | [] => none
    | a :: rest => some ⟨opened + a.time, .feed run opened (a :: rest)⟩

variable {x : Watcher} {opened : Nat}

theorem World.hears_iff (hx : w.watcher = some x) (run : RunId) :
    w.hears run = true ↔ x.run = run ∧ x.alive = true := by
  unfold hears
  rw [hx, Option.any_some, Bool.and_eq_true, decide_eq_true_iff]

/-- A delivery gives the task that reads a turn if it waits for that. -/
theorem World.deliver_eq (hx : w.watcher = some x) (r : AdvertisementReport) :
    w.deliver (.report r) false =
      ({ w with watcher := some { x with
          inbox := x.inbox ++ [(Delivery.report r, false)]
          awaited := false } }).put (if x.awaited then [.read x.run] else []) none := by
  unfold deliver put enqueue
  rw [hx]
  dsimp only
  split
  · rfl
  · rw [List.append_nil]
    rfl

/-- What is due is delivered, and the rest waits. -/
theorem World.feed_eq (hx : w.watcher = some x) (own : x.run = run) (alive : x.alive = true)
    (ads : List ScriptedAdvertisement) :
    w.feed run opened ads =
      ({ w with watcher := some (x.given (ads.takeWhile (isDue opened w.now))) }).apply run
        (.ofFeed run opened w.now x.awaited ads) := by
  induction ads generalizing w x with
  | nil =>
    unfold World.feed Effect.ofFeed
    rw [List.takeWhile_nil, List.isEmpty_nil, Bool.not_true, Bool.and_false, x.given_nil, ← hx]
    exact (put_nil w).symm
  | cons a ads ih =>
    have hears := (hears_iff hx run).mpr ⟨own, alive⟩
    have due_iff : isDue opened w.now a = true ↔ opened + a.time ≤ w.now := decide_eq_true_iff
    unfold World.feed Effect.ofFeed
    rw [if_pos hears, List.takeWhile_cons, List.dropWhile_cons]
    by_cases due : opened + a.time ≤ w.now
    · -- The first delivery may give the reader its turn; the others find it is not waiting.
      rw [if_pos due, if_pos (due_iff.mpr due), if_pos (due_iff.mpr due), deliver_eq hx]
      have given (more : List ScriptedAdvertisement) :
          ({ x with inbox := x.inbox ++ [(Delivery.report a.report, false)], awaited := false } :
            Watcher).given more = x.given (a :: more) := by
        unfold Watcher.given
        rw [List.append_assoc, List.isEmpty_cons, Bool.and_false]
        rfl
      refine (ih (x := { x with
        inbox := x.inbox ++ [(Delivery.report a.report, false)]
        awaited := false }) rfl own alive).trans ?_
      rw [given, ← own]
      unfold Effect.ofFeed apply put
      cases x.awaited <;> simp
    · rw [if_neg due, if_neg (mt due_iff.mp due), if_neg (mt due_iff.mp due)]
      rw [List.isEmpty_nil, Bool.not_true, Bool.and_false, x.given_nil, ← hx]
      -- The first that is not due yet is waited for, and all the rest with it.
      unfold apply put wait
      simp

theorem Effect.lt_later_ofFeed {now : Nat} (awaited : Bool) (ads : List ScriptedAdvertisement) :
    ∀ t ∈ (ofFeed run opened now awaited ads).later, now < t.deadline := by
  intro t mem
  unfold ofFeed at mem
  dsimp only at mem
  split at mem
  · cases mem
  next a rest split =>
    obtain rfl := Option.some.inj mem
    have late : isDue opened now a = false := by
      have first := List.head?_dropWhile_not (isDue opened now) ads
      rw [split] at first
      simpa using first
    exact Nat.lt_of_not_le (of_decide_eq_false late)

/-- What comes of feeding a watcher is that it is read, or fed again. -/
theorem Effect.eq_of_mem_ofFeed {now : Nat} (awaited : Bool) (ads : List ScriptedAdvertisement) :
    ∀ y ∈ (ofFeed run opened now awaited ads).line now,
      y.2 = .read run ∨ ∃ rest, y.2 = .feed run opened rest := by
  intro y mem
  rcases List.mem_append.mp mem with mem | mem
  · obtain ⟨turn, here, rfl⟩ := List.mem_map.mp mem
    unfold ofFeed at here
    dsimp only at here
    split at here
    · exact .inl (List.mem_singleton.mp here)
    · cases here
  · obtain ⟨t, here, rfl⟩ := List.mem_map.mp mem
    have later := Option.mem_toList.mp here
    unfold ofFeed at later
    dsimp only at later
    split at later
    · cases later
    · obtain rfl := Option.some.inj later
      exact .inr ⟨_, rfl⟩

/-- Every advertisement that is delivered pays for a turn of the reader. -/
theorem Effect.effort_ofFeed_lt {now : Nat} (awaited : Bool) (ads : List ScriptedAdvertisement) :
    (ofFeed run opened now awaited ads).effort s now <
      (Turn.feed run opened ads).effort s now := by
  -- What is fed later is fed in time, and counts two for each advertisement that is left.
  have waiting : ((ofFeed run opened now awaited ads).later.elim 0 fun t =>
      t.turn.effort s t.deadline) ≤ 1 + 2 * (ads.dropWhile (isDue opened now)).length := by
    unfold ofFeed
    dsimp only
    split
    · exact Nat.zero_le _
    next a rest split =>
      show (if opened + a.time ≤ opened + a.time then _ else _) ≤ _
      rw [if_pos (Nat.le_refl _), split]
      exact Nat.le_refl _
  have parts := congrArg List.length
    (List.takeWhile_append_dropWhile (p := isDue opened now) (l := ads))
  rw [List.length_append] at parts
  -- The reader is called at most once, and only if something is delivered.
  have more : ((ofFeed run opened now awaited ads).more.map (Turn.effort s now)).sum ≤
      if (ads.takeWhile (isDue opened now)).isEmpty then 0 else 1 := by
    unfold ofFeed
    cases awaited <;> cases (ads.takeWhile (isDue opened now)).isEmpty <;>
      simp [Turn.effort, Turn.work]
  unfold effort
  cases ads with
  | nil => cases awaited <;> exact Nat.one_pos
  | cons a ads =>
    by_cases due : opened + a.time ≤ now
    · -- At least one is delivered, which pays for the call of the reader.
      have first : isDue opened now a = true := decide_eq_true due
      have whole : (Turn.feed run opened (a :: ads)).effort s now = 1 + 2 * (a :: ads).length :=
        if_pos due
      rw [List.takeWhile_cons, if_pos first] at more parts
      rw [List.length_cons] at parts
      have one : _ ≤ 1 := more
      omega
    · -- Nothing is delivered, and a feed that is too early counts one more than the one later on.
      have first : isDue opened now a = false := decide_eq_false due
      have whole : (Turn.feed run opened (a :: ads)).effort s now = 1 + 2 * (a :: ads).length + 1 :=
        if_neg due
      rw [List.takeWhile_cons, first] at more parts
      have none : _ ≤ 0 := more
      have all : (List.dropWhile (isDue opened now) (a :: ads)).length ≤ (a :: ads).length :=
        (List.dropWhile_sublist _).length_le
      omega

/-- Only the watcher is changed before. -/
theorem Turned.of_watcher {watcher : Option Watcher} {e : Effect}
    (h : Turned s run n { w with watcher } turn w' e) : Turned s run n w turn w' e where
  radio := h.radio
  now := h.now
  queue := h.queue
  timers := h.timers
  logged b log logged := h.logged b log (logged.same ⟨rfl, rfl, rfl, rfl⟩)
  later := h.later
  turns := h.turns
  effort := h.effort

/-- A watcher is fed. -/
theorem turned_of_feed (hx : w.watcher = some x) (alive : x.alive = true)
    (ads : List ScriptedAdvertisement) (run : RunId) :
    Turned s run n w (.feed x.run opened ads) (w.perform (.feed x.run opened ads))
      (.ofFeed x.run opened w.now x.awaited ads) := by
  show Turned s run n w (.feed x.run opened ads) (w.feed x.run opened ads) _
  rw [World.feed_eq hx rfl alive]
  let w₀ := { w with watcher := some (x.given (ads.takeWhile (isDue opened w.now))) }
  have turns : ∀ y ∈ (Effect.ofFeed x.run opened w.now x.awaited ads).line w.now,
      y.2.run? = some x.run ∧ y.2.isFair n = true := by
    intro y mem
    rcases Effect.eq_of_mem_ofFeed x.awaited ads y mem with same | ⟨rest, same⟩
    · rw [same]
      exact ⟨rfl, rfl⟩
    · rw [same]
      exact ⟨rfl, rfl⟩
  have turned : Turned s run n w₀ (.feed x.run opened ads)
      (w₀.apply run (.ofFeed x.run opened w.now x.awaited ads))
      (.ofFeed x.run opened w.now x.awaited ads) :=
    turned_apply (Effect.lt_later_ofFeed _ ads) turns (Effect.effort_ofFeed_lt _ ads)
  exact turned.of_watcher

/-! ### Turns of earlier runs -/

/-- A turn is not heard of: it neither shows nor answers the request with a number, and touches no
watcher but that of its own run. -/
structure World.Passed (n : Nat) (turn : Turn) (w w' : World) : Prop where
  alike : w.Alike w'
  requests : w'.requests.any (·.request = n) = w.requests.any (·.request = n)
  watcher : (∀ x ∈ w.watcher, turn.run? ≠ some x.run) → w'.watcher = w.watcher

theorem World.Passed.refl (n : Nat) (turn : Turn) (w : World) : Passed n turn w w where
  alike := .refl w
  requests := rfl
  watcher _ := rfl

/-- Nothing comes of a turn. -/
theorem turned_of_alike (alike : w.Alike w') (radio : w'.radio = w.radio) (now : w'.now = w.now)
    (queue : w'.queue = w.queue) (timers : w'.timers = w.timers) (turn : Turn) :
    Turned s run n w turn w' {} where
  radio := radio
  now := now
  queue := queue.trans (List.append_nil _).symm
  timers := timers
  logged b log logged := by
    rw [List.map_nil, List.append_nil]
    exact logged.same alike
  later t mem := by cases mem
  turns y mem := by cases mem
  effort := turn.effort_pos s w.now

/-- The check of an adapter for a run that is not starting any more answers the request at most. -/
theorem World.perform_take_start {s' : Starting}
    (notStarting : w.coordinator.isStarting s'.run = false) (answer : Answer) :
    w.perform (.take (.start s') answer false) = w ∨
      w.perform (.take (.start s') answer false) = w.conclude s'.request (.ok ()) := by
  unfold perform awaits
  dsimp only
  split
  next waits =>
    cases answer with
    | adapter state =>
      refine .inr ?_
      show w.takeAdapter s' state = _
      unfold takeAdapter
      rw [if_pos waits, if_neg (Bool.eq_false_iff.mp notStarting)]
    | _ => exact .inl rfl
  · exact .inl rfl

/-- Whoever reads for a run that is over drops the watcher. -/
theorem World.read_of_not_running (ended : w.coordinator.isRunning run = false) :
    w.read run = w ∨ ∃ x, w.watcher = some x ∧ x.run = run ∧ w.read run = w.dropWatcher run := by
  unfold read
  split
  next x hx =>
    split
    next own =>
      refine .inr ⟨x, hx, own, ?_⟩
      unfold readAll
      split <;> rw [if_neg (Bool.eq_false_iff.mp ended)]
    · exact .inl rfl
  · exact .inl rfl

/-- A turn that changes nothing passes. -/
theorem turned_of_same (same : w.perform turn = w) (run : RunId) : ∃ e, e.doings = [] ∧
    Turned s run n w turn (w.perform turn) e ∧ w.Passed n turn (w.perform turn) := by
  rw [same]
  exact ⟨{}, rfl, turned_of_alike (.refl w) rfl rfl rfl rfl turn, .refl n turn w⟩

/-- A request with another number is answered. -/
theorem turned_of_concluded {request : Nat} (other : request ≠ n)
    (same : w.perform turn = w.conclude request (.ok ())) (run : RunId) :
    ∃ e, e.doings = [] ∧ Turned s run n w turn (w.perform turn) e ∧
      w.Passed n turn (w.perform turn) := by
  rw [same]
  have alike : w.Alike (w.conclude request (.ok ())) := ⟨rfl, rfl, rfl, rfl⟩
  refine ⟨{}, rfl, turned_of_alike alike rfl rfl rfl rfl turn, ?_⟩
  constructor
  case alike => exact alike
  case watcher => exact fun _ => rfl
  case requests =>
    unfold World.conclude
    rw [List.any_filter]
    refine congrArg (w.requests.any ·) (funext fun r => ?_)
    by_cases h : r.request = n
    · simp [h, other.symm]
    · simp [h]

/-- The watcher of a run that is over may still be fed. -/
theorem turned_of_fed (r : RunId) (ads : List ScriptedAdvertisement) (run : RunId) :
    ∃ e, e.doings = [] ∧ Turned s run n w (.feed r opened ads) (w.perform (.feed r opened ads)) e ∧
      w.Passed n (.feed r opened ads) (w.perform (.feed r opened ads)) := by
  cases heard : w.hears r with
  | false =>
    -- Nobody hears it, so that nothing changes.
    refine turned_of_same ?_ run
    show w.feed r opened ads = w
    unfold World.feed
    cases ads with
    | nil => rfl
    | cons a ads => exact if_neg (Bool.eq_false_iff.mp heard)
  | true =>
    cases hx : w.watcher with
    | none =>
      unfold World.hears at heard
      rw [hx] at heard
      cases heard
    | some x =>
      obtain ⟨rfl, alive⟩ := (World.hears_iff hx r).mp heard
      refine ⟨_, rfl, turned_of_feed hx alive ads run, ?_⟩
      have fed : w.perform (.feed x.run opened ads) = _ := World.feed_eq hx rfl alive ads
      rw [fed]
      constructor
      case alike => exact ⟨rfl, rfl, rfl, rfl⟩
      case requests => rfl
      case watcher => exact fun other => absurd rfl (other x hx)

/-- The watcher of a run that is over is dropped when it is read. -/
theorem turned_of_dropped {r : RunId} (ended : w.coordinator.isRunning r = false) (run : RunId) :
    ∃ e, e.doings = [] ∧ Turned s run n w (.read r) (w.perform (.read r)) e ∧
      w.Passed n (.read r) (w.perform (.read r)) := by
  rcases w.read_of_not_running ended with same | ⟨x, hx, rfl, same⟩
  · have nothing : w.perform (.read r) = w := same
    exact turned_of_same nothing run
  · have dropped : w.perform (.read x.run) = w.dropWatcher x.run := same
    rw [dropped]
    have alike : w.Alike (w.dropWatcher x.run) := ⟨rfl, rfl, rfl, rfl⟩
    refine ⟨{}, rfl, turned_of_alike alike rfl rfl rfl rfl _, ?_⟩
    constructor
    case alike => exact alike
    case requests => rfl
    case watcher => exact fun other => absurd rfl (other x hx)

/-- A turn for which a run or the request of a run is looked for in vain does nothing, but to a
watcher of the same run that is still there. -/
theorem turned_of_stale (fair : turn.isFair n = true)
    (stale : w.coordinator.phase.owner ≠ turn.run?) (run : RunId) :
    ∃ e, e.doings = [] ∧ Turned s run n w turn (w.perform turn) e ∧
      w.Passed n turn (w.perform turn) := by
  have ended {r : RunId} (own : turn.run? = some r) : w.coordinator.isRunning r = false :=
    Coordinator.isRunning_eq_false_of_owner_ne (own ▸ stale)
  cases turn with
  | request => cases fair
  | call caller =>
    have unawaited : w.awaits caller = false := by
      cases caller with
      | start _ => cases fair
      | _ => exact ended rfl
    refine turned_of_same ?_ run
    unfold World.perform
    simp only [unawaited, Bool.false_eq_true, if_false]
  | take caller answer stopFirst =>
    cases caller with
    | start s' =>
      -- The adapter was asked for a start that is over, and its request has another number.
      obtain ⟨goesOn, other⟩ := Bool.and_eq_true_iff.mp fair
      rw [Bool.not_eq_true'] at goesOn
      subst goesOn
      have notStarting : w.coordinator.isStarting s'.run = false := by
        by_contra starting
        exact stale (Coordinator.owner_of_isStarting (Bool.not_eq_false _ ▸ starting))
      have distinct : s'.request ≠ n := fun this => by
        rw [Caller.request?, this] at other
        exact bne_iff_ne.mp other rfl
      rcases w.perform_take_start notStarting answer with same | same
      · exact turned_of_same same run
      · exact turned_of_concluded distinct same run
    | _ =>
      refine turned_of_same ?_ run
      unfold World.perform World.awaits
      simp only [ended rfl, Bool.false_eq_true, if_false]
  | feed r opened ads => exact turned_of_fed r ads run
  | read r => exact turned_of_dropped (ended rfl) run
  | arm r timeout =>
    refine turned_of_same ?_ run
    unfold World.perform
    simp only [ended rfl, Bool.false_eq_true, if_false]
  | expire r =>
    have refused : w.coordinator.step w.extract (.timedOut r) = (w.coordinator, []) :=
      Coordinator.step_of_run?_ne_owner rfl stale
    have nothing : w.perform (.expire r) = w := World.act_of_step_eq refused
    exact turned_of_same nothing run

end BluetoothDiscovery.Simulation
