import BluetoothDiscovery.Proofs.Simulation.Observing
import BluetoothDiscovery.Proofs.Simulation.Turns

/-!
# Advertisements of a script

A script opens the watcher of a run at once.  Its advertisements are fed to the watcher one after
the other, each at its time, and whatever was fed is read before the clock moves on.  `Fed` says how
the advertisements that were heard, those that wait to be read and those to come make up the whole
script; every turn of the run keeps it.
-/

namespace BluetoothDiscovery.Simulation

variable {s : Scenario} {run : RunId} {n opened : Nat} {w w' : World} {turn : Turn}
  {queue : List Turn} {e : Effect} {log : List (Nat × Doing)}
  {told given rest : List ScriptedAdvertisement}

/-! ### What is heard -/

/-- An advertisement with the time at which it is heard by a watcher that was opened at another. -/
def heardAt (opened : Nat) (a : ScriptedAdvertisement) : Nat × AdvertisementReport :=
  (opened + a.time, a.report)

/-- An advertisement that is heard, with its time. -/
def timedReport? (x : Nat × Doing) : Option (Nat × AdvertisementReport) := x.2.heard?.map (x.1, ·)

/-- The advertisements in a log. -/
def heardOf (log : List (Nat × Doing)) : List (Nat × AdvertisementReport) :=
  log.filterMap timedReport?

/-- Advertisements as a watcher hands them over. -/
def inboxOf (ads : List ScriptedAdvertisement) : List (Delivery × Bool) :=
  ads.map fun a => (.report a.report, false)

theorem heardOf_append_of_silent {now : Nat} (silent : ∀ d ∈ e.doings, d.heard? = none) :
    heardOf (log ++ e.doings.map (now, ·)) = heardOf log := by
  have none : (e.doings.map (now, ·)).filterMap timedReport? = [] := by
    refine List.filterMap_eq_nil_iff.mpr fun x mem => ?_
    obtain ⟨d, here, rfl⟩ := List.mem_map.mp mem
    exact congrArg (Option.map (now, ·)) (silent d here)
  unfold heardOf
  rw [List.filterMap_append, none, List.append_nil]

namespace Effect

/-- The effect of opening a watcher. -/
def ofOpening (s : Scenario) (run : RunId) (now : Nat) : Effect where
  doings := [.opened]
  more := [.feed run now s.timeline]

/-- The effect of reading some advertisements. -/
def ofReading (ads : List ScriptedAdvertisement) : Effect where
  doings := ads.map (.heard ·.report)

end Effect

namespace World

/-- Opening a watcher and advertisements are not the end of a run. -/
theorem watches_act {a : Action} (watches : w.coordinator.Watches run)
    (on : a.isCarriedOnBy run) : (w.act a).coordinator.Watches run :=
  (watches.step w.extract on).1

theorem isCarriedOnBy_advertised (run : RunId) (report : AdvertisementReport) :
    (Action.advertised run report).isCarriedOnBy run :=
  ⟨rfl, Action.noConfusion, fun _ => Action.noConfusion⟩

theorem doings_watcher (w : World) (watcher : Option Watcher) (ds : List Doing) :
    ds.foldl (doing run) { w with watcher } = { ds.foldl (doing run) w with watcher } := by
  induction ds generalizing w with
  | nil => rfl
  | cons d ds ih =>
    have first : ({ w with watcher } : World).doing run d = { w.doing run d with watcher } := by
      cases d with
      | lookedUp slot outcome => cases outcome <;> rfl
      | _ => rfl
    rw [List.foldl_cons, List.foldl_cons, first, ih]

/-- Advertisements are read one after the other. -/
theorem readAll_inboxOf (watches : w.coordinator.Watches run) (ads : List ScriptedAdvertisement) :
    w.readAll run (inboxOf ads) =
      { (Effect.ofReading ads).doings.foldl (doing run) w with
        watcher := w.watcher.map ({ · with inbox := [], awaited := true }) } := by
  induction ads generalizing w with
  | nil => exact if_pos watches.isRunning
  | cons a ads ih =>
    have rest := ih (watches_act watches (isCarriedOnBy_advertised run a.report))
    refine (if_pos watches.isRunning).trans ?_
    exact rest

/-- What was delivered is read, and the task that reads waits again. -/
theorem read_eq {awaited : Bool} (watches : w.coordinator.Watches run)
    (hx : w.watcher = some { run, inbox := inboxOf given, awaited }) :
    w.read run = ({ w with watcher := some { run, awaited := true } }).apply run
      (.ofReading given) := by
  unfold read
  rw [hx]
  dsimp only
  rw [if_pos rfl, readAll_inboxOf watches, hx]
  refine Eq.trans ?_ (put_nil _).symm
  exact (doings_watcher w (some { run, awaited := true }) _).symm

/-- A script opens a watcher at once. -/
theorem perform_watcher (radio : w.radio = .scripted s) (opens : s.watcherFails = false)
    (watches : w.coordinator.Watches run) :
    w.perform (.call (.watcher run)) =
      ({ w with watcher := some { run, awaited := true } }).apply run
        (.ofOpening s run w.now) := by
  have awaited : w.awaits (.watcher run) = true := watches.isRunning
  -- The script answers at once, and its feed is put in the queue behind what is there.
  have answer : s.answer (Caller.watcher run).call = (0, .watcher (.ok ())) := by
    show (0, Answer.watcher (if s.watcherFails then _ else _)) = _
    rw [opens]
    rfl
  have on : (Action.watcherOpened run).isCarriedOnBy run :=
    ⟨rfl, Action.noConfusion, fun _ => Action.noConfusion⟩
  let w₁ : World := { w with
    watcher := some { run }, queue := w.queue ++ [.feed run w.now s.timeline] }
  have opened : w.openWatcher run = w₁ := by
    unfold openWatcher
    dsimp only
    split
    next s' h =>
      obtain rfl : s' = s := Radio.scripted.inj (h.symm.trans radio)
      rfl
    next h => cases h.symm.trans radio
  have watches' : (w₁.act (.watcherOpened run)).coordinator.Watches run :=
    watches_act (w := w₁) watches on
  have read : (w₁.act (.watcherOpened run)).read run =
      ({ w₁.act (.watcherOpened run) with watcher := some { run, awaited := true } }).apply run
        (.ofReading []) := read_eq watches' rfl
  -- That the watcher is open does not end the run, so that the same turn goes on to read; there is
  -- nothing in the inbox as yet.
  have taken : w.takeWatcher run (.ok ()) = (w₁.act (.watcherOpened run)).read run := by
    unfold takeWatcher
    dsimp only
    rw [opened]
    exact if_pos watches.isRunning
  unfold perform
  simp only [awaited, if_true]
  rw [ask_of_scripted radio (.watcher run) run, answer]
  exact (taken.trans read).trans (put_nil _)

end World

/-! ### Turns of a watcher -/

theorem turned_of_opening (radio : w.radio = .scripted s) (opens : s.watcherFails = false)
    (watches : w.coordinator.Watches run) :
    Turned s run n w (.call (.watcher run)) (w.perform (.call (.watcher run)))
        (.ofOpening s run w.now) ∧
      (w.perform (.call (.watcher run))).watcher = some { run, awaited := true } := by
  rw [World.perform_watcher radio opens watches]
  let w₀ : World := { w with watcher := some { run, awaited := true } }
  have turns : ∀ x ∈ (Effect.ofOpening s run w.now).line w.now,
      x.2.run? = (Turn.call (.watcher run)).run? ∧ x.2.isFair n = true := by
    intro x mem
    rw [List.mem_singleton.mp mem]
    exact ⟨rfl, rfl⟩
  -- The call was counted with all that is to be fed, and the feed is less by the call itself.
  have effort : (Effect.ofOpening s run w.now).effort s w.now <
      (Turn.call (.watcher run)).effort s w.now := by
    have length : s.timeline.length = s.advertisements.length := List.length_mergeSort _
    have fed : (Turn.feed run w.now s.timeline).effort s w.now ≤ 1 + 2 * s.timeline.length + 1 :=
      Turn.effort_le_succ_work s w.now _
    show (Turn.feed run w.now s.timeline).effort s w.now + 0 + 0 < 1 + (2 + 2 * _)
    omega
  have turned : Turned s run n w₀ (.call (.watcher run))
      (w₀.apply run (.ofOpening s run w.now)) (.ofOpening s run w.now) :=
    turned_apply (fun t mem => by cases mem) turns effort
  exact ⟨turned.of_watcher, (w₀.beside_doings run [.opened]).watcher⟩

theorem turned_of_reading {awaited : Bool} (watches : w.coordinator.Watches run)
    (hx : w.watcher = some { run, inbox := inboxOf given, awaited }) :
    Turned s run n w (.read run) (w.perform (.read run)) (.ofReading given) ∧
      (w.perform (.read run)).watcher = some { run, awaited := true } := by
  have read : w.perform (.read run) = _ := World.read_eq watches hx
  rw [read]
  let w₀ : World := { w with watcher := some { run, awaited := true } }
  have turned :
      Turned s run n w₀ (.read run) (w₀.apply run (.ofReading given)) (.ofReading given) :=
    turned_apply (fun t mem => by cases mem) (fun x mem => by cases mem) Nat.one_pos
  exact ⟨turned.of_watcher, (w₀.beside_doings run (Effect.ofReading given).doings).watcher⟩

/-! ### Feeding -/

/-- Advertisements are not on any agenda. -/
theorem Effect.agenda_ofReading (now : Nat) (ads : List ScriptedAdvertisement) :
    (ofReading ads).agenda s now = 0 := by
  have none : (ofReading ads).doings.filter Doing.isWork = [] := by
    refine List.filter_eq_nil_iff.mpr fun d mem => ?_
    obtain ⟨a, -, rfl⟩ := List.mem_map.mp mem
    exact Bool.false_ne_true
  unfold agenda
  rw [none]
  rfl

theorem Effect.agenda_ofFeed (now : Nat) (awaited : Bool) (ads : List ScriptedAdvertisement) :
    (ofFeed run opened now awaited ads).agenda s now = 0 := by
  rw [agenda_eq]
  refine (zero_add _).trans (List.sum_eq_zero fun agenda mem => ?_)
  obtain ⟨x, here, rfl⟩ := List.mem_map.mp mem
  rcases eq_of_mem_ofFeed awaited ads x here with same | ⟨rest, same⟩
  · rw [same]
    rfl
  · rw [same]
    rfl

/-- Whether a turn feeds the watcher of a run. -/
def Turn.isFeedOf (run : RunId) : Turn → Bool
  | .feed run' _ _ => run' == run
  | _ => false

/-- The turns of a line that feed the watcher of a run. -/
def feedsOf (run : RunId) (line : List (Nat × Turn)) : List (Nat × Turn) :=
  line.filter (·.2.isFeedOf run)

theorem World.Placed.feedsOf (placed : w.Placed w' e) (run : RunId) :
    (feedsOf run w'.line).Perm (feedsOf run w.line ++ feedsOf run (e.line w.now)) := by
  unfold Simulation.feedsOf
  rw [← List.filter_append]
  exact placed.perm_line.filter _

theorem feedsOf_eq_nil {line : List (Nat × Turn)} (none : ∀ x ∈ line, x.2.isFeedOf run = false) :
    feedsOf run line = [] := by
  refine List.filter_eq_nil_iff.mpr fun x mem => ?_
  rw [none x mem]
  exact Bool.false_ne_true

/-- A watcher that is fed waits for the first advertisement that is not due, if there is one. -/
theorem feedsOf_ofFeed (now : Nat) (awaited : Bool) (ads : List ScriptedAdvertisement) :
    feedsOf run ((Effect.ofFeed run opened now awaited ads).line now) =
      match ads.dropWhile (isDue opened now) with
      | [] => []
      | a :: later => [(opened + a.time, .feed run opened (a :: later))] := by
  unfold feedsOf Effect.line Effect.ofFeed
  dsimp only
  have unread : feedsOf run ((if awaited && !(ads.takeWhile (isDue opened now)).isEmpty then
      [Turn.read run] else []).map (now, ·)) = [] := by
    refine feedsOf_eq_nil fun x mem => ?_
    obtain ⟨turn, here, rfl⟩ := List.mem_map.mp mem
    split at here
    · rw [List.mem_singleton.mp here]
      rfl
    · cases here
  rw [List.filter_append, ← feedsOf, unread, List.nil_append]
  cases ads.dropWhile (isDue opened now) with
  | nil => rfl
  | cons a later => exact List.filter_cons_of_pos (beq_self_eq_true run)

/-- Then the rest waits for its time. -/
theorem feeds_of_ofFeed {now : Nat} {awaited : Bool} {ads : List ScriptedAdvertisement}
    (sorted : ads.Pairwise (·.time ≤ ·.time)) {feeds : List (Nat × Turn)}
    (fed : feeds.Perm (feedsOf run ((Effect.ofFeed run opened now awaited ads).line now))) :
    feeds = [] ∧ ads.dropWhile (isDue opened now) = [] ∨
      ∃ time, feeds = [(time, .feed run opened (ads.dropWhile (isDue opened now)))] ∧
        ∀ a ∈ ads.dropWhile (isDue opened now), time ≤ opened + a.time := by
  have ascending := sorted.sublist (List.dropWhile_sublist (isDue opened now))
  rw [feedsOf_ofFeed] at fed
  cases left : ads.dropWhile (isDue opened now) with
  | nil =>
    rw [left] at fed
    exact .inl ⟨fed.eq_nil, rfl⟩
  | cons a later =>
    rw [left] at fed ascending
    refine .inr ⟨opened + a.time, List.perm_singleton.mp fed, fun a' mem => ?_⟩
    rcases List.mem_cons.mp mem with rfl | mem
    · exact Nat.le_refl _
    · exact Nat.add_le_add_left ((List.pairwise_cons.mp ascending).1 a' mem) _

/-- A task that waits for advertisements gets its turn with the first that is given. -/
theorem Effect.read_mem_ofFeed {now : Nat} {ads : List ScriptedAdvertisement}
    (some : ads.takeWhile (isDue opened now) ≠ []) :
    Turn.read run ∈ (ofFeed run opened now true ads).more := by
  have new : (ads.takeWhile (isDue opened now)).isEmpty = false :=
    List.isEmpty_eq_false_iff.mpr some
  show Turn.read run ∈ if (true && !(ads.takeWhile (isDue opened now)).isEmpty) = true then _ else _
  rw [new]
  exact List.mem_singleton_self _

/-- What a watcher is given waits behind what it was given before. -/
theorem given_inboxOf (run : RunId) (given due : List ScriptedAdvertisement) :
    ({ run, inbox := inboxOf given, awaited := given.isEmpty } : Watcher).given due =
      { run, inbox := inboxOf (given ++ due), awaited := (given ++ due).isEmpty } := by
  unfold Watcher.given inboxOf
  rw [List.map_append]
  cases given <;> rfl

/-- How far a run has come with the advertisements of a script since its watcher was opened: those
that are told, those that were given to the watcher just now, and the rest. -/
structure Fed (s : Scenario) (run : RunId) (opened : Nat) (w : World) (log : List (Nat × Doing))
    (told given rest : List ScriptedAdvertisement) : Prop where
  parts : told ++ given ++ rest = s.timeline
  heard : heardOf log = told.map (heardAt opened)
  watcher : w.watcher = some { run, inbox := inboxOf given, awaited := given.isEmpty }
  due : ∀ a ∈ given, opened + a.time = w.now
  /-- What was given is read before the clock moves on. -/
  read : given ≠ [] → .read run ∈ w.queue
  /-- The rest waits, and is not late. -/
  feeds : feedsOf run w.line = [] ∧ rest = [] ∨
    ∃ time, feedsOf run w.line = [(time, .feed run opened rest)] ∧
      ∀ a ∈ rest, time ≤ opened + a.time

namespace Fed

/-- The watcher is opened, and its first advertisements may be due. -/
theorem opening (quiet : heardOf log = []) (placed : w.Placed w' (.ofOpening s run w.now))
    (now : w.now = opened) (unfed : feedsOf run w.line = [])
    (watcher : w'.watcher = some { run, awaited := true }) :
    Fed s run opened w' (log ++ (Effect.ofOpening s run w.now).doings.map (w.now, ·)) [] []
      s.timeline where
  parts := rfl
  heard := by
    rw [heardOf_append_of_silent fun d mem => by rw [List.mem_singleton.mp mem]; rfl, quiet]
    rfl
  watcher := watcher
  due _ mem := absurd mem List.not_mem_nil
  read some := absurd rfl some
  feeds := by
    have feeds := placed.feedsOf run
    have new : feedsOf run ((Effect.ofOpening s run w.now).line w.now) =
        [(w.now, .feed run w.now s.timeline)] :=
      List.filter_cons_of_pos (beq_self_eq_true run)
    rw [unfed, new, now] at feeds
    exact .inr ⟨opened, List.perm_singleton.mp feeds, fun a _ => Nat.le_add_right _ _⟩

/-- The rest still waits if the same turns feed the watcher. -/
theorem feeds_of_perm (h : Fed s run opened w log told given rest)
    (same : (feedsOf run w'.line).Perm (feedsOf run w.line)) :
    feedsOf run w'.line = [] ∧ rest = [] ∨
      ∃ time, feedsOf run w'.line = [(time, .feed run opened rest)] ∧
        ∀ a ∈ rest, time ≤ opened + a.time := by
  rcases h.feeds with ⟨none, all⟩ | ⟨time, one, late⟩
  · rw [none] at same
    exact .inl ⟨same.eq_nil, all⟩
  · rw [one] at same
    exact .inr ⟨time, List.perm_singleton.mp same, late⟩

/-- A turn that is not the watcher's leaves it as it was. -/
theorem kept (h : Fed s run opened w log told given rest) (head : w.queue = turn :: queue)
    (placed : { w with queue }.Placed w' e) (watcher : w'.watcher = w.watcher)
    (unfed : turn.isFeedOf run = false) (unread : turn ≠ .read run)
    (line : ∀ x ∈ e.line w.now, x.2.isFeedOf run = false)
    (silent : ∀ d ∈ e.doings, d.heard? = none) :
    Fed s run opened w' (log ++ e.doings.map (w.now, ·)) told given rest where
  parts := h.parts
  heard := by
    rw [heardOf_append_of_silent silent]
    exact h.heard
  watcher := watcher.trans h.watcher
  due a mem := (h.due a mem).trans placed.now.symm
  read some := by
    have here := h.read some
    rw [head] at here
    rw [placed.queue]
    exact List.mem_append_left _ ((List.mem_cons.mp here).resolve_left (Ne.symm unread))
  feeds := by
    -- The turn is no feed, so that the line has the same feeds without it.
    have same : feedsOf run w.line = feedsOf run { w with queue }.line := by
      rw [World.line_of_queue head]
      exact List.filter_cons_of_neg (by simp [unfed])
    have feeds := placed.feedsOf run
    rw [feedsOf_eq_nil line, List.append_nil, ← same] at feeds
    exact h.feeds_of_perm feeds

/-- The clock moves on when everything that was given is read. -/
theorem wake (h : Fed s run opened w log told given rest) {t : Timer} {ts : List Timer}
    (empty : w.queue = []) (timers : w.timers = t :: ts)
    (sorted : w.timers.Pairwise (·.deadline ≤ ·.deadline)) :
    Fed s run opened (w.wake t.deadline) log told given rest := by
  have none : given = [] := by
    by_contra some
    have here := h.read some
    rw [empty] at here
    cases here
  constructor
  case parts => exact h.parts
  case heard => exact h.heard
  case watcher => exact h.watcher
  case due => exact fun a mem => absurd mem (none ▸ List.not_mem_nil)
  case read => exact fun some => absurd none some
  case feeds =>
    rw [World.line_wake empty timers sorted]
    exact h.feeds

/-- The watcher is read. -/
theorem reading (h : Fed s run opened w log told given rest) (head : w.queue = .read run :: queue)
    (placed : { w with queue }.Placed w' (.ofReading given))
    (watcher : w'.watcher = some { run, awaited := true }) :
    Fed s run opened w' (log ++ (Effect.ofReading given).doings.map (w.now, ·)) (told ++ given) []
      rest where
  parts := by
    rw [List.append_nil]
    exact h.parts
  heard := by
    -- All that is given is heard now, at the time that the script sets for it.
    have new : heardOf ((Effect.ofReading given).doings.map (w.now, ·)) =
        given.map (heardAt opened) := by
      unfold heardOf Effect.ofReading
      rw [List.map_map, List.filterMap_map, ← List.filterMap_eq_map]
      refine List.filterMap_congr fun a mem => ?_
      show some (w.now, a.report) = some (opened + a.time, a.report)
      rw [h.due a mem]
    unfold heardOf at new ⊢
    rw [List.filterMap_append, new, List.map_append]
    exact congrArg (· ++ _) h.heard
  watcher := watcher
  due _ mem := absurd mem List.not_mem_nil
  read some := absurd rfl some
  feeds := by
    have same : feedsOf run w.line = feedsOf run { w with queue }.line := by
      rw [World.line_of_queue head]
      exact List.filter_cons_of_neg (by simp [Turn.isFeedOf])
    have feeds := placed.feedsOf run
    have none : feedsOf run ((Effect.ofReading given).line w.now) = [] := rfl
    rw [none, List.append_nil, ← same] at feeds
    exact h.feeds_of_perm feeds

/-- The script tells its advertisements in the order of their times. -/
theorem ascending (h : Fed s run opened w log told given rest) :
    rest.Pairwise (·.time ≤ ·.time) := by
  have sorted := s.pairwise_timeline
  rw [← h.parts] at sorted
  exact (List.pairwise_append.mp sorted).2.1

/-- A turn that feeds the watcher is the one that the rest waits for, and the only one. -/
theorem waits (h : Fed s run opened w log told given rest) (head : w.queue = turn :: queue)
    (mine : turn.isFeedOf run = true) :
    turn = .feed run opened rest ∧ feedsOf run { w with queue }.line = [] ∧
      ∀ a ∈ rest, w.now ≤ opened + a.time := by
  have split : feedsOf run w.line = (w.now, turn) :: feedsOf run { w with queue }.line := by
    rw [World.line_of_queue head]
    exact List.filter_cons_of_pos mine
  obtain ⟨time, one, late⟩ := h.feeds.resolve_left fun none => by
    rw [split] at none
    cases none.1
  rw [split] at one
  obtain ⟨same, unfed⟩ := List.cons.inj one
  obtain ⟨rfl, rfl⟩ := Prod.mk.inj same
  exact ⟨rfl, unfed, late⟩

/-- The watcher is given what is due now, and the rest waits for its time. -/
theorem feeding (h : Fed s run opened w log told given rest) (head : w.queue = turn :: queue)
    (mine : turn.isFeedOf run = true) :
    turn = .feed run opened rest ∧
      let e : Effect := .ofFeed run opened w.now given.isEmpty rest
      Turned s run n { w with queue } turn ({ w with queue }.perform turn) e ∧
        Fed s run opened ({ w with queue }.perform turn) log told
          (given ++ rest.takeWhile (isDue opened w.now)) (rest.dropWhile (isDue opened w.now)) := by
  obtain ⟨rfl, unfed, late⟩ := h.waits head mine
  let x : Watcher := { run, inbox := inboxOf given, awaited := given.isEmpty }
  have turned : Turned s run n { w with queue } (.feed run opened rest)
      ({ w with queue }.perform (.feed run opened rest))
      (.ofFeed run opened w.now given.isEmpty rest) :=
    turned_of_feed (w := { w with queue }) (x := x) h.watcher rfl rest run
  refine ⟨rfl, turned, ?_⟩
  constructor
  case parts =>
    rw [← List.append_assoc, List.append_assoc, List.takeWhile_append_dropWhile]
    exact h.parts
  case heard => exact h.heard
  case watcher =>
    have fed : { w with queue }.perform (.feed run opened rest) = _ :=
      World.feed_eq (w := { w with queue }) (x := x) h.watcher rfl rfl rest
    rw [fed, ← given_inboxOf]
    rfl
  case due =>
    -- What was given before is due at this moment, and nothing that is given now is overdue, since
    -- the feed went off in time.
    intro a mem
    rw [turned.now]
    rcases List.mem_append.mp mem with old | new
    · exact h.due a old
    · have dueNow : isDue opened w.now a = true := List.mem_takeWhile_imp new
      have early : opened + a.time ≤ w.now := of_decide_eq_true dueNow
      exact Nat.le_antisymm early (late a ((List.takeWhile_sublist _).mem new))
  case read =>
    intro some
    rw [turned.queue]
    cases given with
    -- Nothing was waiting, so that what is given now calls for the reader.
    | nil => exact List.mem_append_right _ (Effect.read_mem_ofFeed some)
    | cons a given =>
      -- The turn of the reader is in the queue already, and it is not this one.
      have here := h.read (List.cons_ne_nil a given)
      rw [head] at here
      exact List.mem_append_left _ ((List.mem_cons.mp here).resolve_left Turn.noConfusion)
  case feeds =>
    have feeds := turned.toPlaced.feedsOf run
    rw [unfed, List.nil_append] at feeds
    exact feeds_of_ofFeed h.ascending feeds

/-- When a time has come, just the advertisements are told that were due before. -/
theorem told_eq (h : Fed s run opened w log told given rest)
    (future : ∀ t ∈ w.timers, w.now < t.deadline) (early : ∀ x ∈ heardOf log, x.1 < w.now) :
    told = s.timeline.filter fun a => opened + a.time < w.now := by
  have past : ∀ a ∈ told, opened + a.time < w.now := by
    intro a mem
    refine early (heardAt opened a) ?_
    rw [h.heard]
    exact List.mem_map_of_mem mem
  -- What was given is due just now, and the turn that feeds the rest is not late.
  have present : ∀ a ∈ given, ¬ opened + a.time < w.now := by
    intro a mem
    rw [h.due a mem]
    exact Nat.lt_irrefl _
  have later : ∀ a ∈ rest, ¬ opened + a.time < w.now := by
    intro a mem
    rcases h.feeds with ⟨-, none⟩ | ⟨time, one, late⟩
    · rw [none] at mem
      cases mem
    · have here : (time, Turn.feed run opened rest) ∈ feedsOf run w.line := by
        rw [one]
        exact List.mem_singleton_self _
      have notOver := World.le_of_mem_line future (List.mem_filter.mp here).1
      exact Nat.not_lt_of_le (notOver.trans (late a mem))
  rw [← h.parts, List.filter_append, List.filter_append,
    List.filter_eq_self.mpr fun a mem => decide_eq_true (past a mem),
    List.filter_eq_nil_iff.mpr fun a mem => by simpa using present a mem,
    List.filter_eq_nil_iff.mpr fun a mem => by simpa using later a mem,
    List.append_nil, List.append_nil]

end Fed

end BluetoothDiscovery.Simulation
