import BluetoothDiscovery.Proofs.Simulation.Feeding
import BluetoothDiscovery.Simulation.Direct

/-!
# Feeding a watcher that is read directly

Between two uses of a scripted radio there is nothing that can be done at the present time, and only
the turn that feeds the watcher waits.  A world in direct use is known by few things, then: the
script and the tally of calls, the time, and which advertisements the watcher has and which are left
(`World.playing`).  As time passes, the watcher is given whatever is due (`passUntil_playing`), and
a read takes what was given first, or waits for it (`nextReport_waiting`).
-/

namespace BluetoothDiscovery.Simulation

variable {s : Scenario} {tally : Tally} {opened now time time' ms fuel : Nat} {done : World → Bool}
  {a : ScriptedAdvertisement} {ads given left : List ScriptedAdvertisement}

/-! ### What is due -/

theorem isDue_iff : isDue opened now a = true ↔ opened + a.time ≤ now := decide_eq_true_iff

/-- What is due stays due. -/
theorem isDue_mono (le : time ≤ time') (due : isDue opened time a = true) :
    isDue opened time' a = true :=
  isDue_iff.mpr ((isDue_iff.mp due).trans le)

/-- Nothing is lost or doubled when time passes in two steps. -/
theorem split_isDue (le : time ≤ time') (ads : List ScriptedAdvertisement) :
    ads.takeWhile (isDue opened time) ++
        (ads.dropWhile (isDue opened time)).takeWhile (isDue opened time') =
      ads.takeWhile (isDue opened time') ∧
    (ads.dropWhile (isDue opened time)).dropWhile (isDue opened time') =
      ads.dropWhile (isDue opened time') := by
  induction ads with
  | nil => exact ⟨rfl, rfl⟩
  | cons a ads ih =>
    rw [List.takeWhile_cons, List.dropWhile_cons]
    split
    next due =>
      have due' := isDue_mono le due
      rw [List.takeWhile_cons_of_pos due', List.dropWhile_cons_of_pos due', List.cons_append, ih.1]
      exact ⟨rfl, ih.2⟩
    next => exact ⟨rfl, rfl⟩

/-- What is left begins with something that is not due. -/
theorem lt_of_head?_dropWhile (mem : a ∈ (ads.dropWhile (isDue opened time)).head?) :
    time < opened + a.time := by
  have first := List.head?_dropWhile_not (isDue opened time) ads
  rw [Option.mem_def.mp mem] at first
  exact Nat.lt_of_not_le fun due => by simp [isDue, due] at first

/-- Nothing is due if what comes first is not. -/
theorem split_of_later (later : ∀ a ∈ ads.head?, time < opened + a.time) :
    ads.takeWhile (isDue opened time) = [] ∧ ads.dropWhile (isDue opened time) = ads := by
  cases ads with
  | nil => exact ⟨rfl, rfl⟩
  | cons a ads =>
    have late : ¬ isDue opened time a = true := mt isDue_iff.mp (Nat.not_le_of_lt (later a rfl))
    exact ⟨List.takeWhile_cons_of_neg late, List.dropWhile_cons_of_neg late⟩

theorem le_of_mem_takeWhile (mem : a ∈ ads.takeWhile (isDue opened time)) :
    opened + a.time ≤ time :=
  isDue_iff.mp (List.mem_takeWhile_imp mem)

/-! ### Worlds in direct use -/

/-- The turn that feeds a watcher waits for the first advertisement that is left. -/
def feeder (opened : Nat) : List ScriptedAdvertisement → List Timer
  | [] => []
  | a :: left => [⟨opened + a.time, .feed 0 opened (a :: left)⟩]

namespace World

/-- The world with a watcher that was opened at a time, the advertisements that were given to it and
not read, and those that are left. -/
def playing (s : Scenario) (tally : Tally) (opened now : Nat)
    (given left : List ScriptedAdvertisement) : World where
  radio := .scripted s
  now := now
  timers := feeder opened left
  watcher := some { run := 0, inbox := inboxOf given }
  tally := tally

/-- The watcher is given what is due, and the rest waits. -/
theorem feed_playing (left : List ScriptedAdvertisement) :
    (playing s tally opened now given []).perform (.feed 0 opened left) =
      playing s tally opened now (given ++ left.takeWhile (isDue opened now))
        (left.dropWhile (isDue opened now)) := by
  let x : Watcher := { run := 0, inbox := inboxOf given }
  have fed : (playing s tally opened now given []).feed 0 opened left = _ :=
    feed_eq (x := x) rfl rfl rfl left
  have given' : x.given (left.takeWhile (isDue opened now)) =
      { run := 0, inbox := inboxOf (given ++ left.takeWhile (isDue opened now)) } := by
    unfold Watcher.given inboxOf
    rw [List.map_append]
    rfl
  refine fed.trans ?_
  show { playing s tally opened now given [] with
    watcher := some (x.given (left.takeWhile (isDue opened now))) }.apply 0 _ = _
  rw [given']
  unfold Effect.ofFeed
  show World.put _ [] (match left.dropWhile (isDue opened now) with
    | [] => none
    | a :: rest => some ⟨opened + a.time, .feed 0 opened (a :: rest)⟩) = _
  cases left.dropWhile (isDue opened now) <;> rfl

/-! ### Time passes -/

/-- The clock stops at a time when nothing is due before. -/
theorem runFor_of_late (late : ∀ a ∈ left.head?, time < opened + a.time)
    (goesOn : done (playing s tally opened now given left) = false) :
    runFor time done (fuel + 1) (playing s tally opened now given left) =
      playing s tally opened (max now time) given left := by
  unfold runFor
  show (if done _ then _ else _) = _
  rw [if_neg (Bool.eq_false_iff.mp goesOn)]
  cases left with
  | nil => rfl
  | cons a left => exact if_neg (Nat.not_le_of_lt (late a rfl))

/-- The clock jumps to the first advertisement that is left, and the watcher is given all that is
due then. -/
theorem runFor_of_due (due : opened + a.time ≤ time)
    (goesOn : done (playing s tally opened now given (a :: left)) = false) :
    runFor time done (fuel + 2) (playing s tally opened now given (a :: left)) =
      runFor time done fuel (playing s tally opened (opened + a.time)
        (given ++ (a :: left).takeWhile (isDue opened (opened + a.time)))
        ((a :: left).dropWhile (isDue opened (opened + a.time)))) := by
  let woken : World := { playing s tally opened (opened + a.time) given [] with
    queue := [.feed 0 opened (a :: left)] }
  have wake : (playing s tally opened now given (a :: left)).wake (opened + a.time) = woken := by
    simp [World.wake, playing, feeder, woken]
  have jump : runFor time done (fuel + 2) (playing s tally opened now given (a :: left)) =
      runFor time done (fuel + 1) woken := by
    rw [runFor]
    show (if done _ then _ else if opened + a.time ≤ time then
      runFor time done (fuel + 1) ((playing s tally opened now given (a :: left)).wake _)
      else _) = _
    rw [if_neg (Bool.eq_false_iff.mp goesOn), if_pos due, wake]
  rw [jump, ← feed_playing, runFor]
  rfl

theorem two_mul_length_le_work :
    2 * left.length ≤ (playing s tally opened now given left).work := by
  cases left with
  | nil => exact Nat.zero_le _
  | cons a left =>
    show 2 * (a :: left).length ≤ 0 + (1 + 2 * (a :: left).length)
    omega

/-- The clock goes from one advertisement to the next, until none is due any more. -/
theorem runFor_playing (later : ∀ a ∈ left.head?, now < opened + a.time)
    (enough : 2 * left.length < fuel) :
    runFor time (fun _ => false) fuel (playing s tally opened now given left) =
      playing s tally opened (max now time) (given ++ left.takeWhile (isDue opened time))
        (left.dropWhile (isDue opened time)) := by
  induction h : left.length using Nat.strong_induction_on generalizing now given left fuel with
  | _ n ih =>
    -- A jump takes at least the first advertisement with it, and costs two units of fuel.
    by_cases due : ∃ a ∈ left.head?, opened + a.time ≤ time
    · obtain ⟨a, first, due⟩ := due
      obtain ⟨rest, rfl⟩ := List.head?_eq_some_iff.mp first
      have here : isDue opened (opened + a.time) a = true := isDue_iff.mpr (Nat.le_refl _)
      have fewer : ((a :: rest).dropWhile (isDue opened (opened + a.time))).length ≤
          rest.length := by
        rw [List.dropWhile_cons_of_pos here]
        exact (List.dropWhile_sublist _).length_le
      rw [List.length_cons] at h enough
      obtain ⟨fuel, rfl⟩ : ∃ k, fuel = k + 2 := ⟨fuel - 2, by omega⟩
      rw [runFor_of_due due rfl,
        ih _ (by omega) (fun _ mem => lt_of_head?_dropWhile mem) (by omega) rfl]
      obtain ⟨taken, dropped⟩ := split_isDue due (a :: rest)
      rw [List.append_assoc, taken, dropped, Nat.max_eq_right due,
        Nat.max_eq_right ((Nat.le_of_lt (later a first)).trans due)]
    · have late : ∀ a ∈ left.head?, time < opened + a.time :=
        fun a mem => Nat.lt_of_not_le fun this => due ⟨a, mem, this⟩
      obtain ⟨none, all⟩ := split_of_later late
      obtain ⟨fuel, rfl⟩ : ∃ k, fuel = k + 1 := ⟨fuel - 1, by omega⟩
      rw [runFor_of_late late rfl, none, all, List.append_nil]

/-- As time passes, the watcher is given whatever is due. -/
theorem passUntil_playing (later : ∀ a ∈ left.head?, now < opened + a.time) (time : Nat) :
    (playing s tally opened now given left).passUntil time =
      playing s tally opened (max now time) (given ++ left.takeWhile (isDue opened time))
        (left.dropWhile (isDue opened time)) := by
  have work : 2 * left.length ≤ (playing s tally opened now given left).work :=
    two_mul_length_le_work
  exact runFor_playing later (by omega)

/-! ### Reading -/

/-- What was given first is read at once. -/
theorem nextReport_given (ms : Nat) :
    (playing s tally opened now (a :: given) left).nextReport ms =
      (playing s tally opened now given left, some (.report a.report)) := rfl

/-- A read that finds nothing waits until something is given, or until just before the end. -/
theorem nextReport_of_runUntil {w : World}
    (waited : (playing s tally opened now [] left).runUntil (now + min ms longestWait - 1)
      (fun w => !w.delivered.isEmpty) = w) :
    (playing s tally opened now [] left).nextReport ms =
      match w.delivered with
      | [] => (w.passUntil (now + min ms longestWait), none)
      | (d, _) :: rest =>
        ({ w with watcher := w.watcher.map ({ · with inbox := rest }) }, some d) := by
  subst waited
  rfl

/-- What is due before the end of the time is waited for. -/
theorem nextReport_waiting (early : opened + a.time < now + min ms longestWait) :
    let due := opened + a.time
    (playing s tally opened now [] (a :: left)).nextReport ms =
      (playing s tally opened due (left.takeWhile (isDue opened due))
        (left.dropWhile (isDue opened due)), some (.report a.report)) := by
  intro due
  have here : isDue opened due a = true := isDue_iff.mpr (Nat.le_refl _)
  have waited : (playing s tally opened now [] (a :: left)).runUntil
      (now + min ms longestWait - 1) (fun w => !w.delivered.isEmpty) =
        playing s tally opened due (a :: left.takeWhile (isDue opened due))
          (left.dropWhile (isDue opened due)) := by
    have work : 2 * (a :: left).length ≤ (playing s tally opened now [] (a :: left)).work :=
      two_mul_length_le_work
    rw [List.length_cons] at work
    unfold runUntil
    obtain ⟨fuel, eq⟩ :
        ∃ k, 2 * (playing s tally opened now [] (a :: left)).work + 2 = k + 1 + 2 :=
      ⟨2 * (playing s tally opened now [] (a :: left)).work - 1, by omega⟩
    -- After one jump there is something to read, so that the clock stands still.
    rw [eq, runFor_of_due (Nat.le_sub_one_of_lt early) rfl, List.takeWhile_cons_of_pos here,
      List.dropWhile_cons_of_pos here]
    rfl
  exact nextReport_of_runUntil waited

/-- If nothing is due before the end of the time, the time passes. -/
theorem nextReport_silent
    (late : ∀ a ∈ left.head?, now < opened + a.time ∧ now + min ms longestWait ≤ opened + a.time) :
    let ending := now + min ms longestWait
    (playing s tally opened now [] left).nextReport ms =
      (playing s tally opened ending (left.takeWhile (isDue opened ending))
        (left.dropWhile (isDue opened ending)), none) := by
  intro ending
  -- Up to the last moment nothing is given; what is due with the end is given, but not read.
  have waited : (playing s tally opened now [] left).runUntil (ending - 1)
      (fun w => !w.delivered.isEmpty) = playing s tally opened (max now (ending - 1)) [] left :=
    runFor_of_late (fun a mem => by have := late a mem; omega) rfl
  have later : ∀ a ∈ left.head?, max now (ending - 1) < opened + a.time :=
    fun a mem => by have := late a mem; omega
  have ends : max (max now (ending - 1)) ending = ending := by omega
  have passed : (playing s tally opened (max now (ending - 1)) [] left).passUntil ending =
      playing s tally opened ending (left.takeWhile (isDue opened ending))
        (left.dropWhile (isDue opened ending)) := by
    rw [passUntil_playing later, ends, List.nil_append]
  rw [nextReport_of_runUntil waited, ← passed]
  rfl

/-! ### What is still to be read -/

/-- A world whose watcher was opened at a time and has some advertisements still to hand over: what
was given to it is due, and what is left begins with something that is not. -/
inductive Plays (s : Scenario) (opened : Nat) : List ScriptedAdvertisement → World → Prop
  | intro (tally : Tally) (now : Nat) (given left : List ScriptedAdvertisement)
      (due : ∀ a ∈ given, opened + a.time ≤ now) (later : ∀ a ∈ left.head?, now < opened + a.time) :
      Plays s opened (given ++ left) (playing s tally opened now given left)

/-- When a read ends, and with what.  It is over at some time; the next advertisement is read at
once if it is due, and else when it is due, if that is before the read is over. -/
def reading (opened now ending : Nat) :
    Option ScriptedAdvertisement → Nat × Option ScriptedAdvertisement
  | none => (ending, none)
  | some a =>
    if opened + a.time ≤ now then (now, some a)
    else if opened + a.time < ending then (opened + a.time, some a)
    else (ending, none)

namespace Plays

variable {w : World} {unread : List ScriptedAdvertisement}

/-- Everything that is due at a time was given to the watcher. -/
theorem at_time (tally : Tally) (given ads : List ScriptedAdvertisement)
    (due : ∀ a ∈ given, opened + a.time ≤ time) :
    Plays s opened (given ++ ads) (playing s tally opened time
      (given ++ ads.takeWhile (isDue opened time)) (ads.dropWhile (isDue opened time))) := by
  have plays := Plays.intro (s := s) tally time (given ++ ads.takeWhile (isDue opened time))
    (ads.dropWhile (isDue opened time)) (fun a mem => ?_) fun _ mem => lt_of_head?_dropWhile mem
  · rwa [List.append_assoc, List.takeWhile_append_dropWhile] at plays
  · rcases List.mem_append.mp mem with mem | mem
    · exact due a mem
    · exact le_of_mem_takeWhile mem

/-- Nothing is read as time passes. -/
theorem passUntil (h : Plays s opened unread w) (le : w.now ≤ time) :
    Plays s opened unread (w.passUntil time) := by
  cases h with
  | intro tally now given left due later =>
    have le : now ≤ time := le
    rw [passUntil_playing later, Nat.max_eq_right le]
    exact at_time tally given left fun a mem => (due a mem).trans le

/-- A call takes its time. -/
theorem callDirectly (h : Plays s opened unread w) (call : Call) :
    Plays s opened unread (w.callDirectly call).1 := by
  cases h with
  | intro tally now given left due later =>
    have counted := Plays.intro (s := s) (tally.count call) now given left due later
    exact counted.passUntil (Nat.le_add_right _ _)

/-- A read takes the next advertisement, or waits for it. -/
theorem nextReport (h : Plays s opened unread w) (ms : Nat) :
    let r := reading opened w.now (w.endOfWait ms) unread.head?
    (w.nextReport ms).1.now = r.1 ∧ (w.nextReport ms).2 = r.2.map (.report ·.report) ∧
      ∃ more, r.2.toList ++ more = unread ∧ Plays s opened more (w.nextReport ms).1 := by
  cases h with
  | intro tally now given left due later =>
    intro r
    -- What was given is had at once, else the next is waited for as long as the read lasts.
    cases given with
    | cons a given =>
      have here : r = (now, some a) := if_pos (due a List.mem_cons_self)
      rw [nextReport_given, here]
      exact ⟨rfl, rfl, given ++ left, rfl,
        .intro tally now given left (fun b mem => due b (List.mem_cons_of_mem a mem)) later⟩
    | nil =>
      by_cases early : ∃ a ∈ left.head?, opened + a.time < now + min ms longestWait
      · -- The next is due before the wait is over, and ends it.
        obtain ⟨a, first, early⟩ := early
        obtain ⟨rest, rfl⟩ := List.head?_eq_some_iff.mp first
        have waits : ¬ opened + a.time ≤ now := Nat.not_le_of_lt (later a first)
        have here : r = (opened + a.time, some a) := (if_neg waits).trans (if_pos early)
        rw [nextReport_waiting early, here]
        exact ⟨rfl, rfl, rest, rfl, at_time tally [] rest fun _ mem => by cases mem⟩
      · -- The wait is over first, or there is nothing more to come.
        have late : ∀ a ∈ left.head?, now + min ms longestWait ≤ opened + a.time :=
          fun a mem => Nat.le_of_not_lt fun this => early ⟨a, mem, this⟩
        have here : r = (now + min ms longestWait, none) := by
          cases left with
          | nil => rfl
          | cons a left =>
            exact (if_neg (Nat.not_le_of_lt (later a rfl))).trans
              (if_neg (Nat.not_lt_of_le (late a rfl)))
        rw [nextReport_silent fun a mem => ⟨later a mem, late a mem⟩, here]
        exact ⟨rfl, rfl, left, rfl, at_time tally [] left fun _ mem => by cases mem⟩

end Plays

end World

end BluetoothDiscovery.Simulation
