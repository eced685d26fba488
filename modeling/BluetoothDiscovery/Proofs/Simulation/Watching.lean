import BluetoothDiscovery.Proofs.Simulation.Replaying

/-!
# A watcher replays its script

However a scripted radio is used, a world is in one of two forms between two uses: either no watcher
was opened yet, or the watcher that was opened last is fed (`Used`).  A watcher that is opened is
given every advertisement of the script, in the order of their times; a row of reads takes them from
there one after the other, at the earliest when they are due (`replays_timeline_of_opens`).
-/

namespace BluetoothDiscovery.Simulation

variable {s : Scenario} {w : World} {opened : Nat}

/-! ### The order of a script -/

/-- Advertisements in the order of their times, where those of one time keep the order that they are
listed in. -/
structure Ordered (ads line : List ScriptedAdvertisement) : Prop where
  perm : line.Perm ads
  ascending : line.Pairwise (·.time ≤ ·.time)
  stable : ∀ time, line.filter (·.time = time) = ads.filter (·.time = time)

/-- Advertisements are told in the order of their times, with none lost or doubled. -/
theorem ordered_timeline (s : Scenario) : Ordered s.advertisements s.timeline where
  perm := List.mergeSort_perm _ _
  ascending := s.pairwise_timeline
  stable time := by
    have same : (s.advertisements.filter (·.time = time)).Pairwise fun a b =>
        decide (a.time ≤ b.time) = true := by
      refine List.pairwise_of_forall_mem_list fun a ha b hb => ?_
      have ha : a.time = time := by simpa using (List.mem_filter.mp ha).2
      have hb : b.time = time := by simpa using (List.mem_filter.mp hb).2
      exact decide_eq_true (ha.trans hb.symm).le
    -- Sorting keeps what is in order already, and there are no others of this time to come between.
    have sub : (s.advertisements.filter (·.time = time)).Sublist s.timeline :=
      List.sublist_mergeSort (fun a b c h h' => decide_eq_true
          ((of_decide_eq_true h).trans (of_decide_eq_true h')))
        (fun a b => by simpa using Nat.le_total a.time b.time) same List.filter_sublist
    have kept := sub.filter (·.time = time)
    rw [List.filter_filter, List.filter_congr fun a _ => Bool.and_self _] at kept
    exact (kept.eq_of_length
      ((List.mergeSort_perm s.advertisements _).filter _).length_eq.symm).symm

/-! ### Using a radio -/

/-- Something that is done with a scripted radio. -/
inductive Use where
  /-- A call is made and its answer waited for. -/
  | call (c : Call)
  /-- Some milliseconds pass. -/
  | pass (ms : Nat)
  /-- A watcher is opened. -/
  | watch
  /-- The next advertisement is read, or waited for some milliseconds. -/
  | read (ms : Nat)
  /-- The watcher is stopped. -/
  | stop

/-- Whether a use leaves the watcher alone, or only reads it. -/
def Use.keepsWatcher : Use → Bool
  | .watch | .stop => false
  | _ => true

namespace World

/-- A world after a use, and what was read. -/
def use (w : World) : Use → World × List Delivery
  | .call c => ((w.callDirectly c).1, [])
  | .pass ms => (w.passUntil (w.now + ms), [])
  | .watch => (w.watchDirectly.1, [])
  | .read ms => ((w.nextReport ms).1, (w.nextReport ms).2.toList)
  | .stop => (w.stopWatching, [])

/-- A world after a row of uses, and what was read. -/
def uses (w : World) : List Use → World × List Delivery
  | [] => (w, [])
  | u :: us => (((w.use u).1.uses us).1, (w.use u).2 ++ ((w.use u).1.uses us).2)

/-- A world in direct use. -/
inductive Used (s : Scenario) : World → Prop
  | unwatched (tally : Tally) (now : Nat) : Used s { radio := .scripted s, tally, now }
  | watched {w : World} (opened : Nat) (unread : List ScriptedAdvertisement)
      (h : Plays s opened unread w) : Used s w

namespace Used

/-- Nothing can be done at the present time. -/
theorem passUntil_now (h : Used s w) : w.passUntil w.now = w := by
  cases h with
  | unwatched tally now =>
    show ({ radio := .scripted s, tally, now := max now now } : World) = _
    rw [Nat.max_self]
  | watched opened unread h =>
    obtain ⟨tally, now, given, left, due, later⟩ := h
    obtain ⟨none, all⟩ := split_of_later later
    refine (passUntil_playing later now).trans ?_
    rw [Nat.max_self, none, all, List.append_nil]

/-- An earlier watcher is not fed any more. -/
theorem openWatcher (h : Used s w) : w.abortFeed.openWatcher 0 =
    { World.playing s w.tally w.now w.now [] [] with queue := [.feed 0 w.now s.timeline] } := by
  cases h with
  | unwatched tally now => rfl
  | watched opened unread h =>
    obtain ⟨tally, now, given, left, due, later⟩ := h
    cases left <;> rfl

/-- A watcher that is opened is given what is due at once. -/
theorem watchDirectly_eq (opens : s.watcherFails = false) (h : Used s w) :
    w.watchDirectly = (playing s w.tally w.now w.now (s.timeline.takeWhile (isDue w.now w.now))
      (s.timeline.dropWhile (isDue w.now w.now)), .ok ()) := by
  have script : w.script = s := by
    cases h with
    | unwatched tally now => rfl
    | watched opened unread h => cases h; rfl
  have called : w.callDirectly .openWatcher = (w, .watcher (.ok ())) := by
    have answer : s.answer .openWatcher = (0, .watcher (.ok ())) := by
      show (0, Answer.watcher (if s.watcherFails then _ else _)) = _
      rw [opens]
      rfl
    unfold callDirectly
    rw [script, answer]
    exact congrArg (·, _) h.passUntil_now
  have begins : (w.abortFeed.openWatcher 0).passUntil w.now = playing s w.tally w.now w.now
      (s.timeline.takeWhile (isDue w.now w.now)) (s.timeline.dropWhile (isDue w.now w.now)) := by
    rw [h.openWatcher]
    -- The first turn is taken before the clock can move.
    have taken (fuel : Nat) : runFor w.now (fun _ => false) (fuel + 1)
        { playing s w.tally w.now w.now [] [] with queue := [.feed 0 w.now s.timeline] } =
          runFor w.now (fun _ => false) fuel
            ((playing s w.tally w.now w.now [] []).perform (.feed 0 w.now s.timeline)) := rfl
    unfold World.passUntil runUntil
    rw [taken, feed_playing, runFor_of_late (fun _ mem => lt_of_head?_dropWhile mem) rfl,
      Nat.max_self, List.nil_append]
  unfold World.watchDirectly
  rw [called, ← begins]

/-- A watcher that is opened has the whole script to hand over. -/
theorem watchDirectly (opens : s.watcherFails = false) (h : Used s w) :
    w.watchDirectly.2 = .ok () ∧ w.watchDirectly.1.now = w.now ∧
      Plays s w.now s.timeline w.watchDirectly.1 := by
  rw [h.watchDirectly_eq opens]
  exact ⟨rfl, rfl, .at_time w.tally [] s.timeline fun _ mem => by cases mem⟩

/-- Every use leaves a world that can be used again. -/
theorem use (opens : s.watcherFails = false) (h : Used s w) (u : Use) : Used s (w.use u).1 := by
  cases u with
  | watch => exact .watched _ _ (h.watchDirectly opens).2.2
  | call c =>
    cases h with
    | unwatched tally now => exact .unwatched _ _
    | watched opened unread h => exact .watched opened unread (h.callDirectly c)
  | pass ms =>
    cases h with
    | unwatched tally now => exact .unwatched _ _
    | watched opened unread h => exact .watched opened unread (h.passUntil (Nat.le_add_right _ _))
  | read ms =>
    cases h with
    | unwatched tally now => exact .unwatched _ _
    | watched opened unread h =>
      obtain ⟨-, -, more, -, h⟩ := h.nextReport ms
      exact .watched opened more h
  | stop =>
    cases h with
    | unwatched tally now => exact .unwatched tally now
    | watched opened unread h =>
      obtain ⟨tally, now, given, left, due, later⟩ := h
      refine .watched opened (given ++ []) ?_
      -- What was given can still be read, but nothing is left that could be given.
      have stopped : (playing s tally opened now given left).stopWatching =
          playing s tally opened now given [] := by
        cases left <;> rfl
      show Plays s opened (given ++ []) (World.stopWatching _)
      rw [stopped]
      exact .intro tally now given [] due fun _ mem => by cases mem

theorem uses (opens : s.watcherFails = false) (h : Used s w) (us : List Use) :
    Used s (w.uses us).1 := by
  induction us generalizing w with
  | nil => exact h
  | cons u us ih => exact ih (h.use opens u)

end Used

/-! ### A watcher in use -/

namespace Plays

variable {unread : List ScriptedAdvertisement}

/-- What is read is what was to be read next. -/
theorem use (h : Plays s opened unread w) {u : Use} (keeps : u.keepsWatcher = true) :
    ∃ read more, read ++ more = unread ∧ (w.use u).2 = read.map (.report ·.report) ∧
      Plays s opened more (w.use u).1 := by
  cases u with
  | call c => exact ⟨[], unread, rfl, rfl, h.callDirectly c⟩
  | pass ms => exact ⟨[], unread, rfl, rfl, h.passUntil (Nat.le_add_right _ _)⟩
  | read ms =>
    obtain ⟨-, told, more, parts, h⟩ := h.nextReport ms
    refine ⟨_, more, parts, ?_, h⟩
    show (w.nextReport ms).2.toList = _
    rw [told]
    cases (reading opened w.now (w.endOfWait ms) unread.head?).2 <;> rfl
  | watch => cases keeps
  | stop => cases keeps

/-- A row of reads takes the advertisements one after the other. -/
theorem uses (h : Plays s opened unread w) {us : List Use}
    (keep : ∀ u ∈ us, u.keepsWatcher = true) :
    ∃ read more, read ++ more = unread ∧ (w.uses us).2 = read.map (.report ·.report) ∧
      Plays s opened more (w.uses us).1 := by
  induction us generalizing w unread with
  | nil => exact ⟨[], unread, rfl, rfl, h⟩
  | cons u us ih =>
    obtain ⟨read, more, parts, told, h⟩ := h.use (keep u List.mem_cons_self)
    obtain ⟨read', more', parts', told', h⟩ := ih h fun u mem => keep u (List.mem_cons_of_mem _ mem)
    refine ⟨read ++ read', more', ?_, ?_, h⟩
    · rw [List.append_assoc, parts', parts]
    · rw [List.map_append, ← told, ← told']
      rfl

end Plays

end World

/-- **A watcher replays its script**: whatever was done with the radio before, a watcher that is
opened hands over every advertisement of the script once, in the order of their times.  However it
is read, the reads give the advertisements in this order, with none lost or doubled, and each from
the time on when it is due, but not before.  After the last one a read comes to nothing, however
long it lasts, and the watcher is never closed. -/
theorem replays_timeline_of_opens (opens : s.watcherFails = false) (before later : List Use)
    (keep : ∀ u ∈ later, u.keepsWatcher = true) :
    let b := (({ radio := .scripted s } : World).uses before).1
    let w := (b.watchDirectly.1.uses later).1
    let told := (b.watchDirectly.1.uses later).2
    b.watchDirectly.2 = .ok () ∧ b.watchDirectly.1.now = b.now ∧
      Ordered s.advertisements s.timeline ∧
      told = (s.timeline.take told.length).map (.report ·.report) ∧
      ∀ ms,
        let r := World.reading b.now w.now (w.endOfWait ms) s.timeline[told.length]?
        (w.nextReport ms).1.now = r.1 ∧ (w.nextReport ms).2 = r.2.map (.report ·.report) := by
  intro b w told
  have used : World.Used s b := (World.Used.unwatched {} 0).uses opens before
  obtain ⟨opened, now, plays⟩ := used.watchDirectly opens
  obtain ⟨read, more, parts, same, plays⟩ := plays.uses keep
  -- What was told is the part of the script that was read, and the next comes after it.
  have count : told.length = read.length := by
    show (World.uses _ later).2.length = _
    rw [same, List.length_map]
  refine ⟨opened, now, ordered_timeline s, ?_, fun ms => ?_⟩
  · rw [count, ← parts, List.take_left]
    exact same
  · have next : s.timeline[told.length]? = more.head? := by
      rw [count, ← parts, List.getElem?_append_right (Nat.le_refl _), Nat.sub_self,
        List.head?_eq_getElem?]
    obtain ⟨ends, comes, -⟩ := plays.nextReport ms
    rw [next]
    exact ⟨ends, comes⟩

/-- Two advertisements are listed out of order.  A read ends with the moment at which the first is
due, so that it comes too late; the next read has it at once, and the one after waits. -/
theorem replays_out_of_order :
    let later : ScriptedAdvertisement := ⟨300, ⟨.ofNat 1, -70, .decoded {}⟩⟩
    let first : ScriptedAdvertisement := ⟨100, ⟨.ofNat 1, -50, .decoded {}⟩⟩
    let s : Scenario := { advertisements := [later, first] }
    let reads : List Use := [.read 100, .read 100]
    let w := (({ radio := .scripted s } : World).uses [.pass 7]).1.watchDirectly.1
    s.watcherFails = false ∧ (∀ u ∈ reads, u.keepsWatcher = true) ∧
      (w.uses [.read 100]).2 = [] ∧ (w.uses reads).2 = [.report first.report] ∧
      ((w.uses reads).1.nextReport 1000).1.now = 307 ∧
      ((w.uses reads).1.nextReport 1000).2 = some (.report later.report) := by
  intro later first s reads w
  have keep : ∀ u ∈ reads, u.keepsWatcher = true := by decide
  have timeline : s.timeline = [first, later] := by
    simp [Scenario.timeline, s, first, later, List.mergeSort, List.MergeSort.Internal.splitInTwo]
  have opened : w = World.playing s {} 7 7 [] [first, later] := by
    have used : World.Used s (({ radio := .scripted s } : World).uses [.pass 7]).1 := .unwatched {} 7
    have eq := congrArg Prod.fst (used.watchDirectly_eq rfl)
    rwa [timeline] at eq
  obtain ⟨-, -, -, told, next⟩ := replays_timeline_of_opens (s := s) rfl [.pass 7] reads keep
  have one : (w.uses reads).2.length = 1 := by
    rw [opened]
    rfl
  have tooEarly : (w.uses [.read 100]).2 = [] := by
    rw [opened]
    rfl
  have waits : World.reading 7 (w.uses reads).1.now ((w.uses reads).1.endOfWait 1000) (some later) =
      (307, some later) := by
    rw [opened]
    rfl
  have comes := next 1000
  rw [one, timeline] at told comes
  refine ⟨rfl, keep, tooEarly, told, comes.1.trans ?_, comes.2.trans ?_⟩
  · exact congrArg Prod.fst waits
  · exact congrArg (fun r => r.2.map fun a => Delivery.report a.report) waits

end BluetoothDiscovery.Simulation
