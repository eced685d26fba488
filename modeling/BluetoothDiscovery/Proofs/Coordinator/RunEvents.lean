import BluetoothDiscovery.Proofs.Coordinator.History
import Mathlib.Algebra.Group.Nat.Defs
import Mathlib.Data.List.Basic

/-!
# The events of runs

The events that a coordinator announces are those of its first run, then those of its second, and so
on: the events of two runs never mix.  `RunLog` says what one run can have announced.  A run that
does not get past the check of the adapter leaves one event; a run that begins leaves reports, and
one terminal event once it is over.

The invariant is `Told`.  Only the run that the phase belongs to can announce anything
(`Outcome.runLog`), and that is always the run with the last number, so that what is announced
now stands behind everything that was announced before.  Numbers are words of 64 bits: the
statements are about rows of actions in which fewer than `2 ^ 64` runs are granted.
-/

namespace BluetoothDiscovery.Coordinator

variable {extract : Payload → AdvertisementData} {c : Coordinator} {a : Action}
  {events : List Event} {out : Coordinator × List Event}

/-! ### What one run announces -/

/-- What a run with a number has announced, by the phase of the coordinator and by whether the run
has got past the check of the adapter. -/
inductive RunLog (phase : Phase) (begun : Prop) (id : RunId) : List Event → Prop
  | checking {methods : Methods} (present : phase = .starting id methods) (notYet : ¬ begun) :
      RunLog phase begun id []
  /-- The check of the adapter failed. -/
  | refused {kind : ErrorKind} (past : phase.owner ≠ some id) (never : ¬ begun)
      (why : kind = .adapterPoweredOff ∨ kind = .adapterUnavailable) :
      RunLog phase begun id [.failed kind]
  /-- The run was stopped or given up while the adapter was checked. -/
  | abandoned (past : phase.owner ≠ some id) (never : ¬ begun) : RunLog phase begun id [.canceled]
  | goingOn {r : Run} {reports : List Event} (present : phase = .running r) (number : r.id = id)
      (started : begun) (told : ∀ e ∈ reports, e.isReport) : RunLog phase begun id reports
  | closed {reports : List Event} {last : Event} (past : phase.owner ≠ some id) (started : begun)
      (told : ∀ e ∈ reports, e.isReport) (terminal : last.isTerminal) :
      RunLog phase begun id (reports ++ [last])

theorem isTerminal_eq_false_of_isReport {e : Event} (h : e.isReport = true) :
    e.isTerminal = false := by
  cases e <;> simp_all [Event.isReport, Event.isTerminal]

/-- No run announces anything after a terminal event. -/
theorem RunLog.eq_nil_of_terminal {phase : Phase} {begun : Prop} {id : RunId}
    (log : RunLog phase begun id events) {before later : List Event} {e : Event}
    (split : events = before ++ e :: later) (terminal : e.isTerminal = true) : later = [] := by
  cases log with
  | checking => simp at split
  | @refused kind =>
    have h : before = [] ∧ e = .failed kind ∧ later = [] := by
      simpa [List.singleton_eq_append_iff] using split
    exact h.2.2
  | abandoned =>
    have h : before = [] ∧ e = .canceled ∧ later = [] := by
      simpa [List.singleton_eq_append_iff] using split
    exact h.2.2
  | goingOn _ _ _ told =>
    have := isTerminal_eq_false_of_isReport (told e (by simp [split]))
    rw [this] at terminal
    exact absurd terminal Bool.false_ne_true
  | closed _ _ told _ =>
    by_contra hne
    -- With something behind it, `e` would be one of the reports.
    obtain ⟨init, last, rfl⟩ := (List.eq_nil_or_concat later).resolve_left hne
    rw [List.concat_eq_append, ← List.cons_append, ← List.append_assoc] at split
    have hreports := (List.append_inj' split rfl).1
    have := isTerminal_eq_false_of_isReport (told e (by simp [hreports]))
    rw [this] at terminal
    exact absurd terminal Bool.false_ne_true

/-- The log of a run that is past stays as it is. -/
theorem RunLog.stays {phase phase' : Phase} {begun begun' : Prop} {id : RunId}
    (log : RunLog phase begun id events) (past : phase.owner ≠ some id)
    (past' : phase'.owner ≠ some id) (same : begun' ↔ begun) : RunLog phase' begun' id events := by
  rw [propext same]
  cases log with
  | checking present => exact absurd (by rw [present]; rfl) past
  | refused _ never why => exact .refused past' never why
  | abandoned _ never => exact .abandoned past' never
  | goingOn present number => exact absurd (by rw [present, ← number]; rfl) past
  | closed _ started told terminal => exact .closed past' started told terminal

/-! ### One step -/

/-- Without a grant the phase goes on belonging to its run, or belongs to none. -/
theorem Outcome.owner_eq (h : Outcome c a false out) :
    out.1.phase.owner = none ∨ out.1.phase.owner = c.phase.owner := by
  cases h with
  | nothing => exact .inr rfl
  | refused => exact .inl rfl
  | abandoned => exact .inl rfl
  | began starting => right; rw [starting]; rfl
  | worked running goesOn _ work =>
    right
    rw [running, goesOn]
    exact congrArg some (Run.id_eq_of_progress work)
  | ended => exact .inl rfl

theorem Outcome.owner_ne {id : RunId} (h : Outcome c a false out)
    (past : c.phase.owner ≠ some id) : out.1.phase.owner ≠ some id := by
  rcases h.owner_eq with hnone | hsame
  · simp [hnone]
  · rwa [hsame]

theorem Outcome.lastRun_eq (h : Outcome c a false out) : out.1.lastRun = c.lastRun := by
  cases h with
  | worked _ _ lastRun => exact lastRun
  | _ => rfl

theorem Outcome.of_granted (h : Outcome c a true out) :
    ∃ methods : Methods, c.phase = .idle ∧ methods.isEmpty = false ∧
      out =
        ({ c with lastRun := c.lastRun + 1, phase := .starting (c.lastRun + 1) methods }, []) := by
  cases h with
  | granted idle asked => exact ⟨_, idle, asked, rfl⟩

/-- Where the phase belongs to no run, nothing is announced. -/
theorem Outcome.silent {granted : Bool} (h : Outcome c a granted out)
    (idle : c.phase.owner = none) : out.2 = [] := by
  cases h with
  | nothing => rfl
  | granted => rfl
  | refused starting => rw [starting] at idle; simp [Phase.owner] at idle
  | abandoned starting => rw [starting] at idle; simp [Phase.owner] at idle
  | began => rfl
  | worked running => rw [running] at idle; simp [Phase.owner] at idle
  | ended running => rw [running] at idle; simp [Phase.owner] at idle

theorem isRunning_eq_false_of_owner_ne {id : RunId} (h : c.phase.owner ≠ some id) :
    c.isRunning id = false :=
  Bool.eq_false_iff.mpr fun hr => h (owner_of_isRunning hr)

theorem RunLog.of_starting {id id' : RunId} {methods : Methods} {begun : Prop}
    (log : RunLog c.phase begun id events) (starting : c.phase = .starting id' methods)
    (owner : c.phase.owner = some id) : events = [] ∧ ¬ begun ∧ id' = id := by
  have hid : id' = id := by rw [starting] at owner; exact Option.some.inj owner
  cases log with
  | checking _ notYet => exact ⟨rfl, notYet, hid⟩
  | refused past => exact absurd owner past
  | abandoned past => exact absurd owner past
  | goingOn present => rw [starting] at present; cases present
  | closed past => exact absurd owner past

theorem RunLog.of_running {id : RunId} {r : Run} {begun : Prop}
    (log : RunLog c.phase begun id events) (running : c.phase = .running r)
    (owner : c.phase.owner = some id) : begun ∧ r.id = id ∧ ∀ e ∈ events, e.isReport := by
  have hid : r.id = id := by rw [running] at owner; exact Option.some.inj owner
  cases log with
  | checking present => rw [running] at present; cases present
  | refused past => exact absurd owner past
  | abandoned past => exact absurd owner past
  | goingOn _ _ started told => exact ⟨started, hid, told⟩
  | closed past => exact absurd owner past

/-- What a step without a grant adds to the log of the run that the phase belongs to. -/
theorem Outcome.runLog {id : RunId} {begun begun' : Prop} (h : Outcome c a false out)
    (owner : c.phase.owner = some id) (log : RunLog c.phase begun id events)
    (ever : begun' ↔ begun ∨ out.1.isRunning id = true) :
    RunLog out.1.phase begun' id (events ++ out.2) := by
  -- The run is the one that the phase belongs to, so that its log before the step is that of a run
  -- which is being checked or goes on.
  cases h with
  | nothing =>
    rw [List.append_nil]
    cases log with
    | checking present notYet =>
      refine .checking present fun hb => ?_
      rcases ever.mp hb with hb | hr
      · exact notYet hb
      · obtain ⟨r, hr, -⟩ := isRunning_iff.mp hr
        rw [present] at hr
        cases hr
    | refused past => exact absurd owner past
    | abandoned past => exact absurd owner past
    | goingOn present number started reports =>
      exact .goingOn present number (ever.mpr (.inl started)) reports
    | closed past => exact absurd owner past
  | refused starting why =>
    obtain ⟨rfl, notYet, -⟩ := log.of_starting starting owner
    refine .refused (by simp [Phase.owner]) (fun hb => ?_) why
    exact (ever.mp hb).elim notYet (by simp [isRunning, run?])
  | abandoned starting =>
    obtain ⟨rfl, notYet, -⟩ := log.of_starting starting owner
    refine .abandoned (by simp [Phase.owner]) (fun hb => ?_)
    exact (ever.mp hb).elim notYet (by simp [isRunning, run?])
  | began starting =>
    -- The check is over, so that the run counts as begun from here on.
    obtain ⟨rfl, -, rfl⟩ := log.of_starting starting owner
    refine .goingOn rfl rfl (ever.mpr (.inr ?_)) (by simp)
    exact isRunning_iff.mpr ⟨_, rfl, rfl⟩
  | worked running goesOn _ work _ reports =>
    obtain ⟨started, hid, before⟩ := log.of_running running owner
    have number := (Run.id_eq_of_progress work).trans hid
    refine .goingOn goesOn number (ever.mpr (.inl started)) fun e he => ?_
    exact (List.mem_append.mp he).elim (before e) (reports e)
  | ended running reports how =>
    obtain ⟨started, -, before⟩ := log.of_running running owner
    rw [← List.append_assoc]
    refine .closed (by simp [Phase.owner]) (ever.mpr (.inl started)) (fun e he => ?_)
      how.isTerminal
    exact (List.mem_append.mp he).elim (before e) (reports e)

/-! ### Numbers -/

/-- The numbers of the first runs, in the order in which they are given out. -/
def runNumbers (n : Nat) : List RunId := (List.range' 1 n).map UInt64.ofNat

theorem runNumbers_succ (n : Nat) :
    runNumbers (n + 1) = runNumbers n ++ [UInt64.ofNat (n + 1)] := by
  simp [runNumbers, List.range'_1_concat, Nat.add_comm]

theorem mem_runNumbers {n : Nat} {id : RunId} :
    id ∈ runNumbers n ↔ ∃ k, 1 ≤ k ∧ k ≤ n ∧ UInt64.ofNat k = id := by
  simp only [runNumbers, List.mem_map, List.mem_range'_1]
  constructor
  · rintro ⟨k, ⟨h1, h2⟩, rfl⟩
    exact ⟨k, h1, by omega, rfl⟩
  · rintro ⟨k, h1, h2, rfl⟩
    exact ⟨k, ⟨h1, by omega⟩, rfl⟩

theorem toNat_runNumber {n : Nat} (few : n < 2 ^ 64) : (UInt64.ofNat n).toNat = n :=
  UInt64.toNat_ofNat_of_lt' few

/-- The number that is given out next is not among those that were. -/
theorem succ_not_mem_runNumbers {n : Nat} (few : n + 1 < 2 ^ 64) :
    UInt64.ofNat (n + 1) ∉ runNumbers n := by
  intro h
  obtain ⟨k, -, hk, he⟩ := mem_runNumbers.mp h
  have := congrArg UInt64.toNat he
  rw [toNat_runNumber (by omega), toNat_runNumber few] at this
  omega

/-- Numbers are given out in ascending order. -/
theorem pairwise_lt_runNumbers {n : Nat} (few : n < 2 ^ 64) : (runNumbers n).Pairwise (· < ·) := by
  rw [runNumbers, List.pairwise_map]
  refine List.Pairwise.imp_of_mem ?_ List.pairwise_lt_range'
  intro a b ha hb hab
  rw [List.mem_range'_1] at ha hb
  rw [UInt64.lt_iff_toNat_lt, toNat_runNumber (by omega), toNat_runNumber (by omega)]
  exact hab

/-! ### All runs -/

/-- Everything that was announced belongs to a run, and the runs stand in the order of their
numbers. -/
structure Told (extract : Payload → AdvertisementData) (as : List Action) : Prop where
  lastRun : (after extract as).lastRun = UInt64.ofNat (granted extract as)
  /-- The present run is the last that was granted. -/
  present : ∀ id, (after extract as).phase.owner = some id →
    0 < granted extract as ∧ id = UInt64.ofNat (granted extract as)
  inOrder : announced extract as =
    (runNumbers (granted extract as)).flatMap (eventsOf extract as)
  logs : ∀ id ∈ runNumbers (granted extract as),
    RunLog (after extract as).phase (HasBegun extract as id) id (eventsOf extract as id)
  others : ∀ id ∉ runNumbers (granted extract as),
    eventsOf extract as id = [] ∧ ¬ HasBegun extract as id

theorem told_nil : Told extract [] where
  lastRun := rfl
  present _ h := by simp [Phase.owner] at h
  inOrder := rfl
  logs _ h := by simp [runNumbers] at h
  others id _ := ⟨rfl, not_hasBegun_nil id⟩

/-- Only the present run is told more about. -/
theorem hasBegun_concat_iff_of_owner_ne {as : List Action} {a : Action} {id : RunId}
    (past : (after extract (as ++ [a])).phase.owner ≠ some id) :
    HasBegun extract (as ++ [a]) id ↔ HasBegun extract as id := by
  rw [hasBegun_concat, isRunning_eq_false_of_owner_ne past]
  simp

/-- The last run announces behind all others. -/
theorem flatMap_eventsOf_concat {as : List Action} (a : Action) {n : Nat} (few : n + 1 < 2 ^ 64)
    (present : (after extract as).phase.owner = some (UInt64.ofNat (n + 1))) :
    (runNumbers (n + 1)).flatMap (eventsOf extract (as ++ [a])) =
      (runNumbers (n + 1)).flatMap (eventsOf extract as) ++
        ((after extract as).step extract a).2 := by
  have earlier : (runNumbers n).flatMap (eventsOf extract (as ++ [a])) =
      (runNumbers n).flatMap (eventsOf extract as) := by
    -- None of the earlier numbers is that of the present run.
    refine List.flatMap_congr fun id hid => eventsOf_concat_of_ne_owner a fun howner => ?_
    rw [present, Option.some.injEq] at howner
    exact succ_not_mem_runNumbers few (howner ▸ hid)
  rw [runNumbers_succ, List.flatMap_append, List.flatMap_append, List.flatMap_singleton,
    List.flatMap_singleton, earlier, eventsOf_concat_of_owner a present, List.append_assoc]

theorem Told.concat_of_not_granted {as : List Action} {a : Action} (h : Told extract as)
    (few : granted extract as < 2 ^ 64) (hgrant : (after extract as).grants a = false) :
    Told extract (as ++ [a]) := by
  have hn : granted extract (as ++ [a]) = granted extract as := by
    rw [granted_concat, hgrant]
    rfl
  have hout := step_outcome extract (after extract as) a
  rw [hgrant] at hout
  -- A run that is past stays past, so that its log does not change any more.
  have hpast : ∀ id, (after extract as).phase.owner ≠ some id →
      (after extract (as ++ [a])).phase.owner ≠ some id := by
    intro id hp
    rw [after_concat]
    exact hout.owner_ne hp
  constructor
  case lastRun =>
    rw [after_concat, hout.lastRun_eq, hn, h.lastRun]
  case present =>
    intro id hid
    rw [hn]
    exact h.present id (by_contra fun hp => hpast id hp hid)
  case inOrder =>
    rw [hn, announced_concat, h.inOrder]
    -- Without a present run nothing is announced; otherwise it is the last run that is told about.
    cases hp : (after extract as).phase.owner with
    | none =>
      rw [hout.silent hp, List.append_nil]
      exact List.flatMap_congr fun id _ =>
        (eventsOf_concat_of_ne_owner a (by simp [hp])).symm
    | some id =>
      obtain ⟨hpos, rfl⟩ := h.present id hp
      obtain ⟨n, hsucc⟩ : ∃ n, granted extract as = n + 1 :=
        ⟨_, (Nat.succ_pred_eq_of_pos hpos).symm⟩
      rw [hsucc] at hp few ⊢
      exact (flatMap_eventsOf_concat a few hp).symm
  case logs =>
    intro id hid
    rw [hn] at hid
    have hlog := h.logs id hid
    by_cases hp : (after extract as).phase.owner = some id
    · rw [eventsOf_concat_of_owner a hp, after_concat]
      refine hout.runLog hp hlog ?_
      rw [← after_concat]
      exact hasBegun_concat
    · rw [eventsOf_concat_of_ne_owner a hp]
      exact hlog.stays hp (hpast id hp) (hasBegun_concat_iff_of_owner_ne (hpast id hp))
  case others =>
    intro id hid
    rw [hn] at hid
    obtain ⟨hnil, hnever⟩ := h.others id hid
    have hp : (after extract as).phase.owner ≠ some id := by
      intro hp
      obtain ⟨hpos, rfl⟩ := h.present id hp
      exact hid (mem_runNumbers.mpr ⟨_, hpos, Nat.le_refl _, rfl⟩)
    rw [eventsOf_concat_of_ne_owner a hp, hasBegun_concat_iff_of_owner_ne (hpast id hp)]
    exact ⟨hnil, hnever⟩

/-- A granted run takes the next number and has nothing announced yet. -/
theorem Told.concat_of_granted {as : List Action} {a : Action} (h : Told extract as)
    (few : granted extract as + 1 < 2 ^ 64) (hgrant : (after extract as).grants a = true) :
    Told extract (as ++ [a]) := by
  have hn : granted extract (as ++ [a]) = granted extract as + 1 := by
    rw [granted_concat, hgrant]
    rfl
  have hout := step_outcome extract (after extract as) a
  rw [hgrant] at hout
  obtain ⟨methods, hidle, -, hstep⟩ := hout.of_granted
  set id₀ := UInt64.ofNat (granted extract as + 1) with hid₀
  have hnumber : (after extract as).lastRun + 1 = id₀ := by
    rw [h.lastRun, hid₀, UInt64.ofNat_add]
    rfl
  have hphase : (after extract (as ++ [a])).phase = .starting id₀ methods := by
    rw [after_concat, hstep, hnumber]
  have howner : (after extract as).phase.owner = none := by rw [hidle]; rfl
  have howner' : (after extract (as ++ [a])).phase.owner = some id₀ := by rw [hphase]; rfl
  have hsame : ∀ id, eventsOf extract (as ++ [a]) id = eventsOf extract as id :=
    fun id => eventsOf_concat_of_ne_owner a (by simp [howner])
  have hnever : ∀ id, HasBegun extract (as ++ [a]) id ↔ HasBegun extract as id := by
    intro id
    rw [hasBegun_concat]
    refine or_iff_left fun hr => ?_
    obtain ⟨r, hr, -⟩ := isRunning_iff.mp hr
    rw [hphase] at hr
    cases hr
  obtain ⟨hnew, hnotBegun⟩ := h.others id₀ (succ_not_mem_runNumbers few)
  constructor
  case lastRun =>
    rw [hn, after_concat, hstep]
    exact hnumber
  case present =>
    intro id hid
    rw [howner', Option.some.injEq] at hid
    rw [hn]
    exact ⟨Nat.succ_pos _, hid.symm⟩
  case inOrder =>
    rw [hn, announced_concat, hout.silent howner, List.append_nil, h.inOrder, runNumbers_succ,
      List.flatMap_append, List.flatMap_singleton, hsame, hnew, List.append_nil]
    exact List.flatMap_congr fun id _ => (hsame id).symm
  case logs =>
    -- The logs of earlier runs stay as they are, and that of the new run is empty.
    intro id hid
    rw [hn, runNumbers_succ, List.mem_append, List.mem_singleton] at hid
    rw [hsame]
    rcases hid with hid | rfl
    · have hne : id ≠ id₀ := by
        rintro rfl
        exact succ_not_mem_runNumbers few hid
      refine (h.logs id hid).stays (by simp [howner]) ?_ (hnever id)
      simpa [howner'] using hne.symm
    · rw [hnew]
      exact .checking hphase fun hb => hnotBegun ((hnever _).mp hb)
  case others =>
    intro id hid
    rw [hn, runNumbers_succ, List.mem_append, not_or] at hid
    rw [hsame, hnever]
    exact h.others id hid.1

theorem told_of_granted_lt {as : List Action} (few : granted extract as < 2 ^ 64) :
    Told extract as := by
  -- The row grows at its end, since a step concerns what was announced before it.
  induction as using List.reverseRecOn with
  | nil => exact told_nil
  | append_singleton as a ih =>
    have hle : granted extract as ≤ granted extract (as ++ [a]) := granted_le_concat as a
    have h := ih (by omega)
    cases hgrant : (after extract as).grants a with
    | false => exact h.concat_of_not_granted (by omega) hgrant
    | true =>
      refine h.concat_of_granted ?_ hgrant
      rw [granted_concat, hgrant] at few
      exact few

/-- A run whose adapter is being checked has announced nothing and has not begun before. -/
theorem Told.of_starting {as : List Action} (h : Told extract as) {id : RunId} {methods : Methods}
    (starting : (after extract as).phase = .starting id methods) :
    eventsOf extract as id = [] ∧ ¬ HasBegun extract as id := by
  have owner : (after extract as).phase.owner = some id := by
    rw [starting]
    rfl
  obtain ⟨pos, last⟩ := h.present id owner
  have log := h.logs id (mem_runNumbers.mpr ⟨_, pos, Nat.le_refl _, last.symm⟩)
  obtain ⟨silent, fresh, -⟩ := log.of_starting starting owner
  exact ⟨silent, fresh⟩

/-! ### The protocol -/

/-- A stop ends whatever run there is with one cancellation, and does nothing where there is
none. -/
theorem step_stop (c : Coordinator) :
    (c.phase.owner ≠ none → c.step extract .stop = ({ c with phase := .idle }, [.canceled])) ∧
      (c.phase.owner = none → c.step extract .stop = (c, [])) := by
  unfold step isActive
  cases hp : c.phase with
  | idle => exact ⟨fun h => absurd rfl h, fun _ => rfl⟩
  | starting _ _ => exact ⟨fun _ => rfl, fun h => by cases h⟩
  | running _ => exact ⟨fun _ => rfl, fun h => by cases h⟩

/-- What is announced comes of a stop or of an action that is meant for the present run. -/
theorem step_events_ne_nil {a : Action} (h : (c.step extract a).2 ≠ []) :
    a = .stop ∨ (a.run? = c.phase.owner ∧ c.phase.owner ≠ none) := by
  cases hid : a.run? with
  | none =>
    cases a with
    | start methods =>
      refine absurd ?_ h
      simp only [step]
      cases c.startVerdict methods <;> rfl
    | stop => exact .inl rfl
    | _ => cases hid
  | some id =>
    right
    by_cases howner : c.phase.owner = some id
    · exact ⟨howner.symm, by simp [howner]⟩
    · rw [step_of_run?_ne_owner hid howner] at h
      exact absurd rfl h

/-- What holds of the events that a row of actions announces, and of a stop behind it. -/
structure EventProtocol (extract : Payload → AdvertisementData) (as : List Action) : Prop where
  /-- The events are those of the first run, then those of the second, and so on. -/
  inOrder : announced extract as =
    (runNumbers (granted extract as)).flatMap (eventsOf extract as)
  ascending : (runNumbers (granted extract as)).Pairwise (· < ·)
  logs : ∀ id ∈ runNumbers (granted extract as),
    RunLog (after extract as).phase (HasBegun extract as id) id (eventsOf extract as id)
  noOthers : ∀ id ∉ runNumbers (granted extract as), eventsOf extract as id = []
  /-- Nothing of a run comes after a terminal event, so that there is at most one. -/
  terminalLast : ∀ id before e later, eventsOf extract as id = before ++ e :: later →
    e.isTerminal = true → later = []
  /-- What is announced comes of a stop or of an action of the run that it is counted to. -/
  source : ∀ m ∈ history extract as, m.events extract ≠ [] →
    m.action = .stop ∨ (m.action.run? = m.owner ∧ m.owner ≠ none)
  stopPresent : (after extract as).phase.owner ≠ none →
    (after extract as).step extract .stop = ({ after extract as with phase := .idle }, [.canceled])
  stopIdle : (after extract as).phase.owner = none →
    (after extract as).step extract .stop = (after extract as, [])

/-- **The protocol of events** holds whatever actions come in whatever order, as long as fewer than
`2 ^ 64` runs are granted. -/
theorem eventProtocol_of_granted_lt (extract : Payload → AdvertisementData) (as : List Action)
    (few : granted extract as < 2 ^ 64) : EventProtocol extract as := by
  have h := told_of_granted_lt few
  constructor
  · exact h.inOrder
  · exact pairwise_lt_runNumbers few
  · exact h.logs
  · exact fun id hid => (h.others id hid).1
  · intro id before e later hsplit hterminal
    by_cases hid : id ∈ runNumbers (granted extract as)
    · exact (h.logs id hid).eq_nil_of_terminal hsplit hterminal
    · rw [(h.others id hid).1] at hsplit
      simp at hsplit
  · exact fun m _ hevents => step_events_ne_nil hevents
  · exact (step_stop _).1
  · exact (step_stop _).2

/-- A run that is stopped while a device is looked up, and a second one whose adapter is off. -/
theorem eventProtocol_two_runs :
    let as : List Action :=
      [.start Methods.classic, .adapterChecked 1 .ready,
        .enumerated 1 .classic (.ok [⟨"a", .classic⟩]), .stop, .start Methods.lowEnergy,
        .resolutionFailed 1 ⟨.resolveDevice, "gone"⟩, .lookupEnded 1 .classic,
        .adapterChecked 2 .poweredOff]
    granted Payload.extract as < 2 ^ 64 ∧
      announced Payload.extract as = [.canceled, .failed .adapterPoweredOff] ∧
      EventProtocol Payload.extract as := by
  intro as
  have few : granted Payload.extract as < 2 ^ 64 := by decide
  exact ⟨few, by decide, eventProtocol_of_granted_lt Payload.extract as few⟩

end BluetoothDiscovery.Coordinator
