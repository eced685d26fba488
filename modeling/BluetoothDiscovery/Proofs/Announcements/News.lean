import BluetoothDiscovery.Proofs.Observations.Hearing

/-!
# Following the events

A consumer that never asks for the device list can keep one of its own: the last event about an
address carries its device.  `news` are the events since the last run began and `lastTold` is the
device that the last of them about an address carries.

What the consumer has of a device is what is stored, but for the class of the device and whether it
was looked up (`follows_events`).  Those two fields are not among the announced ones, so that a
look-up which changes nothing else goes unannounced.  `Unannounced` says which look-ups these are:
the consumer loses track of the device list with the first of them, and not before.
-/

namespace BluetoothDiscovery

open Coordinator (Moment history after)

variable {extract : Payload → AdvertisementData} {c : Coordinator} {r : Run} {action : Action}
  {a : Address} {d e : Device} {events more : List Event}

/-! ### What was told -/

/-- The device that an event carries, if it is the one at an address. -/
def Event.tellsOf? (a : Address) (e : Event) : Option Device := e.device?.filter (·.address = a)

/-- The device at an address as the last event about it has it. -/
def lastTold (a : Address) (events : List Event) : Option Device := latest (Event.tellsOf? a) events

/-- Events that carry no device of the address are passed over. -/
theorem lastTold_append_of_silent (silent : ∀ e ∈ more, Event.tellsOf? a e = none) :
    lastTold a (events ++ more) = lastTold a events := by
  have none : latest (Event.tellsOf? a) more = none := by
    unfold latest
    rw [List.filterMap_eq_nil_iff.mpr silent]
    rfl
  unfold lastTold
  rw [latest_append, none, Option.none_or]

theorem lastTold_concat_of_tells {e : Event} (h : e.tellsOf? a = some d) :
    lastTold a (events ++ [e]) = some d := by
  unfold lastTold
  rw [latest_concat, h]
  rfl

theorem tellsOf?_eq_none_of_bare {e : Event} (h : e.device? = none) : e.tellsOf? a = none := by
  unfold Event.tellsOf?
  rw [h]
  rfl

theorem tellsOf?_of_device? {e : Event} (h : e.device? = some d) (address : d.address = a) :
    e.tellsOf? a = some d := by
  unfold Event.tellsOf?
  rw [h]
  exact Option.filter_some_pos (by simpa using address)

theorem tellsOf?_of_ne {e : Event} (h : e.device? = some d) (other : d.address ≠ a) :
    e.tellsOf? a = none := by
  unfold Event.tellsOf?
  rw [h]
  simpa using other

/-- The moments since the last run began. -/
def lately (extract : Payload → AdvertisementData) (as : List Action) : List Moment :=
  (history extract as).foldl (fun ms m => if m.begins then [] else ms ++ [m]) []

/-- The events since the last run began. -/
def news (extract : Payload → AdvertisementData) (as : List Action) : List Event :=
  (lately extract as).flatMap (·.events extract)

theorem lately_concat (as : List Action) (action : Action) :
    lately extract (as ++ [action]) =
      if Moment.begins ⟨after extract as, action⟩ then []
      else lately extract as ++ [⟨after extract as, action⟩] := by
  unfold lately
  rw [Coordinator.history_concat, List.foldl_append]
  rfl

theorem news_concat {as : List Action} (h : Moment.begins ⟨after extract as, action⟩ = false) :
    news extract (as ++ [action]) =
      news extract as ++ ((after extract as).step extract action).2 := by
  unfold news
  rw [lately_concat, if_neg (Bool.eq_false_iff.mp h), List.flatMap_append, List.flatMap_singleton]
  rfl

/-! ### What is not announced -/

/-- Two devices say the same but for the class and whether the device was looked up. -/
def Device.SameButQuiet (told d : Device) : Prop :=
  d = { told with classOfDevice := d.classOfDevice, resolved := d.resolved }

theorem Device.SameButQuiet.refl (d : Device) : d.SameButQuiet d := rfl

theorem Device.SameButQuiet.trans {x y z : Device} (h : x.SameButQuiet y) (h' : y.SameButQuiet z) :
    x.SameButQuiet z := by
  unfold SameButQuiet at h h' ⊢
  rw [h', h]

theorem sameButQuiet_merge (silent : ∀ f : AnnouncedField, f.SameIn (d.merge e) d) :
    d.SameButQuiet (d.merge e) := by
  unfold Device.SameButQuiet
  rw [Device.merge_of_silent silent]

/-- Whether an action changes the device at an address without an event: it is looked up, nothing is
new in an announced field, and it was not looked up before or has another class now. -/
def Unannounced (c : Coordinator) (action : Action) (a : Address) : Prop :=
  ∃ r resolution d, c.phase = .running r ∧ action = .resolved r.id resolution ∧
    resolution.identity.address = a ∧ c.store.get? a = some d ∧
    (∀ f : AnnouncedField, f.SameIn (d.merge (r.deviceOf resolution)) d) ∧
    (d.resolved = false ∨ (resolution.identity.classOfDevice ≠ 0 ∧
      resolution.identity.classOfDevice ≠ d.classOfDevice))

/-- What a look-up says of the class, and that the device was looked up, is taken as it is. -/
theorem quiet_deviceOf (r : Run) (resolution : Resolution) :
    (r.deviceOf resolution).classOfDevice = resolution.identity.classOfDevice ∧
      (r.deviceOf resolution).resolved = true := by
  rcases deviceOf_cases r resolution with same | ⟨x, -, taken⟩
  · rw [same]
    exact ⟨rfl, rfl⟩
  · rw [taken.fields]
    exact ⟨rfl, rfl⟩

/-- A look-up that announces nothing leaves its row as it is unless it is an unannounced one. -/
theorem merge_eq_self_iff_of_silent {resolution : Resolution}
    (silent : ∀ f : AnnouncedField, f.SameIn (d.merge (r.deviceOf resolution)) d) :
    d.merge (r.deviceOf resolution) = d ↔
      d.resolved = true ∧ (resolution.identity.classOfDevice = 0 ∨
        resolution.identity.classOfDevice = d.classOfDevice) := by
  obtain ⟨hclass, hresolved⟩ := quiet_deviceOf r resolution
  -- All that can change without an announcement is the class and the mark of a look-up.
  rw [Device.merge_of_silent silent, hclass, hresolved, Bool.or_true]
  constructor
  · intro same
    have resolved : true = d.resolved := congrArg Device.resolved same
    refine ⟨resolved.symm, ?_⟩
    have class_eq := congrArg Device.classOfDevice same
    simp only at class_eq
    split at class_eq
    next none => exact .inl none
    next => exact .inr class_eq
  · rintro ⟨resolved, class_eq⟩
    have kept : (if resolution.identity.classOfDevice = 0 then d.classOfDevice
        else resolution.identity.classOfDevice) = d.classOfDevice := by
      split
      · rfl
      next told => exact class_eq.resolve_left told
    rw [kept, ← resolved]

/-! ### One step -/

/-- An event that carries a row tells of the address of the row and of no other. -/
theorem Event.tellsOf?_of_row {s : DeviceStore} {b : Address} {x : Event}
    (row : s.get? b = some d) (carried : x.device? = some d) :
    x.tellsOf? b = some d ∧ ∀ a, a ≠ b → x.tellsOf? a = none := by
  have own := DeviceStore.address_of_get? row
  exact ⟨tellsOf?_of_device? carried own,
    fun a other => tellsOf?_of_ne carried fun h => other (h.symm.trans own)⟩

/-- What a step makes of the row of an address.  The events about the address carry the new row, or
there are none; then the row is the same, unless the step goes unannounced. -/
inductive RowStep (unannounced : Prop) (a : Address) :
    Option Device → Option Device → List Event → Prop
  | told {row : Option Device} {d : Device} {x : Event} (carries : x.tellsOf? a = some d) :
      RowStep unannounced a row (some d) [x]
  | kept {row : Option Device} {events : List Event}
      (silent : ∀ x ∈ events, x.tellsOf? a = none) : RowStep unannounced a row row events
  | untold {d e : Device} {events : List Event} (silent : ∀ x ∈ events, x.tellsOf? a = none)
      (quiet : d.SameButQuiet e) (missed : unannounced) :
      RowStep unannounced a (some d) (some e) events

namespace RowStep

variable {p : Prop} {row row' : Option Device}

theorem of_same (same : row' = row) (silent : ∀ x ∈ events, x.tellsOf? a = none) :
    RowStep p a row row' events := by
  rw [same]
  exact .kept silent

/-- A step that changes the row of one address at most, and announces it. -/
theorem of_carried {s s' : DeviceStore} {b : Address} {x : Event} (here : s'.get? b = some d)
    (carries : x.device? = some d) (elsewhere : ∀ a, a ≠ b → s'.get? a = s.get? a) (a : Address) :
    RowStep p a (s.get? a) (s'.get? a) [x] := by
  obtain ⟨tells, silent⟩ := Event.tellsOf?_of_row here carries
  by_cases same : a = b
  · rw [same, here]
    exact .told tells
  · exact .of_same (elsewhere a same) (by simpa using silent a same)

/-- What was last told keeps up with the row but for what is not announced. -/
theorem sameButQuiet (h : RowStep p a row row' more)
    (alike : Option.Rel Device.SameButQuiet (lastTold a events) row) :
    Option.Rel Device.SameButQuiet (lastTold a (events ++ more)) row' := by
  cases h with
  | told carries =>
    rw [lastTold_concat_of_tells carries]
    exact .some (.refl _)
  | kept silent =>
    rw [lastTold_append_of_silent silent]
    exact alike
  | untold silent quiet =>
    rw [lastTold_append_of_silent silent]
    generalize lastTold a events = told at alike ⊢
    cases alike with
    | some alike => exact .some (alike.trans quiet)

/-- What was last told keeps up with the row in a step that does not go unannounced. -/
theorem upToDate (h : RowStep p a row row' more) (announced : ¬ p)
    (same : lastTold a events = row) : lastTold a (events ++ more) = row' := by
  cases h with
  | told carries => exact lastTold_concat_of_tells carries
  | kept silent =>
    rw [lastTold_append_of_silent silent]
    exact same
  | untold _ _ missed => exact absurd missed announced

end RowStep

theorem rowStep_register (running : c.phase = .running r) (resolution : Resolution) (a : Address) :
    RowStep (Unannounced c (.resolved r.id resolution) a) a (c.store.get? a)
      ((c.register (r.deviceOf resolution)).1.store.get? a)
      (c.register (r.deviceOf resolution)).2 := by
  have own := address_deviceOf r resolution
  have elsewhere : ∀ a, a ≠ (r.deviceOf resolution).address →
      (c.register (r.deviceOf resolution)).1.store.get? a = c.store.get? a :=
    fun a => get?_register_of_ne c
  cases known : c.store.get? (r.deviceOf resolution).address with
  | none =>
    obtain ⟨here, events⟩ := register_of_unknown known
    rw [events]
    exact .of_carried here rfl elsewhere a
  | some d =>
    obtain ⟨here, events⟩ := register_of_known known
    rw [events]
    split
    next none =>
      rw [Device.isEmpty_mergeChanges_iff] at none
      by_cases h : a = (r.deviceOf resolution).address
      · subst h
        rw [here, known]
        -- The row is what it was, or else this is one of the look-ups that go unannounced.
        by_cases same : d.merge (r.deviceOf resolution) = d
        · exact .of_same (congrArg some same) (by simp)
        · rw [merge_eq_self_iff_of_silent none, not_and_or, not_or, Bool.not_eq_true] at same
          have missed : Unannounced c (.resolved r.id resolution) (r.deviceOf resolution).address :=
            ⟨r, resolution, d, running, rfl, own.symm, known, none, same⟩
          exact .untold (by simp) (sameButQuiet_merge none) missed
      · exact .of_same (elsewhere a h) (by simp)
    next => exact .of_carried here rfl elsewhere a

theorem Hearing.rowStep {s : DeviceStore} {seen : Sightings} {b : Address} {rssi : Int16}
    {data : AdvertisementData} {out : DeviceStore × List Event} (p : Prop)
    (h : Hearing s seen b rssi data out) (a : Address) :
    RowStep p a (s.get? a) (out.1.get? a) out.2 := by
  have elsewhere : ∀ a, a ≠ b → out.1.get? a = s.get? a := fun a => h.get?_of_ne
  cases h with
  | first _ here => exact .of_carried here rfl elsewhere a
  | silent => exact .kept (by simp)
  | service _ _ _ here => exact .of_carried here rfl elsewhere a
  | @update x _ _ own _ _ known =>
    have same : (x.absorb rssi data).address = b := own
    have here := DeviceStore.get?_update_self _ (x.absorbChanges rssi data) same known
    exact .of_carried here rfl elsewhere a

/-- What a step of a run makes of a row. -/
theorem Faithful.rowStep {obs : List Observation} (h : Faithful c obs)
    (going : Moment.begins ⟨c, action⟩ = false) (a : Address) :
    RowStep (Unannounced c action a) a (c.store.get? a) ((c.step extract action).1.store.get? a)
      (c.step extract action).2 := by
  have intake := intake_step extract c action
  generalize c.step extract action = out at intake ⊢
  cases intake with
  | nothing store _ silent =>
    rw [store]
    exact .kept fun x hx => tellsOf?_eq_none_of_bare (silent x hx)
  | began starting check =>
    subst check
    have begins := Coordinator.isStarting_iff.mpr ⟨_, starting⟩
    exact absurd begins (Bool.eq_false_iff.mp going)
  | lookedUp running resolution answer =>
    subst answer
    exact rowStep_register running resolution a
  | heard running report =>
    exact (h.hearing running _ _ _).rowStep _ a

/-- A device changes unannounced without a word, and it does change. -/
theorem Unannounced.step (h : Unannounced c action a) (extract : Payload → AdvertisementData) :
    (c.step extract action).2 = [] ∧
      (c.step extract action).1.store.get? a ≠ c.store.get? a := by
  obtain ⟨r, resolution, d, running, rfl, rfl, known, silent, changes⟩ := h
  have taken : c.step extract (.resolved r.id resolution) = c.register (r.deviceOf resolution) :=
    Coordinator.withRun_of_running running _
  rw [← address_deviceOf r resolution] at known ⊢
  obtain ⟨here, events⟩ := register_of_known known
  rw [taken, events, here, known]
  refine ⟨if_pos (Device.isEmpty_mergeChanges_iff.mpr silent), fun same => ?_⟩
  obtain ⟨resolved, class_eq⟩ :=
    (merge_eq_self_iff_of_silent silent).mp (Option.some.inj same)
  rcases changes with unresolved | ⟨told, other⟩
  · rw [resolved] at unresolved
    cases unresolved
  · exact class_eq.elim told other

/-! ### All steps -/

/-- Whether the last event about an address has what is stored of it now. -/
def UpToDate (extract : Payload → AdvertisementData) (as : List Action) (a : Address) : Prop :=
  lastTold a (news extract as) = (after extract as).store.get? a

/-- A run begins with no devices and no news. -/
theorem news_of_begins {as : List Action}
    (h : Moment.begins ⟨after extract as, action⟩ = true) (a : Address) :
    lastTold a (news extract (as ++ [action])) = none ∧
      (after extract (as ++ [action])).store.get? a = none := by
  constructor
  · unfold news
    rw [lately_concat, if_pos h]
    rfl
  · rw [Coordinator.after_concat, store_of_begins h]
    rfl

/-- What was last told of a device differs at most in what goes unannounced. -/
theorem sameButQuiet_lastTold (extract : Payload → AdvertisementData) (as : List Action)
    (a : Address) :
    Option.Rel Device.SameButQuiet (lastTold a (news extract as))
      ((after extract as).store.get? a) := by
  induction as using List.reverseRecOn with
  | nil => exact .none
  | append_singleton as action ih =>
    cases begins : Moment.begins ⟨after extract as, action⟩ with
    | true =>
      obtain ⟨told, row⟩ := news_of_begins begins a
      rw [told, row]
      exact .none
    | false =>
      rw [Coordinator.after_concat, news_concat begins]
      exact ((faithful_after extract as).rowStep begins a).sameButQuiet ih

/-- A consumer that is up to date stays so unless a device changes unannounced. -/
theorem UpToDate.concat_iff {as : List Action} (h : UpToDate extract as a) (action : Action) :
    UpToDate extract (as ++ [action]) a ↔ ¬ Unannounced (after extract as) action a := by
  unfold UpToDate at h ⊢
  cases begins : Moment.begins ⟨after extract as, action⟩ with
  | true =>
    obtain ⟨told, row⟩ := news_of_begins begins a
    rw [told, row]
    refine iff_of_true rfl ?_
    rintro ⟨_, _, _, _, rfl, _⟩
    cases begins
  | false =>
    rw [Coordinator.after_concat, news_concat begins]
    constructor
    · intro same missed
      obtain ⟨silent, changed⟩ := missed.step extract
      rw [silent, List.append_nil, h] at same
      exact changed same.symm
    · exact fun announced => ((faithful_after extract as).rowStep begins a).upToDate announced h

theorem upToDate_of_announced (extract : Payload → AdvertisementData) (as : List Action)
    (announced : ∀ m ∈ lately extract as, ¬ Unannounced m.coordinator m.action a) :
    UpToDate extract as a := by
  induction as using List.reverseRecOn with
  | nil => rfl
  | append_singleton as action ih =>
    cases begins : Moment.begins ⟨after extract as, action⟩ with
    | true =>
      obtain ⟨told, row⟩ := news_of_begins begins a
      exact told.trans row.symm
    | false =>
      rw [lately_concat, if_neg (Bool.eq_false_iff.mp begins)] at announced
      simp only [List.forall_mem_append, List.forall_mem_singleton] at announced
      exact ((ih announced.1).concat_iff action).mpr announced.2

/-- What a consumer has of a device from the events is what is stored of it, but for its class and
whether it was looked up.  It has these two as well until a look-up changes them and nothing else:
such a look-up goes unannounced, and the consumer is no longer up to date. -/
theorem follows_events (extract : Payload → AdvertisementData) (as : List Action) (a : Address) :
    Option.Rel Device.SameButQuiet (lastTold a (news extract as))
        ((after extract as).store.get? a) ∧
      (∀ action, UpToDate extract as a →
        (UpToDate extract (as ++ [action]) a ↔ ¬ Unannounced (after extract as) action a)) ∧
      ((∀ m ∈ lately extract as, ¬ Unannounced m.coordinator m.action a) →
        UpToDate extract as a) :=
  ⟨sameButQuiet_lastTold extract as a, fun action h => h.concat_iff action,
    upToDate_of_announced extract as⟩

/-- An unpaired device is heard, and then looked up under the name that it advertised.  The stored
device has the class that was looked up, and no event has told it. -/
theorem not_upToDate_of_unpaired :
    let a : Address := ⟨7, by decide⟩
    let as : List Action := [.start Methods.lowEnergy, .adapterChecked 1 .ready,
      .watcherOpened 1, .advertised 1 ⟨a, -40, .decoded { localName := some "Band" }⟩,
      .enumerated 1 .lowEnergy (.ok [⟨"a", .lowEnergy⟩]),
      .resolved 1 ⟨.lowEnergy, ⟨a, "Band", 1028, false⟩, none⟩]
    ¬ UpToDate Payload.extract as a := by
  intro a as same
  have told : (lastTold a (news Payload.extract as)).map Device.classOfDevice = some 0 := by decide
  have stored : ((after Payload.extract as).store.get? a).map Device.classOfDevice = some 1028 := by
    decide
  rw [same, stored] at told
  cases told

end BluetoothDiscovery
