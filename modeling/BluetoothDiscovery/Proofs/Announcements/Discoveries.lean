import BluetoothDiscovery.Proofs.Announcements.News

/-!
# Discoveries come first

An address gets into the device list in two ways: its device is looked up, or it is heard.  Whether
it is new is decided by the device list in the first case and by the sightings in the second, and an
address can be old to the one and new to the other.  A discovery may therefore be announced again.

What holds nevertheless is the invariant `Introduced`: the addresses of the device list are those
that were announced as discovered, in the order in which this was done first, and an update is
announced only behind a discovery of its address.
-/

namespace BluetoothDiscovery

open Coordinator (Moment after)

variable {extract : Payload → AdvertisementData} {c : Coordinator} {action : Action}
  {s s' : DeviceStore} {events more : List Event} {a : Address} {d : Device}

/-! ### Discoveries -/

/-- The address that an event announces as discovered. -/
def Event.discovery? : Event → Option Address
  | .discovered d => some d.address
  | _ => none

/-- The addresses that events announce as discovered, in the order of the events. -/
def discoveries (events : List Event) : List Address := events.filterMap Event.discovery?

theorem discoveries_concat_discovered (events : List Event) (d : Device) :
    discoveries (events ++ [.discovered d]) = discoveries events ++ [d.address] := by
  unfold discoveries
  rw [List.filterMap_append]
  rfl

theorem discoveries_concat_updated (events : List Event) (d : Device) (changes : FieldSet) :
    discoveries (events ++ [.updated d changes]) = discoveries events := by
  unfold discoveries
  rw [List.filterMap_append]
  exact List.append_nil _

theorem discoveries_concat_of_bare (events : List Event) {e : Event} (bare : e.device? = none) :
    discoveries (events ++ [e]) = discoveries events := by
  unfold discoveries
  rw [List.filterMap_append]
  cases e with
  | discovered d => cases bare
  | _ => exact List.append_nil _

/-! ### The invariant -/

/-- The device list and the events of a run introduce addresses in the same order, and nothing is
updated before it was introduced. -/
structure Introduced (s : DeviceStore) (events : List Event) : Prop where
  addresses : (discoveries events).eraseDups = s.addresses
  update_follows (before : List Event) (d : Device) (changes : FieldSet) :
    before ++ [.updated d changes] <+: events → d.address ∈ discoveries before

namespace Introduced

theorem empty : Introduced ∅ [] where
  addresses := rfl
  update_follows before d changes h := by
    have nothing : before ++ [Event.updated d changes] = [] := List.prefix_nil.mp h
    simp at nothing

theorem mem_discoveries_iff (h : Introduced s events) :
    a ∈ discoveries events ↔ a ∈ s.addresses := by
  rw [← h.addresses, List.mem_eraseDups]

/-- One more event leaves updates behind discoveries, unless it is itself an update of an address
that was not introduced. -/
theorem update_follows_concat (h : Introduced s events) {e : Event}
    (follows : ∀ d changes, e = .updated d changes → d.address ∈ discoveries events)
    (before : List Event) (d : Device) (changes : FieldSet)
    (split : before ++ [.updated d changes] <+: events ++ [e]) :
    d.address ∈ discoveries before := by
  rcases List.prefix_concat_iff.mp split with last | earlier
  · obtain ⟨rfl, same⟩ := List.append_inj' last rfl
    exact follows d changes (List.singleton_inj.mp same).symm
  · exact h.update_follows before d changes earlier

/-- Events that carry no device introduce none. -/
theorem append_of_bare (h : Introduced s events) (bare : ∀ e ∈ more, e.device? = none) :
    Introduced s (events ++ more) := by
  induction more generalizing events with
  | nil =>
    rw [List.append_nil]
    exact h
  | cons e more ih =>
    have first : e.device? = none := bare e List.mem_cons_self
    have concat : Introduced s (events ++ [e]) := by
      constructor
      · rw [discoveries_concat_of_bare events first]
        exact h.addresses
      · refine h.update_follows_concat fun d changes same => ?_
        rw [same] at first
        cases first
    rw [List.append_cons]
    exact ih concat fun x hx => bare x (List.mem_cons_of_mem e hx)

/-- A device that is discovered is introduced, if it was not before. -/
theorem discovered (h : Introduced s events) (d : Device)
    (rows : s'.addresses =
      if d.address ∈ s.addresses then s.addresses else s.addresses ++ [d.address]) :
    Introduced s' (events ++ [.discovered d]) := by
  constructor
  · rw [discoveries_concat_discovered, rows]
    split
    next known =>
      rw [eraseDups_concat_of_mem (h.mem_discoveries_iff.mpr known)]
      exact h.addresses
    next new =>
      rw [eraseDups_concat_of_not_mem (mt h.mem_discoveries_iff.mp new), h.addresses]
  · refine h.update_follows_concat fun d' changes same => ?_
    cases same

/-- A device that is updated was introduced before. -/
theorem updated (h : Introduced s events) (d : Device) (changes : FieldSet)
    (known : d.address ∈ s.addresses) (rows : s'.addresses = s.addresses) :
    Introduced s' (events ++ [.updated d changes]) := by
  constructor
  · rw [discoveries_concat_updated, rows]
    exact h.addresses
  · refine h.update_follows_concat fun d' changes' same => ?_
    cases same
    exact h.mem_discoveries_iff.mpr known

/-- Only the addresses of the device list count. -/
theorem of_addresses (h : Introduced s events) (same : s'.addresses = s.addresses) :
    Introduced s' events :=
  ⟨same ▸ h.addresses, h.update_follows⟩

/-! ### Steps -/

theorem register (h : Introduced c.store events) (e : Device) :
    Introduced (c.register e).1.store (events ++ (c.register e).2) := by
  have rows := DeviceStore.addresses_upsert c.store e
  have store : (c.register e).1.store = (c.store.upsert e).1 := by rw [fst_register]
  rw [store]
  cases known : c.store.get? e.address with
  | none =>
    rw [(register_of_unknown known).2]
    exact h.discovered e rows
  | some d =>
    have mem : e.address ∈ c.store.addresses := DeviceStore.mem_addresses_of_get? known
    have address : d.address = e.address := DeviceStore.address_of_get? known
    rw [if_pos mem] at rows
    rw [(register_of_known known).2]
    split
    · rw [List.append_nil]
      exact h.of_addresses rows
    · refine h.updated (d.merge e) _ ?_ rows
      show d.address ∈ c.store.addresses
      rwa [address]

theorem hearing (h : Introduced s events) {seen : Sightings} {rssi : Int16}
    {data : AdvertisementData} {out : DeviceStore × List Event}
    (hearing : Hearing s seen a rssi data out) : Introduced out.1 (events ++ out.2) := by
  -- An address is announced as discovered when it is first heard, and again with new services.
  cases hearing with
  | @first d _ row =>
    refine h.discovered d ?_
    rw [DeviceStore.address_of_get? row]
    exact DeviceStore.addresses_upsert s (.ofAdvertisement a rssi data)
  | silent =>
    rw [List.append_nil]
    exact h
  | @service x d _ own _ row =>
    have same : (x.absorb rssi data).address = a := own
    have rows := DeviceStore.addresses_upsert s (x.absorb rssi data)
    rw [same] at rows
    refine h.discovered d ?_
    rwa [DeviceStore.address_of_get? row]
  | @update x d _ _ _ _ row =>
    refine h.updated _ _ ?_ (DeviceStore.addresses_update s _ _)
    show d.address ∈ s.addresses
    rw [DeviceStore.address_of_get? row]
    exact DeviceStore.mem_addresses_of_get? row

/-- A step of a run keeps the device list and the events together. -/
theorem step {obs : List Observation} (h : Introduced c.store events) (faithful : Faithful c obs)
    (going : Moment.begins ⟨c, action⟩ = false) :
    Introduced (c.step extract action).1.store (events ++ (c.step extract action).2) := by
  have intake := intake_step extract c action
  generalize c.step extract action = out at intake ⊢
  cases intake with
  | nothing store _ silent =>
    rw [store]
    exact h.append_of_bare silent
  | began starting check =>
    subst check
    have begins := Coordinator.isStarting_iff.mpr ⟨_, starting⟩
    exact absurd begins (Bool.eq_false_iff.mp going)
  | lookedUp running resolution => exact h.register _
  | heard running report => exact h.hearing (faithful.hearing running _ _ _)

end Introduced

/-- A run introduces nothing as it begins, and then one step after the other keeps the invariant. -/
theorem introduced_news (extract : Payload → AdvertisementData) (as : List Action) :
    Introduced (after extract as).store (news extract as) := by
  induction as using List.reverseRecOn with
  | nil => exact .empty
  | append_singleton as action ih =>
    cases begins : Moment.begins ⟨after extract as, action⟩ with
    | true =>
      have none : news extract (as ++ [action]) = [] := by
        unfold news
        rw [lately_concat, if_pos begins]
        rfl
      rw [Coordinator.after_concat, store_of_begins begins, none]
      exact .empty
    | false =>
      rw [Coordinator.after_concat, news_concat begins]
      exact ih.step (faithful_after extract as) begins

/-! ### The order of announcements -/

/-- **Discovery precedes update.**  In the events since a run began, at any moment:
the addresses that were discovered are those of the device list, and they stand there in the order
of their first discovery; an update comes behind a discovery of its address; and the first event
that carries a device of an address is a discovery. -/
theorem discovery_precedes_update (extract : Payload → AdvertisementData) (as : List Action) :
    (∀ a, a ∈ discoveries (news extract as) ↔
        a ∈ (after extract as).devices.map Device.address) ∧
      (discoveries (news extract as)).eraseDups =
        (after extract as).devices.map Device.address ∧
      (∀ before d changes, before ++ [.updated d changes] <+: news extract as →
        d.address ∈ discoveries before) ∧
      ∀ before e d, before ++ [e] <+: news extract as → e.device? = some d →
        (∀ x ∈ before, x.tellsOf? d.address = none) → e = .discovered d := by
  have introduced := introduced_news extract as
  refine ⟨fun a => introduced.mem_discoveries_iff, introduced.addresses,
    introduced.update_follows, fun before e d split carries first => ?_⟩
  cases e with
  | discovered d' =>
    cases carries
    rfl
  | updated d' changes =>
    cases carries
    -- An update has a discovery before it, which is an event about the address as well.
    have mem := introduced.update_follows before d changes split
    obtain ⟨x, hx, told⟩ := List.mem_filterMap.mp mem
    cases x with
    | discovered d₀ =>
      have address : d₀.address = d.address := Option.some.inj told
      have tells := tellsOf?_of_device? (e := .discovered d₀) rfl address
      rw [first _ hx] at tells
      cases tells
    | _ => cases told
  | failed _ => cases carries
  | finished => cases carries
  | canceled => cases carries

/-- A device is looked up, then heard for the first time, and then heard with another signal
strength: it is discovered twice and updated once. -/
example :
    let a : Address := ⟨7, by decide⟩
    let heard (rssi : Int16) : Action := .advertised 1 ⟨a, rssi, .decoded {}⟩
    let as : List Action := [.start Methods.lowEnergy, .adapterChecked 1 .ready,
      .resolved 1 ⟨.lowEnergy, ⟨a, "Headset", 1028, false⟩, none⟩, heard (-40), heard (-50)]
    discoveries (news Payload.extract as) = [a, a] ∧ (news Payload.extract as).length = 3 ∧
      (after Payload.extract as).devices.map Device.address = [a] := by
  decide

end BluetoothDiscovery
