import BluetoothDiscovery.Proofs.Observations.Changes
import BluetoothDiscovery.Proofs.Observations.Fold

/-!
# What look-ups and advertisements come to

What becomes of the row of an address, and which events are announced: for a look-up by
`register_of_unknown` and `register_of_known`, and for an advertisement by `Hearing`, which goes by
what was heard of the address before.
-/

namespace BluetoothDiscovery

variable {obs : List Observation} {c : Coordinator} {r : Run} {address : Address} {d e : Device}
  {rssi : Int16} {data : AdvertisementData}

/-! ### Look-ups -/

/-- A device whose address is new is announced as it is. -/
theorem register_of_unknown (new : c.store.get? e.address = none) :
    (c.register e).1.store.get? e.address = some e ∧ (c.register e).2 = [.discovered e] := by
  obtain ⟨row, outcome⟩ := DeviceStore.upsert_of_get?_eq_none new
  rw [fst_register]
  refine ⟨row, ?_⟩
  unfold Coordinator.register Coordinator.announce
  simp only [outcome, row]
  rfl

/-- A device whose address is known is merged into its row, which is announced if an announced
field changes. -/
theorem register_of_known (known : c.store.get? e.address = some d) :
    (c.register e).1.store.get? e.address = some (d.merge e) ∧
      (c.register e).2 = if (d.mergeChanges e).isEmpty then []
        else [.updated (d.merge e) (d.mergeChanges e)] := by
  obtain ⟨row, outcome⟩ := DeviceStore.upsert_of_get?_eq_some known
  rw [fst_register]
  refine ⟨row, ?_⟩
  unfold Coordinator.register Coordinator.announce
  simp only [outcome, row]
  split <;> rfl

theorem get?_register_of_ne (c : Coordinator) {b : Address} (h : b ≠ e.address) :
    (c.register e).1.store.get? b = c.store.get? b := by
  rw [fst_register]
  exact DeviceStore.get?_upsert_of_ne h

/-! ### Advertisements -/

theorem Describes.heardAlike {x : Device} {rs : List Resolution} {hs : List Advert}
    (h : Describes d rs hs) (hx : Describes x [] hs) : d.HeardAlike x where
  rssi := h.rssi.trans hx.rssi.symm
  manufacturerData := KeyedMap.ext_get? fun k =>
    (h.manufacturerData k).trans (hx.manufacturerData k).symm
  serviceData := KeyedMap.ext_get? fun k => (h.serviceData k).trans (hx.serviceData k).symm

/-- All that was heard is in the device list, too. -/
theorem Faithful.of_seen (h : Faithful c obs) (running : c.phase = .running r) {x : Device}
    (seen : r.sightings.get? address = some x) :
    x.address = address ∧ ∃ d, c.store.get? address = some d ∧ d.HeardAlike x ∧
      Describes d (lookUpsOf address obs) (advertsOf address obs) ∧
      Describes x [] (advertsOf address obs) := by
  obtain ⟨own, heard, described⟩ := (h.sighted r running).seen address x seen
  have mem := h.stored.mem_addresses.mpr (mem_of_advertsOf_ne_nil heard)
  obtain ⟨d, hd, rfl⟩ := DeviceStore.mem_addresses.mp mem
  have told := h.stored.describes d hd
  exact ⟨own, d, DeviceStore.get?_of_mem hd, told.heardAlike described, told, described⟩

/-- What an advertisement makes of the device list and which events announce it. -/
inductive Hearing (store : DeviceStore) (s : Sightings) (a : Address) (rssi : Int16)
    (data : AdvertisementData) : DeviceStore × List Event → Prop
  /-- The address is heard for the first time. -/
  | first {d : Device} (unseen : s.get? a = none)
      (row : (store.upsert (.ofAdvertisement a rssi data)).1.get? a = some d) :
      Hearing store s a rssi data
        ((store.upsert (.ofAdvertisement a rssi data)).1, [.discovered d])
  /-- Nothing is new. -/
  | silent {x : Device} (seen : s.get? a = some x)
      (same : (x.absorbChanges rssi data).isEmpty = true) : Hearing store s a rssi data (store, [])
  /-- There is a new service, so that all that was heard is put into the list. -/
  | service {x d : Device} (seen : s.get? a = some x) (own : x.address = a)
      (new : (x.absorbChanges rssi data).contains FieldSet.services = true)
      (row : (store.upsert (x.absorb rssi data)).1.get? a = some d) :
      Hearing store s a rssi data ((store.upsert (x.absorb rssi data)).1, [.discovered d])
  /-- Only other fields are new, and they are adopted. -/
  | update {x d : Device} (seen : s.get? a = some x) (own : x.address = a)
      (news : (x.absorbChanges rssi data).isEmpty = false)
      (quiet : (x.absorbChanges rssi data).contains FieldSet.services = false)
      (row : store.get? a = some d) :
      Hearing store s a rssi data
        (store.update (x.absorb rssi data) (x.absorbChanges rssi data),
          [.updated (d.adopt (x.absorb rssi data) (x.absorbChanges rssi data))
            (x.absorbChanges rssi data)])

/-- A store has a row for what was put into it. -/
theorem exists_row_upsert (s : DeviceStore) (e : Device) (h : e.address = address) :
    ∃ d, (s.upsert e).1.get? address = some d := by
  subst h
  cases hget : s.get? e.address with
  | none => exact ⟨_, (DeviceStore.upsert_of_get?_eq_none hget).1⟩
  | some d => exact ⟨_, (DeviceStore.upsert_of_get?_eq_some hget).1⟩

/-- What an advertisement comes to. -/
theorem Faithful.hearing (h : Faithful c obs) (running : c.phase = .running r) (address : Address)
    (rssi : Int16) (data : AdvertisementData) :
    Hearing c.store r.sightings address rssi data
      ((c.advertise r address rssi data).1.store, (c.advertise r address rssi data).2) := by
  unfold Coordinator.advertise Coordinator.announce
  -- `Sightings.observe` asks whether the address is known, whether anything is new, and whether a
  -- service is.
  cases seen : r.sightings.get? address with
  | none =>
    have own : (Device.ofAdvertisement address rssi data).address = address := rfl
    obtain ⟨d, row⟩ := exists_row_upsert c.store _ own
    simp only [Sightings.observe_of_unseen seen, Change.announcement, row]
    exact .first seen row
  | some x =>
    obtain ⟨own, d, row, -⟩ := h.of_seen running seen
    rw [Sightings.observe_of_seen seen]
    cases same : (x.absorbChanges rssi data).isEmpty with
    | true =>
      simp only [ite_true, Change.announcement]
      exact .silent seen same
    | false =>
      simp only [Bool.false_eq_true, ite_false, Change.announcement]
      cases new : (x.absorbChanges rssi data).contains FieldSet.services with
      | true =>
        obtain ⟨d', row'⟩ := exists_row_upsert c.store (x.absorb rssi data) own
        simp only [ite_true, row']
        exact .service seen own new row'
      | false =>
        have row' := DeviceStore.get?_update_self (x.absorb rssi data) (x.absorbChanges rssi data)
          own row
        simp only [Bool.false_eq_true, ite_false, row']
        exact .update seen own same new row

/-- Only the address that was heard can have another row. -/
theorem Hearing.get?_of_ne {s : DeviceStore} {seen : Sightings} {out : DeviceStore × List Event}
    (h : Hearing s seen address rssi data out) {b : Address} (other : b ≠ address) :
    out.1.get? b = s.get? b := by
  cases h with
  | first => exact DeviceStore.get?_upsert_of_ne other
  | silent => rfl
  | @service x _ _ own =>
    have same : (x.absorb rssi data).address = address := own
    exact DeviceStore.get?_upsert_of_ne (by rwa [same])
  | @update x _ _ own =>
    have same : (x.absorb rssi data).address = address := own
    rw [DeviceStore.get?_update, same, if_neg other]

end BluetoothDiscovery
