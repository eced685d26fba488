import BluetoothDiscovery.Proofs.Observations.Hearing
import BluetoothDiscovery.Proofs.Observations.Names

/-!
# What an advertisement leaves alone

An advertisement is about its sender: it leaves all other rows as they are, and every row in its
place (`advertisement_changes`).  Of the row of its sender it changes what it carries.  That is so
by what a row has to describe before and after (`Describes.gains`), for everything but the name.

A name that is not carried can change all the same.  With a new service, all that was heard of the
sender is put into the device list, and so is the name that was advertised last, in the place of one
that was looked up since.  `PutsBack` says when this happens.
-/

namespace BluetoothDiscovery

open Coordinator (after)

variable {extract : Payload → AdvertisementData} {obs : List Observation} {c : Coordinator}
  {r : Run} {a : Address} {d d' x : Device} {rs : List Resolution} {hs : List Advert}
  {rssi : Int16} {data : AdvertisementData} {name : String}

/-! ### Other fields than the name -/

/-- What an advertisement makes of a device, but for the name. -/
structure Device.Gains (d : Device) (heard : Advert) (d' : Device) : Prop where
  classOfDevice : d'.classOfDevice = d.classOfDevice
  resolved : d'.resolved = d.resolved
  configuration : d'.configuration = d.configuration ∪ Configuration.lowEnergy
  rssi : d'.rssi = some heard.rssi
  services : ∀ u, u ∈ d'.services.toList ↔ u ∈ d.services.toList ∨ u ∈ heard.data.services
  manufacturerData : ∀ k, d'.manufacturerData.get? k =
    (heard.data.manufacturerData.get? k).or (d.manufacturerData.get? k)
  serviceData : ∀ k, d'.serviceData.get? k =
    (heard.data.serviceData.get? k).or (d.serviceData.get? k)

/-- What was observed before and what is observed now settle what changes. -/
theorem Describes.gains {heard : Advert} (h : Describes d rs hs)
    (h' : Describes d' rs (hs ++ [heard])) : d.Gains heard d' where
  classOfDevice := h'.classOfDevice.trans h.classOfDevice.symm
  resolved := h'.resolved.trans h.resolved.symm
  configuration := by
    rw [h'.configuration, h.configuration, ← radios_lowEnergy, radios_union,
      not_isEmpty_of_ne_nil (by simp)]
    simp
  rssi := by
    rw [h'.rssi, List.getLast?_concat]
    rfl
  services u := by rw [h'.services, h.services, exists_mem_concat_advert, or_assoc]
  manufacturerData k := by rw [h'.manufacturerData, h.manufacturerData, latest_concat]
  serviceData k := by rw [h'.serviceData, h.serviceData, latest_concat]

/-! ### Names -/

/-- Whether an advertisement without a name has the name put back that was advertised last: it
brings a service that was not advertised before. -/
structure PutsBack (obs : List Observation) (a : Address) (data : AdvertisementData)
    (name : String) : Prop where
  nameless : data.name? = none
  last : heardName a obs = some name
  service : ∃ u ∈ data.services, ∀ h ∈ advertsOf a obs, u ∉ h.data.services

/-- What an advertisement makes of a name: it stays, or is replaced by the one that is carried, or
by the one that is put back if there is one. -/
structure Renamed (obs : List Observation) (a : Address) (data : AdvertisementData)
    (name name' : String) : Prop where
  kept_or_replaced : name' = name ∨ data.name? = some name' ∨ PutsBack obs a data name'
  eq_of_putsBack : ∀ back, PutsBack obs a data back → name' = back

theorem Renamed.of_not_putsBack {name' : String} (h : name' = name ∨ data.name? = some name')
    (none : ∀ back, ¬ PutsBack obs a data back) : Renamed obs a data name name' where
  kept_or_replaced := h.imp_right .inl
  eq_of_putsBack back h := absurd h (none back)

/-- A service is announced if it was not advertised before. -/
theorem contains_services_iff (hx : Describes x [] hs) (rssi : Int16) :
    (x.absorbChanges rssi data).contains FieldSet.services = true ↔
      ∃ u ∈ data.services, ∀ h ∈ hs, u ∉ h.data.services := by
  have grows := Device.contains_absorbChanges_iff x rssi data .services
  refine grows.trans ?_
  have same : AnnouncedField.SameIn (x.absorb rssi data) x .services ↔
      ∀ u ∈ data.services, u ∈ x.services.toList := DistinctList.insertAll_eq_self_iff
  rw [same]
  simp only [hx.mem_services_iff, not_forall, not_exists, not_and, exists_prop]

/-- A name that is told takes the place of any other. -/
theorem eq_or_told (h : name = data.name?.getD d.name) :
    name = d.name ∨ data.name? = some name := by
  cases told : data.name? with
  | none =>
    rw [told] at h
    exact .inl h
  | some other =>
    rw [told] at h
    exact .inr (congrArg some h.symm)

/-- A device takes the name that is told, else the one that `e` has, else it keeps its own. -/
theorem merge_name_of_told {e : Device} {before : String} (h : e.name = data.name?.getD before) :
    (d.merge e).name = data.name?.getD (if before.isEmpty then d.name else before) := by
  show (if e.name.isEmpty then d.name else e.name) = _
  rw [h]
  cases told : data.name? with
  | none => rfl
  | some other =>
    have nonempty : other.isEmpty = false := by
      simpa using AdvertisementData.ne_empty_of_name? told
    rw [Option.getD_some, nonempty]
    rfl

/-- All that was heard is put into the list when a service is new. -/
theorem renamed_merge_absorb (d : Device) (rssi : Int16) (last : x.name = (heardName a obs).getD "")
    (service : ∃ u ∈ data.services, ∀ h ∈ advertsOf a obs, u ∉ h.data.services) :
    Renamed obs a data d.name (d.merge (x.absorb rssi data)).name := by
  rw [merge_name_of_told (Device.absorb_name x rssi data), last]
  cases told : data.name? with
  | some other =>
    refine .of_not_putsBack (.inr told) fun name back => ?_
    rw [back.nameless] at told
    cases told
  | none =>
    -- Nothing is told, so that it depends on whether a name was ever advertised.
    cases heard : heardName a obs with
    | none =>
      refine .of_not_putsBack (.inl rfl) fun name back => ?_
      rw [back.last] at heard
      cases heard
    | some other =>
      have nonempty : other.isEmpty = false := by simpa using ne_empty_of_heardName heard
      simp only [Option.getD_some, Option.getD_none, nonempty, Bool.false_eq_true, if_false]
      constructor
      · exact .inr (.inr ⟨told, heard, service⟩)
      · exact fun name back => Option.some.inj (heard.symm.trans back.last)

/-- What becomes of the name in the row of the sender. -/
theorem Faithful.renamed (h : Faithful c obs) (running : c.phase = .running r)
    (names : NamesHeard r.sightings obs) (row : c.store.get? a = some d)
    (row' : (c.advertise r a rssi data).1.store.get? a = some d') :
    Renamed obs a data d.name d'.name := by
  have hearing := h.hearing running a rssi data
  generalize (c.advertise r a rssi data).1.store = store at hearing row'
  generalize (c.advertise r a rssi data).2 = events at hearing
  have described {x : Device} (seen : r.sightings.get? a = some x) :
      Describes x [] (advertsOf a obs) := ((h.sighted r running).seen a x seen).2.2
  cases hearing with
  | first unseen =>
    have merged := (DeviceStore.upsert_of_get?_eq_some
      (e := .ofAdvertisement a rssi data) row).1
    obtain rfl := Option.some.inj (merged.symm.trans row')
    have told := merge_name_of_told (d := d) (ofAdvertisement_name a rssi data)
    refine .of_not_putsBack (eq_or_told told) fun name back => ?_
    -- What was never heard has told no name that could be put back.
    have last := back.last
    unfold heardName at last
    rw [(h.sighted r running).unseen a unseen] at last
    cases last
  | silent seen silent =>
    obtain rfl := Option.some.inj (row.symm.trans row')
    refine .of_not_putsBack (.inl rfl) fun name back => ?_
    have new := (contains_services_iff (described seen) rssi).mpr back.service
    have changed := (Device.contains_absorbChanges_iff _ rssi data .services).mp new
    exact absurd (Device.absorb_of_silent silent .services) changed
  | @service x _ seen own new =>
    have same : (x.absorb rssi data).address = a := own
    have known : c.store.get? (x.absorb rssi data).address = some d := by rwa [same]
    have merged := (DeviceStore.upsert_of_get?_eq_some known).1
    rw [same] at merged
    obtain rfl := Option.some.inj (merged.symm.trans row')
    have service := (contains_services_iff (described seen) rssi).mp new
    exact renamed_merge_absorb d rssi (names a x seen) service
  | @update x _ seen own _ quiet known =>
    have same : (x.absorb rssi data).address = a := own
    obtain rfl := Option.some.inj (row.symm.trans known)
    have adopted := DeviceStore.get?_update_self _ (x.absorbChanges rssi data) same row
    obtain rfl := Option.some.inj (adopted.symm.trans row')
    refine .of_not_putsBack ?_ fun name back => ?_
    · rw [Device.adopt_name]
      split
      · exact eq_or_told rfl
      · exact .inl rfl
    · have new := (contains_services_iff (described seen) rssi).mpr back.service
      rw [new] at quiet
      cases quiet

/-! ### Rows -/

theorem Stored.addresses_isPrefix {s s' : DeviceStore} {o : Observation} (h : Stored s obs)
    (h' : Stored s' (obs ++ [o])) : s.addresses <+: s'.addresses := by
  rw [h.addresses, h'.addresses, List.map_append, List.map_singleton]
  by_cases mem : o.address ∈ obs.map Observation.address
  · exact (eraseDups_concat_of_mem mem).symm ▸ List.prefix_rfl
  · exact (eraseDups_concat_of_not_mem mem).symm ▸ List.prefix_append _ _

/-- An advertisement keeps every row in its place and changes none but the one of its sender.  Of
this it changes what it carries (`Device.Gains`).  So it does with the name, but for one exception:
the name that was advertised last is put back where a service is new and no name is carried. -/
theorem advertisement_changes (extract : Payload → AdvertisementData) (as : List Action)
    (id : RunId) (report : AdvertisementReport)
    (running : (after extract as).isRunning id = true) :
    let next := after extract (as ++ [.advertised id report])
    let data := extract report.payload
    (after extract as).devices.map Device.address <+: next.devices.map Device.address ∧
      (∀ b, b ≠ report.address → next.store.get? b = (after extract as).store.get? b) ∧
      ∀ d, (after extract as).store.get? report.address = some d →
        ∃ d', next.store.get? report.address = some d' ∧ d.Gains ⟨report.rssi, data⟩ d' ∧
          Renamed (observed extract as) report.address data d.name d'.name := by
  intro next data
  obtain ⟨r, present, rfl⟩ := Coordinator.isRunning_iff.mp running
  have before := faithful_after extract as
  have here := faithful_after extract (as ++ [.advertised r.id report])
  rw [observed_concat, observe_advertised present] at here
  -- The same step is seen in two ways: as one more observation, and as the step of the coordinator.
  have step : next =
      ((after extract as).advertise r report.address report.rssi data).1 := by
    show after extract (as ++ [.advertised r.id report]) = _
    rw [Coordinator.after_concat]
    exact congrArg Prod.fst (Coordinator.withRun_of_running present _)
  have places : (after extract as).store.addresses <+: next.store.addresses :=
    before.stored.addresses_isPrefix here.stored
  refine ⟨places, fun b other => ?_, fun d row => ?_⟩
  · rw [step]
    exact (before.hearing present _ _ _).get?_of_ne other
  · have address := DeviceStore.address_of_get? row
    have mem : report.address ∈ (after extract as).store.addresses :=
      DeviceStore.mem_addresses_of_get? row
    obtain ⟨d', hd', address'⟩ := DeviceStore.mem_addresses.mp (places.mem mem)
    have row' : next.store.get? report.address = some d' := by
      rw [← address']
      exact DeviceStore.get?_of_mem hd'
    refine ⟨d', row', ?_, ?_⟩
    · -- Both rows describe what was observed of the address, now with one observation more.
      have told := before.stored.describes d (DeviceStore.mem_of_get? row)
      have told' := here.stored.describes d' hd'
      rw [address] at told
      rw [address', lookUpsOf_concat_advert, advertsOf_concat_advert] at told'
      exact told.gains told'
    · rw [step] at row'
      exact before.renamed present (namesHeard_after extract as present) row row'

/-- A device that was looked up is heard with another signal strength, and keeps its name. -/
theorem advertisement_changes_strength :
    let a : Address := ⟨7, by decide⟩
    let as : List Action := [.start Methods.lowEnergy, .adapterChecked 1 .ready,
      .resolved 1 ⟨.lowEnergy, ⟨a, "Headset", 1028, false⟩, none⟩,
      .advertised 1 ⟨a, -40, .decoded {}⟩]
    ∃ d d', (after Payload.extract as).store.get? a = some d ∧
      (after Payload.extract (as ++ [.advertised 1 ⟨a, -50, .decoded {}⟩])).store.get? a = some d' ∧
      d'.rssi = some (-50) ∧ d'.name = d.name := by
  intro a as
  have row : ((after Payload.extract as).store.get? a).isSome = true := by decide
  obtain ⟨d, hd⟩ := Option.isSome_iff_exists.mp row
  obtain ⟨-, -, changes⟩ :=
    advertisement_changes Payload.extract as 1 ⟨a, -50, .decoded {}⟩ (by decide)
  obtain ⟨d', hd', gains, renamed⟩ := changes d hd
  refine ⟨d, d', hd, hd', gains.rssi, renamed.kept_or_replaced.resolve_right ?_⟩
  rintro (told | back)
  · cases told
  · obtain ⟨u, carried, -⟩ := back.service
    exact absurd carried List.not_mem_nil

/-- A device advertises one name and is looked up under another.  Then it advertises a new service
and no name, and the name that it advertised before replaces the one that was looked up. -/
theorem name_put_back :
    let a : Address := ⟨7, by decide⟩
    let as : List Action := [.start (Methods.classic ∪ Methods.lowEnergy),
      .adapterChecked 1 .ready, .watcherOpened 1,
      .advertised 1 ⟨a, -40, .decoded { localName := some "Band" }⟩,
      .enumerated 1 .classic (.ok [⟨"a", .classic⟩]),
      .resolved 1 ⟨.classic, ⟨a, "Headset", 1028, true⟩, some []⟩, .lookupEnded 1 .classic]
    let report : AdvertisementReport := ⟨a, -40, .decoded { services := [.ofShort 0x180a] }⟩
    (after Payload.extract as).isRunning 1 = true ∧
      (Payload.extract report.payload).localName = none ∧
      ((after Payload.extract as).store.get? a).map Device.name = some "Headset" ∧
      ((after Payload.extract (as ++ [.advertised 1 report])).store.get? a).map Device.name =
        some "Band" := by
  decide

end BluetoothDiscovery
