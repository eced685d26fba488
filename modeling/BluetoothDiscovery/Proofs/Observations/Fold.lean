import BluetoothDiscovery.Proofs.Observations.Intake

/-!
# The device list of a run

The device list is a function of what was observed.  `Faithful` ties the device list and the
sightings to the observations of the run.  The two have to go together: a look-up takes over what
the sightings say, and an advertisement that changes nothing of them is not put into the device list
at all.  Every step keeps a coordinator faithful, so it is at any time.
-/

namespace BluetoothDiscovery

open Coordinator (after)

variable {extract : Payload → AdvertisementData} {obs : List Observation} {o : Observation}
  {a : Address} {c : Coordinator} {r : Run}

/-! ### Look-ups -/

/-- A run takes a look-up as it is, or with what was heard of its address. -/
theorem deviceOf_cases (r : Run) (resolution : Resolution) :
    r.deviceOf resolution = resolution.device ∨
      ∃ x, r.sightings.get? resolution.identity.address = some x ∧
        TakesOver (r.deviceOf resolution) x resolution := by
  unfold Run.deviceOf
  have same : resolution.device.address = resolution.identity.address := rfl
  cases resolution.selector with
  | classic => exact .inl rfl
  | lowEnergy =>
    cases hx : r.sightings.get? resolution.identity.address with
    | none =>
      simp only [same, hx]
      exact .inl trivial
    | some x =>
      simp only [same, hx]
      refine .inr ⟨x, rfl, ?_⟩
      -- The services are taken over only where they were not asked for.
      cases resolution.services.isNone with
      | true => exact ⟨rfl, .inr rfl⟩
      | false => exact ⟨rfl, .inl rfl⟩

theorem address_deviceOf (r : Run) (resolution : Resolution) :
    (r.deviceOf resolution).address = resolution.identity.address := by
  rcases deviceOf_cases r resolution with same | ⟨x, -, taken⟩
  · rw [same]
    rfl
  · rw [taken.fields]
    rfl

/-- A look-up is put into the device list. -/
theorem Stored.register {s : DeviceStore} (h : Stored s obs) (sighted : Sighted r.sightings obs)
    (resolution : Resolution) :
    Stored (s.upsert (r.deviceOf resolution)).1 (obs ++ [.lookUp resolution]) := by
  refine h.upsert (o := .lookUp resolution) (address_deviceOf r resolution) (fun new => ?_)
    (fun d hd => ?_)
  · obtain ⟨noLookUp, noAdvert⟩ := eq_nil_of_not_mem new
    replace noLookUp : lookUpsOf resolution.identity.address obs = [] := noLookUp
    replace noAdvert : advertsOf resolution.identity.address obs = [] := noAdvert
    -- What was never observed is in no sighting, so that nothing is taken over.
    have plain : r.deviceOf resolution = resolution.device := by
      refine (deviceOf_cases r resolution).resolve_right ?_
      rintro ⟨x, hx, -⟩
      exact (sighted.seen _ x hx).2.1 noAdvert
    rw [plain]
    refine describes_concat_lookUp.mpr ?_
    rw [noLookUp, noAdvert]
    exact describes_device resolution
  · refine describes_concat_lookUp.mpr (Describes.merge_look_up hd ?_)
    rcases deviceOf_cases r resolution with same | ⟨x, hx, taken⟩
    · rw [same]
      exact tells_device resolution d
    · exact tells_heard hd (sighted.seen _ x hx).2.2 taken

/-! ### Advertisements -/

theorem Sightings.observe_of_unseen {s : Sightings} (h : s.get? a = none) (rssi : Int16)
    (data : AdvertisementData) :
    s.observe a rssi data = (⟨s.byAddress.insert a (.ofAdvertisement a rssi data)⟩,
      .ofAdvertisement a rssi data, .created) := by
  unfold Sightings.observe
  rw [h]
  rfl

theorem Sightings.observe_of_seen {s : Sightings} {x : Device} (h : s.get? a = some x)
    (rssi : Int16) (data : AdvertisementData) :
    s.observe a rssi data =
      if (x.absorbChanges rssi data).isEmpty then (s, x.absorb rssi data, .unchanged)
      else (⟨s.byAddress.insert a (x.absorb rssi data)⟩, x.absorb rssi data,
        .changed (x.absorbChanges rssi data)) := by
  unfold Sightings.observe
  rw [h]
  cases hs : (x.absorbChanges rssi data).isEmpty <;> simp [Device.observe, Change.ofFields, hs]

/-- An advertisement is taken into the sightings. -/
theorem Sighted.observe {s : Sightings} (h : Sighted s obs) (a : Address) (rssi : Int16)
    (data : AdvertisementData) :
    Sighted (s.observe a rssi data).1 (obs ++ [.advert a ⟨rssi, data⟩]) := by
  cases seen : s.get? a with
  | none =>
    rw [Sightings.observe_of_unseen seen]
    refine h.insert rfl ?_
    rw [h.unseen a seen]
    exact describes_ofAdvertisement a rssi data
  | some x =>
    obtain ⟨address, heard, described⟩ := h.seen a x seen
    rw [Sightings.observe_of_seen seen]
    split
    next silent => exact h.unchanged seen silent
    next => exact h.insert address (described.absorb heard rssi data)

/-- What an advertisement makes of the device list. -/
def storeHeard (s : DeviceStore) (heard : Sightings × Device × Change) : DeviceStore :=
  match heard.2.2.announcement with
  | .discovered => (s.upsert heard.2.1).1
  | .updated fields => s.update heard.2.1 fields
  | .suppressed => s

/-- An address is heard for the first time. -/
theorem Stored.heard_of_unseen {s : DeviceStore} (h : Stored s obs)
    (silent : advertsOf a obs = []) (rssi : Int16) (data : AdvertisementData) :
    Stored (s.upsert (.ofAdvertisement a rssi data)).1 (obs ++ [.advert a ⟨rssi, data⟩]) := by
  have described := describes_ofAdvertisement a rssi data
  refine h.upsert (o := .advert a ⟨rssi, data⟩) rfl (fun new => ?_) (fun d hd => ?_)
  · have noLookUp : lookUpsOf a obs = [] := (eq_nil_of_not_mem new).1
    refine (describes_concat_advert (a := a)).mpr ?_
    rw [silent, noLookUp]
    exact described
  · replace hd : Describes d (lookUpsOf a obs) (advertsOf a obs) := hd
    rw [silent] at hd
    refine (describes_concat_advert (a := a)).mpr ?_
    rw [silent]
    exact hd.merge_heard described (by simp)

/-- An address is heard again, and something is new. -/
theorem Stored.heard_of_changed {s : DeviceStore} (h : Stored s obs) {x : Device}
    (address : x.address = a) (heard : advertsOf a obs ≠ [])
    (described : Describes x [] (advertsOf a obs)) {rssi : Int16} {data : AdvertisementData}
    (sightings : Sightings) :
    Stored (storeHeard s
      (sightings, x.absorb rssi data, .changed (x.absorbChanges rssi data)))
      (obs ++ [.advert a ⟨rssi, data⟩]) := by
  have absorbed := described.absorb heard rssi data
  have mem := mem_of_advertsOf_ne_nil heard
  -- A new service is announced like a new device; anything else is an update.
  unfold storeHeard Change.announcement
  cases hnew : (x.absorbChanges rssi data).contains FieldSet.services with
  | true =>
    simp only [hnew, if_true]
    refine h.upsert (o := .advert a ⟨rssi, data⟩) address (absurd mem) (fun d hd => ?_)
    exact describes_concat_advert.mpr (Describes.merge_heard hd absorbed (by simp))
  | false =>
    simp only [hnew, Bool.false_eq_true, if_false]
    refine h.change (o := .advert a ⟨rssi, data⟩)
      (f := (·.adopt (x.absorb rssi data) (x.absorbChanges rssi data))) mem (fun _ => rfl) ?_ ?_
    · have same : (x.absorb rssi data).address = a := address
      rw [DeviceStore.devices_update, same]
      rfl
    · intro d hd
      exact describes_concat_advert.mpr (Describes.adopt hd described heard hnew)

/-- An address is heard again, and nothing is new. -/
theorem Stored.heard_of_unchanged {s : DeviceStore} (h : Stored s obs) {x : Device}
    (heard : advertsOf a obs ≠ []) (described : Describes x [] (advertsOf a obs)) {rssi : Int16}
    {data : AdvertisementData} (silent : (x.absorbChanges rssi data).isEmpty = true) :
    Stored s (obs ++ [.advert a ⟨rssi, data⟩]) := by
  refine h.change (o := .advert a ⟨rssi, data⟩) (f := id) (mem_of_advertsOf_ne_nil heard)
    (fun _ => rfl) (by simp) ?_
  intro d hd
  exact describes_concat_advert.mpr (Describes.unchanged hd described heard silent)

/-- An advertisement is taken into the device list. -/
theorem Stored.heard {s : DeviceStore} (h : Stored s obs) {sightings : Sightings}
    (sighted : Sighted sightings obs) (a : Address) (rssi : Int16) (data : AdvertisementData) :
    Stored (storeHeard s (sightings.observe a rssi data)) (obs ++ [.advert a ⟨rssi, data⟩]) := by
  cases seen : sightings.get? a with
  | none =>
    rw [Sightings.observe_of_unseen seen]
    exact h.heard_of_unseen (sighted.unseen a seen) rssi data
  | some x =>
    obtain ⟨address, heard, described⟩ := sighted.seen a x seen
    rw [Sightings.observe_of_seen seen]
    split
    next silent => exact h.heard_of_unchanged heard described silent
    next => exact h.heard_of_changed address heard described _

/-! ### Faithfulness -/

/-- Both places where devices are kept tell what was observed. -/
structure Faithful (c : Coordinator) (obs : List Observation) : Prop where
  stored : Stored c.store obs
  sighted : ∀ r, c.phase = .running r → Sighted r.sightings obs

/-- A look-up changes the device list and nothing else. -/
theorem fst_register (c : Coordinator) (e : Device) :
    (c.register e).1 = { c with store := (c.store.upsert e).1 } := by
  unfold Coordinator.register
  cases hu : (c.store.upsert e).2 with
  | inserted => simp only [hu]
  | merged changes =>
    simp only [hu]
    split <;> rfl

/-- A device was looked up. -/
theorem Faithful.register (h : Faithful c obs) (running : c.phase = .running r)
    (resolution : Resolution) :
    Faithful (c.register (r.deviceOf resolution)).1 (obs ++ [.lookUp resolution]) := by
  have sighted := h.sighted r running
  rw [fst_register]
  constructor
  · exact h.stored.register sighted resolution
  · intro r' hr'
    obtain rfl := Phase.running.inj (running.symm.trans hr')
    exact sighted.lookUp resolution

/-- An advertisement changes the device list and the sightings of the run, and nothing else. -/
theorem fst_advertise (c : Coordinator) (r : Run) (a : Address) (rssi : Int16)
    (data : AdvertisementData) :
    (c.advertise r a rssi data).1 =
      { c with
        phase := .running { r with sightings := (r.sightings.observe a rssi data).1 }
        store := storeHeard c.store (r.sightings.observe a rssi data) } := by
  unfold Coordinator.advertise storeHeard
  obtain ⟨sightings, device, change⟩ := r.sightings.observe a rssi data
  cases hc : change.announcement <;> simp only [hc]

/-- An advertisement was received. -/
theorem Faithful.advertise (h : Faithful c obs) (running : c.phase = .running r) (a : Address)
    (rssi : Int16) (data : AdvertisementData) :
    Faithful (c.advertise r a rssi data).1 (obs ++ [.advert a ⟨rssi, data⟩]) := by
  have sighted := h.sighted r running
  rw [fst_advertise]
  constructor
  · exact h.stored.heard sighted a rssi data
  · intro r' hr'
    cases hr'
    exact sighted.observe a rssi data

/-! ### Steps -/

/-- What leaves the devices and the sightings alone keeps what they tell. -/
theorem Faithful.keep (h : Faithful c obs) {c' : Coordinator} (store : c'.store = c.store)
    (sightings : ∀ r', c'.phase = .running r' →
      ∃ r, c.phase = .running r ∧ r'.sightings = r.sightings) : Faithful c' obs := by
  constructor
  · rw [store]
    exact h.stored
  · intro r' hr'
    obtain ⟨r, hr, same⟩ := sightings r' hr'
    rw [same]
    exact h.sighted r hr

/-- A run begins with an empty device list and without sightings. -/
theorem faithful_begin (c : Coordinator) (id : RunId) (methods : Methods) :
    Faithful (c.beginRun id methods .ready).1 [] := by
  constructor
  · exact .empty
  · intro r hr
    cases hr
    exact .empty

/-- Every action keeps the device list and the sightings faithful to what was observed. -/
theorem Faithful.step (h : Faithful c obs) (extract : Payload → AdvertisementData) (a : Action) :
    Faithful (c.step extract a).1 (observe extract obs ⟨c, a⟩) := by
  have intake := intake_step extract c a
  generalize c.step extract a = out at intake ⊢
  cases intake with
  | nothing store sightings _ unobserved =>
    rw [unobserved]
    exact h.keep store sightings
  | began starting check =>
    rw [check, observe_began starting]
    exact faithful_begin c _ _
  | lookedUp running resolution answer =>
    rw [answer, observe_resolved running]
    exact h.register running resolution
  | heard running report advert =>
    rw [advert, observe_advertised running]
    exact h.advertise running _ _ _

/-- The device list and the sightings are faithful to what was observed, at any time. -/
theorem faithful_after (extract : Payload → AdvertisementData) (as : List Action) :
    Faithful (after extract as) (observed extract as) := by
  induction as using List.reverseRecOn with
  | nil => exact ⟨.empty, fun _ hr => by cases hr⟩
  | append_singleton as a ih =>
    rw [Coordinator.after_concat, observed_concat]
    exact ih.step extract a

/-! ### The fold -/

/-- The device list holds the addresses that were observed in the last run that began, each once, in
the order in which they were first observed.  Each row describes what was observed of its address,
so that the rows of one address agree wherever its look-ups are the same and its advertisements are
the same, whichever way they came between each other and between those of other addresses. -/
theorem devices_describe_observations (extract : Payload → AdvertisementData) (as : List Action) :
    (after extract as).devices.map Device.address =
        ((observed extract as).map Observation.address).eraseDups ∧
      ((after extract as).devices.map Device.address).Nodup ∧
      (∀ d ∈ (after extract as).devices, Describes d
        (lookUpsOf d.address (observed extract as)) (advertsOf d.address (observed extract as))) ∧
      ∀ extract' bs, ∀ d ∈ (after extract as).devices, ∀ e ∈ (after extract' bs).devices,
        d.address = e.address →
        lookUpsOf d.address (observed extract as) = lookUpsOf d.address (observed extract' bs) →
        advertsOf d.address (observed extract as) = advertsOf d.address (observed extract' bs) →
        d.Agrees e := by
  have here := (faithful_after extract as).stored
  refine ⟨here.addresses, (after extract as).store.distinct, here.describes, ?_⟩
  intro extract' bs d hd e he same lookUps adverts
  have there := (faithful_after extract' bs).stored.describes e he
  rw [← same, ← lookUps, ← adverts] at there
  exact (here.describes d hd).agrees there

/-- A device is looked up and heard, in either order.  Its services are listed in that order, and
all else is the same. -/
theorem devices_describe_either_order :
    let lookUp : Action :=
      .resolved 1 ⟨.lowEnergy, ⟨⟨7, by decide⟩, "a", 5, true⟩, some [.ofShort 0x180f]⟩
    let advert : Action :=
      .advertised 1 ⟨⟨7, by decide⟩, -40, .decoded { services := [.ofShort 0x180a] }⟩
    let begun : List Action := [.start Methods.lowEnergy, .adapterChecked 1 .ready]
    ∃ d ∈ (after Payload.extract (begun ++ [lookUp, advert])).devices,
      ∃ e ∈ (after Payload.extract (begun ++ [advert, lookUp])).devices,
        d.services ≠ e.services ∧ d.Agrees e := by
  intro lookUp advert begun
  have agree := (devices_describe_observations Payload.extract (begun ++ [lookUp, advert])).2.2.2
    Payload.extract (begun ++ [advert, lookUp])
  refine ⟨_, .head _, _, .head _, ?_, agree _ (.head _) _ (.head _) rfl rfl rfl⟩
  decide

end BluetoothDiscovery
