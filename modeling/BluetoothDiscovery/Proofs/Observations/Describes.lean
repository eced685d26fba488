import BluetoothDiscovery.Proofs.Observations.Changes
import BluetoothDiscovery.Resolution

/-!
# What a device says of its observations

An address is observed by look-ups and by advertisements.  `Describes` is what a device has to say
of them: of some fields everything that was ever observed, of the others what was observed last.
The look-ups stand in one list and the advertisements in another, so that it makes no difference how
the two came between each other.

A device is changed in four ways: it is merged with what a look-up says, it is merged with all that
was heard of its address, it absorbs one advertisement, or it adopts some fields of a device that
has absorbed one.  Each keeps `Describes` for one more observation.  The name of a device follows
other rules and is left out.
-/

namespace BluetoothDiscovery

/-! ### The last value -/

section latest

variable {β γ : Type} {f : β → Option γ}

/-- The value of the last item that has one. -/
def latest (f : β → Option γ) (items : List β) : Option γ := (items.filterMap f).getLast?

@[simp]
theorem latest_nil : latest f [] = none := rfl

theorem latest_concat (items : List β) (b : β) :
    latest f (items ++ [b]) = (f b).or (latest f items) := by
  unfold latest
  rw [List.filterMap_append, List.getLast?_append]
  cases hb : f b <;> simp [hb]

theorem latest_singleton (b : β) : latest f [b] = f b := by
  rw [← List.nil_append [b], latest_concat, latest_nil, Option.or_none]

/-- A value is replaced only by a later one. -/
theorem latest_append (items more : List β) :
    latest f (items ++ more) = (latest f more).or (latest f items) := by
  unfold latest
  rw [List.filterMap_append, List.getLast?_append]

end latest

/-! ### Descriptions -/

/-- The configuration of a device that uses one radio or the other. -/
def radios (classic lowEnergy : Bool) : Configuration :=
  .onlyIf classic Configuration.baseRate ∪ .onlyIf lowEnergy Configuration.lowEnergy

theorem radios_classic : radios true false = Configuration.baseRate := by decide

theorem radios_lowEnergy : radios false true = Configuration.lowEnergy := by decide

theorem radios_union (a b a' b' : Bool) :
    radios a b ∪ radios a' b' = radios (a || a') (b || b') := by
  revert a b a' b'
  decide

/-- What one advertisement says about its sender. -/
structure Advert where
  rssi : Int16
  data : AdvertisementData

/-- The class that a look-up tells; zero tells none. -/
def Resolution.class? (r : Resolution) : Option UInt32 :=
  if r.identity.classOfDevice = 0 then none else some r.identity.classOfDevice

/-- What a device says of the look-ups and the advertisements of its address. -/
structure Describes (d : Device) (rs : List Resolution) (hs : List Advert) : Prop where
  configuration : d.configuration =
    radios (rs.any (·.selector = .classic)) (rs.any (·.selector = .lowEnergy) || !hs.isEmpty)
  services : ∀ u, u ∈ d.services.toList ↔
    (∃ r ∈ rs, u ∈ r.services.getD []) ∨ ∃ h ∈ hs, u ∈ h.data.services
  rssi : d.rssi = hs.getLast?.map Advert.rssi
  manufacturerData : ∀ k, d.manufacturerData.get? k = latest (·.data.manufacturerData.get? k) hs
  serviceData : ∀ k, d.serviceData.get? k = latest (·.data.serviceData.get? k) hs
  resolved : d.resolved = !rs.isEmpty
  classOfDevice : d.classOfDevice = (latest Resolution.class? rs).getD 0

variable {d e x : Device} {rs : List Resolution} {hs more : List Advert} {rssi : Int16}
  {data : AdvertisementData}

theorem configuration_device (r : Resolution) :
    r.device.configuration = radios (r.selector = .classic) (r.selector = .lowEnergy) := by
  unfold Resolution.device
  cases r.selector with
  | classic => exact radios_classic.symm
  | lowEnergy => exact radios_lowEnergy.symm

theorem class?_getD (r : Resolution) : r.class?.getD 0 = r.identity.classOfDevice := by
  unfold Resolution.class?
  split
  next h => exact h.symm
  · rfl

/-- A look-up describes itself. -/
theorem describes_device (r : Resolution) : Describes r.device [r] [] := by
  constructor
  · rw [configuration_device]
    simp
  · intro u
    show u ∈ (DistinctList.ofList (r.services.getD [])).toList ↔ _
    rw [DistinctList.mem_ofList]
    simp
  · rfl
  · exact fun k => KeyedMap.get?_empty k
  · exact fun k => KeyedMap.get?_empty k
  · rfl
  · rw [latest_singleton, class?_getD]
    rfl

/-- A first advertisement describes itself. -/
theorem describes_ofAdvertisement (a : Address) (rssi : Int16) (data : AdvertisementData) :
    Describes (.ofAdvertisement a rssi data) [] [⟨rssi, data⟩] := by
  constructor
  · exact radios_lowEnergy.symm
  · intro u
    show u ∈ (DistinctList.ofList data.services).toList ↔ _
    rw [DistinctList.mem_ofList]
    simp
  · rfl
  · intro k
    rw [latest_singleton]
    rfl
  · intro k
    rw [latest_singleton]
    rfl
  · rfl
  · rfl

theorem not_isEmpty_of_ne_nil (heard : hs ≠ []) : (!hs.isEmpty) = true := by
  rw [Bool.not_eq_true', List.isEmpty_eq_false_iff]
  exact heard

theorem exists_mem_concat_advert {h : Advert} {u : Uuid} :
    (∃ h' ∈ hs ++ [h], u ∈ h'.data.services) ↔
      (∃ h' ∈ hs, u ∈ h'.data.services) ∨ u ∈ h.data.services := by
  simp only [List.mem_append, List.mem_singleton, or_and_right, exists_or, exists_eq_left]

namespace Describes

/-- Without look-ups, the services are those that were heard. -/
theorem mem_services_iff (h : Describes x [] hs) {u : Uuid} :
    u ∈ x.services.toList ↔ ∃ heard ∈ hs, u ∈ heard.data.services := by
  rw [h.services]
  exact or_iff_right fun ⟨_, mem, _⟩ => List.not_mem_nil mem

/-- One more advertisement is absorbed. -/
theorem absorb (h : Describes d rs hs) (heard : hs ≠ []) (rssi : Int16) (data : AdvertisementData) :
    Describes (d.absorb rssi data) rs (hs ++ [⟨rssi, data⟩]) := by
  constructor
  · have same : (d.absorb rssi data).configuration = d.configuration := rfl
    rw [same, h.configuration, not_isEmpty_of_ne_nil heard, not_isEmpty_of_ne_nil (by simp)]
  · intro u
    show u ∈ (d.services.insertAll data.services).toList ↔ _
    rw [DistinctList.mem_insertAll, h.services, exists_mem_concat_advert, or_assoc]
  · rw [List.getLast?_concat]
    rfl
  · intro k
    rw [latest_concat, ← h.manufacturerData]
    exact KeyedMap.get?_overlay _ _ k
  · intro k
    rw [latest_concat, ← h.serviceData]
    exact KeyedMap.get?_overlay _ _ k
  · exact h.resolved
  · exact h.classOfDevice

/-- All that was heard of the address is merged in, the last of it for the first time. -/
theorem merge_heard (h : Describes d rs hs) (hx : Describes x [] (hs ++ more))
    (heard : hs ++ more ≠ []) : Describes (d.merge x) rs (hs ++ more) := by
  constructor
  · show d.configuration ∪ x.configuration = _
    rw [h.configuration, hx.configuration, radios_union, not_isEmpty_of_ne_nil heard]
    simp
  · intro u
    show u ∈ (d.services.insertAll x.services.toList).toList ↔ _
    rw [DistinctList.mem_insertAll, h.services, hx.services]
    constructor
    · rintro ((hr | ⟨h', hmem, hu⟩) | (⟨r, hr, -⟩ | hs'))
      · exact .inl hr
      · exact .inr ⟨h', List.mem_append_left _ hmem, hu⟩
      · exact absurd hr List.not_mem_nil
      · exact .inr hs'
    · rintro (hr | hs')
      · exact .inl (.inl hr)
      · exact .inr (.inr hs')
  · -- Something was heard, and the last of it was heard by `x`.
    obtain ⟨last, hlast⟩ := Option.ne_none_iff_exists'.mp (mt List.getLast?_eq_none_iff.mp heard)
    show x.rssi.or d.rssi = _
    rw [hx.rssi, hlast]
    rfl
  · intro k
    -- What was heard before is part of what `x` has heard, and need not be looked at twice.
    have overlay : (d.merge x).manufacturerData.get? k =
        (x.manufacturerData.get? k).or (d.manufacturerData.get? k) := KeyedMap.get?_overlay _ _ k
    rw [overlay, hx.manufacturerData, h.manufacturerData, latest_append, Option.or_assoc,
      Option.or_self]
  · intro k
    have overlay : (d.merge x).serviceData.get? k =
        (x.serviceData.get? k).or (d.serviceData.get? k) := KeyedMap.get?_overlay _ _ k
    rw [overlay, hx.serviceData, h.serviceData, latest_append, Option.or_assoc, Option.or_self]
  · show (d.resolved || x.resolved) = _
    rw [h.resolved, hx.resolved]
    simp
  · have none : x.classOfDevice = 0 := hx.classOfDevice
    show (if x.classOfDevice = 0 then d.classOfDevice else x.classOfDevice) = _
    rw [none, if_pos rfl]
    exact h.classOfDevice

end Describes

/-! ### Adoptions -/

/-- Data that two maps agree on is adopted with what is new, or left if nothing is new. -/
theorem get?_adopt {κ : Type} [Ranked κ] {m n new : KeyedMap κ (List UInt8)}
    (agree : ∀ k, n.get? k = m.get? k) (announced : Bool)
    (quiet : announced = false → ∀ k v, new.get? k = some v → n.get? k = some v) (k : κ) :
    (if announced then m.overlay (n.overlay new) else m).get? k = (new.get? k).or (m.get? k) := by
  cases announced with
  | true =>
    rw [if_pos rfl, KeyedMap.get?_overlay, KeyedMap.get?_overlay, agree, Option.or_assoc,
      Option.or_self]
  | false =>
    rw [if_neg Bool.false_ne_true]
    cases hv : new.get? k with
    | none => rfl
    | some v => rw [← agree, quiet rfl k v hv, Option.some_or]

/-- The announced fields of an advertisement are adopted, if it brings no new service. -/
theorem Describes.adopt (h : Describes d rs hs) (hx : Describes x [] hs) (heard : hs ≠ [])
    (quiet : (x.absorbChanges rssi data).contains FieldSet.services = false) :
    Describes (d.adopt (x.absorb rssi data) (x.absorbChanges rssi data)) rs
      (hs ++ [⟨rssi, data⟩]) := by
  -- A field that is not announced has what the advertisement says already.
  have same := fun f => Device.sameIn_absorb_of_not_contains (x := x) (f := f) rssi data
  constructor
  · have kept : (d.adopt (x.absorb rssi data) (x.absorbChanges rssi data)).configuration =
        d.configuration := rfl
    rw [kept, h.configuration, not_isEmpty_of_ne_nil heard, not_isEmpty_of_ne_nil (by simp)]
  · intro u
    show u ∈ d.services.toList ↔ _
    rw [h.services, exists_mem_concat_advert]
    constructor
    · rintro (hr | hs')
      · exact .inl hr
      · exact .inr (.inl hs')
    · rintro (hr | hs' | hu)
      · exact .inl hr
      · exact .inr hs'
      · -- A service that is not new was heard before.
        have old := DistinctList.insertAll_eq_self_iff.mp (same .services quiet) u hu
        exact .inr (hx.mem_services_iff.mp old)
  · rw [List.getLast?_concat]
    show (if _ = true then some rssi else d.rssi) = some rssi
    split
    · rfl
    next hquiet =>
      rw [h.rssi, ← hx.rssi]
      exact (same .rssi (Bool.eq_false_iff.mpr hquiet)).symm
  · intro k
    rw [latest_concat, ← h.manufacturerData]
    refine get?_adopt (fun k => ?_) _
      (fun hquiet => KeyedMap.overlay_eq_self_iff.mp (same .manufacturerData hquiet)) k
    rw [h.manufacturerData, hx.manufacturerData]
  · intro k
    rw [latest_concat, ← h.serviceData]
    refine get?_adopt (fun k => ?_) _
      (fun hquiet => KeyedMap.overlay_eq_self_iff.mp (same .serviceData hquiet)) k
    rw [h.serviceData, hx.serviceData]
  · exact h.resolved
  · exact h.classOfDevice

/-- An advertisement that announces nothing changes nothing. -/
theorem Describes.unchanged (h : Describes d rs hs) (hx : Describes x [] hs) (heard : hs ≠ [])
    (silent : (x.absorbChanges rssi data).isEmpty = true) :
    Describes d rs (hs ++ [⟨rssi, data⟩]) := by
  -- To adopt no field at all is to stay as one is.
  have none := Flags.eq_empty_of_isEmpty silent
  have adopted : Describes (d.adopt (x.absorb rssi data) (x.absorbChanges rssi data)) rs
      (hs ++ [⟨rssi, data⟩]) := h.adopt hx heard (by rw [none]; decide)
  rw [none] at adopted
  exact adopted

/-! ### Look-ups -/

/-- A device that says what a look-up says, and nothing besides that `d` does not say too. -/
structure Tells (e : Device) (r : Resolution) (d : Device) : Prop where
  configuration : e.configuration = r.device.configuration
  services_of : ∀ u ∈ r.services.getD [], u ∈ e.services.toList
  of_services : ∀ u ∈ e.services.toList, u ∈ r.services.getD [] ∨ u ∈ d.services.toList
  rssi : e.rssi.or d.rssi = d.rssi
  manufacturerData : ∀ k, (e.manufacturerData.get? k).or (d.manufacturerData.get? k) =
    d.manufacturerData.get? k
  serviceData : ∀ k, (e.serviceData.get? k).or (d.serviceData.get? k) = d.serviceData.get? k
  resolved : e.resolved = true
  classOfDevice : e.classOfDevice = r.identity.classOfDevice

/-- One more look-up is merged in. -/
theorem Describes.merge_look_up {r : Resolution} (h : Describes d rs hs) (he : Tells e r d) :
    Describes (d.merge e) (rs ++ [r]) hs := by
  constructor
  · show d.configuration ∪ e.configuration = _
    rw [h.configuration, he.configuration, configuration_device, radios_union]
    simp [Bool.or_right_comm]
  · intro u
    show u ∈ (d.services.insertAll e.services.toList).toList ↔ _
    rw [DistinctList.mem_insertAll]
    -- A service comes from a look-up, this one or an earlier one, or was heard.
    have known := h.services u
    constructor
    · rintro (hd | hu)
      · rcases known.mp hd with ⟨r', hr', hu⟩ | heard
        · exact .inl ⟨r', List.mem_append_left _ hr', hu⟩
        · exact .inr heard
      · rcases he.of_services u hu with hu | hd
        · exact .inl ⟨r, List.mem_append_right _ (List.mem_singleton_self r), hu⟩
        · rcases known.mp hd with ⟨r', hr', hu⟩ | heard
          · exact .inl ⟨r', List.mem_append_left _ hr', hu⟩
          · exact .inr heard
    · rintro (⟨r', hr', hu⟩ | heard)
      · rcases List.mem_append.mp hr' with hr' | hr'
        · exact .inl (known.mpr (.inl ⟨r', hr', hu⟩))
        · rw [List.mem_singleton.mp hr'] at hu
          exact .inr (he.services_of u hu)
      · exact .inl (known.mpr (.inr heard))
  · show e.rssi.or d.rssi = _
    rw [he.rssi, h.rssi]
  · intro k
    rw [← h.manufacturerData, ← he.manufacturerData]
    exact KeyedMap.get?_overlay _ _ k
  · intro k
    rw [← h.serviceData, ← he.serviceData]
    exact KeyedMap.get?_overlay _ _ k
  · show (d.resolved || e.resolved) = _
    rw [he.resolved]
    simp
  · show (if e.classOfDevice = 0 then d.classOfDevice else e.classOfDevice) = _
    rw [he.classOfDevice, h.classOfDevice, latest_concat, Resolution.class?]
    -- A class of zero says nothing, and leaves the one before.
    split <;> simp

/-- What a look-up says by itself. -/
theorem tells_device (r : Resolution) (d : Device) : Tells r.device r d := by
  constructor
  · rfl
  · exact fun u hu => DistinctList.mem_ofList.mpr hu
  · exact fun u hu => .inl (DistinctList.mem_ofList.mp hu)
  · exact Option.none_or
  · intro k
    have none : r.device.manufacturerData.get? k = none := KeyedMap.get?_empty k
    rw [none, Option.none_or]
  · intro k
    have none : r.device.serviceData.get? k = none := KeyedMap.get?_empty k
    rw [none, Option.none_or]
  · rfl
  · rfl

/-- A device that is the device of a look-up but for what it takes over from `x`: the data, the
signal strength, and the services or none of them. -/
structure TakesOver (e x : Device) (r : Resolution) : Prop where
  fields : e = { r.device with
    rssi := x.rssi
    manufacturerData := x.manufacturerData
    serviceData := x.serviceData
    services := e.services }
  services : e.services = r.device.services ∨
    e.services = r.device.services.insertAll x.services.toList

/-- What a look-up says, with what was heard of the address. -/
theorem tells_heard {r : Resolution} (h : Describes d rs hs) (hx : Describes x [] hs)
    (taken : TakesOver e x r) : Tells e r d := by
  obtain ⟨he, services⟩ := taken
  have own : ∀ u, u ∈ r.device.services.toList ↔ u ∈ r.services.getD [] :=
    fun _ => DistinctList.mem_ofList
  -- What the sighting has heard, the row has taken in already, so that it says nothing new of it.
  have heard : ∀ u ∈ x.services.toList, u ∈ d.services.toList := by
    intro u hu
    exact (h.services u).mpr (.inr (hx.mem_services_iff.mp hu))
  constructor
  · rw [he]
  · intro u hu
    rcases services with hs' | hs'
    · rw [hs']
      exact (own u).mpr hu
    · rw [hs']
      exact DistinctList.mem_insertAll.mpr (.inl ((own u).mpr hu))
  · intro u hu
    rcases services with hs' | hs'
    · rw [hs'] at hu
      exact .inl ((own u).mp hu)
    · rw [hs'] at hu
      exact (DistinctList.mem_insertAll.mp hu).imp (own u).mp (heard u)
  · rw [he]
    show x.rssi.or d.rssi = d.rssi
    rw [hx.rssi, ← h.rssi, Option.or_self]
  · intro k
    rw [he]
    show (x.manufacturerData.get? k).or _ = _
    rw [hx.manufacturerData, ← h.manufacturerData, Option.or_self]
  · intro k
    rw [he]
    show (x.serviceData.get? k).or _ = _
    rw [hx.serviceData, ← h.serviceData, Option.or_self]
  · rw [he]
    rfl
  · rw [he]
    rfl

/-! ### Agreement -/

/-- Two devices say the same, but for their names, their addresses and the order of services. -/
structure Device.Agrees (d e : Device) : Prop where
  configuration : d.configuration = e.configuration
  services : ∀ u, u ∈ d.services.toList ↔ u ∈ e.services.toList
  rssi : d.rssi = e.rssi
  manufacturerData : d.manufacturerData = e.manufacturerData
  serviceData : d.serviceData = e.serviceData
  resolved : d.resolved = e.resolved
  classOfDevice : d.classOfDevice = e.classOfDevice

/-- What a device says is settled by the look-ups and the advertisements, each in their order. -/
theorem Describes.agrees (h : Describes d rs hs) (h' : Describes e rs hs) : d.Agrees e where
  configuration := h.configuration.trans h'.configuration.symm
  services u := (h.services u).trans (h'.services u).symm
  rssi := h.rssi.trans h'.rssi.symm
  manufacturerData := KeyedMap.ext_get? fun k =>
    (h.manufacturerData k).trans (h'.manufacturerData k).symm
  serviceData := KeyedMap.ext_get? fun k => (h.serviceData k).trans (h'.serviceData k).symm
  resolved := h.resolved.trans h'.resolved.symm
  classOfDevice := h.classOfDevice.trans h'.classOfDevice.symm

end BluetoothDiscovery
