import BluetoothDiscovery.Proofs.Records.Exactness

/-!
# Advertisements as devices

A device that is known takes in an advertisement in a way of its own, `Device.absorb`.  It is the
same to take the advertisement for a device that was never heard before, and to merge this in
(`absorb_eq_merge`).  All it needs is that the device is known to use low energy, as all sightings
are (`lowEnergy_of_heard`).  The same changes are named then, as both ways name exactly the
differences.

So the sightings hold what a device list holds that is told of every advertisement as of a device
(`get?_heard`).
-/

namespace BluetoothDiscovery

theorem Flags.union_eq_left {table : FlagTable} {f g : Flags table} (known : f.contains g = true) :
    f ∪ g = f := by
  have bits : f.bits &&& g.bits = g.bits := beq_iff_eq.mp known
  have absorption (a b : UInt8) : a ||| (a &&& b) = a := by
    apply UInt8.toBitVec_inj.mp
    rw [UInt8.toBitVec_or, UInt8.toBitVec_and]
    ext i hi
    rw [BitVec.getElem_or, BitVec.getElem_and]
    cases a.toBitVec[i] <;> rfl
  refine congrArg Flags.mk ?_
  rw [← bits, absorption]

/-! ### One advertisement -/

namespace Device

variable {d : Device}

theorem absorb_eq_merge (known : d.configuration.contains Configuration.lowEnergy = true)
    (a : Address) (rssi : Int16) (data : AdvertisementData) :
    d.absorb rssi data = d.merge (ofAdvertisement a rssi data) := by
  apply Device.ext
  case address => rfl
  case name =>
    unfold absorb merge ofAdvertisement
    cases data.localName <;> rfl
  case classOfDevice => rfl
  case configuration => exact (Flags.union_eq_left known).symm
  case rssi => rfl
  case manufacturerData => rfl
  case serviceData => rfl
  case services => exact (DistinctList.insertAll_ofList _ _).symm
  case resolved => exact (Bool.or_false _).symm

/-- What is the same device afterwards has changed in the same fields. -/
theorem absorbChanges_eq_mergeChanges
    (known : d.configuration.contains Configuration.lowEnergy = true) (a : Address) (rssi : Int16)
    (data : AdvertisementData) :
    d.absorbChanges rssi data = d.mergeChanges (ofAdvertisement a rssi data) := by
  rw [absorbChanges_eq_having, mergeChanges_eq_having]
  refine congrArg FieldSet.having (funext fun f => ?_)
  rw [Bool.eq_iff_iff, absorbBrings_iff, mergeBrings_iff, absorb_eq_merge known a]

end Device

/-! ### Rows of advertisements -/

/-- The device that an advertisement alone describes. -/
def Advert.device (heard : Advert) (a : Address) : Device :=
  .ofAdvertisement a heard.rssi heard.data

namespace Sightings

variable {hs : List (Address × Advert)} {a : Address} {d : Device}

/-- The sightings after a row of advertisements. -/
def heard (hs : List (Address × Advert)) : Sightings :=
  hs.foldl (fun s h => (s.observe h.1 h.2.rssi h.2.data).1) ∅

theorem heard_concat (hs : List (Address × Advert)) (h : Address × Advert) :
    heard (hs ++ [h]) = ((heard hs).observe h.1 h.2.rssi h.2.data).1 := by
  unfold heard
  rw [List.foldl_append]
  rfl

theorem sighted_heard (hs : List (Address × Advert)) :
    Sighted (heard hs) (hs.map fun h => .advert h.1 h.2) := by
  induction hs using List.reverseRecOn with
  | nil => exact .empty
  | append_singleton hs h ih =>
    rw [heard_concat, List.map_append, List.map_singleton]
    exact ih.observe h.1 h.2.rssi h.2.data

/-- A sighting stands at its own address, and is known to use low energy. -/
theorem lowEnergy_of_heard (seen : (heard hs).get? a = some d) :
    d.address = a ∧ d.configuration.contains Configuration.lowEnergy = true := by
  obtain ⟨address, nonempty, described⟩ := (sighted_heard hs).seen a d seen
  refine ⟨address, ?_⟩
  rw [described.configuration, not_isEmpty_of_ne_nil nonempty]
  rfl

/-- The answer is the device that the advertisement makes of the one that was there. -/
theorem device_observe (s : Sightings) (a : Address) (rssi : Int16) (data : AdvertisementData) :
    (s.observe a rssi data).2.1 = (Device.observe (s.get? a) a rssi data).1 := by
  unfold observe
  obtain ⟨d, change⟩ := Device.observe (s.get? a) a rssi data
  cases change <;> rfl

/-- The sightings hold what a device list holds that is told of the same advertisements. -/
theorem get?_heard (hs : List (Address × Advert)) (a : Address) :
    (heard hs).get? a =
      ((∅ : DeviceStore).upsertAll (hs.map fun h => h.2.device h.1)).get? a := by
  induction hs using List.reverseRecOn with
  | nil => rfl
  | append_singleton hs h ih =>
    have store : (∅ : DeviceStore).upsertAll ((hs ++ [h]).map fun h => h.2.device h.1) =
        (((∅ : DeviceStore).upsertAll (hs.map fun h => h.2.device h.1)).upsert
          (h.2.device h.1)).1 := by
      rw [List.map_append]
      exact List.foldl_append
    have own : (h.2.device h.1).address = h.1 := rfl
    rw [heard_concat, get?_observe, store, DeviceStore.get?_upsert, own, ← ih, device_observe]
    split
    next here =>
      subst here
      -- What is there absorbs the advertisement on one side, and is merged with it on the other.
      cases seen : (heard hs).get? h.1 with
      | none => rfl
      | some d =>
        obtain ⟨-, known⟩ := lowEnergy_of_heard seen
        exact congrArg some (Device.absorb_eq_merge known h.1 h.2.rssi h.2.data)
    · rfl

end Sightings

/-! ### Agreement -/

/-- To take in an advertisement is to merge in the device that it describes alone: the device is the
same, and so is the change.  This is so of every device that uses low energy, and so of every
sighting, so that the sightings hold what a device list holds that is told of the same
advertisements. -/
theorem observe_eq_merge :
    (∀ (d : Device) (rssi : Int16) (data : AdvertisementData),
      d.configuration.contains Configuration.lowEnergy = true →
        let e := (Device.observe none d.address rssi data).1
        let fields := d.mergeChanges e
        Device.observe (some d) d.address rssi data =
          (d.merge e, if fields.isEmpty then .unchanged else .changed fields)) ∧
      (∀ (hs : List (Address × Advert)) (a : Address) (d : Device),
        (Sightings.heard hs).get? a = some d →
          d.address = a ∧ d.configuration.contains Configuration.lowEnergy = true) ∧
      ∀ (hs : List (Address × Advert)) (a : Address),
        (Sightings.heard hs).get? a =
          ((∅ : DeviceStore).upsertAll (hs.map fun h => h.2.device h.1)).get? a := by
  refine ⟨fun d rssi data known => ?_, fun hs a d => Sightings.lowEnergy_of_heard,
    Sightings.get?_heard⟩
  have device := Device.absorb_eq_merge known d.address rssi data
  have changes := Device.absorbChanges_eq_mergeChanges known d.address rssi data
  exact Prod.ext device (congrArg Change.ofFields changes)

/-- A device was heard that listed a service twice.  It is heard again, with this service between
two new ones and with an empty name. -/
theorem observe_eq_merge_heard_again :
    let a : Address := ⟨7, by decide⟩
    let first : Advert := ⟨-40, { localName := some "Band", services := [.ofShort 1, .ofShort 1] }⟩
    let data : AdvertisementData :=
      { localName := some "", services := [.ofShort 2, .ofShort 1, .ofShort 3, .ofShort 2] }
    ∃ d, (Sightings.heard [(a, first)]).get? a = some d ∧
      Device.observe (some d) a (-40) data =
        (d.merge (.ofAdvertisement a (-40) data), .changed FieldSet.services) ∧
      (d.absorb (-40) data).services.toList = [.ofShort 1, .ofShort 2, .ofShort 3] := by
  intro a first data
  obtain ⟨agree, seen, -⟩ := observe_eq_merge
  have row : (Sightings.heard [(a, first)]).get? a = some (first.device a) := by decide
  obtain ⟨-, known⟩ := seen [(a, first)] a _ row
  refine ⟨first.device a, row, (agree _ (-40) data known).trans ?_, by decide⟩
  decide

end BluetoothDiscovery
