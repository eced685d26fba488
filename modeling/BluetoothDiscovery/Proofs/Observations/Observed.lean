import BluetoothDiscovery.Proofs.Coordinator.History
import BluetoothDiscovery.Proofs.DeviceStore
import BluetoothDiscovery.Proofs.Observations.Describes

/-!
# The observations of a run

What is known about an address is kept in two places, the sightings of the run and the device list,
and changed in several ways.  `observed` is the plain history instead: the look-ups and the
advertisements that were taken in since the last run began.  `Stored` and `Sighted` say what each
of the two places has to do with it, and how each is changed when one more observation is made.
-/

namespace BluetoothDiscovery

open Coordinator (Moment history after)

/-! ### Observations -/

/-- An observation of an address: a look-up of its device, or an advertisement. -/
inductive Observation where
  | lookUp (resolution : Resolution)
  | advert (address : Address) (advert : Advert)

namespace Observation

/-- The address that was observed. -/
def address : Observation → Address
  | .lookUp r => r.identity.address
  | .advert a _ => a

/-- The look-up of the device at an address, if it is one. -/
def lookUpOf (a : Address) : Observation → Option Resolution
  | .lookUp r => if r.identity.address = a then some r else none
  | .advert _ _ => none

/-- The advertisement from an address, if it is one. -/
def advertOf (a : Address) : Observation → Option Advert
  | .lookUp _ => none
  | .advert b h => if b = a then some h else none

end Observation

/-- The look-ups of an address, the oldest first. -/
def lookUpsOf (a : Address) (obs : List Observation) : List Resolution :=
  obs.filterMap (·.lookUpOf a)

/-- The advertisements from an address, the oldest first. -/
def advertsOf (a : Address) (obs : List Observation) : List Advert :=
  obs.filterMap (·.advertOf a)

/-- What a moment makes of the observations of a run.  They begin anew with a run, and only what is
meant for the present run is taken in. -/
def observe (extract : Payload → AdvertisementData) (obs : List Observation) (m : Moment) :
    List Observation :=
  match m.action with
  | .adapterChecked id .ready => if m.coordinator.isStarting id then [] else obs
  | .resolved id resolution =>
    if m.coordinator.isRunning id then obs ++ [.lookUp resolution] else obs
  | .advertised id report =>
    if m.coordinator.isRunning id then
      obs ++ [.advert report.address ⟨report.rssi, extract report.payload⟩]
    else obs
  | _ => obs

/-- The observations of the last run that has begun. -/
def observed (extract : Payload → AdvertisementData) (as : List Action) : List Observation :=
  (history extract as).foldl (observe extract) []

variable {extract : Payload → AdvertisementData} {obs : List Observation} {o : Observation}
  {a b : Address}

theorem observed_concat (as : List Action) (action : Action) :
    observed extract (as ++ [action]) =
      observe extract (observed extract as) ⟨after extract as, action⟩ := by
  unfold observed
  rw [Coordinator.history_concat, List.foldl_append]
  rfl

theorem lookUpsOf_concat : lookUpsOf a (obs ++ [o]) = lookUpsOf a obs ++ (o.lookUpOf a).toList := by
  unfold lookUpsOf
  rw [List.filterMap_append]
  cases h : o.lookUpOf a <;> simp [h]

theorem advertsOf_concat : advertsOf a (obs ++ [o]) = advertsOf a obs ++ (o.advertOf a).toList := by
  unfold advertsOf
  rw [List.filterMap_append]
  cases h : o.advertOf a <;> simp [h]

/-- Observations of other addresses are none of an address. -/
theorem lookUpOf_of_ne (h : o.address ≠ a) : o.lookUpOf a = none := by
  cases o with
  | lookUp r => exact if_neg h
  | advert _ _ => rfl

theorem advertOf_of_ne (h : o.address ≠ a) : o.advertOf a = none := by
  cases o with
  | lookUp _ => rfl
  | advert _ _ => exact if_neg h

theorem lookUpsOf_concat_of_ne (h : o.address ≠ a) :
    lookUpsOf a (obs ++ [o]) = lookUpsOf a obs := by
  rw [lookUpsOf_concat, lookUpOf_of_ne h]
  exact List.append_nil _

theorem advertsOf_concat_of_ne (h : o.address ≠ a) :
    advertsOf a (obs ++ [o]) = advertsOf a obs := by
  rw [advertsOf_concat, advertOf_of_ne h]
  exact List.append_nil _

@[simp]
theorem lookUpsOf_concat_lookUp (resolution : Resolution) :
    lookUpsOf resolution.identity.address (obs ++ [.lookUp resolution]) =
      lookUpsOf resolution.identity.address obs ++ [resolution] := by
  rw [lookUpsOf_concat]
  exact congrArg (_ ++ Option.toList ·) (if_pos rfl)

@[simp]
theorem advertsOf_concat_lookUp (resolution : Resolution) :
    advertsOf a (obs ++ [.lookUp resolution]) = advertsOf a obs := by
  rw [advertsOf_concat]
  exact List.append_nil _

@[simp]
theorem lookUpsOf_concat_advert (heard : Advert) :
    lookUpsOf a (obs ++ [.advert b heard]) = lookUpsOf a obs := by
  rw [lookUpsOf_concat]
  exact List.append_nil _

@[simp]
theorem advertsOf_concat_advert (heard : Advert) :
    advertsOf a (obs ++ [.advert a heard]) = advertsOf a obs ++ [heard] := by
  rw [advertsOf_concat]
  exact congrArg (_ ++ Option.toList ·) (if_pos rfl)

theorem describes_concat_lookUp {d : Device} {resolution : Resolution} :
    Describes d (lookUpsOf resolution.identity.address (obs ++ [.lookUp resolution]))
        (advertsOf resolution.identity.address (obs ++ [.lookUp resolution])) ↔
      Describes d (lookUpsOf resolution.identity.address obs ++ [resolution])
        (advertsOf resolution.identity.address obs) := by
  rw [lookUpsOf_concat_lookUp, advertsOf_concat_lookUp]

theorem describes_concat_advert {d : Device} {heard : Advert} :
    Describes d (lookUpsOf a (obs ++ [.advert a heard])) (advertsOf a (obs ++ [.advert a heard])) ↔
      Describes d (lookUpsOf a obs) (advertsOf a obs ++ [heard]) := by
  rw [lookUpsOf_concat_advert, advertsOf_concat_advert]

/-- Nothing is known of an address that was not observed. -/
theorem eq_nil_of_not_mem (h : a ∉ obs.map Observation.address) :
    lookUpsOf a obs = [] ∧ advertsOf a obs = [] := by
  have ne : ∀ o ∈ obs, o.address ≠ a := fun o ho he => h (List.mem_map.mpr ⟨o, ho, he⟩)
  constructor
  · exact List.filterMap_eq_nil_iff.mpr fun o ho => lookUpOf_of_ne (ne o ho)
  · exact List.filterMap_eq_nil_iff.mpr fun o ho => advertOf_of_ne (ne o ho)

theorem mem_of_advertsOf_ne_nil (h : advertsOf a obs ≠ []) : a ∈ obs.map Observation.address :=
  by_contra fun hmem => h (eq_nil_of_not_mem hmem).2

/-! ### The device list -/

/-- A device list holds the observed addresses in the order in which they were first observed, and
each row describes the observations of its address. -/
structure Stored (s : DeviceStore) (obs : List Observation) : Prop where
  addresses : s.addresses = (obs.map Observation.address).eraseDups
  describes : ∀ d ∈ s.devices, Describes d (lookUpsOf d.address obs) (advertsOf d.address obs)

namespace Stored

variable {s s' : DeviceStore} {e : Device}

theorem empty : Stored ∅ [] where
  addresses := rfl
  describes _ h := absurd h List.not_mem_nil

theorem mem_addresses (h : Stored s obs) : a ∈ s.addresses ↔ a ∈ obs.map Observation.address := by
  rw [h.addresses, List.mem_eraseDups]

/-- A row of an address that was not observed now describes what it described. -/
theorem describes_concat_of_ne (h : Stored s obs) {d : Device} (hd : d ∈ s.devices)
    (hne : o.address ≠ d.address) :
    Describes d (lookUpsOf d.address (obs ++ [o])) (advertsOf d.address (obs ++ [o])) := by
  rw [lookUpsOf_concat_of_ne hne, advertsOf_concat_of_ne hne]
  exact h.describes d hd

/-- An address that was observed before is observed again, and its row is changed. -/
theorem change (h : Stored s obs) (mem : o.address ∈ obs.map Observation.address)
    {f : Device → Device} (keeps : ∀ d, (f d).address = d.address)
    (rows : s'.devices = s.devices.map fun d => if d.address = o.address then f d else d)
    (known : ∀ d, Describes d (lookUpsOf o.address obs) (advertsOf o.address obs) →
      Describes (f d) (lookUpsOf o.address (obs ++ [o])) (advertsOf o.address (obs ++ [o]))) :
    Stored s' (obs ++ [o]) := by
  constructor
  · have same : s'.addresses = s.addresses := DeviceStore.addresses_of_changed keeps rows
    rw [same, h.addresses, List.map_append, List.map_singleton, eraseDups_concat_of_mem mem]
  · intro d' hd'
    rw [rows] at hd'
    obtain ⟨d, hd, rfl⟩ := List.mem_map.mp hd'
    -- The row of the address is described anew, the others as before.
    by_cases ha : d.address = o.address
    · rw [if_pos ha, keeps, ha]
      refine known d ?_
      rw [← ha]
      exact h.describes d hd
    · rw [if_neg ha]
      exact h.describes_concat_of_ne hd fun he => ha he.symm

/-- An address is observed for the first time, and becomes a row at the end. -/
theorem append (h : Stored s obs) (new : o.address ∉ obs.map Observation.address)
    (address : e.address = o.address) (rows : s'.devices = s.devices ++ [e])
    (described : Describes e (lookUpsOf o.address (obs ++ [o]))
      (advertsOf o.address (obs ++ [o]))) :
    Stored s' (obs ++ [o]) := by
  constructor
  · unfold DeviceStore.addresses
    rw [rows, List.map_append, List.map_append, List.map_singleton, List.map_singleton, address,
      eraseDups_concat_of_not_mem new]
    exact congrArg (· ++ _) h.addresses
  · intro d hd
    rw [rows] at hd
    rcases List.mem_append.mp hd with hd | hd
    · have hmem := h.mem_addresses.mp (DeviceStore.mem_addresses.mpr ⟨d, hd, rfl⟩)
      exact h.describes_concat_of_ne hd fun he => new (he ▸ hmem)
    · rw [List.mem_singleton.mp hd, address]
      exact described

/-- A device is put into the list: as a new row, or merged into the row of its address. -/
theorem upsert (h : Stored s obs) (address : e.address = o.address)
    (new : o.address ∉ obs.map Observation.address →
      Describes e (lookUpsOf o.address (obs ++ [o])) (advertsOf o.address (obs ++ [o])))
    (known : ∀ d, Describes d (lookUpsOf o.address obs) (advertsOf o.address obs) →
      Describes (d.merge e) (lookUpsOf o.address (obs ++ [o])) (advertsOf o.address (obs ++ [o]))) :
    Stored (s.upsert e).1 (obs ++ [o]) := by
  by_cases hmem : o.address ∈ obs.map Observation.address
  · have hrow : e.address ∈ s.addresses := by rwa [address, h.mem_addresses]
    refine h.change hmem (f := (·.merge e)) (fun _ => rfl) ?_ known
    rw [DeviceStore.devices_upsert_of_mem hrow, address]
  · have hrow : e.address ∉ s.addresses := by rwa [address, h.mem_addresses]
    exact h.append hmem address (DeviceStore.devices_upsert_of_not_mem hrow) (new hmem)

end Stored

/-! ### The sightings -/

/-- The sightings hold what the advertisements from each address have said. -/
structure Sighted (s : Sightings) (obs : List Observation) : Prop where
  unseen : ∀ a, s.get? a = none → advertsOf a obs = []
  seen : ∀ a x, s.get? a = some x → x.address = a ∧ advertsOf a obs ≠ [] ∧
    Describes x [] (advertsOf a obs)

namespace Sighted

variable {s : Sightings}

theorem empty : Sighted ∅ [] where
  unseen _ _ := rfl
  seen _ _ h := by cases h

/-- A look-up is no sighting. -/
theorem lookUp (h : Sighted s obs) (resolution : Resolution) :
    Sighted s (obs ++ [.lookUp resolution]) := by
  constructor
  · intro a
    rw [advertsOf_concat_lookUp]
    exact h.unseen a
  · intro a
    rw [advertsOf_concat_lookUp]
    exact h.seen a

/-- What was heard last takes the place of what was heard before of its address. -/
theorem insert (h : Sighted s obs) {x : Device} {heard : Advert} (address : x.address = a)
    (described : Describes x [] (advertsOf a obs ++ [heard])) :
    Sighted ⟨s.byAddress.insert a x⟩ (obs ++ [.advert a heard]) := by
  have other : ∀ b, b ≠ a → advertsOf b (obs ++ [.advert a heard]) = advertsOf b obs :=
    fun b hne => advertsOf_concat_of_ne hne.symm
  have here : (⟨s.byAddress.insert a x⟩ : Sightings).get? a = some x :=
    KeyedMap.get?_insert_self _ _ _
  have there : ∀ b, b ≠ a → (⟨s.byAddress.insert a x⟩ : Sightings).get? b = s.get? b :=
    fun b hne => KeyedMap.get?_insert_of_ne _ hne _
  -- Only the row and the adverts of this address change.
  constructor
  · intro b hb
    by_cases hne : b = a
    · rw [hne, here] at hb
      cases hb
    · rw [there b hne] at hb
      rw [other b hne]
      exact h.unseen b hb
  · intro b y hb
    by_cases hne : b = a
    · subst hne
      rw [here, Option.some.injEq] at hb
      subst hb
      rw [advertsOf_concat_advert]
      exact ⟨address, by simp, described⟩
    · rw [there b hne] at hb
      rw [other b hne]
      exact h.seen b y hb

/-- Advertisements that change nothing are taken in without a trace. -/
theorem unchanged (h : Sighted s obs) {x : Device} (known : s.get? a = some x) {rssi : Int16}
    {data : AdvertisementData} (silent : (x.absorbChanges rssi data).isEmpty = true) :
    Sighted s (obs ++ [.advert a ⟨rssi, data⟩]) := by
  have other : ∀ b, b ≠ a → advertsOf b (obs ++ [.advert a ⟨rssi, data⟩]) = advertsOf b obs :=
    fun b hne => advertsOf_concat_of_ne hne.symm
  -- No row changes, and the one of the address describes the longer row of adverts as well.
  constructor
  · intro b hb
    have hne : b ≠ a := by
      rintro rfl
      rw [known] at hb
      cases hb
    rw [other b hne]
    exact h.unseen b hb
  · intro b y hb
    by_cases hne : b = a
    · subst hne
      obtain ⟨address, heard, described⟩ := h.seen b y hb
      obtain rfl := Option.some.inj (known.symm.trans hb)
      rw [advertsOf_concat_advert]
      exact ⟨address, by simp, described.unchanged described heard silent⟩
    · rw [other b hne]
      exact h.seen b y hb

end Sighted

end BluetoothDiscovery
