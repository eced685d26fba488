import BluetoothDiscovery.Advertisement.Sightings
import BluetoothDiscovery.DeviceStore
import BluetoothDiscovery.Proofs.Collections

/-!
# Announced fields

An update names the fields of a device that it changes.  Six fields can be named; `SameIn` says that
two devices have the same in one of them.  `contains_mergeChanges_iff` says that a merge names
exactly the fields that it changes, and `merge_of_silent` what a merge still does that names none.
An advertisement names fields by what was heard before (`contains_absorbChanges_iff`), so that it
is exact for the device that tells what was heard.
-/

namespace BluetoothDiscovery

/-! ### Maps and lists that stay as they are -/

theorem KeyedMap.overlay_eq_self_iff {κ α : Type} [Ranked κ] {m n : KeyedMap κ α} :
    m.overlay n = m ↔ ∀ k v, n.get? k = some v → m.get? k = some v := by
  constructor
  · intro same k v hv
    rw [← same, get?_overlay, hv]
    rfl
  · intro known
    refine ext_get? fun k => ?_
    rw [get?_overlay]
    cases hv : n.get? k with
    | none => rfl
    | some v => exact (known k v hv).symm

theorem DistinctList.insertAll_eq_self_iff {α : Type} [DecidableEq α] {l : DistinctList α}
    {items : List α} : l.insertAll items = l ↔ ∀ a ∈ items, a ∈ l.toList := by
  rw [← size_insertAll_eq_iff]
  constructor
  · exact congrArg size
  · intro same
    exact (ext_toList ((prefix_insertAll l items).eq_of_length same.symm)).symm

theorem Device.overlayChanges_iff {κ : Type} [Ranked κ]
    {target incoming : KeyedMap κ (List UInt8)} :
    overlayChanges target incoming = true ↔ target.overlay incoming ≠ target := by
  rw [ne_eq, KeyedMap.overlay_eq_self_iff, ← overlayChanges_eq_false_iff, Bool.not_eq_false]

theorem Device.servicesGrow_iff {services : DistinctList Uuid} {incoming : List Uuid} :
    servicesGrow services incoming = true ↔ services.insertAll incoming ≠ services := by
  rw [ne_eq, DistinctList.insertAll_eq_self_iff, ← servicesGrow_eq_false_iff, Bool.not_eq_false]

theorem Flags.eq_empty_of_isEmpty {table : FlagTable} {f : Flags table} (h : f.isEmpty = true) :
    f = ∅ := by
  obtain ⟨bits⟩ := f
  have none : bits = 0 := by simpa [isEmpty] using h
  rw [none]
  rfl

/-! ### Fields -/

/-- A field of a device whose changes are announced. -/
inductive AnnouncedField where
  | name
  | rssi
  | manufacturerData
  | serviceData
  | services
  | configuration
deriving DecidableEq

namespace AnnouncedField

/-- The flag of a field. -/
def flag : AnnouncedField → FieldSet
  | .name => FieldSet.name
  | .rssi => FieldSet.rssi
  | .manufacturerData => FieldSet.manufacturerData
  | .serviceData => FieldSet.serviceData
  | .services => FieldSet.services
  | .configuration => FieldSet.configuration

/-- Whether two devices have the same in a field. -/
def SameIn (d e : Device) : AnnouncedField → Prop
  | .name => d.name = e.name
  | .rssi => d.rssi = e.rssi
  | .manufacturerData => d.manufacturerData = e.manufacturerData
  | .serviceData => d.serviceData = e.serviceData
  | .services => d.services = e.services
  | .configuration => d.configuration = e.configuration

end AnnouncedField

/-- Which of the six fields are in a set of them. -/
theorem FieldSet.contains_onlyIf (a b c d e g : Bool) :
    let fields : FieldSet := .onlyIf a name ∪ .onlyIf b rssi ∪ .onlyIf c manufacturerData ∪
      .onlyIf d serviceData ∪ .onlyIf e services ∪ .onlyIf g configuration
    fields.contains name = a ∧ fields.contains rssi = b ∧ fields.contains manufacturerData = c ∧
      fields.contains serviceData = d ∧ fields.contains services = e ∧
      fields.contains configuration = g ∧ fields.isEmpty = !(a || b || c || d || e || g) := by
  revert a b c d e g
  decide

/-- The set of the fields with a property. -/
def FieldSet.having (p : AnnouncedField → Bool) : FieldSet :=
  .onlyIf (p .name) name ∪ .onlyIf (p .rssi) rssi ∪ .onlyIf (p .manufacturerData) manufacturerData ∪
    .onlyIf (p .serviceData) serviceData ∪ .onlyIf (p .services) services ∪
    .onlyIf (p .configuration) configuration

theorem FieldSet.contains_having (p : AnnouncedField → Bool) (f : AnnouncedField) :
    (having p).contains f.flag = p f := by
  obtain ⟨hname, hrssi, hmanufacturer, hservice, hservices, hconfiguration, -⟩ :=
    contains_onlyIf (p .name) (p .rssi) (p .manufacturerData) (p .serviceData) (p .services)
      (p .configuration)
  cases f with
  | name => exact hname
  | rssi => exact hrssi
  | manufacturerData => exact hmanufacturer
  | serviceData => exact hservice
  | services => exact hservices
  | configuration => exact hconfiguration

theorem FieldSet.isEmpty_having (p : AnnouncedField → Bool) :
    (having p).isEmpty = true ↔ ∀ f, p f = false := by
  obtain ⟨-, -, -, -, -, -, hempty⟩ := contains_onlyIf (p .name) (p .rssi) (p .manufacturerData)
    (p .serviceData) (p .services) (p .configuration)
  have all : (having p).isEmpty = !(p .name || p .rssi || p .manufacturerData || p .serviceData ||
    p .services || p .configuration) := hempty
  rw [all]
  constructor
  · intro none f
    cases f <;> simp_all
  · intro none
    simp [none]

/-! ### Merges -/

namespace Device

/-- Whether a merge finds something new in a field. -/
def mergeBrings (d e : Device) : AnnouncedField → Bool
  | .name => !e.name.isEmpty && e.name != d.name
  | .rssi => e.rssi.isSome && e.rssi != d.rssi
  | .manufacturerData => overlayChanges d.manufacturerData e.manufacturerData
  | .serviceData => overlayChanges d.serviceData e.serviceData
  | .services => servicesGrow d.services e.services.toList
  | .configuration => d.configuration ∪ e.configuration != d.configuration

theorem mergeChanges_eq_having (d e : Device) : d.mergeChanges e = .having (d.mergeBrings e) := by
  -- The two are the same but for the order in which the fields are joined.
  have order : ∀ a b c x y z : Bool,
      let joined : FieldSet := .onlyIf a FieldSet.name ∪ .onlyIf b FieldSet.configuration ∪
        .onlyIf c FieldSet.rssi ∪ .onlyIf x FieldSet.manufacturerData ∪
        .onlyIf y FieldSet.serviceData ∪ .onlyIf z FieldSet.services
      joined = .onlyIf a FieldSet.name ∪ .onlyIf c FieldSet.rssi ∪
        .onlyIf x FieldSet.manufacturerData ∪ .onlyIf y FieldSet.serviceData ∪
        .onlyIf z FieldSet.services ∪ .onlyIf b FieldSet.configuration := by
    decide
  exact order _ _ _ _ _ _

theorem mergeBrings_iff (d e : Device) (f : AnnouncedField) :
    d.mergeBrings e f = true ↔ ¬ f.SameIn (d.merge e) d := by
  cases f with
  | name =>
    show _ ↔ ¬ (if e.name.isEmpty then d.name else e.name) = d.name
    cases h : e.name.isEmpty <;> simp [mergeBrings, h]
  | rssi =>
    show _ ↔ ¬ e.rssi.or d.rssi = d.rssi
    cases h : e.rssi <;> simp [mergeBrings, h]
  | manufacturerData => exact overlayChanges_iff
  | serviceData => exact overlayChanges_iff
  | services => exact servicesGrow_iff
  | configuration => exact bne_iff_ne

/-- A merge announces exactly the fields that it changes. -/
theorem contains_mergeChanges_iff (d e : Device) (f : AnnouncedField) :
    (d.mergeChanges e).contains f.flag = true ↔ ¬ f.SameIn (d.merge e) d := by
  rw [mergeChanges_eq_having, FieldSet.contains_having, mergeBrings_iff]

theorem isEmpty_mergeChanges_iff {d e : Device} :
    (d.mergeChanges e).isEmpty = true ↔ ∀ f : AnnouncedField, f.SameIn (d.merge e) d := by
  rw [mergeChanges_eq_having, FieldSet.isEmpty_having]
  refine forall_congr' fun f => ?_
  rw [← Bool.not_eq_true, mergeBrings_iff, not_not]

/-- A merge that announces nothing changes no more than the class of a device and whether it was
looked up. -/
theorem merge_of_silent {d e : Device} (same : ∀ f : AnnouncedField, f.SameIn (d.merge e) d) :
    d.merge e = { d with
      classOfDevice := if e.classOfDevice = 0 then d.classOfDevice else e.classOfDevice
      resolved := d.resolved || e.resolved } := by
  have name : (d.merge e).name = d.name := same .name
  have rssi : (d.merge e).rssi = d.rssi := same .rssi
  have manufacturerData : (d.merge e).manufacturerData = d.manufacturerData :=
    same .manufacturerData
  have serviceData : (d.merge e).serviceData = d.serviceData := same .serviceData
  have services : (d.merge e).services = d.services := same .services
  have configuration : (d.merge e).configuration = d.configuration := same .configuration
  rw [← name, ← rssi, ← manufacturerData, ← serviceData, ← services, ← configuration]
  rfl

end Device

/-! ### Advertisements -/

/-- The name that an advertisement tells.  An empty one tells none. -/
def AdvertisementData.name? (data : AdvertisementData) : Option String :=
  data.localName.filter fun name => !name.isEmpty

namespace Device

variable {d x : Device} {rssi : Int16} {data : AdvertisementData}

theorem absorb_name (x : Device) (rssi : Int16) (data : AdvertisementData) :
    (x.absorb rssi data).name = data.name?.getD x.name := by
  unfold absorb AdvertisementData.name?
  cases data.localName with
  | none => rfl
  | some name => cases h : name.isEmpty <;> simp only [Option.filter_some, h] <;> rfl

/-- Whether an advertisement says something new in a field. -/
def absorbBrings (x : Device) (rssi : Int16) (data : AdvertisementData) : AnnouncedField → Bool
  | .name => data.localName.any fun name => !name.isEmpty && name != x.name
  | .rssi => x.rssi != some rssi
  | .manufacturerData => overlayChanges x.manufacturerData data.manufacturerData
  | .serviceData => overlayChanges x.serviceData data.serviceData
  | .services => servicesGrow x.services data.services
  | .configuration => false

theorem absorbChanges_eq_having (x : Device) (rssi : Int16) (data : AdvertisementData) :
    x.absorbChanges rssi data = .having (x.absorbBrings rssi data) := by
  have order : ∀ a b c y z : Bool,
      let joined : FieldSet := .onlyIf a FieldSet.rssi ∪ .onlyIf b FieldSet.manufacturerData ∪
        .onlyIf c FieldSet.serviceData ∪ .onlyIf y FieldSet.name ∪ .onlyIf z FieldSet.services
      joined = .onlyIf y FieldSet.name ∪ .onlyIf a FieldSet.rssi ∪
        .onlyIf b FieldSet.manufacturerData ∪ .onlyIf c FieldSet.serviceData ∪
        .onlyIf z FieldSet.services ∪ .onlyIf false FieldSet.configuration := by
    decide
  exact order _ _ _ _ _

theorem absorbBrings_name_iff (rssi : Int16) :
    x.absorbBrings rssi data .name = true ↔ ∃ name, data.name? = some name ∧ name ≠ x.name := by
  unfold absorbBrings AdvertisementData.name?
  cases data.localName with
  | none => simp
  | some name => cases h : name.isEmpty <;> simp [Option.filter_some, -String.isEmpty_iff, h]

theorem absorbBrings_iff (x : Device) (rssi : Int16) (data : AdvertisementData)
    (f : AnnouncedField) :
    x.absorbBrings rssi data f = true ↔ ¬ f.SameIn (x.absorb rssi data) x := by
  cases f with
  | name =>
    show _ ↔ ¬ (x.absorb rssi data).name = x.name
    rw [absorbBrings_name_iff, absorb_name]
    cases data.name? <;> simp
  | rssi =>
    show (x.rssi != some rssi) = true ↔ ¬ some rssi = x.rssi
    rw [bne_iff_ne, ne_comm]
  | manufacturerData => exact overlayChanges_iff
  | serviceData => exact overlayChanges_iff
  | services => exact servicesGrow_iff
  | configuration => exact iff_of_false Bool.false_ne_true (not_not.mpr rfl)

/-- An advertisement announces exactly the fields in which it changes what was heard before. -/
theorem contains_absorbChanges_iff (x : Device) (rssi : Int16) (data : AdvertisementData)
    (f : AnnouncedField) :
    (x.absorbChanges rssi data).contains f.flag = true ↔ ¬ f.SameIn (x.absorb rssi data) x := by
  rw [absorbChanges_eq_having, FieldSet.contains_having, absorbBrings_iff]

theorem sameIn_absorb_of_not_contains {f : AnnouncedField} (rssi : Int16)
    (data : AdvertisementData) (h : (x.absorbChanges rssi data).contains f.flag = false) :
    f.SameIn (x.absorb rssi data) x :=
  not_not.mp fun changed =>
    Bool.eq_false_iff.mp h ((contains_absorbChanges_iff x rssi data f).mpr changed)

theorem absorb_of_silent (silent : (x.absorbChanges rssi data).isEmpty = true)
    (f : AnnouncedField) : f.SameIn (x.absorb rssi data) x := by
  have unnamed : (x.absorbChanges rssi data).contains f.flag = false := by
    rw [Flags.eq_empty_of_isEmpty silent]
    cases f <;> rfl
  exact sameIn_absorb_of_not_contains rssi data unnamed

/-- The name is announced if one is told that is not the one told before. -/
theorem contains_absorbChanges_name_iff :
    (x.absorbChanges rssi data).contains FieldSet.name = true ↔
      ∃ name, data.name? = some name ∧ name ≠ x.name := by
  rw [← absorbBrings_name_iff rssi, absorbChanges_eq_having]
  exact iff_of_eq (congrArg (· = true) (FieldSet.contains_having _ .name))

theorem overlay_overlay_self {κ α : Type} [Ranked κ] (m n : KeyedMap κ α) :
    m.overlay (m.overlay n) = m.overlay n := by
  refine KeyedMap.ext_get? fun k => ?_
  rw [KeyedMap.get?_overlay, KeyedMap.get?_overlay, Option.or_assoc, Option.or_self]

/-- Two devices say the same of what advertisements alone tell. -/
structure HeardAlike (d x : Device) : Prop where
  rssi : d.rssi = x.rssi
  manufacturerData : d.manufacturerData = x.manufacturerData
  serviceData : d.serviceData = x.serviceData

/-- Announced fields other than the name are exactly those that change when they are adopted by a
device that says the same of what was heard. -/
theorem contains_absorbChanges_iff_of_adopt (alike : d.HeardAlike x)
    (quiet : (x.absorbChanges rssi data).contains FieldSet.services = false)
    {f : AnnouncedField} (other : f ≠ .name) :
    (x.absorbChanges rssi data).contains f.flag = true ↔
      ¬ f.SameIn (d.adopt (x.absorb rssi data) (x.absorbChanges rssi data)) d := by
  have exact_iff := contains_absorbChanges_iff x rssi data f
  -- Of each field that is announced the device adopts what was absorbed, and keeps the others.
  cases f with
  | name => exact absurd rfl other
  | rssi =>
    show _ ↔ ¬ (if _ = true then some rssi else d.rssi) = d.rssi
    split
    next named => rw [alike.rssi]; exact exact_iff
    next silent => exact iff_of_false silent (not_not.mpr rfl)
  | manufacturerData =>
    show _ ↔ ¬ (if _ = true then d.manufacturerData.overlay _ else d.manufacturerData) = _
    split
    next named =>
      rw [alike.manufacturerData]
      -- What is laid over the row twice is there already after the first time.
      refine exact_iff.trans (not_congr (iff_of_eq (congrArg (· = _) ?_)))
      exact (overlay_overlay_self _ _).symm
    next silent => exact iff_of_false silent (not_not.mpr rfl)
  | serviceData =>
    show _ ↔ ¬ (if _ = true then d.serviceData.overlay _ else d.serviceData) = _
    split
    next named =>
      rw [alike.serviceData]
      refine exact_iff.trans (not_congr (iff_of_eq (congrArg (· = _) ?_)))
      exact (overlay_overlay_self _ _).symm
    next silent => exact iff_of_false silent (not_not.mpr rfl)
  | services =>
    refine iff_of_false ?_ (not_not.mpr rfl)
    exact Bool.eq_false_iff.mp quiet
  | configuration => exact iff_of_false (mt exact_iff.mp (not_not.mpr rfl)) (not_not.mpr rfl)

/-- The name is adopted where it is announced. -/
theorem adopt_name (d x : Device) (rssi : Int16) (data : AdvertisementData) :
    (d.adopt (x.absorb rssi data) (x.absorbChanges rssi data)).name =
      if (x.absorbChanges rssi data).contains FieldSet.name then data.name?.getD d.name
      else d.name := by
  show (if _ && _ then (x.absorb rssi data).name else d.name) = _
  cases named : (x.absorbChanges rssi data).contains FieldSet.name with
  | false => rfl
  | true =>
    obtain ⟨name, told, -⟩ := contains_absorbChanges_name_iff.mp named
    have nonempty : name.isEmpty = false := by
      simpa using (Option.filter_eq_some_iff.mp told).2
    rw [absorb_name, told]
    simp [nonempty]

end Device

end BluetoothDiscovery
