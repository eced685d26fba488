import BluetoothDiscovery.Proofs.DeviceStore
import BluetoothDiscovery.Proofs.Observations.Changes
import Mathlib.Algebra.BigOperators.Group.List.Basic

/-!
# The algebra of merging

Merging is associative, has the device of which nothing is known as its unit, and a device that is
merged in once more changes nothing.  The devices of one address are a monoid (`DeviceAt`), so that
a row of them has a product.

A device list that is told of devices one by one ends like one that is told of their product
(`upsertAll_eq_upsert_prod`).  So it makes no difference how they are grouped beforehand.
-/

namespace BluetoothDiscovery

attribute [ext] Device

/-! ### Values of which the last counts -/

/-- Where the last value counts that is not blank, the later two may be settled first. -/
theorem ite_blank_assoc {α : Type} (blank : α → Prop) [DecidablePred blank] (a b c : α) :
    (if blank c then (if blank b then a else b) else c) =
      if blank (if blank c then b else c) then a else (if blank c then b else c) := by
  by_cases h : blank c
  · simp only [if_pos h]
  · simp only [if_neg h]

/-- A blank value may be told like any other if the value before it is the same. -/
theorem ite_blank_self {α : Type} {blank : α → Prop} [DecidablePred blank] {none : α}
    (only : ∀ a, blank a → a = none) (a : α) : (if blank a then none else a) = a := by
  split
  next h => exact (only a h).symm
  · rfl

/-! ### Flags -/

namespace Flags

variable {table : FlagTable}

theorem union_assoc (f g h : Flags table) : f ∪ g ∪ h = f ∪ (g ∪ h) :=
  congrArg Flags.mk (UInt8.or_assoc f.bits g.bits h.bits)

theorem union_self (f : Flags table) : f ∪ f = f := congrArg Flags.mk UInt8.or_self

theorem union_empty (f : Flags table) : f ∪ ∅ = f := congrArg Flags.mk UInt8.or_zero

theorem empty_union (f : Flags table) : ∅ ∪ f = f := congrArg Flags.mk UInt8.zero_or

end Flags

/-! ### Merging -/

theorem AnnouncedField.SameIn.refl (d : Device) (f : AnnouncedField) : f.SameIn d d := by
  cases f <;> rfl

namespace Device

variable {d e : Device}

/-- The device of which nothing is known but its address. -/
def unknown (a : Address) : Device := { address := a }

theorem merge_assoc (d e f : Device) : (d.merge e).merge f = d.merge (e.merge f) := by
  apply Device.ext
  case address => rfl
  case name => exact ite_blank_assoc (·.isEmpty = true) d.name e.name f.name
  case classOfDevice =>
    exact ite_blank_assoc (· = 0) d.classOfDevice e.classOfDevice f.classOfDevice
  case configuration => exact Flags.union_assoc _ _ _
  case rssi => exact Option.or_assoc.symm
  case manufacturerData => exact KeyedMap.overlay_assoc _ _ _
  case serviceData => exact KeyedMap.overlay_assoc _ _ _
  case services => exact (DistinctList.insertAll_insertAll _ _ _).symm
  case resolved => exact Bool.or_assoc _ _ _

theorem merge_self (d : Device) : d.merge d = d := by
  apply Device.ext
  case address => rfl
  case name => exact ite_self d.name
  case classOfDevice => exact ite_self d.classOfDevice
  case configuration => exact Flags.union_self _
  case rssi => exact Option.or_self
  case manufacturerData => exact KeyedMap.overlay_eq_self_iff.mpr fun _ _ held => held
  case serviceData => exact KeyedMap.overlay_eq_self_iff.mpr fun _ _ held => held
  case services => exact DistinctList.insertAll_eq_self_iff.mpr fun _ listed => listed
  case resolved => exact Bool.or_self _

/-- What was merged in last is there. -/
theorem merge_merge_self (d e : Device) : (d.merge e).merge e = d.merge e := by
  rw [merge_assoc, merge_self]

theorem unknown_merge (d : Device) : (unknown d.address).merge d = d := by
  apply Device.ext
  case address => rfl
  case name => exact ite_blank_self (fun _ => String.isEmpty_iff.mp) d.name
  case classOfDevice => exact ite_blank_self (fun _ => id) d.classOfDevice
  case configuration => exact Flags.empty_union _
  case rssi => exact Option.or_none
  case manufacturerData => exact KeyedMap.empty_overlay _
  case serviceData => exact KeyedMap.empty_overlay _
  case services => exact DistinctList.ofList_toList _
  case resolved => exact Bool.false_or _

theorem merge_unknown (d : Device) (a : Address) : d.merge (unknown a) = d := by
  apply Device.ext
  case address => rfl
  case name => rfl
  case classOfDevice => rfl
  case configuration => exact Flags.union_empty _
  case rssi => exact Option.none_or
  case manufacturerData => exact KeyedMap.overlay_empty _
  case serviceData => exact KeyedMap.overlay_empty _
  case services => rfl
  case resolved => exact Bool.or_false _

/-- A merge that changes nothing is announced as none. -/
theorem mergeChanges_of_merge_eq (same : d.merge e = d) : d.mergeChanges e = ∅ := by
  refine Flags.eq_empty_of_isEmpty (isEmpty_mergeChanges_iff.mpr fun f => ?_)
  rw [same]
  exact .refl d f

end Device

/-! ### The devices of one address -/

/-- The devices with an address. -/
abbrev DeviceAt (a : Address) : Type := { d : Device // d.address = a }

namespace DeviceAt

variable {a : Address}

instance : Mul (DeviceAt a) := ⟨fun d e => ⟨d.val.merge e.val, d.property⟩⟩

instance : One (DeviceAt a) := ⟨⟨.unknown a, rfl⟩⟩

/-- What devices of one address say one after the other. -/
instance : Monoid (DeviceAt a) where
  mul_assoc d e f := Subtype.ext (Device.merge_assoc d.val e.val f.val)
  one_mul := by
    rintro ⟨d, rfl⟩
    exact Subtype.ext (Device.unknown_merge d)
  mul_one d := Subtype.ext (Device.merge_unknown d.val a)

end DeviceAt

/-! ### Device lists -/

namespace DeviceStore

variable {d e : Device} {a : Address}

/-- The store after devices were put into it one by one. -/
def upsertAll (s : DeviceStore) (ds : List Device) : DeviceStore :=
  ds.foldl (fun s d => (s.upsert d).1) s

theorem mem_addresses_upsert_self (s : DeviceStore) (d : Device) :
    d.address ∈ (s.upsert d).1.addresses := by
  rw [addresses_upsert]
  split
  next known => exact known
  next => exact List.mem_append_right _ (.head _)

/-- Two devices of one address may be merged before they are put into the store. -/
theorem upsert_upsert (s : DeviceStore) (same : e.address = d.address) :
    ((s.upsert d).1.upsert e).1 = (s.upsert (d.merge e)).1 := by
  have merged : (d.merge e).address = d.address := rfl
  -- The second device finds the address listed, so that the order is settled by the first.
  refine ext_get? ?_ fun a => ?_
  · rw [addresses_upsert _ e, same, if_pos (mem_addresses_upsert_self s d), addresses_upsert,
      addresses_upsert, merged]
  · rw [get?_upsert, get?_upsert, get?_upsert, same, merged]
    split
    · cases s.get? a with
      | none => rfl
      | some known => exact congrArg some (known.merge_assoc d e)
    · rfl

theorem upsertAll_eq_upsert_prod (s : DeviceStore) (d : DeviceAt a) (ds : List (DeviceAt a)) :
    s.upsertAll ((d :: ds).map Subtype.val) = (s.upsert (d :: ds).prod.val).1 := by
  -- The first two are made one device, and this is the first of a shorter row.
  induction ds generalizing d with
  | nil =>
    rw [List.prod_singleton]
    rfl
  | cons e ds ih =>
    have first : ((s.upsert d.val).1.upsert e.val).1 = (s.upsert (d * e).val).1 :=
      upsert_upsert s (e.property.trans d.property.symm)
    calc s.upsertAll ((d :: e :: ds).map Subtype.val)
        = ((s.upsert d.val).1.upsert e.val).1.upsertAll (ds.map Subtype.val) := rfl
      _ = s.upsertAll ((d * e :: ds).map Subtype.val) := by
        rw [first]
        rfl
      _ = (s.upsert (d * e :: ds).prod.val).1 := ih (d * e)
      _ = (s.upsert (d :: e :: ds).prod.val).1 := by
        rw [List.prod_cons, List.prod_cons, List.prod_cons, mul_assoc]

/-- Devices of one address may be grouped, and each group be merged, before they are put into the
store. -/
theorem upsertAll_prod (s : DeviceStore) (groups : List (List (DeviceAt a)))
    (nonempty : ∀ g ∈ groups, g ≠ []) :
    s.upsertAll (groups.map fun g => g.prod.val) =
      s.upsertAll (groups.flatten.map Subtype.val) := by
  induction groups generalizing s with
  | nil => rfl
  | cons g groups ih =>
    obtain ⟨d, ds, rfl⟩ := List.exists_cons_of_ne_nil (nonempty g (.head _))
    have rest : ∀ g ∈ groups, g ≠ [] := fun g hg => nonempty g (.tail _ hg)
    calc s.upsertAll (((d :: ds) :: groups).map fun g => g.prod.val)
        = (s.upsert (d :: ds).prod.val).1.upsertAll (groups.map fun g => g.prod.val) := rfl
      _ = (s.upsertAll ((d :: ds).map Subtype.val)).upsertAll (groups.flatten.map Subtype.val) := by
        rw [upsertAll_eq_upsert_prod, ih _ rest]
      _ = s.upsertAll (((d :: ds) :: groups).flatten.map Subtype.val) := by
        rw [List.flatten_cons, List.map_append]
        exact List.foldl_append.symm

/-- A device that was put into the store last changes nothing when it is put in again. -/
theorem upsert_again (s : DeviceStore) (d : Device) :
    (s.upsert d).1.upsert d = ((s.upsert d).1, .merged ∅) := by
  have row := get?_upsert s d d.address
  rw [if_pos rfl] at row
  obtain ⟨-, outcome⟩ := upsert_of_get?_eq_some row
  have known : (((s.get? d.address).map (·.merge d)).getD d).merge d =
      ((s.get? d.address).map (·.merge d)).getD d := by
    cases s.get? d.address with
    | none => exact d.merge_self
    | some e => exact e.merge_merge_self d
  rw [Device.mergeChanges_of_merge_eq known] at outcome
  refine Prod.ext ?_ outcome
  rw [upsert_upsert s rfl, d.merge_self]

end DeviceStore

/-! ### Idempotent monoids -/

/-- Merging is associative and has a unit, and what was merged in once is merged in for good,
without an announcement.  So a device list that is told of devices of one address does not depend on
how they are grouped beforehand, and it is silent about a device that it was told of last. -/
theorem merging_idempotent_monoid :
    (∀ d e f : Device, (d.merge e).merge f = d.merge (e.merge f)) ∧
      (∀ d : Device, d.merge d = d ∧ d.mergeChanges d = ∅) ∧
      (∀ d e : Device, (d.merge e).merge e = d.merge e ∧ (d.merge e).mergeChanges e = ∅) ∧
      (∀ d : Device,
        (Device.unknown d.address).merge d = d ∧ d.merge (.unknown d.address) = d) ∧
      (∀ (s : DeviceStore) (a : Address) (groups : List (List (DeviceAt a))),
        (∀ g ∈ groups, g ≠ []) →
          s.upsertAll (groups.map fun g => g.prod.val) =
            s.upsertAll (groups.flatten.map Subtype.val)) ∧
      ∀ (s : DeviceStore) (d : Device),
        (s.upsert d).1.upsert d = ((s.upsert d).1, .merged ∅) := by
  refine ⟨Device.merge_assoc, fun d => ⟨d.merge_self, ?_⟩, fun d e => ⟨d.merge_merge_self e, ?_⟩,
    fun d => ⟨d.unknown_merge, d.merge_unknown _⟩, ?_, DeviceStore.upsert_again⟩
  · exact Device.mergeChanges_of_merge_eq d.merge_self
  · exact Device.mergeChanges_of_merge_eq (d.merge_merge_self e)
  · exact fun s _ groups nonempty => s.upsertAll_prod groups nonempty

/-- Three devices are told in two groups.  A service that the first two name keeps its place, and
the name is the last that is not empty. -/
theorem merging_idempotent_monoid_two_groups :
    let a : Address := ⟨7, by decide⟩
    let d : DeviceAt a := ⟨{ address := a, name := "Band", services := .ofList [.ofShort 1] }, rfl⟩
    let e : DeviceAt a :=
      ⟨{ address := a, name := "Watch", services := .ofList [.ofShort 2, .ofShort 1] }, rfl⟩
    let f : DeviceAt a := ⟨{ address := a, services := .ofList [.ofShort 3] }, rfl⟩
    let s : DeviceStore := (∅ : DeviceStore).upsertAll [d, e, f]
    (∅ : DeviceStore).upsertAll [(d * e).val, f] = s ∧
      s.devices = [{ address := a, name := "Watch",
                     services := .ofList [.ofShort 1, .ofShort 2, .ofShort 3] }] := by
  intro a d e f s
  have grouped := merging_idempotent_monoid.2.2.2.2.1 ∅ a [[d, e], [f]] (by simp)
  rw [List.map_cons, List.map_singleton, List.prod_pair, List.prod_singleton] at grouped
  exact ⟨grouped, by decide⟩

end BluetoothDiscovery
