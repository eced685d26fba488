import BluetoothDiscovery.DeviceStore
import Mathlib.Data.List.Nodup
import Mathlib.Tactic.Common

/-!
# The rows of a device list

What a change makes of the rows of a `DeviceStore`: a new address becomes a row at the end, and any
other change stays within the row of its address.  A store is settled by the order of its addresses
and by what it holds at each (`ext_get?`).
-/

namespace BluetoothDiscovery.DeviceStore

variable {s t : DeviceStore} {d e : Device} {a : Address}

/-- The addresses of the rows. -/
def addresses (s : DeviceStore) : List Address := s.devices.map Device.address

theorem mem_addresses : a ∈ s.addresses ↔ ∃ d ∈ s.devices, d.address = a :=
  List.mem_map

theorem get?_eq_none_iff : s.get? a = none ↔ a ∉ s.addresses := by
  unfold get?
  rw [List.find?_eq_none, mem_addresses]
  simp

theorem address_of_get? (h : s.get? a = some d) : d.address = a := by
  simpa using List.find?_some h

theorem mem_of_get? (h : s.get? a = some d) : d ∈ s.devices :=
  List.mem_of_find?_eq_some h

theorem mem_addresses_of_get? (h : s.get? a = some d) : a ∈ s.addresses :=
  mem_addresses.mpr ⟨d, mem_of_get? h, address_of_get? h⟩

/-- No two rows have one address. -/
theorem get?_of_mem (h : d ∈ s.devices) : s.get? d.address = some d := by
  cases hget : s.get? d.address with
  | none => exact absurd (mem_addresses.mpr ⟨d, h, rfl⟩) (get?_eq_none_iff.mp hget)
  | some x =>
    have same := List.inj_on_of_nodup_map s.distinct (mem_of_get? hget) h (address_of_get? hget)
    rw [same]

theorem devices_eq_filterMap (s : DeviceStore) : s.devices = s.addresses.filterMap s.get? := by
  have row : ∀ d ∈ s.devices, s.get? d.address = some d := fun d hd => get?_of_mem hd
  unfold addresses
  rw [List.filterMap_map]
  symm
  calc s.devices.filterMap (s.get? ∘ Device.address)
      = s.devices.filterMap some := List.filterMap_congr row
    _ = s.devices := List.filterMap_some

/-- A store is settled by the order of its addresses and by what it holds at each. -/
theorem ext_get? (addresses : s.addresses = t.addresses) (rows : ∀ a, s.get? a = t.get? a) :
    s = t := by
  have devices : s.devices = t.devices := by
    rw [devices_eq_filterMap s, devices_eq_filterMap t, addresses, funext rows]
  cases s
  cases t
  cases devices
  rfl

/-- A change within the rows of an address leaves the addresses alone. -/
theorem addresses_of_changed {s' : DeviceStore} {f : Device → Device}
    (keeps : ∀ d, (f d).address = d.address)
    (rows : s'.devices = s.devices.map fun d => if d.address = a then f d else d) :
    s'.addresses = s.addresses := by
  unfold addresses
  rw [rows, List.map_map]
  refine List.map_congr_left fun d _ => ?_
  show (if d.address = a then f d else d).address = d.address
  split
  · exact keeps d
  · rfl

theorem get?_modify (s : DeviceStore) (a : Address) (f : Device → Device)
    (keeps : ∀ d, (f d).address = d.address) (b : Address) :
    (s.modify a f keeps).get? b = if b = a then (s.get? b).map f else s.get? b := by
  unfold modify get?
  rw [List.find?_map]
  have same : ((fun d : Device => d.address == b) ∘ fun d => if d.address = a then f d else d) =
      fun d => d.address == b := by
    funext d
    show ((if d.address = a then f d else d).address == b) = (d.address == b)
    split
    · rw [keeps]
    · rfl
  rw [same]
  -- The row that is found is changed exactly if it is looked for at `a`.
  cases hfind : s.devices.find? fun d => d.address == b with
  | none => simp
  | some d =>
    have address : d.address = b := address_of_get? hfind
    rw [Option.map_some, Option.map_some, address]
    split <;> rfl

/-! ### Upserts -/

theorem devices_upsert_of_not_mem (h : e.address ∉ s.addresses) :
    (s.upsert e).1.devices = s.devices ++ [e] := by
  unfold upsert
  split
  · rfl
  next known hknown =>
    rw [get?_eq_none_iff.mpr h] at hknown
    cases hknown

theorem devices_upsert_of_mem (h : e.address ∈ s.addresses) :
    (s.upsert e).1.devices =
      s.devices.map fun d => if d.address = e.address then d.merge e else d := by
  unfold upsert
  split
  next hnone => exact absurd h (get?_eq_none_iff.mp hnone)
  · rfl

/-- A device that is put into a store gets a row at the end unless its address has one. -/
theorem addresses_upsert (s : DeviceStore) (e : Device) :
    (s.upsert e).1.addresses =
      if e.address ∈ s.addresses then s.addresses else s.addresses ++ [e.address] := by
  split
  next known =>
    exact addresses_of_changed (f := (·.merge e)) (fun _ => rfl) (devices_upsert_of_mem known)
  next new =>
    unfold addresses
    rw [devices_upsert_of_not_mem new, List.map_append, List.map_singleton]

theorem get?_append (s : DeviceStore) (new : s.get? e.address = none) (a : Address) :
    (s.append e new).get? a = if a = e.address then some e else s.get? a := by
  have rows : (s.append e new).devices = s.devices ++ [e] := rfl
  unfold get? at new ⊢
  rw [rows, List.find?_append]
  split
  next h => rw [h, new]; simp
  next h =>
    have other : (e.address == a) = false := beq_eq_false_iff_ne.mpr fun he => h he.symm
    rw [List.find?_cons_of_neg (by simp [other]), List.find?_nil, Option.or_none]

/-- Only the address of the device that is put into a store can have another row. -/
theorem get?_upsert_of_ne (h : a ≠ e.address) : (s.upsert e).1.get? a = s.get? a := by
  unfold upsert
  split
  next new => exact (get?_append s new a).trans (if_neg h)
  next => exact (get?_modify s e.address (·.merge e) (fun _ => rfl) a).trans (if_neg h)

theorem upsert_of_get?_eq_none (h : s.get? e.address = none) :
    (s.upsert e).1.get? e.address = some e ∧ (s.upsert e).2 = .inserted := by
  unfold upsert
  split
  · exact ⟨(get?_append s h _).trans (if_pos rfl), rfl⟩
  next known hknown => rw [h] at hknown; cases hknown

theorem upsert_of_get?_eq_some (h : s.get? e.address = some d) :
    (s.upsert e).1.get? e.address = some (d.merge e) ∧
      (s.upsert e).2 = .merged (d.mergeChanges e) := by
  unfold upsert
  split
  next hnone => rw [h] at hnone; cases hnone
  next known hknown =>
    obtain rfl := Option.some.inj (h.symm.trans hknown)
    have row := get?_modify s e.address (·.merge e) (fun _ => rfl) e.address
    rw [if_pos rfl, h] at row
    exact ⟨row, rfl⟩

/-- What becomes of the row of an address. -/
theorem get?_upsert (s : DeviceStore) (e : Device) (a : Address) :
    (s.upsert e).1.get? a =
      if a = e.address then some (((s.get? a).map (·.merge e)).getD e) else s.get? a := by
  split
  next own =>
    subst own
    cases row : s.get? e.address with
    | none => exact (upsert_of_get?_eq_none row).1
    | some d => exact (upsert_of_get?_eq_some row).1
  next other => exact get?_upsert_of_ne other

/-! ### Updates -/

theorem get?_update (s : DeviceStore) (source : Device) (fields : FieldSet) (a : Address) :
    (s.update source fields).get? a =
      if a = source.address then (s.get? a).map (·.adopt source fields) else s.get? a :=
  get?_modify s source.address (·.adopt source fields) (fun _ => rfl) a

theorem get?_update_self (source : Device) (fields : FieldSet) (own : source.address = a)
    (row : s.get? a = some d) :
    (s.update source fields).get? a = some (d.adopt source fields) := by
  rw [get?_update, if_pos own.symm, row]
  rfl

theorem devices_update (s : DeviceStore) (source : Device) (fields : FieldSet) :
    (s.update source fields).devices =
      s.devices.map fun d => if d.address = source.address then d.adopt source fields else d := rfl

theorem addresses_update (s : DeviceStore) (source : Device) (fields : FieldSet) :
    (s.update source fields).addresses = s.addresses :=
  addresses_of_changed (f := (·.adopt source fields)) (fun _ => rfl)
    (devices_update s source fields)

end BluetoothDiscovery.DeviceStore
