import BluetoothDiscovery.Proofs.DeviceStore

/-!
# Device lists as ordered maps

An `OrderedMap` keeps entries in the order in which their keys first came, and the keys beside the
values.  A map of devices can be told of a device and can take fields over like a device list, but
nothing makes it keep a device under its own address.

Every device list is such a map, with the address of each device as its key
(`DeviceStore.toTable`), and what is done to the list is done to the map (`upsert_toTable`,
`applyUpdate_toTable`).  So the keys are the addresses as long as the map starts without entries.
-/

namespace BluetoothDiscovery

/-- Entries in the order in which their keys first came, each key once. -/
@[ext]
structure OrderedMap (κ α : Type) where
  entries : List (κ × α)
  distinct : (entries.map Prod.fst).Nodup

namespace OrderedMap

variable {κ α : Type}

instance : EmptyCollection (OrderedMap κ α) := ⟨⟨[], List.nodup_nil⟩⟩

variable [DecidableEq κ] {m : OrderedMap κ α} {k : κ} {v : α}

/-- The value at a key. -/
def get? (m : OrderedMap κ α) (k : κ) : Option α :=
  (m.entries.find? (·.1 == k)).map (·.2)

/-- The map with a value at a key: in the place of the earlier value if there is one, and else at
the end. -/
def put (m : OrderedMap κ α) (k : κ) (v : α) : OrderedMap κ α :=
  if h : k ∈ m.entries.map Prod.fst then
    { entries := m.entries.map fun e => if e.1 = k then (k, v) else e
      distinct := by
        rw [List.map_map]
        refine List.map_congr_left (fun e _ => ?_) ▸ m.distinct
        show e.1 = (if e.1 = k then (k, v) else e).1
        split
        next own => exact own
        · rfl }
  else
    { entries := m.entries ++ [(k, v)]
      distinct := by
        rw [List.map_append, List.map_singleton, ← List.concat_eq_append]
        exact m.distinct.concat h }

theorem entries_put_of_mem (h : k ∈ m.entries.map Prod.fst) :
    (m.put k v).entries = m.entries.map fun e => if e.1 = k then (k, v) else e := by
  unfold put
  rw [dif_pos h]

theorem entries_put_of_not_mem (h : k ∉ m.entries.map Prod.fst) :
    (m.put k v).entries = m.entries ++ [(k, v)] := by
  unfold put
  rw [dif_neg h]

end OrderedMap

/-! ### Maps of devices -/

/-- Devices under keys of their own. -/
abbrev DeviceTable : Type := OrderedMap Address Device

namespace DeviceTable

/-- Puts a device into the map under its address, merged into the device that is there already. -/
def upsert (t : DeviceTable) (d : Device) : DeviceTable × UpsertOutcome :=
  match t.get? d.address with
  | some known => (t.put d.address (known.merge d), .merged (known.mergeChanges d))
  | none => (t.put d.address d, .inserted)

/-- Takes some fields of `source` over into the device under its address, and answers that device;
if there is none, nothing is done. -/
def applyUpdate (t : DeviceTable) (source : Device) (fields : FieldSet) :
    DeviceTable × Option Device :=
  match t.get? source.address with
  | some known =>
    (t.put source.address (known.adopt source fields), some (known.adopt source fields))
  | none => (t, none)

end DeviceTable

/-! ### The map of a device list -/

namespace DeviceStore

variable {s : DeviceStore} {d : Device} {a : Address}

/-- Takes some fields of `source` over, and answers the device at its address. -/
def applyUpdate (s : DeviceStore) (source : Device) (fields : FieldSet) :
    DeviceStore × Option Device :=
  (s.update source fields, (s.update source fields).get? source.address)

/-- The map that has the devices of a store under their addresses. -/
def toTable (s : DeviceStore) : DeviceTable where
  entries := s.devices.map fun d => (d.address, d)
  distinct := by
    rw [List.map_map]
    exact s.distinct

theorem keys_toTable (s : DeviceStore) : s.toTable.entries.map Prod.fst = s.addresses :=
  List.map_map

theorem get?_toTable (s : DeviceStore) (a : Address) : s.toTable.get? a = s.get? a := by
  show ((s.devices.map fun d => (d.address, d)).find? (·.1 == a)).map (·.2) = _
  rw [List.find?_map, Option.map_map]
  exact Option.map_id'

/-- A change of the device at an address puts the changed device under this address. -/
theorem toTable_modify {f : Device → Device} (keeps : ∀ d, (f d).address = d.address)
    (row : s.get? a = some d) : (s.modify a f keeps).toTable = s.toTable.put a (f d) := by
  have key : a ∈ s.toTable.entries.map Prod.fst := by
    rw [keys_toTable]
    exact mem_addresses_of_get? row
  refine OrderedMap.ext ?_
  rw [OrderedMap.entries_put_of_mem key]
  show (s.devices.map fun d => if d.address = a then f d else d).map (fun d => (d.address, d)) =
    (s.devices.map fun d => (d.address, d)).map fun e => if e.1 = a then (a, f d) else e
  rw [List.map_map, List.map_map]
  refine List.map_congr_left fun e he => ?_
  show ((if e.address = a then f e else e).address, if e.address = a then f e else e) =
    if e.address = a then (a, f d) else (e.address, e)
  split
  next own =>
    -- No other device stands at the address.
    have same : s.get? a = some e := own ▸ get?_of_mem he
    obtain rfl := Option.some.inj (row.symm.trans same)
    rw [keeps, own]
  · rfl

theorem toTable_append (new : s.get? d.address = none) :
    (s.append d new).toTable = s.toTable.put d.address d := by
  have key : d.address ∉ s.toTable.entries.map Prod.fst := by
    rw [keys_toTable]
    exact get?_eq_none_iff.mp new
  refine OrderedMap.ext ?_
  rw [OrderedMap.entries_put_of_not_mem key]
  exact List.map_append

theorem upsert_toTable (s : DeviceStore) (d : Device) :
    s.toTable.upsert d = ((s.upsert d).1.toTable, (s.upsert d).2) := by
  unfold DeviceTable.upsert upsert
  rw [get?_toTable]
  split
  next known row =>
    split
    next none => rw [row] at none; cases none
    next known' row' =>
      obtain rfl := Option.some.inj (row.symm.trans row')
      exact congrArg (·, UpsertOutcome.merged _)
        (toTable_modify (f := (·.merge d)) (fun _ => rfl) row).symm
  next none =>
    split
    next => rw [toTable_append none]
    next known row => rw [none] at row; cases row

theorem update_of_get?_eq_none {source : Device} (absent : s.get? source.address = none)
    (fields : FieldSet) : s.update source fields = s := by
  refine ext_get? (addresses_update s source fields) fun a => ?_
  rw [get?_update]
  split
  next own => rw [own, absent]; rfl
  · rfl

theorem applyUpdate_toTable (s : DeviceStore) (source : Device) (fields : FieldSet) :
    s.toTable.applyUpdate source fields =
      ((s.applyUpdate source fields).1.toTable, (s.applyUpdate source fields).2) := by
  unfold DeviceTable.applyUpdate applyUpdate
  rw [get?_toTable]
  split
  next known row =>
    rw [get?_update_self source fields rfl row]
    exact congrArg (·, _) (toTable_modify (f := (·.adopt source fields)) (fun _ => rfl) row).symm
  next absent => rw [update_of_get?_eq_none absent, absent]

end DeviceStore

end BluetoothDiscovery
