import BluetoothDiscovery.Proofs.Collections
import BluetoothDiscovery.Proofs.Records.OrderedMap
import Mathlib.Data.List.DropRight

/-!
# The history of a device list

A device list is told of devices, takes fields over and is cleared.  What it holds afterwards can be
read off the row of these operations: the order of its addresses is the one in which they were first
told of since it was last cleared, and the device at an address is made of the first one told of and
of what came later at this address (`Lists`).

Every operation on a device list is one on an ordered map (`performAll_toTable`), so that the
answers of the two are the same, and the map has its devices under their own addresses.
-/

namespace BluetoothDiscovery

/-! ### Operations -/

/-- What can be done to a device list. -/
inductive StoreOp where
  | upsert (device : Device)
  /-- Takes some fields over from a device. -/
  | update (source : Device) (fields : FieldSet)
  | clear

/-- What is answered to an operation. -/
inductive StoreAnswer where
  | upserted (outcome : UpsertOutcome)
  /-- The device whose fields were taken over, if its address was there. -/
  | updated (row : Option Device)
  | cleared
deriving DecidableEq

/-- What an operation makes of a device list, and its answer. -/
def DeviceStore.perform (s : DeviceStore) : StoreOp → DeviceStore × StoreAnswer
  | .upsert d => ((s.upsert d).1, .upserted (s.upsert d).2)
  | .update source fields =>
    ((s.applyUpdate source fields).1, .updated (s.applyUpdate source fields).2)
  | .clear => (∅, .cleared)

/-- What an operation makes of a map of devices, and its answer. -/
def DeviceTable.perform (t : DeviceTable) : StoreOp → DeviceTable × StoreAnswer
  | .upsert d => ((t.upsert d).1, .upserted (t.upsert d).2)
  | .update source fields =>
    ((t.applyUpdate source fields).1, .updated (t.applyUpdate source fields).2)
  | .clear => (∅, .cleared)

section performAll

variable {σ : Type} (perform : σ → StoreOp → σ × StoreAnswer)

/-- What a row of operations comes to, with all answers. -/
def performAll (s : σ) : List StoreOp → σ × List StoreAnswer
  | [] => (s, [])
  | op :: ops =>
    let (s, answer) := perform s op
    let (s, answers) := performAll s ops
    (s, answer :: answers)

theorem fst_performAll_concat (s : σ) (ops : List StoreOp) (op : StoreOp) :
    (performAll perform s (ops ++ [op])).1 = (perform (performAll perform s ops).1 op).1 := by
  induction ops generalizing s with
  | nil => rfl
  | cons first ops ih => exact ih (perform s first).1

end performAll

/-! ### The ordered map -/

theorem DeviceStore.perform_toTable (s : DeviceStore) (op : StoreOp) :
    DeviceTable.perform s.toTable op = ((s.perform op).1.toTable, (s.perform op).2) := by
  cases op with
  | upsert d =>
    show ((s.toTable.upsert d).1, StoreAnswer.upserted (s.toTable.upsert d).2) = _
    rw [upsert_toTable]
    rfl
  | update source fields =>
    show ((s.toTable.applyUpdate source fields).1,
      StoreAnswer.updated (s.toTable.applyUpdate source fields).2) = _
    rw [applyUpdate_toTable]
    rfl
  | clear => rfl

/-- Whatever is done to a device list is done to its map, with the same answers. -/
theorem performAll_toTable (s : DeviceStore) (ops : List StoreOp) :
    performAll DeviceTable.perform s.toTable ops =
      ((performAll DeviceStore.perform s ops).1.toTable,
        (performAll DeviceStore.perform s ops).2) := by
  induction ops generalizing s with
  | nil => rfl
  | cons op ops ih =>
    unfold performAll
    rw [s.perform_toTable op]
    simp only [ih]

/-! ### Histories -/

namespace StoreOp

/-- Whether the list is cleared. -/
def isClear : StoreOp → Bool
  | .clear => true
  | _ => false

/-- The device that is put in. -/
def upserted? : StoreOp → Option Device
  | .upsert d => some d
  | _ => none

/-- Whether an operation is about an address. -/
def isAt (a : Address) : StoreOp → Bool
  | .upsert d => d.address = a
  | .update source _ => source.address = a
  | .clear => false

/-- What an operation at its address makes of a device that is there. -/
def change (op : StoreOp) (d : Device) : Device :=
  match op with
  | .upsert e => d.merge e
  | .update source fields => d.adopt source fields
  | .clear => d

end StoreOp

/-- The operations since the list was last cleared. -/
def sinceClear (ops : List StoreOp) : List StoreOp := ops.rtakeWhile (!·.isClear)

/-- The devices that were put in since then, in their order. -/
def upserts (ops : List StoreOp) : List Device := (sinceClear ops).filterMap StoreOp.upserted?

/-- The operations at an address since then. -/
def opsAt (a : Address) (ops : List StoreOp) : List StoreOp := (sinceClear ops).filter (·.isAt a)

/-- What the operations at one address come to: the first device that is put in, changed by all that
comes later. -/
def rowOf : List StoreOp → Option Device
  | [] => none
  | .upsert d :: later => some (later.foldl (fun d op => op.change d) d)
  | _ :: later => rowOf later

theorem rowOf_concat (ops : List StoreOp) (op : StoreOp) :
    rowOf (ops ++ [op]) = ((rowOf ops).map op.change).or op.upserted? := by
  -- The first device that is put in settles the row; anything before it finds no device.
  induction ops with
  | nil => cases op <;> rfl
  | cons first ops ih =>
    cases first with
    | upsert d =>
      show some ((ops ++ [op]).foldl (fun d op => op.change d) d) = _
      rw [List.foldl_append]
      rfl
    | update source fields => exact ih
    | clear => exact ih

variable {s : DeviceStore} {ops : List StoreOp} {a : Address}

theorem sinceClear_clear (ops : List StoreOp) : sinceClear (ops ++ [.clear]) = [] :=
  List.rtakeWhile_concat_neg _ _ _ (by decide)

theorem sinceClear_concat (op : StoreOp) (h : op.isClear = false) :
    sinceClear (ops ++ [op]) = sinceClear ops ++ [op] :=
  List.rtakeWhile_concat_pos _ _ _ (by simp [h])

theorem opsAt_concat_of_isAt (op : StoreOp) (h : op.isClear = false) (own : op.isAt a = true) :
    opsAt a (ops ++ [op]) = opsAt a ops ++ [op] := by
  unfold opsAt
  rw [sinceClear_concat op h, List.filter_append, List.filter_singleton, own]
  rfl

theorem opsAt_concat_of_not_isAt (op : StoreOp) (h : op.isClear = false)
    (other : op.isAt a = false) : opsAt a (ops ++ [op]) = opsAt a ops := by
  unfold opsAt
  rw [sinceClear_concat op h, List.filter_append, List.filter_singleton, other]
  exact List.append_nil _

/-- What a device list holds after a row of operations. -/
structure Lists (s : DeviceStore) (ops : List StoreOp) : Prop where
  addresses : s.addresses = ((upserts ops).map Device.address).eraseDups
  row : ∀ a, s.get? a = rowOf (opsAt a ops)

namespace Lists

theorem empty : Lists ∅ [] where
  addresses := rfl
  row _ := rfl

theorem upsert (h : Lists s ops) (d : Device) : Lists (s.upsert d).1 (ops ++ [.upsert d]) := by
  constructor
  · have new : upserts (ops ++ [.upsert d]) = upserts ops ++ [d] := by
      unfold upserts
      rw [sinceClear_concat _ rfl, List.filterMap_append]
      rfl
    have listed : d.address ∈ s.addresses ↔ d.address ∈ (upserts ops).map Device.address := by
      rw [h.addresses, List.mem_eraseDups]
    rw [DeviceStore.addresses_upsert, new, List.map_append, List.map_singleton]
    -- A known address keeps its place, and a new one is the last of the first appearances.
    by_cases known : d.address ∈ (upserts ops).map Device.address
    · rw [eraseDups_concat_of_mem known, if_pos (listed.mpr known), h.addresses]
    · rw [eraseDups_concat_of_not_mem known, if_neg (mt listed.mp known), h.addresses]
  · intro a
    rw [DeviceStore.get?_upsert]
    split
    next own =>
      rw [opsAt_concat_of_isAt (.upsert d) rfl (decide_eq_true own.symm), rowOf_concat, ← h.row]
      cases s.get? a <;> rfl
    next other =>
      rw [opsAt_concat_of_not_isAt (.upsert d) rfl (decide_eq_false (Ne.symm other)), h.row]

theorem update (h : Lists s ops) (source : Device) (fields : FieldSet) :
    Lists (s.update source fields) (ops ++ [.update source fields]) := by
  constructor
  · have same : upserts (ops ++ [.update source fields]) = upserts ops := by
      unfold upserts
      rw [sinceClear_concat _ rfl, List.filterMap_append]
      exact List.append_nil _
    rw [DeviceStore.addresses_update, same, h.addresses]
  · intro a
    rw [DeviceStore.get?_update]
    split
    next own =>
      rw [opsAt_concat_of_isAt (.update source fields) rfl (decide_eq_true own.symm),
        rowOf_concat, ← h.row]
      exact Option.or_none.symm
    next other =>
      rw [opsAt_concat_of_not_isAt (.update source fields) rfl (decide_eq_false (Ne.symm other)),
        h.row]

theorem clear (ops : List StoreOp) : Lists ∅ (ops ++ [.clear]) := by
  constructor
  · unfold upserts
    rw [sinceClear_clear]
    rfl
  · intro a
    unfold opsAt
    rw [sinceClear_clear]
    rfl

theorem perform (h : Lists s ops) (op : StoreOp) : Lists (s.perform op).1 (ops ++ [op]) := by
  cases op with
  | upsert d => exact h.upsert d
  | update source fields => exact h.update source fields
  | clear => exact clear ops

end Lists

/-- A device list that starts without devices holds what its history says. -/
theorem lists_performAll (ops : List StoreOp) :
    Lists (performAll DeviceStore.perform ∅ ops).1 ops := by
  -- On the last operation, as a history is read back to the last time the list was cleared.
  induction ops using List.reverseRecOn with
  | nil => exact .empty
  | append_singleton ops op ih =>
    rw [fst_performAll_concat]
    exact ih.perform op

/-! ### Taking fields over -/

/-- What becomes of a device that takes some fields over from `source`. -/
structure Device.TakesFields (d source : Device) (fields : FieldSet) (d' : Device) : Prop where
  rssi : d'.rssi = if fields.contains FieldSet.rssi then source.rssi else d.rssi
  manufacturerData : ∀ k, d'.manufacturerData.get? k =
    if fields.contains FieldSet.manufacturerData then
      (source.manufacturerData.get? k).or (d.manufacturerData.get? k)
    else d.manufacturerData.get? k
  serviceData : ∀ k, d'.serviceData.get? k =
    if fields.contains FieldSet.serviceData then
      (source.serviceData.get? k).or (d.serviceData.get? k)
    else d.serviceData.get? k
  name : d'.name =
    if fields.contains FieldSet.name = true ∧ source.name ≠ "" then source.name else d.name
  address : d'.address = d.address
  services : d'.services = d.services
  configuration : d'.configuration = d.configuration
  classOfDevice : d'.classOfDevice = d.classOfDevice
  resolved : d'.resolved = d.resolved

theorem Device.takesFields_adopt (d source : Device) (fields : FieldSet) :
    d.TakesFields source fields (d.adopt source fields) where
  rssi := rfl
  manufacturerData k := by
    show (if _ then d.manufacturerData.overlay _ else d.manufacturerData).get? k = _
    split
    · exact KeyedMap.get?_overlay _ _ k
    · rfl
  serviceData k := by
    show (if _ then d.serviceData.overlay _ else d.serviceData).get? k = _
    split
    · exact KeyedMap.get?_overlay _ _ k
    · rfl
  name := by
    show (if _ && !source.name.isEmpty then source.name else d.name) = _
    simp
  address := rfl
  services := rfl
  configuration := rfl
  classOfDevice := rfl
  resolved := rfl

theorem DeviceStore.applyUpdate_of_get?_eq_none {s : DeviceStore} {source : Device}
    (absent : s.get? source.address = none) (fields : FieldSet) :
    s.applyUpdate source fields = (s, none) := by
  unfold applyUpdate
  rw [update_of_get?_eq_none absent, absent]

theorem DeviceStore.takesFields_of_applyUpdate {s : DeviceStore} {source d : Device}
    (fields : FieldSet) (row : s.get? source.address = some d) :
    ∃ d', (s.applyUpdate source fields).2 = some d' ∧ d.TakesFields source fields d' ∧
      (s.applyUpdate source fields).1.addresses = s.addresses ∧
      ∀ a, (s.applyUpdate source fields).1.get? a =
        if a = source.address then some d' else s.get? a := by
  refine ⟨d.adopt source fields, get?_update_self source fields rfl row,
    d.takesFields_adopt source fields, addresses_update s source fields, fun a => ?_⟩
  show (s.update source fields).get? a = _
  rw [get?_update]
  split
  next own => rw [own, row]; rfl
  · rfl

/-! ### Refinement -/

/-- A device list goes along with an ordered map of devices through every row of operations.  The
map has every device under its own address, so that only devices of one address are ever merged.
The list has each address once, in the order in which it was first told of them since it was last
cleared, and at each address what the operations at this address come to.  Fields are taken over
into the one device at the address of their source, and if there is none, nothing is done. -/
theorem store_refines_orderedMap :
    (∀ ops : List StoreOp, ∃ s t answers,
      performAll DeviceStore.perform ∅ ops = (s, answers) ∧
        performAll DeviceTable.perform ∅ ops = (t, answers) ∧
        t.entries = s.devices.map (fun d => (d.address, d)) ∧
        (∀ e ∈ t.entries, e.1 = e.2.address) ∧
        (∀ a d, t.get? a = some d → d.address = a) ∧
        s.addresses.Nodup ∧ s.addresses = ((upserts ops).map Device.address).eraseDups ∧
        ∀ a, s.get? a = rowOf (opsAt a ops)) ∧
      (∀ (s : DeviceStore) (source : Device) (fields : FieldSet),
        s.get? source.address = none → s.applyUpdate source fields = (s, none)) ∧
      ∀ (s : DeviceStore) (source : Device) (fields : FieldSet) (d : Device),
        s.get? source.address = some d →
          ∃ d', (s.applyUpdate source fields).2 = some d' ∧ d.TakesFields source fields d' ∧
            (s.applyUpdate source fields).1.addresses = s.addresses ∧
            ∀ a, (s.applyUpdate source fields).1.get? a =
              if a = source.address then some d' else s.get? a := by
  refine ⟨fun ops => ?_, fun s source fields absent => ?_, fun s source fields d row =>
    DeviceStore.takesFields_of_applyUpdate fields row⟩
  · let s := (performAll DeviceStore.perform ∅ ops).1
    have lists : Lists s ops := lists_performAll ops
    -- The map is read off the list at every moment, and performs the same operations.
    refine ⟨s, s.toTable, _, rfl, performAll_toTable ∅ ops, rfl, fun e he => ?_, fun a d row => ?_,
      s.distinct, lists.addresses, lists.row⟩
    · obtain ⟨d, -, rfl⟩ := List.mem_map.mp he
      rfl
    · rw [DeviceStore.get?_toTable] at row
      exact DeviceStore.address_of_get? row
  · exact DeviceStore.applyUpdate_of_get?_eq_none absent fields

/-- Two devices are listed and forgotten.  Then the second is found first and the first after it,
and the second takes over a signal strength, but no empty name. -/
theorem store_refines_orderedMap_after_clear :
    let d : Device := { address := ⟨7, by decide⟩, name := "Band" }
    let e : Device := { address := ⟨9, by decide⟩, name := "Lamp" }
    let source : Device := { address := ⟨9, by decide⟩, rssi := some (-40) }
    let ops : List StoreOp := [.upsert d, .upsert e, .clear, .update d FieldSet.name, .upsert e,
      .upsert d, .update source (FieldSet.rssi ∪ FieldSet.name)]
    let s := (performAll DeviceStore.perform ∅ ops).1
    s.devices = [{ e with rssi := some (-40) }, d] ∧
      s.addresses = ((upserts ops).map Device.address).eraseDups ∧
      s.get? e.address = rowOf (opsAt e.address ops) ∧
      (∅ : DeviceStore).applyUpdate source FieldSet.rssi = (∅, none) ∧
      ∃ d', (s.applyUpdate source FieldSet.rssi).2 = some d' ∧
        Device.TakesFields { e with rssi := some (-40) } source FieldSet.rssi d' := by
  intro d e source ops s
  obtain ⟨histories, absent, present⟩ := store_refines_orderedMap
  obtain ⟨s', t, answers, performed, -, -, -, -, -, order, rows⟩ := histories ops
  obtain rfl : s = s' := congrArg Prod.fst performed
  have row : s.get? source.address = some { e with rssi := some (-40) } := by decide
  obtain ⟨d', answer, takes, -⟩ := present s source FieldSet.rssi _ row
  exact ⟨by decide, order, rows _, absent ∅ source _ rfl, d', answer, takes⟩

end BluetoothDiscovery
