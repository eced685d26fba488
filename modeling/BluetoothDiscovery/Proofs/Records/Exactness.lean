import BluetoothDiscovery.Proofs.Observations.Fold
import BluetoothDiscovery.Proofs.Records.Merging

/-!
# Exact differences

What a merge or an advertisement is said to change is what it changes: `FieldSet.Tells` says of a
set of fields that it holds those in which two devices differ, and no other bit.  An advertisement
is said to change nothing exactly if it leaves the device as it is (`absorb_eq_self_iff`), and so
the sightings, which do not write a device that is said to be the same, hold what they have answered
(`Sightings.get?_observe`).

Whether data changes is asked of the map as it was before.  Writing entry by entry, each one only
where the map has something else, comes to the same (`KeyedMap.writeAll_eq`).
-/

namespace BluetoothDiscovery

/-! ### Data -/

namespace KeyedMap

variable {κ : Type} [Ranked κ]

theorem insert_of_get? {α : Type} {m : KeyedMap κ α} {k : κ} {v : α} (held : m.get? k = some v) :
    m.insert k v = m := by
  refine ext_get? fun j => ?_
  by_cases h : j = k
  · rw [h, get?_insert_self, held]
  · exact get?_insert_of_ne m h v

/-- Writes an entry into a map, unless it is there, and notes that something was written. -/
def write (acc : KeyedMap κ (List UInt8) × Bool) (e : κ × List UInt8) :
    KeyedMap κ (List UInt8) × Bool :=
  if acc.1.get? e.1 = some e.2 then acc else (acc.1.insert e.1 e.2, true)

/-- Writes entries into a map one by one, and tells whether one was not there. -/
def writeAll (m : KeyedMap κ (List UInt8)) (es : List (κ × List UInt8)) :
    KeyedMap κ (List UInt8) × Bool :=
  es.foldl write (m, false)

/-- Until something is written the map is the one from before, and then the answer is settled. -/
theorem foldl_write (es : List (κ × List UInt8)) (m : KeyedMap κ (List UInt8)) (written : Bool) :
    es.foldl write (m, written) =
      (es.foldl (fun m e => m.insert e.1 e.2) m,
        written || es.any fun e => m.get? e.1 != some e.2) := by
  induction es generalizing m written with
  | nil => simp
  | cons e es ih =>
    rw [List.foldl_cons, List.foldl_cons, List.any_cons]
    by_cases held : m.get? e.1 = some e.2
    · have unwritten : write (m, written) e = (m, written) := if_pos held
      rw [unwritten, ih, insert_of_get? held]
      simp [held]
    · have first : write (m, written) e = (m.insert e.1 e.2, true) := if_neg held
      rw [first, ih]
      simp [held]

theorem writeAll_eq (m n : KeyedMap κ (List UInt8)) :
    m.writeAll n.entries = (m.overlay n, Device.overlayChanges m n) :=
  foldl_write n.entries m false

end KeyedMap

/-! ### Sets of fields -/

/-- Whether a set of fields tells the difference between two devices: it holds a field exactly if
they differ in it, and no bit besides. -/
structure FieldSet.Tells (fields : FieldSet) (before after : Device) : Prop where
  contains_iff (f : AnnouncedField) : fields.contains f.flag = true ↔ ¬ f.SameIn after before
  unnamed : fields.unnamed = 0

theorem FieldSet.unnamed_having (p : AnnouncedField → Bool) : (having p).unnamed = 0 := by
  have none : ∀ a b c x y z : Bool,
      let joined : FieldSet := .onlyIf a name ∪ .onlyIf b rssi ∪ .onlyIf c manufacturerData ∪
        .onlyIf x serviceData ∪ .onlyIf y services ∪ .onlyIf z configuration
      joined.unnamed = 0 := by
    decide
  exact none _ _ _ _ _ _

theorem FieldSet.tells_having {p : AnnouncedField → Bool} {before after : Device}
    (differs : ∀ f, p f = true ↔ ¬ f.SameIn after before) : (having p).Tells before after where
  contains_iff f := by rw [contains_having, differs]
  unnamed := unnamed_having p

namespace Device

variable {d : Device} {a : Address} {rssi : Int16} {data : AdvertisementData}

theorem tells_mergeChanges (d e : Device) : (d.mergeChanges e).Tells d (d.merge e) := by
  rw [mergeChanges_eq_having]
  exact FieldSet.tells_having (d.mergeBrings_iff e)

theorem tells_absorbChanges (d : Device) (rssi : Int16) (data : AdvertisementData) :
    (d.absorbChanges rssi data).Tells d (d.absorb rssi data) := by
  rw [absorbChanges_eq_having]
  exact FieldSet.tells_having (d.absorbBrings_iff rssi data)

/-- An advertisement is said to change nothing exactly if it changes nothing. -/
theorem absorb_eq_self_iff :
    d.absorb rssi data = d ↔ (d.absorbChanges rssi data).isEmpty = true := by
  constructor
  · intro same
    rw [absorbChanges_eq_having, FieldSet.isEmpty_having]
    intro f
    rw [← Bool.not_eq_true, absorbBrings_iff, not_not, same]
    exact .refl d f
  · intro silent
    have same := absorb_of_silent silent
    -- The address, the class and whether it was looked up are no matter of advertisements.
    exact Device.ext rfl (same .name) rfl rfl (same .rssi) (same .manufacturerData)
      (same .serviceData) (same .services) rfl

theorem change_eq_unchanged_iff :
    (observe (some d) a rssi data).2 = .unchanged ↔ (observe (some d) a rssi data).1 = d := by
  show Change.ofFields (d.absorbChanges rssi data) = .unchanged ↔ d.absorb rssi data = d
  rw [absorb_eq_self_iff]
  unfold Change.ofFields
  cases (d.absorbChanges rssi data).isEmpty <;> simp

theorem fields_of_change {fields : FieldSet}
    (changed : (observe (some d) a rssi data).2 = .changed fields) :
    fields = d.absorbChanges rssi data := by
  replace changed : Change.ofFields (d.absorbChanges rssi data) = .changed fields := changed
  unfold Change.ofFields at changed
  split at changed
  · cases changed
  · exact (Change.changed.inj changed).symm

theorem change_ne_created : (observe (some d) a rssi data).2 ≠ .created := by
  show Change.ofFields (d.absorbChanges rssi data) ≠ .created
  unfold Change.ofFields
  split <;> exact Change.noConfusion

end Device

/-! ### Sightings -/

/-- The sightings hold what they answer to an advertisement, and what they held elsewhere. -/
theorem Sightings.get?_observe (s : Sightings) (a : Address) (rssi : Int16)
    (data : AdvertisementData) (b : Address) :
    (s.observe a rssi data).1.get? b =
      if b = a then some (s.observe a rssi data).2.1 else s.get? b := by
  have written (d : Device) :
      (⟨s.byAddress.insert a d⟩ : Sightings).get? b = if b = a then some d else s.get? b := by
    split
    next own => exact own ▸ KeyedMap.get?_insert_self _ _ _
    next other => exact KeyedMap.get?_insert_of_ne _ other _
  cases seen : s.get? a with
  | none =>
    rw [observe_of_unseen seen]
    exact written _
  | some d =>
    rw [observe_of_seen seen]
    split
    next silent =>
      -- Nothing is written, and what is there is the answer.
      show s.get? b = if b = a then some (d.absorb rssi data) else s.get? b
      rw [Device.absorb_eq_self_iff.mpr silent]
      split
      next own => rw [own, seen]
      · rfl
    next => exact written _

/-! ### Exactness -/

/-- A merge is said to change exactly the fields that it changes, whether its data is laid over as a
whole or written entry by entry.  So is an advertisement of a device that is known, which is said to
change nothing exactly if it leaves the whole device as it is; and the sightings always hold what
they answer. -/
theorem reported_changes_exact :
    (∀ d e : Device, (d.mergeChanges e).Tells d (d.merge e)) ∧
      (∀ (κ : Type) [Ranked κ] (m n : KeyedMap κ (List UInt8)),
        m.writeAll n.entries = (m.overlay n, Device.overlayChanges m n)) ∧
      (∀ (d : Device) (a : Address) (rssi : Int16) (data : AdvertisementData),
        let (after, change) := Device.observe (some d) a rssi data
        (∀ fields, change = .changed fields → fields.Tells d after) ∧
          (change = .unchanged ↔ after = d) ∧ change ≠ .created) ∧
      ∀ (s : Sightings) (a : Address) (rssi : Int16) (data : AdvertisementData),
        let (sightings, device, _) := s.observe a rssi data
        ∀ b, sightings.get? b = if b = a then some device else s.get? b := by
  refine ⟨Device.tells_mergeChanges, fun κ _ m n => m.writeAll_eq n, fun d a rssi data => ?_,
    fun s a rssi data => s.get?_observe a rssi data⟩
  refine ⟨fun fields changed => ?_, Device.change_eq_unchanged_iff (a := a),
    Device.change_ne_created (a := a)⟩
  rw [Device.fields_of_change (a := a) changed]
  exact d.tells_absorbChanges rssi data

/-- A device that advertises other data for one of two companies changes this field alone. -/
theorem reported_changes_exact_one_company :
    let data (v : UInt8) : AdvertisementData :=
      { manufacturerData := .ofList [(6, [3]), (76, [v])] }
    let d : Device := .ofAdvertisement ⟨7, by decide⟩ (-40) (data 1)
    let (after, change) := Device.observe (some d) d.address (-40) (data 2)
    change = .changed FieldSet.manufacturerData ∧ FieldSet.manufacturerData.Tells d after := by
  intro data d
  have changed : (Device.observe (some d) d.address (-40) (data 2)).2 =
      .changed FieldSet.manufacturerData := by decide
  exact ⟨changed, (reported_changes_exact.2.2.1 d d.address (-40) (data 2)).1 _ changed⟩

end BluetoothDiscovery
