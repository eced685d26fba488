import BluetoothDiscovery.Proofs.Observations.Hearing
import BluetoothDiscovery.Proofs.Observations.Names

/-!
# Announced changes

An update carries the device as it is now and names the fields that changed.  `update_cases` tells
the two ways in which a step announces one.  The fields are compared with what is stored when a
device is looked up, but with what was heard when it advertises.  In all fields but the name the two
agree on what changes, so that exactly the changed fields are named (`Updating.contains_iff`).  A
name that was looked up was not heard, though: an advertisement that tells it then announces a name
that the device has already.
-/

namespace BluetoothDiscovery

open Coordinator (after)

variable {extract : Payload → AdvertisementData} {as : List Action} {action : Action}
  {d d₀ x : Device} {changes : FieldSet}

/-! ### Where updates come from -/

/-- What a step did that announces an update of a device. -/
inductive Updating (extract : Payload → AdvertisementData) (as : List Action) (action : Action)
    (d₀ : Device) : Device → FieldSet → Prop
  /-- It was looked up, and some announced field changed. -/
  | lookedUp {r : Run} (running : (after extract as).phase = .running r) (resolution : Resolution)
      (answer : action = .resolved r.id resolution)
      (loud : (d₀.mergeChanges (r.deviceOf resolution)).isEmpty = false) :
      Updating extract as action d₀ (d₀.merge (r.deviceOf resolution))
        (d₀.mergeChanges (r.deviceOf resolution))
  /-- It advertised something new, but for its services. -/
  | heard {r : Run} {x : Device} (running : (after extract as).phase = .running r)
      (report : AdvertisementReport) (advert : action = .advertised r.id report)
      (own : report.address = d₀.address) (seen : r.sightings.get? d₀.address = some x)
      (alike : d₀.HeardAlike x)
      (loud : (x.absorbChanges report.rssi (extract report.payload)).isEmpty = false)
      (quiet : (x.absorbChanges report.rssi (extract report.payload)).contains FieldSet.services =
        false) :
      Updating extract as action d₀
        (d₀.adopt (x.absorb report.rssi (extract report.payload))
          (x.absorbChanges report.rssi (extract report.payload)))
        (x.absorbChanges report.rssi (extract report.payload))

/-- An update carries a device that was stored before and is stored as it is carried. -/
theorem update_cases (h : .updated d changes ∈ ((after extract as).step extract action).2) :
    ∃ d₀, d₀.address = d.address ∧ (after extract as).store.get? d.address = some d₀ ∧
      (after extract (as ++ [action])).store.get? d.address = some d ∧
      Updating extract as action d₀ d changes := by
  have faithful := faithful_after extract as
  have intake := intake_step extract (after extract as) action
  rw [Coordinator.after_concat]
  generalize (after extract as).step extract action = out at h intake ⊢
  cases intake with
  | nothing _ _ silent => cases silent _ h
  | began => cases h
  | @lookedUp r running resolution answer =>
    cases known : (after extract as).store.get? (r.deviceOf resolution).address with
    | none =>
      rw [(register_of_unknown known).2, List.mem_singleton] at h
      cases h
    | some d₀ =>
      have own : d₀.address = (r.deviceOf resolution).address := DeviceStore.address_of_get? known
      obtain ⟨here, events⟩ := register_of_known known
      rw [events] at h
      split at h
      next => cases h
      next loud =>
        cases List.mem_singleton.mp h
        rw [← own] at known here
        exact ⟨d₀, rfl, known, here,
          .lookedUp running resolution answer (Bool.eq_false_iff.mpr loud)⟩
  | @heard r running report advert =>
    have hearing := faithful.hearing running report.address report.rssi (extract report.payload)
    generalize (after extract as).advertise r report.address report.rssi (extract report.payload) =
      out at h hearing ⊢
    obtain ⟨c', events⟩ := out
    generalize c'.store = store at hearing ⊢
    cases hearing with
    | first => cases List.mem_singleton.mp h
    | silent => cases h
    | service => cases List.mem_singleton.mp h
    | @update x d₀ seen own loud quiet row =>
      cases List.mem_singleton.mp h
      -- What was heard is in the row as well, so that the two can be compared.
      obtain ⟨-, d₁, row₁, alike, -⟩ := faithful.of_seen running seen
      obtain rfl := Option.some.inj (row.symm.trans row₁)
      have address : d₀.address = report.address := DeviceStore.address_of_get? row
      have adopted := DeviceStore.get?_update_self (x.absorb report.rssi (extract report.payload))
        (x.absorbChanges report.rssi (extract report.payload)) own row
      rw [← address] at row adopted seen
      exact ⟨d₀, rfl, row, adopted, .heard running report advert address.symm seen alike loud quiet⟩

/-! ### Names -/

/-- Whether an advertisement tells the name that a device has already, though it is not the name
that was advertised last. -/
def RepeatsName (extract : Payload → AdvertisementData) (as : List Action) (action : Action)
    (d : Device) : Prop :=
  ∃ id report, action = .advertised id report ∧ report.address = d.address ∧
    (extract report.payload).name? = some d.name ∧
    heardName d.address (observed extract as) ≠ some d.name

/-- The name is announced if it changes, or if it is one that was not heard last. -/
theorem contains_name_iff_of_adopt {rssi : Int16} {data : AdvertisementData} {heard : Option String}
    (last : x.name = heard.getD "") :
    (x.absorbChanges rssi data).contains FieldSet.name = true ↔
      (d₀.adopt (x.absorb rssi data) (x.absorbChanges rssi data)).name ≠ d₀.name ∨
        data.name? = some d₀.name ∧ heard ≠ some d₀.name := by
  rw [Device.adopt_name]
  constructor
  · intro named
    obtain ⟨name, told, new⟩ := Device.contains_absorbChanges_name_iff.mp named
    rw [if_pos named, told, Option.getD_some]
    -- The name that is told is the stored one or not; both are announced.
    by_cases same : name = d₀.name
    · subst same
      rw [last, ← heardName_ne_iff (AdvertisementData.ne_empty_of_name? told)] at new
      exact .inr ⟨rfl, new⟩
    · exact .inl same
  · rintro (changed | ⟨told, new⟩)
    · by_contra silent
      rw [if_neg silent] at changed
      exact changed rfl
    · rw [heardName_ne_iff (AdvertisementData.ne_empty_of_name? told), ← last] at new
      exact Device.contains_absorbChanges_name_iff.mpr ⟨_, told, new⟩

/-! ### Exactness -/

/-- The fields that an update names are those that change, and the name where it is repeated. -/
theorem Updating.contains_iff (h : Updating extract as action d₀ d changes) (f : AnnouncedField) :
    changes.contains f.flag = true ↔
      ¬ f.SameIn d d₀ ∨ f = .name ∧ RepeatsName extract as action d₀ := by
  cases h with
  | lookedUp running resolution answer =>
    rw [Device.contains_mergeChanges_iff, or_iff_left]
    rintro ⟨-, id, report, advert, -⟩
    rw [answer] at advert
    cases advert
  | @heard r x running report advert own seen alike _ quiet =>
    -- For the name, what was heard need not be what is stored.
    by_cases name : f = .name
    · subst name
      have last := namesHeard_after extract as running _ _ seen
      refine (contains_name_iff_of_adopt last).trans (or_congr Iff.rfl ?_)
      constructor
      · exact fun ⟨told, new⟩ => ⟨rfl, r.id, report, advert, own, told, new⟩
      · rintro ⟨-, id, report', advert', -, told, new⟩
        obtain ⟨-, rfl⟩ := Action.advertised.inj (advert.symm.trans advert')
        exact ⟨told, new⟩
    · rw [Device.contains_absorbChanges_iff_of_adopt alike quiet name, or_iff_left]
      exact fun h => name h.1

/-- A repeated name stays as it is. -/
theorem Updating.name_of_repeats (h : Updating extract as action d₀ d changes)
    (repeats : RepeatsName extract as action d₀) : d.name = d₀.name := by
  obtain ⟨id, report, advert, -, told, -⟩ := repeats
  cases h with
  | lookedUp _ _ answer =>
    rw [advert] at answer
    cases answer
  | heard _ report' advert' =>
    obtain ⟨-, rfl⟩ := Action.advertised.inj (advert.symm.trans advert')
    rw [Device.adopt_name, told]
    split <;> rfl

theorem Updating.isEmpty_eq_false (h : Updating extract as action d₀ d changes) :
    changes.isEmpty = false := by
  cases h with
  | lookedUp _ _ _ loud => exact loud
  | heard _ _ _ _ _ _ loud => exact loud

/-- An update carries the stored device, and names at least one field.  The fields that it names are
those in which the device is not what was stored before, with one exception: the name is also named
where an advertisement tells the stored name again and another was advertised last, or none. -/
theorem updates_name_changes (extract : Payload → AdvertisementData) (as : List Action)
    (action : Action) {d : Device} {changes : FieldSet}
    (h : .updated d changes ∈ ((after extract as).step extract action).2) :
    changes.isEmpty = false ∧
      ∃ d₀, (after extract as).store.get? d.address = some d₀ ∧
        (after extract (as ++ [action])).store.get? d.address = some d ∧
        (∀ f : AnnouncedField, changes.contains f.flag = true ↔
          ¬ f.SameIn d d₀ ∨ f = .name ∧ RepeatsName extract as action d₀) ∧
        (RepeatsName extract as action d₀ → d.name = d₀.name) := by
  obtain ⟨d₀, -, before, here, updating⟩ := update_cases h
  exact ⟨updating.isEmpty_eq_false, d₀, before, here, updating.contains_iff,
    updating.name_of_repeats⟩

/-- A device is heard again with another signal strength. -/
theorem updates_name_changes_rssi :
    let heard (rssi : Int16) : Action := .advertised 1 ⟨⟨7, by decide⟩, rssi, .decoded {}⟩
    let as : List Action := [.start Methods.lowEnergy, .adapterChecked 1 .ready, heard (-40)]
    ∃ d, .updated d FieldSet.rssi ∈
        ((after Payload.extract as).step Payload.extract (heard (-50))).2 ∧
      ∃ d₀, (after Payload.extract as).store.get? d.address = some d₀ ∧ d.rssi ≠ d₀.rssi := by
  intro heard as
  have mem : .updated _ FieldSet.rssi ∈
      ((after Payload.extract as).step Payload.extract (heard (-50))).2 := .head _
  obtain ⟨-, d₀, before, -, named, -⟩ := updates_name_changes Payload.extract as (heard (-50)) mem
  refine ⟨_, mem, d₀, before, ?_⟩
  exact ((named .rssi).mp (by decide)).resolve_right fun h => nomatch h.1

/-- A device is heard without a name, looked up, and heard again with the name that was looked up.
An update announces the name, and the device is what was stored before. -/
theorem update_without_change :
    let a : Address := ⟨7, by decide⟩
    let heard (name : Option String) : Action :=
      .advertised 1 ⟨a, -40, .decoded { localName := name }⟩
    let as : List Action := [.start (Methods.classic ∪ Methods.lowEnergy),
      .adapterChecked 1 .ready, .watcherOpened 1, heard none,
      .enumerated 1 .classic (.ok [⟨"a", .classic⟩]),
      .resolved 1 ⟨.classic, ⟨a, "Headset", 1028, true⟩, some []⟩, .lookupEnded 1 .classic]
    ∃ d, (after Payload.extract as).store.get? a = some d ∧
      (after Payload.extract (as ++ [heard (some "Headset")])).store.get? a = some d ∧
      ((after Payload.extract as).step Payload.extract (heard (some "Headset"))).2 =
        [.updated d FieldSet.name] := by
  intro a heard as
  have row : ((after Payload.extract as).store.get? a).isSome = true := by decide
  obtain ⟨d, hd⟩ := Option.isSome_iff_exists.mp row
  have events : ((after Payload.extract as).step Payload.extract (heard (some "Headset"))).2 =
      ((after Payload.extract as).store.get? a).toList.map (.updated · FieldSet.name) := by decide
  have kept : (after Payload.extract (as ++ [heard (some "Headset")])).store.get? a =
      (after Payload.extract as).store.get? a := by decide
  rw [hd] at events kept
  exact ⟨d, hd, kept, events⟩

end BluetoothDiscovery
