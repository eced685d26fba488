import BluetoothDiscovery.Proofs.Observations.Hearing
import BluetoothDiscovery.Proofs.Observations.Names

/-!
# What announces an advertisement

An advertisement is compared with the sightings of its address, which are changed only by an
advertisement that says something new, and then it is announced with the row of the device list,
which look-ups change as well.  `announcementOf` decides how an advertisement is announced by
nothing but the earlier advertisements of its sender.  That this is what happens
(`announcement_by_adverts`) needs the sightings to be a function of those advertisements
(`Sighted`, `NamesHeard`), and a row in the device list for all that was heard.
-/

namespace BluetoothDiscovery

open Coordinator (after)

variable {x : Device} {earlier : List Advert} {now : Advert}

/-! ### What is new -/

/-- Whether an advertisement says something new in a field.  A service is new if no earlier
advertisement had it.  In the other fields an advertisement is compared with the last that said
anything of the kind; what it does not carry is not new. -/
def Advert.NewIn (now : Advert) (earlier : List Advert) : AnnouncedField → Prop
  | .name => ∃ name ∈ now.data.name?, latest (·.data.name?) earlier ≠ some name
  | .rssi => earlier.getLast?.map Advert.rssi ≠ some now.rssi
  | .manufacturerData => ∃ e ∈ now.data.manufacturerData.entries,
      latest (·.data.manufacturerData.get? e.1) earlier ≠ some e.2
  | .serviceData => ∃ e ∈ now.data.serviceData.entries,
      latest (·.data.serviceData.get? e.1) earlier ≠ some e.2
  | .services => ∃ u ∈ now.data.services, ∀ h ∈ earlier, u ∉ h.data.services
  | .configuration => False

instance (now : Advert) (earlier : List Advert) : DecidablePred (now.NewIn earlier)
  | .name => inferInstanceAs (Decidable (∃ name ∈ now.data.name?, _))
  | .rssi => inferInstanceAs (Decidable (_ ≠ some now.rssi))
  | .manufacturerData => inferInstanceAs (Decidable (∃ e ∈ now.data.manufacturerData.entries, _))
  | .serviceData => inferInstanceAs (Decidable (∃ e ∈ now.data.serviceData.entries, _))
  | .services => inferInstanceAs (Decidable (∃ u ∈ now.data.services, _))
  | .configuration => inferInstanceAs (Decidable False)

/-- The fields in which an advertisement says something new. -/
def Advert.newFields (now : Advert) (earlier : List Advert) : FieldSet :=
  .having fun f => decide (now.NewIn earlier f)

theorem Advert.contains_newFields_iff (now : Advert) (earlier : List Advert) (f : AnnouncedField) :
    (now.newFields earlier).contains f.flag = true ↔ now.NewIn earlier f := by
  unfold newFields
  rw [FieldSet.contains_having, decide_eq_true_iff]

theorem Advert.isEmpty_newFields_iff (now : Advert) (earlier : List Advert) :
    (now.newFields earlier).isEmpty = true ↔ ∀ f, ¬ now.NewIn earlier f := by
  unfold newFields
  rw [FieldSet.isEmpty_having]
  exact forall_congr' fun f => decide_eq_false_iff_not

instance (now : Advert) (earlier : List Advert) : Decidable (∀ f, ¬ now.NewIn earlier f) :=
  decidable_of_iff _ (now.isEmpty_newFields_iff earlier)

/-- How an advertisement is announced, by the earlier ones of its sender. -/
def announcementOf (earlier : List Advert) (now : Advert) : Announcement :=
  if earlier = [] ∨ now.NewIn earlier .services then .discovered
  else if ∀ f, ¬ now.NewIn earlier f then .suppressed
  else .updated (now.newFields earlier)

/-- The events that announce a device. -/
def Announcement.events (d : Device) : Announcement → List Event
  | .discovered => [.discovered d]
  | .updated fields => [.updated d fields]
  | .suppressed => []

/-! ### What is compared -/

/-- Data under keys is new where it is not what was advertised last under its key. -/
theorem Device.overlayChanges_iff_latest {κ : Type} [Ranked κ]
    {target incoming : KeyedMap κ (List UInt8)} {f : κ → Advert → Option (List UInt8)}
    (told : ∀ k, target.get? k = latest (f k) earlier) :
    overlayChanges target incoming = true ↔
      ∃ e ∈ incoming.entries, latest (f e.1) earlier ≠ some e.2 := by
  rw [← Bool.not_eq_false, overlayChanges_eq_false_iff]
  simp only [told, ← KeyedMap.mem_entries_iff, not_forall, Prod.exists, exists_prop, ne_eq]

/-- A device that says what was heard finds new in an advertisement what is new in it. -/
theorem absorbBrings_iff_newIn (h : Describes x [] earlier)
    (name : x.name = (latest (·.data.name?) earlier).getD "") (now : Advert) (f : AnnouncedField) :
    x.absorbBrings now.rssi now.data f = true ↔ now.NewIn earlier f := by
  cases f with
  | name =>
    rw [Device.absorbBrings_name_iff, name]
    refine exists_congr fun told => and_congr_right fun mem => ?_
    exact (heardName_ne_iff (AdvertisementData.ne_empty_of_name? mem)).symm
  | rssi =>
    show (x.rssi != some now.rssi) = true ↔ _
    rw [bne_iff_ne, h.rssi]
    rfl
  | manufacturerData => exact Device.overlayChanges_iff_latest h.manufacturerData
  | serviceData => exact Device.overlayChanges_iff_latest h.serviceData
  | services =>
    show Device.servicesGrow x.services now.data.services = true ↔ _
    rw [← Bool.not_eq_false, Device.servicesGrow_eq_false_iff]
    simp only [h.mem_services_iff, not_forall, not_exists, not_and, exists_prop]
    rfl
  | configuration => exact iff_of_false Bool.false_ne_true id

/-- The announced fields are those in which the advertisement says something new. -/
theorem absorbChanges_eq_newFields (h : Describes x [] earlier)
    (name : x.name = (latest (·.data.name?) earlier).getD "") (now : Advert) :
    x.absorbChanges now.rssi now.data = now.newFields earlier := by
  have same : x.absorbBrings now.rssi now.data = fun f => decide (now.NewIn earlier f) := by
    funext f
    exact Bool.eq_iff_iff.mpr
      ((absorbBrings_iff_newIn h name now f).trans decide_eq_true_iff.symm)
  rw [Device.absorbChanges_eq_having, same]
  rfl

/-! ### Announcements -/

/-- The address of an announcement has a row, and the events carry it. -/
theorem Faithful.announces {obs : List Observation} {c : Coordinator} {r : Run}
    (h : Faithful c obs) (names : NamesHeard r.sightings obs) (running : c.phase = .running r)
    (a : Address) (now : Advert) :
    ∃ d, (c.advertise r a now.rssi now.data).1.store.get? a = some d ∧
      (c.advertise r a now.rssi now.data).2 =
        (announcementOf (advertsOf a obs) now).events d := by
  have hearing := h.hearing running a now.rssi now.data
  generalize (c.advertise r a now.rssi now.data).1.store = store at hearing ⊢
  generalize (c.advertise r a now.rssi now.data).2 = events at hearing ⊢
  have heard {x : Device} (seen : r.sightings.get? a = some x) : advertsOf a obs ≠ [] :=
    ((h.sighted r running).seen a x seen).2.1
  -- What the store of sightings takes for a change is what is new among the adverts of the address.
  have fields {x : Device} (seen : r.sightings.get? a = some x) :
      x.absorbChanges now.rssi now.data = now.newFields (advertsOf a obs) :=
    absorbChanges_eq_newFields ((h.sighted r running).seen a x seen).2.2 (names a x seen) now
  have services := now.contains_newFields_iff (advertsOf a obs) .services
  unfold announcementOf
  -- Each of the four ways to hear an advertisement decides the tests of `announcementOf`.
  cases hearing with
  | @first d unseen row =>
    refine ⟨d, row, ?_⟩
    rw [if_pos (.inl ((h.sighted r running).unseen a unseen))]
    rfl
  | silent seen same =>
    obtain ⟨-, d, row, -⟩ := h.of_seen running seen
    rw [fields seen, Advert.isEmpty_newFields_iff] at same
    refine ⟨d, row, ?_⟩
    rw [if_neg (not_or.mpr ⟨heard seen, same .services⟩), if_pos same]
    rfl
  | @service x d seen own new row =>
    rw [fields seen] at new
    refine ⟨d, row, ?_⟩
    rw [if_pos (.inr (services.mp new))]
    rfl
  | @update x d seen own news quiet row =>
    have same : (x.absorb now.rssi now.data).address = a := own
    have row' := DeviceStore.get?_update_self _ (x.absorbChanges now.rssi now.data) same row
    refine ⟨_, row', ?_⟩
    rw [fields seen] at news quiet ⊢
    -- The services are not among what is new, or the device would be announced afresh.
    have old : ¬ now.NewIn (advertsOf a obs) .services :=
      fun new => absurd (services.mpr new) (Bool.eq_false_iff.mp quiet)
    have loud : ¬ ∀ f, ¬ now.NewIn (advertsOf a obs) f := by
      rw [← Advert.isEmpty_newFields_iff, news]
      exact Bool.false_ne_true
    rw [if_neg (not_or.mpr ⟨heard seen, old⟩), if_neg loud]
    rfl

/-- **What announces an advertisement.**  An advertisement that a run takes in is announced by one
event or by none, and it depends on the earlier advertisements of its sender alone which one it is.
The event carries the device as it is stored then, and an update names exactly the fields in which
the advertisement says something new. -/
theorem announcement_by_adverts (extract : Payload → AdvertisementData) (as : List Action)
    (id : RunId) (report : AdvertisementReport)
    (running : (after extract as).isRunning id = true) :
    let earlier := advertsOf report.address (observed extract as)
    let now : Advert := ⟨report.rssi, extract report.payload⟩
    (∃ d, (after extract (as ++ [.advertised id report])).store.get? report.address = some d ∧
        ((after extract as).step extract (.advertised id report)).2 =
          (announcementOf earlier now).events d) ∧
      ∀ f, (now.newFields earlier).contains f.flag = true ↔ now.NewIn earlier f := by
  intro earlier now
  obtain ⟨r, present, rfl⟩ := Coordinator.isRunning_iff.mp running
  have step : (after extract as).step extract (.advertised r.id report) =
      (after extract as).advertise r report.address report.rssi (extract report.payload) :=
    Coordinator.withRun_of_running present _
  refine ⟨?_, now.contains_newFields_iff earlier⟩
  rw [Coordinator.after_concat, step]
  exact (faithful_after extract as).announces (namesHeard_after extract as present) present
    report.address now

/-- A device is heard, looked up under another name, and heard again with a name of its own and
another signal strength. -/
theorem announcement_by_adverts_update :
    let a : Address := ⟨7, by decide⟩
    let as : List Action := [.start Methods.lowEnergy, .adapterChecked 1 .ready,
      .advertised 1 ⟨a, -40, .decoded {}⟩,
      .resolved 1 ⟨.lowEnergy, ⟨a, "Headset", 1028, false⟩, none⟩]
    let report : AdvertisementReport := ⟨a, -50, .decoded { localName := some "Band" }⟩
    (after Payload.extract as).isRunning 1 = true ∧
      ∃ d, (after Payload.extract (as ++ [.advertised 1 report])).store.get? a = some d ∧
        ((after Payload.extract as).step Payload.extract (.advertised 1 report)).2 =
          [.updated d (FieldSet.name ∪ FieldSet.rssi)] := by
  intro a as report
  have running : (after Payload.extract as).isRunning 1 = true := by decide
  obtain ⟨⟨d, row, events⟩, -⟩ := announcement_by_adverts Payload.extract as 1 report running
  have announced : announcementOf (advertsOf a (observed Payload.extract as))
      ⟨report.rssi, Payload.extract report.payload⟩ = .updated (FieldSet.name ∪ FieldSet.rssi) := by
    decide
  exact ⟨running, d, row, events.trans (congrArg (Announcement.events d) announced)⟩

end BluetoothDiscovery
