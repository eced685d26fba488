import BluetoothDiscovery.Proofs.Observations.Fold

/-!
# Names that were heard

The name of a device is kept in two places like everything else, but the two do not agree: a look-up
changes the name that is stored and leaves the one of the sightings as it is.  What the sightings
have is the name that was advertised last (`namesHeard_after`), whatever was looked up since.
-/

namespace BluetoothDiscovery

open Coordinator (after)

variable {extract : Payload → AdvertisementData} {obs : List Observation} {a b : Address}
  {x : Device} {s : Sightings} {rssi : Int16} {data : AdvertisementData} {name : String}

theorem AdvertisementData.ne_empty_of_name? (told : data.name? = some name) : name ≠ "" := by
  rintro rfl
  exact absurd (Option.filter_eq_some_iff.mp told).2 (by decide)

/-- The name that was advertised last from an address. -/
def heardName (a : Address) (obs : List Observation) : Option String :=
  latest (·.data.name?) (advertsOf a obs)

theorem ne_empty_of_heardName (h : heardName a obs = some name) : name ≠ "" := by
  have mem : name ∈ (advertsOf a obs).filterMap (·.data.name?) := List.mem_of_getLast? h
  obtain ⟨heard, -, told⟩ := List.mem_filterMap.mp mem
  exact AdvertisementData.ne_empty_of_name? told

/-- The name that was heard last is another one than `name`, which is not empty. -/
theorem heardName_ne_iff (told : name ≠ "") {heard : Option String} :
    heard ≠ some name ↔ name ≠ heard.getD "" := by
  cases heard with
  | none => simp [told]
  | some other => simp [eq_comm]

theorem heardName_concat_lookUp (resolution : Resolution) :
    heardName a (obs ++ [.lookUp resolution]) = heardName a obs := by
  unfold heardName
  rw [advertsOf_concat_lookUp]

theorem heardName_concat_advert (rssi : Int16) (data : AdvertisementData) :
    heardName a (obs ++ [.advert a ⟨rssi, data⟩]) = data.name?.or (heardName a obs) := by
  unfold heardName
  rw [advertsOf_concat_advert, latest_concat]

theorem heardName_concat_of_ne (other : a ≠ b) (heard : Advert) :
    heardName a (obs ++ [.advert b heard]) = heardName a obs := by
  have same : advertsOf a (obs ++ [.advert b heard]) = advertsOf a obs :=
    advertsOf_concat_of_ne other.symm
  unfold heardName
  rw [same]

/-- The sightings have the names that were advertised last. -/
def NamesHeard (s : Sightings) (obs : List Observation) : Prop :=
  ∀ a x, s.get? a = some x → x.name = (heardName a obs).getD ""

theorem ofAdvertisement_name (a : Address) (rssi : Int16) (data : AdvertisementData) :
    (Device.ofAdvertisement a rssi data).name = data.name?.getD "" := by
  show data.localName.getD "" = _
  unfold AdvertisementData.name?
  cases data.localName with
  | none => rfl
  | some name =>
    cases h : name.isEmpty with
    | true => simp [Option.filter_some, String.isEmpty_iff.mp h]
    | false => simp [Option.filter_some, h, -String.isEmpty_iff]

namespace NamesHeard

theorem lookUp (h : NamesHeard s obs) (resolution : Resolution) :
    NamesHeard s (obs ++ [.lookUp resolution]) := by
  intro a x seen
  rw [heardName_concat_lookUp]
  exact h a x seen

theorem insert (h : NamesHeard s obs) {heard : Advert}
    (name : x.name = (heardName b (obs ++ [.advert b heard])).getD "") :
    NamesHeard ⟨s.byAddress.insert b x⟩ (obs ++ [.advert b heard]) := by
  intro a y seen
  by_cases same : a = b
  · subst same
    have here : (⟨s.byAddress.insert a x⟩ : Sightings).get? a = some x :=
      KeyedMap.get?_insert_self _ _ _
    obtain rfl := Option.some.inj (here.symm.trans seen)
    exact name
  · have there : (⟨s.byAddress.insert b x⟩ : Sightings).get? a = s.get? a :=
      KeyedMap.get?_insert_of_ne _ same _
    rw [heardName_concat_of_ne same]
    exact h a y (there.symm.trans seen)

/-- An advertisement that changes nothing told the same name or none. -/
theorem unchanged (h : NamesHeard s obs) (known : s.get? b = some x)
    (silent : (x.absorbChanges rssi data).isEmpty = true) :
    NamesHeard s (obs ++ [.advert b ⟨rssi, data⟩]) := by
  intro a y seen
  by_cases same : a = b
  · subst same
    obtain rfl := Option.some.inj (known.symm.trans seen)
    have kept : (x.absorb rssi data).name = x.name := Device.absorb_of_silent silent .name
    rw [Device.absorb_name, h a x known] at kept
    rw [heardName_concat_advert, h a x known]
    cases told : data.name? with
    | none => rfl
    | some name =>
      rw [told] at kept
      exact kept.symm
  · rw [heardName_concat_of_ne same]
    exact h a y seen

theorem observe (h : NamesHeard s obs) (unseen : s.get? b = none → heardName b obs = none)
    (rssi : Int16) (data : AdvertisementData) :
    NamesHeard (s.observe b rssi data).1 (obs ++ [.advert b ⟨rssi, data⟩]) := by
  cases known : s.get? b with
  | none =>
    rw [Sightings.observe_of_unseen known]
    refine h.insert ?_
    rw [heardName_concat_advert, unseen known, Option.or_none, ofAdvertisement_name]
  | some x =>
    rw [Sightings.observe_of_seen known]
    split
    next silent => exact h.unchanged known silent
    next =>
      refine h.insert ?_
      rw [heardName_concat_advert, Device.absorb_name, h b x known]
      cases data.name? <;> rfl

end NamesHeard

/-- The sightings have the names that were advertised last, at any time. -/
theorem namesHeard_after (extract : Payload → AdvertisementData) (as : List Action) {r : Run}
    (running : (after extract as).phase = .running r) :
    NamesHeard r.sightings (observed extract as) := by
  induction as using List.reverseRecOn generalizing r with
  | nil => cases running
  | append_singleton as action ih =>
    rw [observed_concat]
    rw [Coordinator.after_concat] at running
    have intake := intake_step extract (after extract as) action
    generalize (after extract as).step extract action = out at intake running
    cases intake with
    | nothing _ sightings _ unobserved =>
      obtain ⟨r₀, before, same⟩ := sightings r running
      rw [unobserved, same]
      exact ih before
    | began =>
      -- A run begins without sightings.
      cases running
      intro a x seen
      cases seen
    | lookedUp before resolution answer =>
      rw [fst_register] at running
      obtain rfl := Phase.running.inj (before.symm.trans running)
      rw [answer, observe_resolved before]
      exact (ih before).lookUp resolution
    | heard before report advert =>
      rw [fst_advertise] at running
      cases running
      rw [advert, observe_advertised before]
      -- An address that is not seen has sent nothing, so that no name is known of it.
      refine (ih before).observe (fun unseen => ?_) _ _
      have silent := ((faithful_after extract as).sighted _ before).unseen _ unseen
      unfold heardName
      rw [silent, latest_nil]

end BluetoothDiscovery
