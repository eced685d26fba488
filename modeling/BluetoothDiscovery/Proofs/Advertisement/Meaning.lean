import BluetoothDiscovery.Proofs.Advertisement.Framing
import BluetoothDiscovery.Proofs.Observations.Describes
import Mathlib.Data.List.TakeWhile

/-!
# What the octets of an advertisement say

`Meaning` is the meaning of a row of structures, field by field, with no regard to the order in
which the fields are read: which services are listed, which structure names the device, and which
structure holds the data of a service or of a manufacturer.  `AdvertisementData.parse` goes through
a row once and keeps all fields up to date (`Meaning.absorb`), and so it reads the meaning off every
row of octets (`parse_eq_iff`).
-/

namespace BluetoothDiscovery

variable {s : AdStructure} {ss : List AdStructure} {data : AdvertisementData} {octets : List UInt8}

/-! ### Services -/

namespace AdStructure

/-- The octets of each service in a structure that lists services. -/
def listedWidth (s : AdStructure) : Option Nat :=
  if s.kind = 0x02 ∨ s.kind = 0x03 then some 2
  else if s.kind = 0x04 ∨ s.kind = 0x05 then some 4
  else if s.kind = 0x06 ∨ s.kind = 0x07 then some 16
  else none

/-- The octets of the service in a structure that holds its data. -/
def servedWidth (s : AdStructure) : Option Nat :=
  if s.kind = 0x16 then some 2
  else if s.kind = 0x20 then some 4
  else if s.kind = 0x21 then some 16
  else none

theorem width_of_listed {width : Nat} (h : s.listedWidth = some width) :
    width = 2 ∨ width = 4 ∨ width = 16 := by
  unfold listedWidth at h
  split_ifs at h <;> simp_all

theorem width_of_served {width : Nat} (h : s.servedWidth = some width) :
    width = 2 ∨ width = 4 ∨ width = 16 := by
  unfold servedWidth at h
  split_ifs at h <;> simp_all

/-- The number of the service with an identifier of two, four or sixteen octets.  A short
identifier stands for its expansion by the base UUID `00000000-0000-1000-8000-00805f9b34fb`. -/
def serviceNumber (octets : List UInt8) : Nat :=
  if octets.length = 16 then Uuid.number octets
  else Uuid.number octets * 2 ^ 96 + 0x0000_1000_8000_0080_5f9b_34fb

/-- The services that a structure lists. -/
def listed (s : AdStructure) : List Nat :=
  match s.listedWidth with
  | some width => (items width s.body).map serviceNumber
  | none => []

/-- The data that a structure holds of a service. -/
def served (service : Nat) (s : AdStructure) : Option (List UInt8) :=
  match s.servedWidth with
  | some width =>
    if width ≤ s.body.length ∧ serviceNumber (s.body.take width) = service then
      some (s.body.drop width)
    else none
  | none => none

/-- The data that a structure holds of a manufacturer. -/
def made (company : Nat) (s : AdStructure) : Option (List UInt8) :=
  if s.kind = 0xFF ∧ 2 ≤ s.body.length ∧ Uuid.number (s.body.take 2) = company then
    some (s.body.drop 2)
  else none

/-- The body that holds the name: that of the last complete name, or else of the first shortened
one. -/
def nameBody (ss : List AdStructure) : Option (List UInt8) :=
  ((ss.filter (·.kind = 0x09)).getLast?.or (ss.filter (·.kind = 0x08)).head?).map body

end AdStructure

/-- Whether a text is what a body says without the zero characters at its end. -/
def IsName (body : List UInt8) (name : String) : Prop :=
  (∃ n, Text.Utf8.decodeLossy body = name.toList ++ List.replicate n '\x00') ∧
    name.toList.getLast? ≠ some '\x00'

/-- What a row of structures says. -/
structure Meaning (ss : List AdStructure) (data : AdvertisementData) : Prop where
  /-- The listed services in the order of their first appearance. -/
  services : data.services.map Uuid.toNat = (ss.flatMap AdStructure.listed).eraseDups
  localName : Option.Rel IsName (AdStructure.nameBody ss) data.localName
  /-- The data of a service is that of the last structure that holds any. -/
  serviceData (u : Uuid) : data.serviceData.get? u = latest (AdStructure.served u.toNat) ss
  /-- The data of a manufacturer is that of the last structure that holds any. -/
  manufacturerData (company : UInt16) :
    data.manufacturerData.get? company = latest (AdStructure.made company.toNat) ss

/-! ### Names -/

theorem isName_nameOf (body : List UInt8) : IsName body (AdvertisementData.nameOf body) := by
  unfold IsName AdvertisementData.nameOf
  rw [String.toList_ofList]
  generalize Text.Utf8.decodeLossy body = text
  constructor
  · -- What is dropped from the end is a row of zero characters.
    have zero (c : Char) (mem : c ∈ text.reverse.takeWhile (· == '\x00')) : c = '\x00' := by
      have dropped := List.mem_takeWhile_imp mem
      exact beq_iff_eq.mp dropped
    have zeros := List.eq_replicate_of_mem zero
    refine ⟨(text.reverse.takeWhile (· == '\x00')).length, ?_⟩
    rw [← List.reverse_replicate, ← zeros, ← List.reverse_append, List.takeWhile_append_dropWhile,
      List.reverse_reverse]
  · intro last
    rw [List.getLast?_reverse] at last
    have kept := List.head?_dropWhile_not (· == '\x00') text.reverse
    rw [last] at kept
    simp at kept

/-- A body says one name. -/
theorem isName_iff {body : List UInt8} {name : String} :
    IsName body name ↔ AdvertisementData.nameOf body = name := by
  constructor
  · rintro ⟨⟨n, text⟩, last⟩
    have first : (name.toList.reverse.dropWhile (· == '\x00')) = name.toList.reverse := by
      rw [List.dropWhile_eq_self_iff]
      intro pos zero
      refine last ?_
      rw [← List.head?_reverse, List.head?_eq_getElem?, List.getElem?_eq_getElem pos]
      exact congrArg some (beq_iff_eq.mp zero)
    unfold AdvertisementData.nameOf
    rw [text, List.reverse_append, List.reverse_replicate, List.dropWhile_append_of_pos, first,
      List.reverse_reverse, String.ofList_toList]
    intro c mem
    rw [List.eq_of_mem_replicate mem]
    rfl
  · rintro rfl
    exact isName_nameOf body

/-! ### Parts of an advertisement -/

namespace AdvertisementData

/-- What a structure does to the data, by the part that it plays. -/
inductive Absorbs (data : AdvertisementData) (s : AdStructure) : AdvertisementData → Prop
  | lists {width : Nat} (listed : s.listedWidth = some width) (served : s.servedWidth = none)
      (kind : s.kind ≠ 0x08 ∧ s.kind ≠ 0x09 ∧ s.kind ≠ 0xFF) :
      Absorbs data s (data.addServices width s.body)
  | serves {width : Nat} (listed : s.listedWidth = none) (served : s.servedWidth = some width)
      (kind : s.kind ≠ 0x08 ∧ s.kind ≠ 0x09 ∧ s.kind ≠ 0xFF) :
      Absorbs data s (data.addServiceData width s.body)
  | completeName (kind : s.kind = 0x09) :
      Absorbs data s { data with localName := some (nameOf s.body) }
  | shortName (kind : s.kind = 0x08) :
      Absorbs data s { data with localName := data.localName.or (some (nameOf s.body)) }
  | makes (kind : s.kind = 0xFF) : Absorbs data s (data.addManufacturerData s.body)
  | nothing (listed : s.listedWidth = none) (served : s.servedWidth = none)
      (kind : s.kind ≠ 0x08 ∧ s.kind ≠ 0x09 ∧ s.kind ≠ 0xFF) : Absorbs data s data

theorem absorbs (data : AdvertisementData) (s : AdStructure) : Absorbs data s (data.absorb s) := by
  unfold absorb
  split
  case h_1 kind | h_2 kind | h_3 kind | h_4 kind | h_5 kind | h_6 kind =>
    exact .lists (by simp [AdStructure.listedWidth, kind])
      (by simp [AdStructure.servedWidth, kind]) (by simp [kind])
  case h_7 kind =>
    have short : Absorbs data s
        { data with localName := data.localName.or (some (nameOf s.body)) } := .shortName kind
    cases hname : data.localName with
    | none =>
      rw [hname] at short
      exact short
    | some name =>
      -- A short name does not replace a name that is known.
      have same : { data with localName := (some name).or (some (nameOf s.body)) } = data := by
        cases data
        cases hname
        rfl
      rw [hname, same] at short
      exact short
  case h_8 kind => exact .completeName kind
  case h_9 kind | h_10 kind | h_11 kind =>
    exact .serves (by simp [AdStructure.listedWidth, kind])
      (by simp [AdStructure.servedWidth, kind]) (by simp [kind])
  case h_12 kind => exact .makes kind
  case h_13 =>
    exact .nothing (by simp_all [AdStructure.listedWidth]) (by simp_all [AdStructure.servedWidth])
      (by simp_all)

end AdvertisementData

/-! ### Services and data -/

open AdStructure (serviceNumber listed served made nameBody)

/-- An identifier of two, four or sixteen octets stands for the service with its number. -/
theorem toNat_ofLittleEndian
    (whole : octets.length = 2 ∨ octets.length = 4 ∨ octets.length = 16) :
    (Uuid.ofLittleEndian octets).toNat = serviceNumber octets := by
  have lt := Uuid.number_lt octets
  unfold Uuid.ofLittleEndian serviceNumber
  rw [Uuid.littleEndian_eq_number]
  by_cases long : octets.length = 16
  · rw [if_pos long, if_neg (by omega)]
    rw [long] at lt
    exact Nat.mod_eq_of_lt lt
  · have short : octets.length ≤ 4 := by omega
    have fits : Uuid.number octets < 2 ^ 32 :=
      lt.trans_le (Nat.pow_le_pow_right (by decide) short)
    rw [if_neg long, if_pos short]
    show (UInt32.ofNat (Uuid.number octets)).toNat * 0x1000000000000000000000000 + _ = _
    rw [UInt32.toNat_ofNat_of_lt' fits]
    rfl

theorem Uuid.toNat_injective : Function.Injective Uuid.toNat := by
  rintro ⟨m, _⟩ ⟨n, _⟩ (rfl : m = n)
  rfl

namespace AdvertisementData

variable {numbers : List Nat}

theorem numbers_addService (u : Uuid)
    (h : data.services.map Uuid.toNat = numbers.eraseDups) :
    (data.addService u).services.map Uuid.toNat = (numbers ++ [u.toNat]).eraseDups := by
  have mem : u ∈ data.services ↔ u.toNat ∈ numbers := by
    rw [← List.mem_map_of_injective Uuid.toNat_injective, h, List.mem_eraseDups]
  unfold addService
  split
  next known => rw [eraseDups_concat_of_mem (mem.mp known), h]
  next new =>
    rw [eraseDups_concat_of_not_mem (mt mem.mpr new), ← h]
    exact List.map_append

theorem numbers_addServices {width : Nat} (whole : width = 2 ∨ width = 4 ∨ width = 16)
    (body : List UInt8) (h : data.services.map Uuid.toNat = numbers.eraseDups) :
    (data.addServices width body).services.map Uuid.toNat =
      (numbers ++ (AdStructure.items width body).map serviceNumber).eraseDups := by
  have pos : 0 < width := by omega
  have each : ∀ item ∈ AdStructure.items width body,
      item.length = 2 ∨ item.length = 4 ∨ item.length = 16 := by
    intro item mem
    rw [AdStructure.length_of_mem_items mem]
    exact whole
  unfold addServices
  rw [AdStructure.chunks_eq_items pos]
  -- One service after another, with those that are there already dropped each time.
  generalize AdStructure.items width body = found at each
  induction found generalizing data numbers with
  | nil =>
    show data.services.map Uuid.toNat = (numbers ++ []).eraseDups
    rw [List.append_nil]
    exact h
  | cons item found ih =>
    have first := numbers_addService (Uuid.ofLittleEndian item) h
    rw [toNat_ofLittleEndian (each item List.mem_cons_self)] at first
    have rest := ih first fun other mem => each other (List.mem_cons_of_mem item mem)
    rw [List.append_assoc] at rest
    exact rest

/-- A list of services changes nothing but the services. -/
theorem exists_addServices (data : AdvertisementData) (width : Nat) (body : List UInt8) :
    ∃ services, data.addServices width body = { data with services } := by
  unfold addServices
  generalize (AdStructure.chunks width body).map Uuid.ofLittleEndian = us
  induction us generalizing data with
  | nil => exact ⟨data.services, rfl⟩
  | cons u us ih =>
    obtain ⟨services, rest⟩ := ih (data.addService u)
    refine ⟨services, ?_⟩
    rw [List.foldl_cons, rest]
    unfold addService
    split <;> rfl

/-- The data with service data holds those of one more structure. -/
theorem addServiceData_eq {width : Nat} (holds : s.servedWidth = some width)
    (data : AdvertisementData) : ∃ serviceData,
      data.addServiceData width s.body = { data with serviceData } ∧
        ∀ u, serviceData.get? u = (served u.toNat s).or (data.serviceData.get? u) := by
  unfold addServiceData served
  rw [holds]
  by_cases short : s.body.length < width
  · rw [if_pos short]
    refine ⟨data.serviceData, rfl, fun u => ?_⟩
    dsimp only
    rw [if_neg fun h => absurd h.1 (Nat.not_le_of_lt short)]
    rfl
  · have enough := Nat.le_of_not_lt short
    rw [if_neg short]
    refine ⟨_, rfl, fun u => ?_⟩
    have number : (Uuid.ofLittleEndian (s.body.take width)).toNat =
        serviceNumber (s.body.take width) := by
      refine toNat_ofLittleEndian ?_
      rw [List.length_take_of_le enough]
      exact AdStructure.width_of_served holds
    dsimp only
    -- The data stands under the number that the first octets spell, and under no other.
    by_cases this : u = Uuid.ofLittleEndian (s.body.take width)
    · rw [if_pos ⟨enough, by rw [this, number]⟩, this, KeyedMap.get?_insert_self]
      rfl
    · have other : serviceNumber (s.body.take width) ≠ u.toNat := by
        rw [← number]
        exact fun h => this (Uuid.toNat_injective h).symm
      rw [if_neg fun h => other h.2, KeyedMap.get?_insert_of_ne _ this]
      rfl

/-- The data with manufacturer data holds those of one more structure. -/
theorem addManufacturerData_eq (kind : s.kind = 0xFF) (data : AdvertisementData) :
    ∃ manufacturerData, data.addManufacturerData s.body = { data with manufacturerData } ∧
      ∀ company : UInt16, manufacturerData.get? company =
        (made company.toNat s).or (data.manufacturerData.get? company) := by
  obtain ⟨k, body⟩ := s
  obtain rfl : k = 0xFF := kind
  -- Fewer than two octets name no company, and add nothing.
  match body with
  | [] => exact ⟨data.manufacturerData, rfl, fun company => rfl⟩
  | [_] => exact ⟨data.manufacturerData, rfl, fun company => rfl⟩
  | low :: high :: rest =>
    refine ⟨_, rfl, fun company => ?_⟩
    -- Two octets make a number of 16 bits, so that the company loses nothing of it.
    have lt : Uuid.number [low, high] < 2 ^ 16 :=
      (Uuid.number_lt [low, high]).trans_le (by simp)
    have number : (UInt16.ofNat (Uuid.littleEndian [low, high])).toNat =
        Uuid.number [low, high] := by
      rw [Uuid.littleEndian_eq_number, UInt16.toNat_ofNat_of_lt' lt]
    have long : 2 ≤ (low :: high :: rest).length := by simp
    unfold made
    by_cases this : company = UInt16.ofNat (Uuid.littleEndian [low, high])
    · rw [if_pos ⟨rfl, long, by rw [this, number]; rfl⟩, this, KeyedMap.get?_insert_self]
      rfl
    · have other : Uuid.number [low, high] ≠ company.toNat := by
        rw [← number]
        exact fun h => this (UInt16.toNat_inj.mp h).symm
      rw [if_neg fun h => other h.2.2, KeyedMap.get?_insert_of_ne _ this]
      rfl

end AdvertisementData

/-! ### Rows of structures -/

theorem AdStructure.nameBody_concat (ss : List AdStructure) (s : AdStructure) :
    nameBody (ss ++ [s]) =
      if s.kind = 0x09 then some s.body
      else if s.kind = 0x08 then (nameBody ss).or (some s.body)
      else nameBody ss := by
  unfold nameBody
  rw [List.filter_append, List.filter_append]
  by_cases complete : s.kind = 0x09
  · simp [complete]
  · by_cases short : s.kind = 0x08
    · have none : [s].filter (·.kind = 0x09) = [] := by simp [complete]
      have one : [s].filter (·.kind = 0x08) = [s] := by simp [short]
      rw [none, one, List.append_nil, if_neg complete, if_pos short, List.head?_append]
      cases (ss.filter (·.kind = 0x09)).getLast? <;>
        cases (ss.filter (·.kind = 0x08)).head? <;> rfl
    · simp [complete, short]

namespace Meaning

theorem nil : Meaning [] {} where
  services := rfl
  localName := .none
  serviceData _ := rfl
  manufacturerData _ := rfl

/-- What is said by a row with one more structure. -/
theorem concat {data' : AdvertisementData} (h : Meaning ss data)
    (services : data'.services.map Uuid.toNat = (ss.flatMap listed ++ listed s).eraseDups)
    (localName : Option.Rel IsName (nameBody (ss ++ [s])) data'.localName)
    (serviceData : ∀ u, data'.serviceData.get? u =
      (served u.toNat s).or (data.serviceData.get? u))
    (manufacturerData : ∀ company, data'.manufacturerData.get? company =
      (made company.toNat s).or (data.manufacturerData.get? company)) :
    Meaning (ss ++ [s]) data' where
  services := by
    rw [List.flatMap_append, List.flatMap_singleton]
    exact services
  localName := localName
  serviceData u := by rw [latest_concat, serviceData, h.serviceData]
  manufacturerData company := by rw [latest_concat, manufacturerData, h.manufacturerData]

/-- Each structure adds what it says to what is said by the structures before it. -/
theorem absorb (h : Meaning ss data) (s : AdStructure) : Meaning (ss ++ [s]) (data.absorb s) := by
  -- A structure of another kind says nothing of a field.
  have unlisted (none : s.listedWidth = none) :
      data.services.map Uuid.toNat = (ss.flatMap listed ++ listed s).eraseDups := by
    unfold listed
    rw [none, List.append_nil]
    exact h.services
  have unnamed (complete : s.kind ≠ 0x09) (short : s.kind ≠ 0x08) :
      Option.Rel IsName (nameBody (ss ++ [s])) data.localName := by
    rw [AdStructure.nameBody_concat, if_neg complete, if_neg short]
    exact h.localName
  have unserved (none : s.servedWidth = none) (u : Uuid) :
      data.serviceData.get? u = (served u.toNat s).or (data.serviceData.get? u) := by
    unfold served
    rw [none]
    rfl
  have unmade (other : s.kind ≠ 0xFF) (company : UInt16) :
      data.manufacturerData.get? company =
        (made company.toNat s).or (data.manufacturerData.get? company) := by
    unfold made
    rw [if_neg fun h => other h.1]
    rfl
  have absorbs := data.absorbs s
  generalize data.absorb s = data' at absorbs
  cases absorbs with
  | lists listed served kind =>
    have services := AdvertisementData.numbers_addServices (AdStructure.width_of_listed listed)
      s.body h.services
    obtain ⟨_, same⟩ := data.exists_addServices _ s.body
    rw [same] at services ⊢
    refine h.concat ?_ (unnamed kind.2.1 kind.1) (unserved served) (unmade kind.2.2)
    unfold AdStructure.listed
    rw [listed]
    exact services
  | serves listed served kind =>
    obtain ⟨serviceData, same, holds⟩ := data.addServiceData_eq served
    rw [same]
    exact h.concat (unlisted listed) (unnamed kind.2.1 kind.1) holds (unmade kind.2.2)
  | completeName kind =>
    refine h.concat (unlisted ?_) ?_ (unserved ?_) (unmade ?_)
    case refine_2 =>
      rw [AdStructure.nameBody_concat, if_pos kind]
      exact .some (isName_nameOf s.body)
    all_goals simp [AdStructure.listedWidth, AdStructure.servedWidth, kind]
  | shortName kind =>
    refine h.concat (unlisted ?_) ?_ (unserved ?_) (unmade ?_)
    case refine_2 =>
      rw [AdStructure.nameBody_concat, if_neg (by simp [kind]), if_pos kind]
      -- A name that is there already stays.
      have named := h.localName
      generalize nameBody ss = body? at named
      generalize data.localName = name? at named
      cases named with
      | some named => exact .some named
      | none => exact .some (isName_nameOf s.body)
    all_goals simp [AdStructure.listedWidth, AdStructure.servedWidth, kind]
  | makes kind =>
    obtain ⟨manufacturerData, same, holds⟩ := data.addManufacturerData_eq kind
    rw [same]
    refine h.concat (unlisted ?_) (unnamed ?_ ?_) (unserved ?_) holds
    all_goals simp [AdStructure.listedWidth, AdStructure.servedWidth, kind]
  | nothing listed served kind =>
    exact h.concat (unlisted listed) (unnamed kind.2.1 kind.1) (unserved served) (unmade kind.2.2)

/-- A row says one thing of each field. -/
theorem unique {data' : AdvertisementData} (h : Meaning ss data) (h' : Meaning ss data') :
    data = data' := by
  have services : data.services = data'.services :=
    List.map_injective_iff.mpr Uuid.toNat_injective (h.services.trans h'.services.symm)
  have serviceData : data.serviceData = data'.serviceData :=
    KeyedMap.ext_get? fun u => (h.serviceData u).trans (h'.serviceData u).symm
  have manufacturerData : data.manufacturerData = data'.manufacturerData :=
    KeyedMap.ext_get? fun c => (h.manufacturerData c).trans (h'.manufacturerData c).symm
  have localName : data.localName = data'.localName := by
    -- The name is said by the same octets in both, and octets spell one name.
    have name := h.localName
    have name' := h'.localName
    generalize nameBody ss = body? at name name'
    generalize data.localName = name? at name
    generalize data'.localName = name'? at name'
    cases name with
    | none =>
      cases name' with
      | none => rfl
    | some here =>
      cases name' with
      | some there => rw [← isName_iff.mp here, ← isName_iff.mp there]
  cases data
  cases data'
  cases services
  cases serviceData
  cases manufacturerData
  cases localName
  rfl

end Meaning

theorem meaning_foldl (ss : List AdStructure) :
    Meaning ss (ss.foldl AdvertisementData.absorb {}) := by
  induction ss using List.reverseRecOn with
  | nil => exact .nil
  | append_singleton ss s ih =>
    rw [List.foldl_append]
    exact ih.absorb s

/-- **What is read off a row of octets** is the meaning of its structures, whatever the octets are:
from the point on where the structures stop nothing is read, and neither are kinds that are not
known or bodies that are too short. -/
theorem parse_eq_iff (bytes : List UInt8) (data : AdvertisementData) :
    AdvertisementData.parse bytes = data ↔
      ∃ ss, AdStructure.Framed bytes ss ∧ Meaning ss data := by
  have meaning : Meaning (AdStructure.split bytes) (AdvertisementData.parse bytes) :=
    meaning_foldl _
  constructor
  · rintro rfl
    exact ⟨_, AdStructure.framed_split bytes, meaning⟩
  · rintro ⟨ss, framed, meant⟩
    rw [AdStructure.framed_iff.mp framed] at meaning
    exact meaning.unique meant

end BluetoothDiscovery
