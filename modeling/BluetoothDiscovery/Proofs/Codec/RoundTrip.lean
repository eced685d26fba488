import BluetoothDiscovery.Codec.Scenario
import BluetoothDiscovery.Proofs.Address
import BluetoothDiscovery.Proofs.Codec.ReadsBack
import BluetoothDiscovery.Proofs.Codec.TextForms

/-!
# Devices and scenarios are read back

What is written of a device or a scenario in the JSON notation is read as the same device or
scenario (`decode?_of_alike_encode`).  The order of entries does not matter, neither in a structure
nor in the maps inside it; that of lists does.  Each part has a lemma, from the text forms up, and a
structure is read back since each of its fields is.
-/

namespace BluetoothDiscovery

open Decode

/-! ### Parts -/

theorem Address.readsBack (a : Address) : ReadsBack a.encode Address.decode? a :=
  (readsBack_text a.render).bind (by rw [Address.parse_render]; rfl)

theorem Uuid.readsBack (u : Uuid) : ReadsBack u.encode (Uuid.decode? .json) u := by
  intro w alike
  rw [Value.alike_text_iff.mp alike]
  exact Uuid.parse?_render u

theorem Flags.readsBack {table : FlagTable} (plain : table.Plain) (f : Flags table) :
    ReadsBack f.encode Flags.decode? f :=
  (readsBack_text f.render).bind (Flags.parse?_render plain f)

theorem readsBack_octets (bytes : List UInt8) :
    ReadsBack (encodeOctets bytes) decodeOctets? bytes :=
  readsBack_list fun b _ => readsBack_octet b

theorem readsBack_manufacturerData (m : ManufacturerData) :
    ReadsBack (ManufacturerData.encode m) (ManufacturerData.decode? .json) m :=
  readsBack_keyedMap m (fun c => encodeCompany c) decodeCompany?_encodeCompany readsBack_octets

theorem readsBack_serviceData (m : ServiceData) :
    ReadsBack (ServiceData.encode m) ServiceData.decode? m :=
  readsBack_keyedMap m (fun u => u.render) Uuid.parse?_render readsBack_octets

theorem readsBack_uuids (us : List Uuid) :
    ReadsBack (.list (us.map Uuid.encode)) (list? (Uuid.decode? .json)) us :=
  readsBack_list fun u _ => u.readsBack

theorem Stage.readsBack (s : Stage) : ReadsBack s.encode (Stage.decode? .json) s :=
  readsBack_named (by cases s <;> rfl)

theorem AdapterState.readsBack (s : AdapterState) :
    ReadsBack s.encode (AdapterState.decode? .json) s :=
  readsBack_named (by cases s <;> rfl)

theorem Selector.readsBack (s : Selector) : ReadsBack s.encode (Selector.decode? .json) s :=
  readsBack_named (by cases s <;> rfl)

theorem ServiceStatus.readsBack (s : ServiceStatus) :
    ReadsBack s.encode (ServiceStatus.decode? .json) s :=
  readsBack_named (by cases s <;> rfl)

/-! ### Devices -/

theorem Device.readsBack (d : Device) : ReadsBack d.encode (Device.decode? .json) d := by
  intro w alike
  obtain ⟨f, given, fields⟩ :=
    exists_fields?_of_alike .json alike (List.Sublist.refl Device.fieldNames) (by decide)
  have address := fields.required? "address" (by decide) rfl d.address.readsBack
  have name := fields.required? "name" (by decide) rfl (readsBack_text d.name)
  have classOfDevice :=
    fields.required? "classOfDevice" (by decide) rfl (readsBack_unsigned32 d.classOfDevice)
  have configuration := fields.required? "coreConfiguration" (by decide) rfl
    (Flags.readsBack Configuration.plain d.configuration)
  have rssi := fields.optional? "rssi" (by decide) rfl
    (readsBack_optional d.rssi readsBack_signed16 nofun)
  have manufacturerData := fields.required? "manufacturerData" (by decide) rfl
    (readsBack_manufacturerData d.manufacturerData)
  have serviceData :=
    fields.required? "serviceData" (by decide) rfl (readsBack_serviceData d.serviceData)
  have services :=
    fields.required? "serviceUuids" (by decide) rfl (readsBack_uuids d.services.toList)
  have cached := fields.required? "cached" (by decide) rfl (readsBack_boolean d.resolved)
  unfold Device.decode?
  simp only [given, address, name, classOfDevice, configuration, rssi, manufacturerData,
    serviceData, services, cached, Option.bind_eq_bind, Option.bind_some, Option.pure_def,
    DistinctList.ofList_toList]

/-! ### Advertisements -/

theorem AdvertisementData.readsBack (a : AdvertisementData) :
    ReadsBack a.encode (AdvertisementData.decode? .json) a := by
  intro w alike
  obtain ⟨name, manufacturerData, serviceData, services⟩ := a
  obtain ⟨f, given, fields⟩ := exists_fields?_of_alike .json alike
    (show List.Sublist _ AdvertisementData.fieldNames by
      cases name with
      | none => exact List.sublist_cons_self _ _
      | some n => exact List.Sublist.refl _)
    (by decide)
  -- A name that is absent is not written; an empty name is.
  have localName : f.withDefault? "local_name" none (optional? text?) = some name := by
    cases name with
    | none => exact fields.withDefault?_absent "local_name" none (by decide) rfl
    | some n =>
      exact fields.withDefault? "local_name" none (by decide) rfl ((readsBack_text n).some nofun)
  have manufacturerData := fields.withDefault? "manufacturer_data" ∅ (by decide)
    (by cases name <;> rfl) (readsBack_manufacturerData manufacturerData)
  have serviceData := fields.withDefault? "service_data" ∅ (by decide)
    (by cases name <;> rfl) (readsBack_serviceData serviceData)
  have services := fields.withDefault? "service_uuids" [] (by decide)
    (by cases name <;> rfl) (readsBack_uuids services)
  unfold AdvertisementData.decode?
  simp only [given, localName, manufacturerData, serviceData, services, Option.bind_eq_bind,
    Option.bind_some, Option.pure_def]

theorem Payload.readsBack (p : Payload) : ReadsBack p.encode (Payload.decode? .json) p := by
  intro w alike
  cases p with
  | octets bytes =>
    obtain ⟨v, rfl, octets⟩ := Value.exists_of_alike_singleton alike
    show (decodeOctets? v).map Payload.octets = some (.octets bytes)
    rw [readsBack_octets bytes v octets, Option.map_some]
  | decoded data =>
    obtain ⟨v, rfl, decoded⟩ := Value.exists_of_alike_singleton alike
    show (AdvertisementData.decode? .json v).map Payload.decoded = some (.decoded data)
    rw [data.readsBack v decoded, Option.map_some]

/-! ### Scenarios -/

/-- Whether the times of a scripted device are numbers of 64 bits. -/
structure ScriptedDevice.Fits (d : ScriptedDevice) : Prop where
  resolveDelay : d.resolveDelay < 0x10000000000000000
  servicesDelay : d.servicesDelay < 0x10000000000000000

/-- Whether all times of a scenario are numbers of 64 bits. -/
structure Scenario.Fits (s : Scenario) : Prop where
  adapterDelay : s.adapterDelay < 0x10000000000000000
  enumerationDelay : s.enumerationDelay < 0x10000000000000000
  devices : ∀ selector, ∀ d ∈ s.devices selector, d.Fits
  advertisements : ∀ a ∈ s.advertisements, a.time < 0x10000000000000000

theorem ScriptedDevice.readsBack {d : ScriptedDevice} (fits : d.Fits) :
    ReadsBack d.encode (ScriptedDevice.decode? .json) d := by
  intro w alike
  obtain ⟨f, given, fields⟩ :=
    exists_fields?_of_alike .json alike (List.Sublist.refl ScriptedDevice.fieldNames) (by decide)
  have id := fields.withDefault? "id" "" (by decide) rfl (readsBack_text d.id)
  have address := fields.withDefault? "address" (.ofNat 0) (by decide) rfl d.address.readsBack
  have name := fields.withDefault? "name" "" (by decide) rfl (readsBack_text d.name)
  have classOfDevice := fields.withDefault? "class_of_device" 0 (by decide) rfl
    (readsBack_unsigned32 d.classOfDevice)
  have paired := fields.withDefault? "paired" true (by decide) rfl (readsBack_boolean d.paired)
  have services := fields.withDefault? "services" [] (by decide) rfl (readsBack_uuids d.services)
  have serviceStatus := fields.withDefault? "service_status" .success (by decide) rfl
    d.serviceStatus.readsBack
  have failAt := fields.withDefault? "fail_at" none (by decide) rfl
    (readsBack_optional d.failAt Stage.readsBack nofun)
  have resolveDelay := fields.withDefault? "resolve_delay_ms" 0 (by decide) rfl
    (readsBack_natural64 fits.resolveDelay)
  have servicesDelay := fields.withDefault? "services_delay_ms" 0 (by decide) rfl
    (readsBack_natural64 fits.servicesDelay)
  unfold ScriptedDevice.decode?
  simp only [given, id, address, name, classOfDevice, paired, services, serviceStatus, failAt,
    resolveDelay, servicesDelay, Option.bind_eq_bind, Option.bind_some, Option.pure_def]

theorem ScriptedAdvertisement.readsBack {a : ScriptedAdvertisement}
    (fits : a.time < 0x10000000000000000) :
    ReadsBack a.encode (ScriptedAdvertisement.decode? .json) a := by
  intro w alike
  obtain ⟨f, given, fields⟩ := exists_fields?_of_alike .json alike
    (List.Sublist.refl ScriptedAdvertisement.fieldNames) (by decide)
  have time := fields.withDefault? "at_ms" 0 (by decide) rfl (readsBack_natural64 fits)
  have address := fields.required? "address" (by decide) rfl a.report.address.readsBack
  have rssi := fields.required? "rssi" (by decide) rfl (readsBack_signed16 a.report.rssi)
  have payload := fields.required? "payload" (by decide) rfl a.report.payload.readsBack
  unfold ScriptedAdvertisement.decode?
  simp only [given, time, address, rssi, payload, Option.bind_eq_bind, Option.bind_some,
    Option.pure_def]

theorem Scenario.readsBack {s : Scenario} (fits : s.Fits) :
    ReadsBack s.encode (Scenario.decode? .json) s := by
  intro w alike
  obtain ⟨f, given, fields⟩ :=
    exists_fields?_of_alike .json alike (List.Sublist.refl Scenario.fieldNames) (by decide)
  have adapter := fields.withDefault? "adapter" .ready (by decide) rfl s.adapter.readsBack
  have adapterDelay := fields.withDefault? "adapter_delay_ms" 0 (by decide) rfl
    (readsBack_natural64 fits.adapterDelay)
  have enumerationDelay := fields.withDefault? "enumeration_delay_ms" 0 (by decide) rfl
    (readsBack_natural64 fits.enumerationDelay)
  have failingEnumerations := fields.withDefault? "failing_enumerations" [] (by decide) rfl
    (readsBack_list fun (selector : Selector) _ => selector.readsBack)
  have classicDevices := fields.withDefault? "classic_devices" [] (by decide) rfl
    (readsBack_list fun d mem => ScriptedDevice.readsBack (fits.devices .classic d mem))
  have lowEnergyDevices := fields.withDefault? "le_paired_devices" [] (by decide) rfl
    (readsBack_list fun d mem => ScriptedDevice.readsBack (fits.devices .lowEnergy d mem))
  have watcherFails := fields.withDefault? "watcher_fails" false (by decide) rfl
    (readsBack_boolean s.watcherFails)
  have advertisements := fields.withDefault? "advertisements" [] (by decide) rfl
    (readsBack_list fun a mem => ScriptedAdvertisement.readsBack (fits.advertisements a mem))
  unfold Scenario.decode?
  simp only [given, adapter, adapterDelay, enumerationDelay, failingEnumerations, classicDevices,
    lowEnergyDevices, watcherFails, advertisements, Option.bind_eq_bind, Option.bind_some,
    Option.pure_def]

/-! ### What is kept in files -/

/-- A device is read back from what is written of it, and so is a scenario whose times are numbers
of 64 bits, in whatever order the entries of tables come. -/
theorem decode?_of_alike_encode :
    (∀ (d : Device) (v : Value), d.encode.Alike v → Device.decode? .json v = some d) ∧
      ∀ s : Scenario, s.Fits → ∀ v : Value, s.encode.Alike v →
        Scenario.decode? .json v = some s :=
  ⟨Device.readsBack, fun _ => Scenario.readsBack⟩

/-- A device with flags that have no name, written backwards, and a scenario in which an
advertisement has a name without letters, and a look-up fails at the end of the widest time. -/
theorem decode?_of_alike_encode_reversed :
    let d : Device := {
      address := .ofNat 0xA1B2C3D4E5F6
      name := "Band"
      configuration := ⟨0xF2⟩
      manufacturerData := KeyedMap.ofList [(0x4C, [2, 21]), (9, [])]
      services := .ofList [.ofShort 0x180F, .ofShort 0x180A] }
    let s : Scenario := {
      failingEnumerations := [.lowEnergy]
      classicDevices := [{ id := "a", failAt := some .fetchServices,
                           servicesDelay := 0xFFFFFFFFFFFFFFFF }]
      advertisements := [⟨7, .ofNat 1, -40, .decoded { localName := some "" }⟩,
        ⟨0, .ofNat 1, -41, .octets [2, 1, 6]⟩] }
    (∃ entries, d.encode = .table entries ∧
        d.encode.Alike (.table entries.reverse) ∧
        Device.decode? .json (.table entries.reverse) = some d) ∧
      s.Fits ∧ s.encode.Alike s.encode ∧ Scenario.decode? .json s.encode = some s := by
  intro d s
  have backwards : d.encode.Alike (.table _) :=
    .table (List.forall₂_same.mpr fun e _ => .mk e.1 (.refl e.2)) (List.reverse_perm _).symm
  have fits : s.Fits := by
    refine ⟨by decide, by decide, ?_, by decide⟩
    rintro (_ | _) d mem
    · obtain rfl := List.mem_singleton.mp mem
      exact ⟨by decide, by decide⟩
    · cases mem
  exact ⟨⟨_, rfl, backwards, decode?_of_alike_encode.1 d _ backwards⟩, fits, .refl _,
    decode?_of_alike_encode.2 s fits _ (.refl _)⟩

end BluetoothDiscovery
