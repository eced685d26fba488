import BluetoothDiscovery.Proofs.Codec.ReadsBack
import BluetoothDiscovery.Proofs.Settings.Lines
import BluetoothDiscovery.Settings.File

/-!
# Saved settings are loaded as they were

The settings file is a document of one line for each field (`Settings.render?_eq`), and it is read
as the settings that were written to it (`Settings.read?_render?`).  Saving is taken in the steps in
which it is done (`SettingsPlace.saving`), so that it shows what a failure leaves behind;
`load_of_save` says when it succeeds, and that loading then gives the same settings.
-/

namespace BluetoothDiscovery

open Decode Toml

namespace Settings

variable {s : Settings}

/-! ### The settings file -/

/-- The lines of the settings file. -/
def entries (s : Settings) : List Entry :=
  [⟨"classic", truth s.classic, .boolean s.classic⟩,
    ⟨"low_energy", truth s.lowEnergy, .boolean s.lowEnergy⟩,
    ⟨"le_timeout_ms", Nat.toDigits 10 s.timeout, .integer s.timeout⟩] ++
  (s.adapter.toList.map fun a => ⟨"adapter", quote a.toList, .text a⟩) ++
  [⟨"log_level", quote s.logLevel.key.toList, s.logLevel.encode⟩]

theorem render?_eq (s : Settings) : s.render? =
    if s.timeout < 0x8000000000000000 then
      some (.ofList (s.entries.flatMap fun e => line e.key e.chars))
    else none := by
  unfold render? entries
  cases s.adapter <;> simp

theorem written_truth (b : Bool) : Written (truth b) (.boolean b) := by
  cases b with
  | true => exact written_true
  | false => exact written_false

theorem written_text (a : String) : Written (quote a.toList) (.text a) := by
  have written := written_quote a.toList
  rwa [String.ofList_toList] at written

theorem bareKey_of_mem_fieldNames {name : String} (mem : name ∈ fieldNames) : BareKey name := by
  have all : ∀ name ∈ fieldNames, name.toList ≠ [] ∧ ∀ c ∈ name.toList, isBare c = true := by
    simp [fieldNames, isBare]
  exact ⟨(all name mem).1, (all name mem).2⟩

/-- The keys of the file are the names of the fields, but for the adapter where there is none. -/
theorem keys_sublist (s : Settings) : List.Sublist (s.entries.map Entry.key) fieldNames := by
  unfold entries fieldNames
  cases s.adapter with
  | none => simp
  | some a => exact List.Sublist.refl _

theorem sound_of_mem_entries (lt : s.timeout < 0x8000000000000000) :
    ∀ e ∈ s.entries, e.Sound := by
  intro e mem
  refine ⟨bareKey_of_mem_fieldNames ((keys_sublist s).subset (List.mem_map_of_mem mem)), ?_⟩
  revert e
  refine List.forall_mem_append.mpr ⟨List.forall_mem_append.mpr ⟨?_, ?_⟩, ?_⟩
  · exact List.forall_mem_cons.mpr ⟨written_truth _, List.forall_mem_cons.mpr ⟨written_truth _,
      List.forall_mem_singleton.mpr (written_toDigits lt)⟩⟩
  · exact List.forall_mem_map.mpr fun a _ => written_text a
  · exact List.forall_mem_singleton.mpr (written_text _)

theorem decode?_entries (lt : s.timeout < 0x8000000000000000) :
    decode? .toml (.table (s.entries.map fun e => ({ text := e.key }, e.value))) = some s := by
  obtain ⟨f, given, fields⟩ := exists_fields?_of_alike .toml (.refl _)
    (show List.Sublist ((s.entries.map fun e => ((⟨e.key, true⟩ : Key), e.value)).map (·.1.text))
        fieldNames by
      rw [List.map_map]
      exact keys_sublist s)
    (by decide)
  obtain ⟨classic, lowEnergy, timeout, adapter, logLevel⟩ := s
  have classic := fields.withDefault? "classic" true (by decide) rfl (readsBack_boolean classic)
  have lowEnergy := fields.withDefault? "low_energy" true (by decide) rfl
    (readsBack_boolean lowEnergy)
  have time := fields.withDefault? "le_timeout_ms" 40000 (by decide) rfl
    (readsBack_natural64 (Nat.lt_trans lt (by decide)))
  -- There is no null in TOML, so that the adapter is left out of the table if there is none.
  have name : f.withDefault? "adapter" none (optional? text?) = some adapter := by
    cases adapter with
    | none => exact fields.withDefault?_absent "adapter" none (by decide) rfl
    | some a =>
      exact fields.withDefault? "adapter" none (by decide) rfl ((readsBack_text a).some nofun)
  have level : ReadsBack logLevel.encode (LogLevel.decode? .toml) logLevel :=
    readsBack_named (by cases logLevel <;> rfl)
  have logLevel := fields.withDefault? "log_level" .info (by decide)
    (by cases adapter <;> rfl) level
  unfold decode?
  simp only [given, classic, lowEnergy, time, name, logLevel, Option.bind_eq_bind,
    Option.bind_some, Option.pure_def]

/-- The settings of a file are those that were written to it. -/
theorem read?_render? {text : String} (h : s.render? = some text) : read? text = some s := by
  rw [render?_eq] at h
  split at h
  next lt =>
    obtain rfl := Option.some.inj h
    have distinct : (s.entries.map Entry.key).Nodup :=
      List.Nodup.sublist (keys_sublist s) (by decide)
    unfold read?
    rw [read?_document (sound_of_mem_entries lt) distinct, Option.bind_some, decode?_entries lt]
  next => cases h

end Settings

/-! ### Saving and loading -/

namespace SettingsPlace

variable {p q : SettingsPlace} {s : Settings}

/-- Saving step by step, each step changing the place where it stands: the way to the place is made,
the text is made, and the file is written. -/
def saving (s : Settings) : ExceptT SettingsError (StateM SettingsPlace) Unit := do
  if (← get) = .outOfReach then throw .inaccessible
  match s.render? with
  | none => throw .unwritable
  | some text =>
    if (← get) = .directory then throw .inaccessible
    set (SettingsPlace.file text)

/-- What the steps leave at the place is what `save` gives, and a failure leaves the place alone. -/
theorem run_saving (s : Settings) (p : SettingsPlace) :
    (saving s).run.run p =
      match p.save s with
      | .ok q => (.ok (), q)
      | .error e => (.error e, p) := by
  unfold saving save
  cases s.render? <;> cases p <;> rfl

/-- Whether a file can be written at a place. -/
def IsWritable (p : SettingsPlace) : Prop := p ≠ .outOfReach ∧ p ≠ .directory

theorem save_of_isWritable (writable : p.IsWritable) (s : Settings) :
    p.save s = s.render?.elim (.error .unwritable) fun text => .ok (.file text) := by
  obtain ⟨reach, directory⟩ := writable
  unfold save
  cases s.render? <;> cases p <;> first | rfl | contradiction

/-- Settings can be saved at a writable place exactly if their time is one that TOML can write, and
then the same settings are loaded from it.  Otherwise saving fails since they have no written form,
and leaves what stood there. -/
theorem load_of_save (s : Settings) (writable : p.IsWritable) :
    ((∃ q, p.save s = .ok q) ↔ s.timeout ≤ 0x7FFFFFFFFFFFFFFF) ∧
      (∀ q, p.save s = .ok q → (saving s).run.run p = (.ok (), q) ∧ q.load = .ok s) ∧
      (¬ s.timeout ≤ 0x7FFFFFFFFFFFFFFF →
        p.save s = .error .unwritable ∧ (saving s).run.run p = (.error .unwritable, p)) := by
  have save := save_of_isWritable writable s
  -- All turns on whether the settings have a written form, which they have if the time fits.
  have written := Settings.render?_eq s
  refine ⟨⟨?_, fun le => ?_⟩, fun q saved => ⟨?_, ?_⟩, fun big => ?_⟩
  · rintro ⟨q, saved⟩
    by_contra big
    rw [if_neg (by omega)] at written
    rw [save, written] at saved
    cases saved
  · rw [if_pos (by omega)] at written
    rw [save, written]
    exact ⟨_, rfl⟩
  · rw [run_saving, saved]
  · -- What was saved is the rendered text, which is read back.
    cases rendered : s.render? with
    | none =>
      rw [save, rendered] at saved
      cases saved
    | some text =>
      rw [save, rendered] at saved
      obtain rfl := Except.ok.inj saved
      simp only [load, Settings.read?_render? rendered]
  · rw [if_neg (by omega)] at written
    rw [run_saving, save, written]
    exact ⟨rfl, rfl⟩

/-- A name with line breaks, quotes of both kinds and a control character is kept; a time of 2⁶³
milliseconds is refused, and the file that stood there stays. -/
theorem load_of_save_quotes :
    let s : Settings :=
      { lowEnergy := false
        timeout := 0
        adapter := some "\n\"\"\"\"\x27\x27\x27\\\r\n\x7f\""
        logLevel := .trace }
    let long : Settings := { timeout := 0x8000000000000000 }
    IsWritable (.file "classic = 1\n") ∧
      (∃ q, save (.file "classic = 1\n") s = .ok q ∧ q.load = .ok s) ∧
      (saving long).run.run (.file "classic = 1\n") =
        (.error .unwritable, .file "classic = 1\n") := by
  intro s long
  have writable : IsWritable (.file "classic = 1\n") := ⟨nofun, nofun⟩
  obtain ⟨q, saved⟩ := (load_of_save s writable).1.mpr (by decide)
  exact ⟨writable, ⟨q, saved, ((load_of_save s writable).2.1 q saved).2⟩,
    ((load_of_save long writable).2.2 (by decide)).2⟩

end SettingsPlace

end BluetoothDiscovery
