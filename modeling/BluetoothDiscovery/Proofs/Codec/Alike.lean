import BluetoothDiscovery.Decode
import Mathlib.Data.List.Forall2
import Mathlib.Data.List.Nodup
import Mathlib.Tactic.Common

/-!
# Values but for the order of entries

The entries of a table are written in any order: a map has none, and a structure's fields are found
by their names.  `Value.Alike` relates two values that differ in nothing else, at whatever depth,
and `ReadsBack` says of a value that a reader takes it, and each value like it, for the same thing.
-/

namespace BluetoothDiscovery

open Decode

namespace Value

mutual

/-- The same value, but for the order of the entries of tables in it. -/
inductive Alike : Value → Value → Prop where
  | refl (v : Value) : Alike v v
  | list {vs ws : List Value} : List.Forall₂ Alike vs ws → Alike (.list vs) (.list ws)
  | table {es fs gs : List (Key × Value)} :
    List.Forall₂ AlikeEntry es gs → gs.Perm fs → Alike (.table es) (.table fs)

/-- Entries of one key with alike values. -/
inductive AlikeEntry : Key × Value → Key × Value → Prop where
  | mk (k : Key) {v w : Value} : Alike v w → AlikeEntry (k, v) (k, w)

end

variable {v w : Value} {es fs gs : List (Key × Value)} {e f : Key × Value} {key : String}

@[simp]
theorem alike_null_iff : Alike .null w ↔ w = .null :=
  ⟨fun h => by cases h; rfl, fun h => h ▸ .refl _⟩

@[simp]
theorem alike_boolean_iff {b : Bool} : Alike (.boolean b) w ↔ w = .boolean b :=
  ⟨fun h => by cases h; rfl, fun h => h ▸ .refl _⟩

@[simp]
theorem alike_integer_iff {n : Int} : Alike (.integer n) w ↔ w = .integer n :=
  ⟨fun h => by cases h; rfl, fun h => h ▸ .refl _⟩

@[simp]
theorem alike_text_iff {s : String} : Alike (.text s) w ↔ w = .text s :=
  ⟨fun h => by cases h; rfl, fun h => h ▸ .refl _⟩

theorem alike_list_iff {vs : List Value} :
    Alike (.list vs) w ↔ ∃ ws, w = .list ws ∧ List.Forall₂ Alike vs ws := by
  constructor
  · rintro (_ | items)
    · exact ⟨vs, rfl, List.forall₂_same.mpr fun v _ => .refl v⟩
    · exact ⟨_, rfl, items⟩
  · rintro ⟨ws, rfl, items⟩
    exact .list items

theorem alike_table_iff :
    Alike (.table es) w ↔ ∃ gs fs, w = .table fs ∧ List.Forall₂ AlikeEntry es gs ∧ gs.Perm fs := by
  constructor
  · rintro (_ | _ | ⟨entries, perm⟩)
    · exact ⟨es, es, rfl, List.forall₂_same.mpr fun e _ => .mk e.1 (.refl e.2), .refl es⟩
    · exact ⟨_, _, rfl, entries, perm⟩
  · rintro ⟨gs, fs, rfl, entries, perm⟩
    exact .table entries perm

theorem exists_of_alike_singleton {k : Key} (h : Alike (.table [(k, v)]) w) :
    ∃ v', w = .table [(k, v')] ∧ Alike v v' := by
  obtain ⟨gs, fs, rfl, entries, perm⟩ := alike_table_iff.mp h
  rcases entries with _ | ⟨⟨k, alike⟩, _ | _⟩
  obtain rfl := List.singleton_perm.mp perm
  exact ⟨_, rfl, alike⟩

theorem Alike.ne_null (h : Alike v w) (some : v ≠ .null) : w ≠ .null := by
  cases h with
  | refl => exact some
  | list => exact nofun
  | table => exact nofun

/-! ### Looking up entries -/

theorem get?_table : get? key (.table es) = (es.find? (·.1.text == key)).map (·.2) := rfl

theorem map_text_of_forall₂ (h : List.Forall₂ AlikeEntry es gs) :
    es.map (·.1.text) = gs.map (·.1.text) := by
  induction h with
  | nil => rfl
  | cons first _ ih =>
    obtain ⟨k, -⟩ := first
    exact congrArg (k.text :: ·) ih

/-- Where no key comes twice, the entry of a key is found wherever it stands. -/
theorem find?_key_iff (nodup : (es.map (·.1.text)).Nodup) :
    es.find? (·.1.text == key) = some e ↔ e ∈ es ∧ e.1.text = key := by
  constructor
  · intro h
    exact ⟨List.mem_of_find?_eq_some h, by simpa using List.find?_some h⟩
  · rintro ⟨mem, rfl⟩
    obtain ⟨f, found⟩ : ∃ f, es.find? (·.1.text == e.1.text) = some f :=
      Option.isSome_iff_exists.mp (List.find?_isSome.mpr ⟨e, mem, beq_self_eq_true _⟩)
    have same : f.1.text = e.1.text := by simpa using List.find?_some found
    rw [found, List.inj_on_of_nodup_map nodup (List.mem_of_find?_eq_some found) mem same]

theorem get?_perm (nodup : (gs.map (·.1.text)).Nodup) (perm : gs.Perm fs) :
    get? key (.table gs) = get? key (.table fs) := by
  have nodup' : (fs.map (·.1.text)).Nodup := (perm.map _).nodup_iff.mp nodup
  have found : gs.find? (·.1.text == key) = fs.find? (·.1.text == key) := by
    ext e
    rw [find?_key_iff nodup, find?_key_iff nodup', perm.mem_iff]
  exact congrArg (Option.map (·.2)) found

theorem get?_of_forall₂ (h : List.Forall₂ AlikeEntry es gs) :
    Option.Rel Alike (get? key (.table es)) (get? key (.table gs)) := by
  rw [get?_table, get?_table]
  induction h with
  | nil => exact .none
  | cons first _ ih =>
    obtain ⟨k, alike⟩ := first
    by_cases here : k.text = key
    · rw [List.find?_cons_of_pos (by simpa using here),
        List.find?_cons_of_pos (by simpa using here)]
      exact .some alike
    · rw [List.find?_cons_of_neg (by simpa using here),
        List.find?_cons_of_neg (by simpa using here)]
      exact ih

/-- Of a table with different keys, the value of each key is what counts. -/
theorem Alike.get? (h : Alike (.table es) w) (nodup : (es.map (·.1.text)).Nodup) (key : String) :
    Option.Rel Alike ((Value.table es).get? key) (w.get? key) := by
  obtain ⟨gs, fs, rfl, entries, perm⟩ := alike_table_iff.mp h
  rw [map_text_of_forall₂ entries] at nodup
  rw [← get?_perm nodup perm]
  exact get?_of_forall₂ entries

end Value

/-! ### Fields -/

namespace Decode

variable {w : Value} {es : List (Key × Value)} {names : List String} {name : String}

/-- Fields that are given by name, each as the entry of its name in a table. -/
structure Fields.Of (f : Fields) (names : List String) (es : List (Key × Value)) : Prop where
  byName : f.byName = true
  find? : ∀ name ∈ names, Option.Rel Value.Alike ((Value.table es).get? name) (f.find? name)

theorem Fields.find?_map (byName : Bool) (get? : String → Option Value) (mem : name ∈ names) :
    Fields.find? ⟨byName, names.map fun n => (n, get? n)⟩ name = get? name := by
  unfold Fields.find?
  rw [List.find?_map]
  cases found : names.find? ((·.1 == name) ∘ fun n => (n, get? n)) with
  | none => simpa using List.find?_eq_none.mp found name mem
  | some n =>
    obtain rfl : n = name := by simpa using List.find?_some found
    rfl

/-- A table whose keys are names of fields, each once at most, gives a structure its fields. -/
theorem exists_fields?_of_alike (dialect : Dialect) (h : (Value.table es).Alike w)
    (keys : (es.map (·.1.text)).Sublist names) (distinct : names.Nodup) :
    ∃ f, fields? dialect names w = some f ∧ f.Of names es := by
  have nodup := distinct.sublist keys
  have alike := h.get? nodup
  obtain ⟨gs, fs, rfl, entries, perm⟩ := Value.alike_table_iff.mp h
  rw [Value.map_text_of_forall₂ entries, (perm.map _).nodup_iff] at nodup
  have once : names.all fun n => fs.countP (·.1.text == n) ≤ 1 := by
    refine List.all_eq_true.mpr fun n _ => decide_eq_true ?_
    have count := List.nodup_iff_count_le_one.mp nodup n
    rwa [List.count, List.countP_map] at count
  refine ⟨_, if_pos once, rfl, fun name mem => ?_⟩
  have given := Fields.find?_map true (fun n => (Value.table fs).get? n) mem
  exact given ▸ alike name

end Decode

end BluetoothDiscovery
