import BluetoothDiscovery.Proofs.Codec.Alike
import BluetoothDiscovery.Proofs.Collections
import Mathlib.Data.List.Perm.Basic

/-!
# Values that are read back

`ReadsBack v read? a` says that `v`, and each value like it but for the order of entries, is read as
`a`.  There is a lemma of it for each reader of the basic types, for lists, optional values and
maps, and for each of the ways in which a structure takes a field.
-/

namespace BluetoothDiscovery.Decode

open Value (Alike AlikeEntry)

variable {α β κ : Type} {a : α} {as : List α} {dialect : Dialect} {read? item? : Value → Option α}
  {v : Value} {es : List (Key × Value)} {name : String} {names : List String} {f : Fields}

/-- A value is read as `a`, in whatever order its entries are written. -/
def ReadsBack (v : Value) (read? : Value → Option α) (a : α) : Prop :=
  ∀ w, v.Alike w → read? w = some a

/-- What is made of a value that was read. -/
theorem ReadsBack.bind (h : ReadsBack v read? a) {make? : α → Option β} {b : β}
    (made : make? a = some b) : ReadsBack v (fun w => (read? w).bind make?) b := by
  intro w alike
  show (read? w).bind make? = some b
  rw [h w alike]
  exact made

theorem ReadsBack.map (h : ReadsBack v read? a) (make : α → β) :
    ReadsBack v (fun w => (read? w).map make) (make a) := by
  intro w alike
  show (read? w).map make = some (make a)
  rw [h w alike]
  rfl

/-! ### Basic types -/

theorem readsBack_boolean (b : Bool) : ReadsBack (.boolean b) boolean? b := by
  intro w alike
  rw [Value.alike_boolean_iff.mp alike]
  rfl

theorem readsBack_text (s : String) : ReadsBack (.text s) text? s := by
  intro w alike
  rw [Value.alike_text_iff.mp alike]
  rfl

theorem readsBack_integer {low high n : Int} (least : low ≤ n) (most : n ≤ high) :
    ReadsBack (.integer n) (integer? low high) n := by
  intro w alike
  rw [Value.alike_integer_iff.mp alike]
  exact if_pos ⟨least, most⟩

theorem readsBack_natural {bound n : Nat} (lt : n < bound) :
    ReadsBack (.integer n) (natural? bound) n := by
  have integer : ReadsBack (.integer n) (integer? 0 (bound - 1)) (n : Int) :=
    readsBack_integer (by omega) (by omega)
  exact integer.map Int.toNat

theorem readsBack_natural64 {n : Nat} (lt : n < 0x10000000000000000) :
    ReadsBack (.integer n) natural64? n :=
  readsBack_natural lt

theorem readsBack_octet (b : UInt8) : ReadsBack (.integer b.toNat) octet? b := by
  have octet := (readsBack_natural b.toNat_lt).map UInt8.ofNat
  rwa [UInt8.ofNat_toNat] at octet

theorem readsBack_signed16 (n : Int16) : ReadsBack (.integer n.toInt) signed16? n := by
  have signed := (readsBack_integer n.le_toInt n.toInt_le).map Int16.ofInt
  rwa [Int16.ofInt_toInt] at signed

theorem readsBack_unsigned32 (n : UInt32) :
    ReadsBack (.integer n.toNat) (fun v => (natural? 0x100000000 v).map UInt32.ofNat) n := by
  have unsigned := (readsBack_natural n.toNat_lt).map UInt32.ofNat
  rwa [UInt32.ofNat_toNat] at unsigned

/-- A name that stands for one of several values. -/
theorem readsBack_named {ofName? : String → Option α} (h : ofName? name = some a) :
    ReadsBack (.text name) (named? dialect ofName?) a := by
  intro w alike
  rw [Value.alike_text_iff.mp alike]
  exact h

/-! ### Optional values, lists and maps -/

theorem readsBack_none : ReadsBack .null (optional? read?) none := by
  intro w alike
  rw [Value.alike_null_iff.mp alike]
  rfl

theorem ReadsBack.some (h : ReadsBack v read? a) (ne_null : v ≠ .null) :
    ReadsBack v (optional? read?) (some a) := by
  intro w alike
  unfold optional?
  split
  · exact absurd rfl (alike.ne_null ne_null)
  · rw [h w alike]
    rfl

theorem readsBack_optional {encode : α → Value} (o : Option α)
    (h : ∀ a, ReadsBack (encode a) read? a) (ne_null : ∀ a, encode a ≠ .null) :
    ReadsBack (o.elim .null encode) (optional? read?) o := by
  cases o with
  | none => exact readsBack_none
  | some a => exact (h a).some (ne_null a)

theorem mapM_eq_some_iff {read? : β → Option α} {bs : List β} :
    bs.mapM read? = some as ↔ List.Forall₂ (fun b a => read? b = some a) bs as := by
  induction bs generalizing as with
  | nil => simp [eq_comm]
  | cons b bs ih =>
    simp only [List.mapM_cons, Option.bind_eq_bind, Option.bind_eq_some_iff, Option.pure_def,
      Option.some.injEq, List.forall₂_cons_left_iff, ih]
    constructor
    · rintro ⟨a, first, as, rest, rfl⟩
      exact ⟨a, as, first, rest, rfl⟩
    · rintro ⟨a, as, first, rest, rfl⟩
      exact ⟨a, first, as, rest, rfl⟩

theorem readsBack_list {encode : α → Value} (h : ∀ a ∈ as, ReadsBack (encode a) item? a) :
    ReadsBack (.list (as.map encode)) (list? item?) as := by
  intro w alike
  obtain ⟨ws, rfl, items⟩ := Value.alike_list_iff.mp alike
  rw [List.forall₂_map_left_iff] at items
  refine mapM_eq_some_iff.mpr (List.Forall₂.flip ?_)
  exact ((List.forall₂_and_left _ _).mpr ⟨h, items⟩).imp fun a w ⟨reads, alike⟩ => reads w alike

/-- A table with an entry for each entry of a map is read as the map. -/
theorem readsBack_keyedMap [Ranked κ] (m : KeyedMap κ α) (keyOf : κ → Key) {encode : α → Value}
    {key? : Key → Option κ} (key : ∀ k, key? (keyOf k) = .some k)
    (value : ∀ a, ReadsBack (encode a) item? a) :
    ReadsBack (.table (m.entries.map fun e => (keyOf e.1, encode e.2)))
      (fun v => (entries? key? item? v).map KeyedMap.ofList) m := by
  intro w alike
  obtain ⟨gs, fs, rfl, entries, perm⟩ := Value.alike_table_iff.mp alike
  rw [List.forall₂_map_left_iff] at entries
  let entry? : Key × Value → Option (κ × α) := fun e => do return (← key? e.1, ← item? e.2)
  have reads : List.Forall₂ (fun g e => entry? g = .some e) gs m.entries := by
    refine (entries.imp ?_).flip
    rintro ⟨k, a⟩ g ⟨_, alike⟩
    show (do return (← key? (keyOf k), ← item? _)) = .some (k, a)
    rw [key, value a _ alike]
    rfl
  -- The entries are read in the order of the table, which is another than the order of the map.
  obtain ⟨l, read, order⟩ :
      Relation.Comp (List.Forall₂ fun g e => entry? g = .some e) List.Perm fs m.entries := by
    rw [List.forall₂_comp_perm_eq_perm_comp_forall₂]
    exact ⟨gs, perm.symm, reads⟩
  show (fs.mapM entry?).map KeyedMap.ofList = .some m
  rw [mapM_eq_some_iff.mpr read, Option.map_some, KeyedMap.ofList_of_perm order]

/-! ### Fields -/

namespace Fields

theorem Of.exists_find? (h : f.Of names es) (mem : name ∈ names)
    (given : (Value.table es).get? name = .some v) : ∃ w, f.find? name = .some w ∧ v.Alike w := by
  have found := h.find? name mem
  rw [given] at found
  generalize f.find? name = o at found ⊢
  cases found with
  | some alike => exact ⟨_, rfl, alike⟩

theorem Of.required? (h : f.Of names es) (name : String) (mem : name ∈ names)
    (given : (Value.table es).get? name = .some v) (reads : ReadsBack v read? a) :
    f.required? name read? = .some a := by
  obtain ⟨w, found, alike⟩ := h.exists_find? mem given
  unfold Fields.required?
  rw [found]
  exact reads w alike

theorem Of.withDefault? (h : f.Of names es) (name : String) (default : α) (mem : name ∈ names)
    (given : (Value.table es).get? name = .some v) (reads : ReadsBack v read? a) :
    f.withDefault? name default read? = .some a := by
  obtain ⟨w, found, alike⟩ := h.exists_find? mem given
  unfold Fields.withDefault?
  rw [found]
  exact reads w alike

theorem Of.withDefault?_absent (h : f.Of names es) (name : String) (default : α)
    (mem : name ∈ names) (absent : (Value.table es).get? name = .none) :
    f.withDefault? name default read? = .some default := by
  have found := h.find? name mem
  rw [absent] at found
  unfold Fields.withDefault?
  generalize f.find? name = o at found ⊢
  cases found
  rfl

theorem Of.optional? (h : f.Of names es) (name : String) (mem : name ∈ names) {o : Option α}
    (given : (Value.table es).get? name = .some v)
    (reads : ReadsBack v (Decode.optional? read?) o) :
    f.optional? name read? = .some o := by
  obtain ⟨w, found, alike⟩ := h.exists_find? mem given
  unfold Fields.optional?
  rw [found]
  exact reads w alike

end Fields

end BluetoothDiscovery.Decode
