import BluetoothDiscovery.Device
import Mathlib.Tactic.Common

/-!
# Maps and lists of distinct items

What a `KeyedMap` holds at a key after an insertion or an overlay, and that a map is settled by what
it holds; what a `DistinctList` holds after insertions, and when they add nothing; how the order of
first appearances goes on.  Overlays and insertions can be grouped as one likes (`overlay_assoc`,
`insertAll_insertAll`).
-/

namespace BluetoothDiscovery

/-! ### First appearances -/

section eraseDups

variable {α : Type} [BEq α] [LawfulBEq α] {as : List α} {a : α}

theorem eraseDups_concat_of_mem (h : a ∈ as) : (as ++ [a]).eraseDups = as.eraseDups := by
  rw [List.eraseDups_append]
  simp [List.removeAll, h]

theorem eraseDups_concat_of_not_mem (h : a ∉ as) :
    (as ++ [a]).eraseDups = as.eraseDups ++ [a] := by
  rw [List.eraseDups_append]
  simp [List.removeAll, h, List.eraseDups_cons]

end eraseDups

/-! ### Maps -/

namespace KeyedMap

variable {κ α : Type} [Ranked κ] {m n : KeyedMap κ α} {k j : κ} {v : α}

theorem rank_inj {a b : κ} : rank a = rank b ↔ a = b :=
  ⟨Ranked.rank_injective, congrArg rank⟩

/-- What a row of entries holds at a key. -/
def lookup (es : List (κ × α)) (k : κ) : Option α :=
  (es.find? fun e => rank e.1 == rank k).map (·.2)

@[simp]
theorem lookup_nil : lookup ([] : List (κ × α)) k = none := rfl

theorem lookup_cons_self (v : α) (es : List (κ × α)) : lookup ((k, v) :: es) k = some v := by
  simp [lookup]

theorem lookup_cons_of_ne {e : κ × α} (h : e.1 ≠ k) (es : List (κ × α)) :
    lookup (e :: es) k = lookup es k := by
  simp [lookup, rank_inj, h]

/-- No entry has a key below the first. -/
theorem lookup_eq_none_of_lt {es : List (κ × α)} (h : ∀ e ∈ es, rank k < rank e.1) :
    lookup es k = none := by
  simp only [lookup, Option.map_eq_none_iff, List.find?_eq_none, beq_iff_eq]
  intro e he heq
  have := h e he
  omega

theorem lookup_insertInto_self (k : κ) (v : α) (es : List (κ × α)) :
    lookup (insertInto k v es) k = some v := by
  induction es with
  | nil => exact lookup_cons_self v []
  | cons e es ih =>
    rw [insertInto]
    split
    · exact lookup_cons_self v _
    · split
      · exact lookup_cons_self v _
      next hne =>
        rw [lookup_cons_of_ne (fun h => hne (congrArg rank h.symm)), ih]

theorem lookup_insertInto_of_ne (hne : j ≠ k) (v : α) (es : List (κ × α)) :
    lookup (insertInto k v es) j = lookup es j := by
  induction es with
  | nil => exact lookup_cons_of_ne hne.symm []
  | cons e es ih =>
    rw [insertInto]
    split
    · exact lookup_cons_of_ne hne.symm _
    · split
      next heq =>
        have hke : k = e.1 := Ranked.rank_injective heq
        rw [lookup_cons_of_ne hne.symm, lookup_cons_of_ne (hke ▸ hne.symm)]
      · by_cases he : e.1 = j
        · obtain ⟨i, w⟩ := e
          obtain rfl : i = j := he
          rw [lookup_cons_self, lookup_cons_self]
        · rw [lookup_cons_of_ne he, lookup_cons_of_ne he, ih]

theorem get?_insert_self (m : KeyedMap κ α) (k : κ) (v : α) : (m.insert k v).get? k = some v :=
  lookup_insertInto_self k v m.entries

theorem get?_insert_of_ne (m : KeyedMap κ α) (hne : j ≠ k) (v : α) :
    (m.insert k v).get? j = m.get? j :=
  lookup_insertInto_of_ne hne v m.entries

@[simp]
theorem get?_empty (k : κ) : (∅ : KeyedMap κ α).get? k = none := rfl

/-- Of a row of entries with ascending keys that are inserted, each counts. -/
theorem get?_foldl_insert (es : List (κ × α)) (m : KeyedMap κ α)
    (ascending : es.Pairwise fun a b => rank a.1 < rank b.1) (k : κ) :
    (es.foldl (fun m e => m.insert e.1 e.2) m).get? k = (lookup es k).or (m.get? k) := by
  induction es generalizing m with
  | nil => rfl
  | cons e es ih =>
    obtain ⟨first, rest⟩ := List.pairwise_cons.mp ascending
    rw [List.foldl_cons, ih _ rest]
    by_cases he : e.1 = k
    · obtain ⟨i, w⟩ := e
      obtain rfl : i = k := he
      rw [lookup_eq_none_of_lt first, lookup_cons_self, get?_insert_self]
      rfl
    · rw [lookup_cons_of_ne he, get?_insert_of_ne m (fun h => he h.symm)]

theorem get?_overlay (m n : KeyedMap κ α) (k : κ) :
    (m.overlay n).get? k = (n.get? k).or (m.get? k) :=
  get?_foldl_insert n.entries m n.ascending k

theorem mem_of_lookup {es : List (κ × α)} (h : lookup es k = some v) : (k, v) ∈ es := by
  obtain ⟨e, he, hv⟩ := Option.map_eq_some_iff.mp h
  have hk : e.1 = k := rank_inj.mp (by simpa using List.find?_some he)
  rw [← hk, ← hv]
  exact List.mem_of_find?_eq_some he

theorem lookup_of_mem {es : List (κ × α)} (ascending : es.Pairwise fun a b => rank a.1 < rank b.1)
    (h : (k, v) ∈ es) : lookup es k = some v := by
  induction es with
  | nil => exact absurd h List.not_mem_nil
  | cons e es ih =>
    obtain ⟨first, rest⟩ := List.pairwise_cons.mp ascending
    rcases List.mem_cons.mp h with rfl | h
    · exact lookup_cons_self v es
    · have hlt : rank e.1 < rank k := first _ h
      rw [lookup_cons_of_ne (fun he => by rw [he] at hlt; omega), ih rest h]

theorem mem_entries_iff : (k, v) ∈ m.entries ↔ m.get? k = some v :=
  ⟨lookup_of_mem m.ascending, mem_of_lookup⟩

/-- A map is settled by what it holds at each key. -/
theorem ext_get? (h : ∀ k, m.get? k = n.get? k) : m = n := by
  have nodup : ∀ l : KeyedMap κ α, l.entries.Nodup := fun l =>
    l.ascending.imp fun hlt he => by rw [he] at hlt; omega
  have perm : m.entries.Perm n.entries := by
    rw [List.perm_ext_iff_of_nodup (nodup m) (nodup n)]
    rintro ⟨k, v⟩
    rw [mem_entries_iff, mem_entries_iff, h]
  have entries : m.entries = n.entries := by
    refine List.Perm.eq_of_pairwise (fun a b _ _ hab hba => ?_) m.ascending n.ascending perm
    omega
  cases m
  cases n
  cases entries
  rfl

theorem overlay_assoc (m n o : KeyedMap κ α) :
    (m.overlay n).overlay o = m.overlay (n.overlay o) := by
  refine ext_get? fun k => ?_
  simp only [get?_overlay, Option.or_assoc]

theorem overlay_empty (m : KeyedMap κ α) : m.overlay ∅ = m := rfl

theorem empty_overlay (m : KeyedMap κ α) : (∅ : KeyedMap κ α).overlay m = m := by
  refine ext_get? fun k => ?_
  rw [get?_overlay, get?_empty, Option.or_none]

/-- Values at different keys may be inserted in either order. -/
theorem insert_comm (m : KeyedMap κ α) (hne : j ≠ k) (v w : α) :
    (m.insert j v).insert k w = (m.insert k w).insert j v := by
  refine ext_get? fun i => ?_
  by_cases hj : i = j
  · subst hj
    rw [get?_insert_self, get?_insert_of_ne _ hne, get?_insert_self]
  · by_cases hk : i = k
    · subst hk
      rw [get?_insert_self, get?_insert_of_ne _ hj, get?_insert_self]
    · rw [get?_insert_of_ne _ hk, get?_insert_of_ne _ hj, get?_insert_of_ne _ hj,
        get?_insert_of_ne _ hk]

/-- The entries of a map make the map again, in whatever order they come. -/
theorem ofList_of_perm {es : List (κ × α)} (perm : es.Perm m.entries) : ofList es = m := by
  have order : ofList m.entries = ofList es := by
    refine perm.symm.foldl_eq' (fun e he f hf n => ?_) ∅
    by_cases same : e.1 = f.1
    · have values : some e.2 = some f.2 := by
        rw [← mem_entries_iff.mp he, ← mem_entries_iff.mp hf, same]
      rw [Prod.ext same (Option.some.inj values)]
    · exact n.insert_comm same e.2 f.2
  rw [← order]
  exact empty_overlay m

end KeyedMap

/-! ### Distinct items -/

namespace DistinctList

variable {α : Type} [DecidableEq α] {l m : DistinctList α} {a b : α} {items : List α}

omit [DecidableEq α] in
/-- A list is settled by its items in their order. -/
theorem ext_toList (h : l.toList = m.toList) : l = m := by
  cases l
  cases m
  cases h
  rfl

theorem mem_insert : b ∈ (l.insert a).toList ↔ b ∈ l.toList ∨ b = a := by
  unfold insert
  split
  next h =>
    constructor
    · exact .inl
    · rintro (hb | rfl)
      · exact hb
      · exact h
  next => rw [List.mem_append, List.mem_singleton]

theorem mem_insertAll : b ∈ (l.insertAll items).toList ↔ b ∈ l.toList ∨ b ∈ items := by
  unfold insertAll
  induction items generalizing l with
  | nil => simp
  | cons a items ih => rw [List.foldl_cons, ih, mem_insert, List.mem_cons, or_assoc]

theorem mem_ofList : b ∈ (ofList items).toList ↔ b ∈ items := by
  have none : b ∉ (∅ : DistinctList α).toList := List.not_mem_nil
  unfold ofList
  rw [mem_insertAll, or_iff_right none]

/-- Insertions leave what is there at the front. -/
theorem prefix_insert (l : DistinctList α) (a : α) : l.toList <+: (l.insert a).toList := by
  unfold insert
  split
  · exact List.prefix_rfl
  · exact List.prefix_append _ _

theorem prefix_insertAll (l : DistinctList α) (items : List α) :
    l.toList <+: (l.insertAll items).toList := by
  unfold insertAll
  induction items generalizing l with
  | nil => exact List.prefix_rfl
  | cons a items ih => exact (prefix_insert l a).trans (ih (l.insert a))

/-- A list grows exactly if one of the items is new. -/
theorem size_insertAll_eq_iff : (l.insertAll items).size = l.size ↔ ∀ a ∈ items, a ∈ l.toList := by
  constructor
  · intro same a ha
    rw [(prefix_insertAll l items).eq_of_length same.symm]
    exact mem_insertAll.mpr (.inr ha)
  · intro known
    have hsub : (l.insertAll items).toList ⊆ l.toList := fun b hb =>
      (mem_insertAll.mp hb).elim id (known b)
    have hle := (l.insertAll items).nodup.length_le_of_subset hsub
    exact Nat.le_antisymm hle (prefix_insertAll l items).length_le

theorem insert_of_mem (h : a ∈ l.toList) : l.insert a = l := dif_pos h

theorem toList_insert_of_not_mem (h : a ∉ l.toList) : (l.insert a).toList = l.toList ++ [a] := by
  unfold insert
  rw [dif_neg h]

theorem insertAll_concat (l : DistinctList α) (items : List α) (a : α) :
    l.insertAll (items ++ [a]) = (l.insertAll items).insert a := by
  unfold insertAll
  rw [List.foldl_append]
  rfl

/-- An item that is inserted into a list of new items comes after them. -/
theorem insertAll_insert (l m : DistinctList α) (a : α) :
    l.insertAll (m.insert a).toList = (l.insertAll m.toList).insert a := by
  by_cases known : a ∈ m.toList
  · have here : a ∈ (l.insertAll m.toList).toList := mem_insertAll.mpr (.inr known)
    rw [insert_of_mem known, insert_of_mem here]
  · rw [toList_insert_of_not_mem known, insertAll_concat]

theorem insertAll_insertAll (l m : DistinctList α) (items : List α) :
    l.insertAll (m.insertAll items).toList = (l.insertAll m.toList).insertAll items := by
  induction items generalizing m with
  | nil => rfl
  | cons a items ih =>
    show l.insertAll ((m.insert a).insertAll items).toList = _
    rw [ih, insertAll_insert]
    rfl

/-- Items that are listed more than once are inserted once. -/
theorem insertAll_ofList (l : DistinctList α) (items : List α) :
    l.insertAll (ofList items).toList = l.insertAll items :=
  insertAll_insertAll l ∅ items

/-- New items without repetition are put at the end as they are. -/
theorem toList_insertAll_of_nodup (h : (l.toList ++ items).Nodup) :
    (l.insertAll items).toList = l.toList ++ items := by
  induction items generalizing l with
  | nil =>
    rw [List.append_nil]
    rfl
  | cons a items ih =>
    have new : a ∉ l.toList := fun here => (List.nodup_append.mp h).2.2 a here a (.head _) rfl
    have step : (l.insert a).toList = l.toList ++ [a] := toList_insert_of_not_mem new
    have rest : ((l.insert a).toList ++ items).Nodup := by rwa [step, List.append_assoc]
    show ((l.insert a).insertAll items).toList = _
    rw [ih rest, step, List.append_assoc]
    rfl

theorem ofList_toList (l : DistinctList α) : ofList l.toList = l :=
  ext_toList (toList_insertAll_of_nodup (l := ∅) l.nodup)

end DistinctList

namespace Device

theorem overlayChanges_eq_false_iff {κ : Type} [Ranked κ]
    {target incoming : KeyedMap κ (List UInt8)} :
    overlayChanges target incoming = false ↔
      ∀ k v, incoming.get? k = some v → target.get? k = some v := by
  simp only [overlayChanges, List.any_eq_false, bne_iff_ne, ne_eq, not_not]
  constructor
  · intro h k v hv
    exact h (k, v) (KeyedMap.mem_entries_iff.mpr hv)
  · rintro h ⟨k, v⟩ he
    exact h k v (KeyedMap.mem_entries_iff.mp he)

theorem servicesGrow_eq_false_iff {services : DistinctList Uuid} {incoming : List Uuid} :
    servicesGrow services incoming = false ↔ ∀ u ∈ incoming, u ∈ services.toList := by
  rw [← DistinctList.size_insertAll_eq_iff]
  simp [servicesGrow]

end Device

end BluetoothDiscovery
