/-!
# Maps with ascending keys

A `KeyedMap` is a list of entries whose keys ascend strictly, so that there is one list for what a
map holds, however it came about. Keys are compared by the number that `Ranked` gives them.
-/

namespace BluetoothDiscovery

/-- Keys that are told apart and ordered by a number. -/
class Ranked (κ : Type) where
  rank : κ → Nat
  rank_injective : ∀ {a b : κ}, rank a = rank b → a = b

export Ranked (rank)

instance : Ranked UInt16 := ⟨UInt16.toNat, UInt16.toNat_inj.1⟩

/-- Entries with strictly ascending keys. -/
structure KeyedMap (κ α : Type) [Ranked κ] where
  entries : List (κ × α)
  ascending : entries.Pairwise fun a b => rank a.1 < rank b.1

namespace KeyedMap

variable {κ α : Type} [Ranked κ]

instance [DecidableEq κ] [DecidableEq α] : DecidableEq (KeyedMap κ α) := fun m n =>
  decidable_of_iff (m.entries = n.entries)
    ⟨fun h => by cases m; cases n; cases h; rfl, fun h => h ▸ rfl⟩

/-- The map without entries. -/
def empty : KeyedMap κ α := ⟨[], .nil⟩

instance : EmptyCollection (KeyedMap κ α) := ⟨empty⟩

instance : Inhabited (KeyedMap κ α) := ⟨∅⟩

/-- The value at a key. -/
def get? (m : KeyedMap κ α) (k : κ) : Option α :=
  (m.entries.find? fun e => rank e.1 == rank k).map (·.2)

/-- An ascending row of entries with one more, which takes the place of an entry with its key. -/
def insertInto (k : κ) (v : α) : List (κ × α) → List (κ × α)
  | [] => [(k, v)]
  | e :: es =>
    if rank k < rank e.1 then (k, v) :: e :: es
    else if rank k = rank e.1 then (k, v) :: es
    else e :: insertInto k v es

theorem mem_insertInto {k : κ} {v : α} {es : List (κ × α)} {e : κ × α}
    (h : e ∈ insertInto k v es) : e = (k, v) ∨ e ∈ es := by
  induction es with
  | nil => simp_all [insertInto]
  | cons f es ih =>
    rw [insertInto] at h
    split at h
    · simpa using h
    · split at h
      · rcases List.mem_cons.1 h with h | h
        · exact .inl h
        · exact .inr (List.mem_cons_of_mem _ h)
      · rcases List.mem_cons.1 h with h | h
        · exact .inr (h ▸ List.mem_cons_self)
        · exact (ih h).imp id (List.mem_cons_of_mem _)

theorem ascending_insertInto (k : κ) (v : α) {es : List (κ × α)}
    (h : es.Pairwise fun a b => rank a.1 < rank b.1) :
    (insertInto k v es).Pairwise fun a b => rank a.1 < rank b.1 := by
  induction es with
  | nil => simp [insertInto]
  | cons e es ih =>
    obtain ⟨he, hes⟩ := List.pairwise_cons.1 h
    rw [insertInto]
    split
    next hlt =>
      refine List.pairwise_cons.2 ⟨fun f hf => ?_, h⟩
      rcases List.mem_cons.1 hf with rfl | hf
      · exact hlt
      · exact Nat.lt_trans hlt (he f hf)
    next hlt =>
      split
      next heq => exact List.pairwise_cons.2 ⟨fun f hf => heq ▸ he f hf, hes⟩
      next hne =>
        refine List.pairwise_cons.2 ⟨fun f hf => ?_, ih hes⟩
        rcases mem_insertInto hf with rfl | hf
        · exact Nat.lt_of_le_of_ne (Nat.le_of_not_lt hlt) (Ne.symm hne)
        · exact he f hf

/-- The map with a value at a key, in the place of an earlier one. -/
def insert (m : KeyedMap κ α) (k : κ) (v : α) : KeyedMap κ α :=
  ⟨insertInto k v m.entries, ascending_insertInto k v m.ascending⟩

/-- The map of a list of entries; of two entries with one key the later counts. -/
def ofList (es : List (κ × α)) : KeyedMap κ α :=
  es.foldl (fun m e => m.insert e.1 e.2) ∅

/-- All entries of `n` over those of `m`. -/
def overlay (m n : KeyedMap κ α) : KeyedMap κ α :=
  n.entries.foldl (fun m e => m.insert e.1 e.2) m

end KeyedMap

end BluetoothDiscovery
