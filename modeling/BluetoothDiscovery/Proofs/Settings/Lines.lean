import BluetoothDiscovery.Proofs.Toml.Written
import BluetoothDiscovery.Settings

/-!
# Documents of one entry on each line

A text of lines with bare keys and values is read as the table of its entries, if no key comes twice
(`read?_document`).
-/

namespace BluetoothDiscovery

open Toml

namespace Settings

variable {chars : List Char} {fuel : Nat} {v : Value}

/-! ### Lines -/

/-- A key that is written without quotes. -/
structure BareKey (key : String) : Prop where
  ne_nil : key.toList ≠ []
  bare : ∀ c ∈ key.toList, isBare c = true

/-- A line with a bare key begins as no other line does. -/
theorem BareKey.exists_cons {key : String} (h : BareKey key) :
    ∃ c r, key.toList = c :: r ∧ (c == ' ' || c == '\t') = false ∧ c ≠ '"' ∧ c ≠ '\'' ∧ c ≠ '#' ∧
      c ≠ '\n' ∧ c ≠ '\r' ∧ c ≠ '[' ∧ c ≠ '\uFEFF' := by
  obtain ⟨c, r, split⟩ := List.exists_cons_of_ne_nil h.ne_nil
  have bare := h.bare c (split ▸ .head _)
  have other {d : Char} (no : isBare d = false) : c ≠ d := by
    rintro rfl
    rw [bare] at no
    cases no
  have visible : (c == ' ' || c == '\t') = false := by
    simp [other (d := ' ') (by decide), other (d := '\t') (by decide)]
  exact ⟨c, r, split, visible, other (by decide), other (by decide), other (by decide),
    other (by decide), other (by decide), other (by decide), other (by decide)⟩

theorem skipBlank_of_visible {c : Char} (h : (c == ' ' || c == '\t') = false) (r : List Char) :
    skipBlank (c :: r) = c :: r :=
  List.dropWhile_cons_of_neg (by simp [h])

/-- A bare key is read up to the equals sign. -/
theorem BareKey.readKeyOfEntry? {key : String} (h : BareKey key) (rest : List Char) :
    readKeyOfEntry? (key.toList ++ ' ' :: '=' :: rest) = some ([], key, rest) := by
  obtain ⟨c, r, split, visible, basic, literal, -⟩ := h.exists_cons
  have bare : (key.toList ++ ' ' :: '=' :: rest).takeWhile isBare = key.toList := by
    rw [List.takeWhile_append_of_pos h.bare, List.takeWhile_cons_of_neg (by decide),
      List.append_nil]
  have left : (key.toList ++ ' ' :: '=' :: rest).dropWhile isBare = ' ' :: '=' :: rest := by
    rw [List.dropWhile_append_of_pos h.bare, List.dropWhile_cons_of_neg (by decide)]
  have part : readKeyPart? (key.toList ++ ' ' :: '=' :: rest) = some (key, ' ' :: '=' :: rest) := by
    have some_bare : key.toList.isEmpty = false := by rw [split]; rfl
    unfold readKeyPart?
    split
    -- A bare key begins with neither kind of quote, and so it is none of the quoted forms.
    next here => exact absurd (List.cons.inj (split ▸ here)).1 basic
    next here => exact absurd (List.cons.inj (split ▸ here)).1 literal
    next here => exact absurd (List.cons.inj (split ▸ here)).1 basic
    next here => exact absurd (List.cons.inj (split ▸ here)).1 literal
    next => simp only [bare, left, some_bare, String.ofList_toList, Bool.false_eq_true, if_false]
  have starts :
      skipBlank (key.toList ++ ' ' :: '=' :: rest) = key.toList ++ ' ' :: '=' :: rest := by
    rw [split]
    exact skipBlank_of_visible visible _
  have read : readKey? nestingLimit (key.toList ++ ' ' :: '=' :: rest) =
      some ([], key, '=' :: rest) := by
    unfold nestingLimit
    rw [readKey?, starts, part]
    rfl
  unfold Toml.readKeyOfEntry?
  rw [read]
  rfl

/-- A line with a key and a value adds an entry. -/
theorem readLinesOf?_line {key : String} (bare : BareKey key) (written : Written chars v)
    (d : Draft) (rest : List Char) :
    readLinesOf? (fuel + 1) d (line key chars ++ rest) =
      (d.add [] key v).bind fun d => readLinesOf? fuel d rest := by
  obtain ⟨c, r, split, visible, -, -, comment, feed, back, bracket, -⟩ := bare.exists_cons
  have text : line key chars ++ rest =
      key.toList ++ ' ' :: '=' :: (' ' :: (chars ++ '\n' :: rest)) := by
    simp [line]
  have entry := bare.readKeyOfEntry? (' ' :: (chars ++ '\n' :: rest))
  have value : skipBlank (' ' :: (chars ++ '\n' :: rest)) = chars ++ '\n' :: rest := by
    show skipBlank (chars ++ '\n' :: rest) = _
    cases chars with
    | nil => rfl
    | cons c r => exact skipBlank_of_visible (written.visible c rfl) _
  have reads := written.reads
    (key.toList ++ ' ' :: '=' :: (' ' :: (chars ++ '\n' :: rest))).length nestingLimit rest
  rw [text]
  rw [split] at entry reads ⊢
  rw [readLinesOf?, List.cons_append, skipBlank_of_visible visible]
  split
  -- A bare key begins with none of the characters by which the other kinds of line are known.
  next here => cases here
  next here => exact absurd (List.cons.inj here).1 comment
  next here => exact absurd (List.cons.inj here).1 feed
  next here => exact absurd (List.cons.inj here).1 back
  next here => exact absurd (List.cons.inj here).1 bracket
  next =>
    rw [List.cons_append] at entry reads
    simp only [entry, value, reads, Option.bind_eq_bind, Option.bind_some]
    rfl

/-! ### Documents -/

theorem alterEntry_of_not_mem {key : String} {es : List (String × Tree)}
    (new : key ∉ es.map (·.1)) (f : Option Tree → Option Tree) :
    Tree.alterEntry key f es = (f none).map fun t => es ++ [(key, t)] := by
  induction es with
  | nil => rfl
  | cons e es ih =>
    obtain ⟨other, new⟩ := List.ne_and_not_mem_of_not_mem_cons new
    rw [Tree.alterEntry, if_neg (Ne.symm other), ih new, Option.map_map]
    rfl

theorem add_root {key : String} {es : List (String × Tree)} (new : key ∉ es.map (·.1)) (v : Value) :
    Draft.add ⟨(.header, es), []⟩ [] key v = some ⟨(.header, es ++ [(key, .leaf v)]), []⟩ := by
  unfold Draft.add
  rw [Tree.alterAt, Tree.addValue, Tree.alterAt]
  simp only [alterEntry_of_not_mem new]
  rfl

/-- A line of a document: its key, its value as it is written, and the value. -/
structure Entry where
  key : String
  chars : List Char
  value : Value

/-- A line that is read as it is meant. -/
structure Entry.Sound (e : Entry) : Prop where
  bare : BareKey e.key
  written : Written e.chars e.value

variable {ls : List Entry} {es : List (String × Tree)}

/-- Lines with new keys are added to the entries before them. -/
theorem readLinesOf?_lines (sound : ∀ e ∈ ls, e.Sound)
    (distinct : (es.map (·.1) ++ ls.map Entry.key).Nodup) (enough : ls.length < fuel) :
    readLinesOf? fuel ⟨(.header, es), []⟩ (ls.flatMap fun e => line e.key e.chars) =
      some ⟨(.header, es ++ ls.map fun e => (e.key, .leaf e.value)), []⟩ := by
  induction ls generalizing es fuel with
  | nil =>
    obtain ⟨fuel, rfl⟩ := Nat.exists_eq_succ_of_ne_zero (Nat.ne_of_gt enough)
    rw [List.map_nil, List.append_nil]
    rfl
  | cons e ls ih =>
    obtain ⟨fuel, rfl⟩ := Nat.exists_eq_succ_of_ne_zero (Nat.ne_zero_of_lt enough)
    obtain ⟨first, others⟩ := List.forall_mem_cons.mp sound
    have new : e.key ∉ es.map (·.1) := fun mem =>
      (List.nodup_append.mp distinct).2.2 e.key mem e.key (.head _) rfl
    have distinct' : ((es ++ [(e.key, Tree.leaf e.value)]).map (·.1) ++
        ls.map Entry.key).Nodup := by
      simpa using distinct
    rw [List.flatMap_cons, readLinesOf?_line first.bare first.written, add_root new,
      Option.bind_some, ih others distinct' (Nat.lt_of_succ_lt_succ enough), List.append_assoc]
    rfl

theorem entryValues_leaves (ls : List Entry) :
    Tree.entryValues (ls.map fun e => (e.key, .leaf e.value)) =
      ls.map fun e => ({ text := e.key }, e.value) := by
  induction ls with
  | nil => rfl
  | cons e ls ih =>
    rw [List.map_cons, Tree.entryValues, ih]
    rfl

theorem length_le_length_lines (ls : List Entry) :
    ls.length ≤ (ls.flatMap fun e => line e.key e.chars).length := by
  induction ls with
  | nil => exact Nat.le_refl 0
  | cons e ls ih =>
    rw [List.flatMap_cons, List.length_append, List.length_cons]
    have some_char : 0 < (line e.key e.chars).length := by simp [line]
    omega

/-- A document of lines with different keys is read as the table of its entries. -/
theorem read?_document (sound : ∀ e ∈ ls, e.Sound) (distinct : (ls.map Entry.key).Nodup) :
    Toml.read? (.ofList (ls.flatMap fun e => line e.key e.chars)) =
      some (.table (ls.map fun e => ({ text := e.key }, e.value))) := by
  have read : readLinesOf? _ ⟨(.header, []), []⟩ _ = _ :=
    readLinesOf?_lines sound distinct (Nat.lt_succ_of_le (length_le_length_lines ls))
  have unmarked (cs : List Char) : (ls.flatMap fun e => line e.key e.chars) ≠ '\uFEFF' :: cs := by
    cases ls with
    | nil => exact nofun
    | cons e ls =>
      obtain ⟨c, r, split, -, -, -, -, -, -, -, mark⟩ := (sound e (.head _)).bare.exists_cons
      rw [List.flatMap_cons, line, split]
      exact fun same => mark (List.cons.inj same).1
  unfold Toml.read?
  rw [String.toList_ofList]
  split
  next cs here => exact absurd here (unmarked cs)
  next =>
    simp only [read, Option.map_some, List.nil_append, entryValues_leaves]

end Settings

end BluetoothDiscovery
