import BluetoothDiscovery.Codec.Basic
import BluetoothDiscovery.Proofs.Text.Digits
import BluetoothDiscovery.Proofs.Text.Pieces
import Mathlib.Data.List.Nodup

/-!
# Text forms are read back

Service identifiers, sets of flags and company identifiers are read back from their texts
(`Uuid.parse?_render`, `Flags.parse?_render`, `decodeCompany?_encodeCompany`).  A set of flags is,
for this, the names of some bits and the number of all others; so each entry of its table has to
name a single bit (`FlagTable.Plain`), or a bit of the set might be lost between the names and the
number.
-/

namespace BluetoothDiscovery

open Text

/-! ### Service identifiers -/

namespace Uuid

theorem hyphenated_eq (digits : List Char) :
    hyphenated digits = digits.take 8 ++ '-' :: ((digits.drop 8).take 4 ++ '-' ::
      ((digits.drop 12).take 4 ++ '-' :: ((digits.drop 16).take 4 ++ '-' :: digits.drop 20))) := by
  simp [hyphenated, List.intercalate_cons_cons]

/-- The digits are what is left without the hyphens. -/
theorem filter_hyphenated {digits : List Char} (free : '-' ∉ digits) :
    (hyphenated digits).filter (· != '-') = digits := by
  have keeps {part : List Char} (sub : part ⊆ digits) : part.filter (· != '-') = part :=
    List.filter_eq_self.mpr fun c mem => bne_iff_ne.mpr fun hyphen => free (hyphen ▸ sub mem)
  have parts (l : List Char) : l.take 4 ++ l.drop 4 = l := List.take_append_drop 4 l
  have inner (n : Nat) : (digits.drop n).take 4 ⊆ digits := fun _ mem =>
    List.mem_of_mem_drop (List.mem_of_mem_take mem)
  have hyphen (l : List Char) : ('-' :: l).filter (· != '-') = l.filter (· != '-') := rfl
  simp only [hyphenated_eq, List.filter_append, hyphen, keeps (inner _),
    keeps (List.take_subset 8 digits), keeps (List.drop_subset 20 digits)]
  rw [← List.drop_drop (i := 4) (j := 16), parts, ← List.drop_drop (i := 4) (j := 12), parts,
    ← List.drop_drop (i := 4) (j := 8), parts, List.take_append_drop]

theorem head?_hyphenated {digits : List Char} (ne_nil : digits ≠ []) :
    (hyphenated digits).head? = digits.head? := by
  cases digits with
  | nil => exact absurd rfl ne_nil
  | cons c r => simp [hyphenated_eq]

theorem length_hyphenated {digits : List Char} (length : digits.length = 32) :
    (hyphenated digits).length = 36 := by
  simp [hyphenated_eq, length]

/-- A text of digits with hyphens is read as such: its length is not that of bare digits, and
neither a brace nor the scheme begins with a digit. -/
theorem parse?_hyphenated {digits : List Char} (length : digits.length = 32)
    (hex : ∀ c ∈ digits, ∃ d < 16, c = lowerDigit d) :
    parse? (String.ofList (hyphenated digits)) = ofDigits? digits := by
  have first : ∀ d < 16, lowerDigit d ≠ '\x7b' ∧ (lowerDigit d).toLower ≠ 'u' ∧
      lowerDigit d ≠ '-' := by decide
  have free : '-' ∉ digits := by
    intro mem
    obtain ⟨d, lt, same⟩ := hex _ mem
    exact (first d lt).2.2 same.symm
  -- The text begins with the first of its digits, which is where the reader looks for other forms.
  obtain ⟨c, r, split⟩ : ∃ c r, hyphenated digits = c :: r :=
    List.exists_cons_of_length_pos (by rw [length_hyphenated length]; decide)
  have head : c ∈ digits := by
    have ne_nil : digits ≠ [] := List.ne_nil_of_length_pos (by omega)
    have here := head?_hyphenated ne_nil
    rw [split] at here
    exact List.mem_of_mem_head? here.symm
  obtain ⟨d, lt, rfl⟩ := hex c head
  -- With the four hyphens the text is too long for bare digits.
  have long : (lowerDigit d :: r).length ≠ 32 := by
    rw [← split, length_hyphenated length]
    decide
  have plain : ((lowerDigit d :: r).take scheme.length).map Char.toLower ≠ scheme := by
    intro same
    exact (first d lt).2.1 (List.cons.inj same).1
  unfold parse?
  rw [String.toList_ofList, split, if_neg long]
  split
  next rest brace => exact absurd (List.cons.inj brace).1 (first d lt).1
  next =>
    rw [if_neg plain]
    unfold ofHyphenated?
    rw [← split, filter_hyphenated free]
    exact if_pos rfl

/-- A service identifier is read back from its text. -/
theorem parse?_render (u : Uuid) : parse? u.render = some u := by
  have length := length_hexDigits lowerDigit 32 u.toNat
  have same : ofNat u.toNat = u := by
    have value : (ofNat u.toNat).toNat = u.toNat := Nat.mod_eq_of_lt u.lt
    exact Ranked.rank_injective value
  unfold render
  rw [parse?_hyphenated length fun c mem => exists_of_mem_hexDigits mem]
  unfold ofDigits?
  rw [if_pos length, readHex?_hexDigits (fun _ => hexValue?_lowerDigit) (by decide) u.lt,
    Option.map_some, same]

end Uuid

/-! ### Sets of flags -/

/-- A table of flags that are told apart in a text: each entry names a single bit, and names are
different, without blanks or bars, and not taken for numbers. -/
structure FlagTable.Plain (table : FlagTable) : Prop where
  bit : ∀ e ∈ table, ∃ i < 8, e.2 = 1 <<< UInt8.ofNat i
  nodup : (table.map (·.1)).Nodup
  visible : ∀ e ∈ table, ∀ c ∈ e.1.toList, isBlank c = false ∧ c ≠ '|'
  ne_nil : ∀ e ∈ table, e.1.toList ≠ []
  name : ∀ e ∈ table, e.1.toList.head? ≠ some '0'

namespace Flags

variable {table : FlagTable} {acc b c e : UInt8}

/-- A single bit is in a set or apart from it. -/
theorem and_eq_or_of_bit (bit : ∃ i < 8, e = 1 <<< UInt8.ofNat i) (b : UInt8) :
    b &&& e = e ∨ b &&& e = 0 := by
  have bits : ∀ i < 8, ∀ b : BitVec 8, b &&& (1 <<< UInt8.ofNat i : UInt8).toBitVec =
      (1 <<< UInt8.ofNat i : UInt8).toBitVec ∨
        b &&& (1 <<< UInt8.ofNat i : UInt8).toBitVec = 0 := by
    decide +kernel
  obtain ⟨i, lt, rfl⟩ := bit
  exact (bits i lt b.toBitVec).imp UInt8.toBitVec_inj.mp UInt8.toBitVec_inj.mp

/-- A flag that is joined and taken away is joined. -/
theorem or_or_and_not (acc c e : UInt8) : acc ||| e ||| (c &&& ~~~ e) = acc ||| c ||| e := by
  apply UInt8.toBitVec_inj.mp
  ext i
  simp only [UInt8.toBitVec_or, UInt8.toBitVec_and, UInt8.toBitVec_not, BitVec.getElem_or,
    BitVec.getElem_and, BitVec.getElem_not]
  grind

theorem or_eq_of_and_eq (h : b &&& e = e) : b ||| e = b := by
  rw [← h]
  apply UInt8.toBitVec_inj.mp
  ext i
  simp only [UInt8.toBitVec_or, UInt8.toBitVec_and, BitVec.getElem_or, BitVec.getElem_and]
  grind

/-- Nothing is taken away from a part of a set without the flag. -/
theorem and_not_eq_of_and_eq_zero (part : acc ||| c = b) (h : b &&& e = 0) : c &&& ~~~ e = c := by
  subst part
  apply UInt8.toBitVec_inj.mp
  ext i
  have apart := congrArg (·.toBitVec.getLsbD i) h
  simp only [UInt8.toBitVec_or, UInt8.toBitVec_and, UInt8.toBitVec_not, UInt8.toBitVec_zero,
    BitVec.getLsbD_or, BitVec.getLsbD_and, BitVec.getLsbD_zero, BitVec.getElem_and,
    BitVec.getElem_not] at apart ⊢
  grind

/-- The flags with names and the bits without one are the set.  `acc` are the flags that have been
named, and `c` is what is left. -/
theorem foldl_or_foldl_and_not
    (bit : ∀ e ∈ table, ∃ i < 8, e.2 = 1 <<< UInt8.ofNat i) (part : acc ||| c = b) :
    (table.filter fun e => b &&& e.2 == e.2).foldl (fun f e => f ||| e.2) acc |||
      table.foldl (fun bits e => bits &&& ~~~ e.2) c = b := by
  induction table generalizing acc c with
  | nil => exact part
  | cons e table ih =>
    obtain ⟨single, others⟩ := List.forall_mem_cons.mp bit
    rw [List.foldl_cons]
    by_cases inside : b &&& e.2 = e.2
    · rw [List.filter_cons_of_pos (by simpa using inside), List.foldl_cons]
      refine ih others ?_
      rw [or_or_and_not, part, or_eq_of_and_eq inside]
    · have outside : b &&& e.2 = 0 := (and_eq_or_of_bit single b).resolve_left inside
      rw [List.filter_cons_of_neg (by simpa using inside),
        and_not_eq_of_and_eq_zero part outside]
      exact ih others part

theorem piece?_name (plain : table.Plain) {e : String × UInt8} (mem : e ∈ table) :
    (piece? e.1.toList : Option (Flags table)) = some ⟨e.2⟩ := by
  have found : table.find? (·.1 == e.1) = some e := by
    cases h : table.find? (·.1 == e.1) with
    | none => simpa using List.find?_eq_none.mp h e mem
    | some f =>
      have same : f.1 = e.1 := by simpa using List.find?_some h
      rw [List.inj_on_of_nodup_map plain.nodup (List.mem_of_find?_eq_some h) mem same]
  unfold piece?
  split
  next digits here =>
    have zero : e.1.toList.head? = some '0' := by rw [here]; rfl
    exact absurd zero (plain.name e mem)
  next => rw [String.ofList_toList, found, Option.map_some]

theorem piece?_number {n : Nat} (lt : n < 256) :
    (piece? ("0x" ++ String.ofList (lowerHex n)).toList : Option (Flags table)) =
      some ⟨UInt8.ofNat n⟩ := by
  have text : ("0x" ++ String.ofList (lowerHex n)).toList = '0' :: 'x' :: lowerHex n := by
    rw [String.toList_append, String.toList_ofList, String.toList_ofList]
    rfl
  rw [text]
  show ((readSignedHex? (lowerHex n)).bind fun n => if n < 256 then some _ else none) = _
  rw [readSignedHex?_of_readHex? (readHex?_lowerHex n), Option.bind_some, if_pos lt]

theorem foldlM_names (plain : table.Plain) {es : List (String × UInt8)} (sub : es ⊆ table)
    (f : Flags table) :
    (es.map (·.1.toList)).foldlM (fun f p => (piece? p).map (f ∪ ·)) f =
      some ⟨es.foldl (fun b e => b ||| e.2) f.bits⟩ := by
  induction es generalizing f with
  | nil => rfl
  | cons e es ih =>
    obtain ⟨mem, sub⟩ := List.cons_subset.mp sub
    rw [List.map_cons, List.foldlM_cons, piece?_name plain mem]
    exact ih sub _

/-- The pieces of a set's text: the names of its flags, then the number of the bits without one. -/
def pieces (f : Flags table) : List String :=
  f.names ++ if f.unnamed = 0 then [] else ["0x" ++ String.ofList (lowerHex f.unnamed.toNat)]

theorem toList_render (f : Flags table) :
    f.render.toList = " | ".toList.intercalate (f.pieces.map String.toList) :=
  String.toList_intercalate

/-- A property of texts holds of each piece of a set's text if it holds of all names and of a
number. -/
theorem forall_mem_pieces {p : String → Prop} (named : ∀ e ∈ table, p e.1)
    (number : ∀ n, p ("0x" ++ String.ofList (lowerHex n))) (f : Flags table) :
    ∀ piece ∈ f.pieces, p piece := by
  intro piece mem
  rcases List.mem_append.mp mem with mem | mem
  · obtain ⟨e, here, rfl⟩ := List.mem_map.mp mem
    exact named e (List.mem_of_mem_filter here)
  · split at mem
    · cases mem
    · exact List.mem_singleton.mp mem ▸ number _

theorem visible_number (n : Nat) :
    ∀ c ∈ ("0x" ++ String.ofList (lowerHex n)).toList, isBlank c = false ∧ c ≠ '|' := by
  have digits : ∀ d < 16, (isBlank (lowerDigit d) = false ∧ lowerDigit d ≠ '|') ∧
      (isBlank (upperDigit d) = false ∧ upperDigit d ≠ '|') := by decide
  have all : readHexFrom? 0 (lowerHex n) = some n :=
    (readHex?_of_ne_nil Nat.toDigits_ne_nil).symm.trans (readHex?_lowerHex n)
  intro c mem
  rw [String.toList_append, String.toList_ofList, String.toList_ofList] at mem
  rcases List.mem_append.mp mem with mem | mem
  · exact (show ∀ c ∈ ['0', 'x'], isBlank c = false ∧ c ≠ '|' by simp [isBlank]) c mem
  · obtain ⟨d, digit⟩ := exists_isHexDigit_of_readHexFrom? all c mem
    obtain ⟨lt, rfl | rfl⟩ := isHexDigit_iff.mp digit
    · exact (digits d lt).1
    · exact (digits d lt).2

/-- The flags of all pieces are the set. -/
theorem foldlM_pieces (plain : table.Plain) (f : Flags table) :
    (f.pieces.map String.toList).foldlM (fun g p => (piece? p).map (g ∪ ·)) ∅ = some f := by
  let named := (table.filter fun e => f.bits &&& e.2 == e.2).foldl (fun b e => b ||| e.2) 0
  have union : named ||| f.unnamed = f.bits :=
    foldl_or_foldl_and_not plain.bit UInt8.zero_or
  have names : (f.names.map String.toList).foldlM (fun g p => (piece? p).map (g ∪ ·)) ∅ =
      some (⟨named⟩ : Flags table) := by
    unfold Flags.names
    rw [List.map_map]
    exact foldlM_names plain (List.filter_subset_self _) ∅
  unfold pieces
  rw [List.map_append, List.foldlM_append, names, Option.bind_eq_bind, Option.bind_some]
  split
  next all =>
    rw [all, UInt8.or_zero] at union
    exact congrArg (fun b => some (⟨b⟩ : Flags table)) union
  next =>
    have number : (piece? _ : Option (Flags table)) = _ := piece?_number f.unnamed.toNat_lt
    rw [UInt8.ofNat_toNat] at number
    rw [List.map_singleton, List.foldlM_cons, number]
    exact congrArg (fun b => some (⟨b⟩ : Flags table)) union

/-- A set of flags is read back from its text. -/
theorem parse?_render (plain : table.Plain) (f : Flags table) : parse? f.render = some f := by
  have visible : ∀ piece ∈ f.pieces.map String.toList,
      ∀ c ∈ piece, isBlank c = false ∧ c ≠ '|' :=
    List.forall_mem_map.mpr (forall_mem_pieces plain.visible visible_number f)
  have ne_nil : ∀ piece ∈ f.pieces.map String.toList, piece ≠ [] := by
    refine List.forall_mem_map.mpr (forall_mem_pieces plain.ne_nil (fun n => ?_) f)
    rw [String.toList_append]
    exact nofun
  have union := foldlM_pieces plain f
  unfold parse?
  rw [toList_render]
  generalize f.pieces.map String.toList = pieces at visible ne_nil union ⊢
  cases pieces with
  | nil => exact union
  | cons piece pieces =>
    have anyVisible : ¬ (" | ".toList.intercalate (piece :: pieces)).all isBlank := by
      obtain ⟨c, r, rfl⟩ := List.exists_cons_of_ne_nil (ne_nil piece (.head _))
      intro all
      have blank := List.all_eq_true.mp all c (mem_intercalate_of_mem _ (.head _) (.head _))
      rw [(visible _ (.head _) c (.head _)).1] at blank
      cases blank
    have split := map_trim_splitOn_intercalate '|' [' '] [' '] (by simp [isBlank])
      (List.cons_ne_nil piece pieces) visible
    rw [if_neg anyVisible, ← List.foldlM_map (g := fun f p => (piece? p).map (f ∪ ·))]
    exact (congrArg (List.foldlM (fun f p => (piece? p).map (f ∪ ·)) ∅) split).trans union

end Flags

theorem Configuration.plain : FlagTable.Plain [("BASE_RATE", 1), ("LOW_ENERGY", 2)] where
  bit := by decide
  nodup := by decide
  visible := by simp [isBlank]
  ne_nil := by decide
  name := by decide

/-! ### Company identifiers -/

/-- A company identifier is read back from its key. -/
theorem decodeCompany?_encodeCompany (company : UInt16) :
    decodeCompany? .json (encodeCompany company) = some company := by
  have text : (encodeCompany company).toList = Nat.toDigits 10 company.toNat := by
    unfold encodeCompany
    rw [Nat.toString_eq_ofList_toDigits, String.toList_ofList]
  have first : (Nat.toDigits 10 company.toNat == ['0'] ||
      (Nat.toDigits 10 company.toNat).head?.any (· != '0')) = true := by
    by_cases zero : (Nat.toDigits 10 company.toNat).head? = some '0'
    · rw [head?_toDigits zero]
      rfl
    · rw [List.head?_eq_some_head Nat.toDigits_ne_nil] at zero ⊢
      simpa using Or.inr zero
  unfold decodeCompany?
  simp only [text, digitsValue_toDigits, all_isDigit_toDigits, first]
  rw [if_pos ⟨trivial, trivial, rfl, company.toNat_lt⟩, UInt16.ofNat_toNat]

end BluetoothDiscovery
