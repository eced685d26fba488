import BluetoothDiscovery.Device
import BluetoothDiscovery.Proofs.Text.Digits
import BluetoothDiscovery.Proofs.Text.Pieces
import Mathlib.Data.List.Forall2
import Mathlib.Tactic.IntervalCases

/-!
# The text of an address

An address is its six octets (`octets_ofOctets`, `ofOctets_octets`), and its text is six groups with
colons between them.  A group is meant to be two hexadecimal digits (`IsGroup`).  What is read is
more than that: a plus sign and one digit pass for a group as well (`IsSignedGroup`).  All other
texts are refused, and a refusal quotes the text as it was given (`parse_spells`).
-/

namespace BluetoothDiscovery.Address

open Text (IsHexDigit Trimmed)

variable {a : Address} {b : UInt8} {c : Char} {cs body part : List Char} {s : String}
  {parts : List (List Char)} {v : Vector UInt8 6}

/-! ### Octets -/

theorem octets_eq (a : Address) :
    a.octets = #v[UInt8.ofNat (a.toNat / 0x10000000000), UInt8.ofNat (a.toNat / 0x100000000),
      UInt8.ofNat (a.toNat / 0x1000000), UInt8.ofNat (a.toNat / 0x10000),
      UInt8.ofNat (a.toNat / 0x100), UInt8.ofNat a.toNat] := by
  refine Vector.ext fun i h => ?_
  unfold octets
  rw [Vector.getElem_ofFn, Nat.shiftRight_eq_div_pow]
  interval_cases i <;> simp

/-- An address is the number of its octets. -/
theorem ofOctets_octets (a : Address) : ofOctets a.octets = a := by
  have value : (ofOctets a.octets).toNat = a.toNat := by
    have lt := a.lt
    rw [octets_eq]
    simp only [ofOctets]
    show ((((a.toNat / 0x10000000000 % 256 * 256 + a.toNat / 0x100000000 % 256) * 256 +
      a.toNat / 0x1000000 % 256) * 256 + a.toNat / 0x10000 % 256) * 256 +
      a.toNat / 0x100 % 256) * 256 + a.toNat % 256 = a.toNat
    omega
  exact Ranked.rank_injective value

/-- The octets of a number of octets are these octets. -/
theorem octets_ofOctets (v : Vector UInt8 6) : (ofOctets v).octets = v := by
  have lt (i : Nat) (h : i < 6) : v[i].toNat < 256 := v[i].toNat_lt
  have lt₁ := lt 1 (by decide)
  have lt₂ := lt 2 (by decide)
  have lt₃ := lt 3 (by decide)
  have lt₄ := lt 4 (by decide)
  have lt₅ := lt 5 (by decide)
  rw [octets_eq]
  refine Vector.ext fun i h => UInt8.toNat_inj.mp ?_
  have := lt i h
  interval_cases i <;> simp [ofOctets] <;> omega

/-! ### Groups -/

/-- Two hexadecimal digits stand for the octet of their value. -/
def IsGroup (group : List Char) (b : UInt8) : Prop :=
  ∃ x y i j, group = [x, y] ∧ IsHexDigit x i ∧ IsHexDigit y j ∧ b.toNat = 16 * i + j

/-- A plus sign and a hexadecimal digit stand for the octet of the digit's value. -/
def IsSignedGroup (group : List Char) (b : UInt8) : Prop :=
  ∃ y j, group = ['+', y] ∧ IsHexDigit y j ∧ b.toNat = j

/-- What is read as a group. -/
def IsReadGroup (group : List Char) (b : UInt8) : Prop := IsGroup group b ∨ IsSignedGroup group b

theorem ofNat_eq_iff {n : Nat} (h : n < 256) : UInt8.ofNat n = b ↔ b.toNat = n := by
  rw [← UInt8.toNat_inj, UInt8.toNat_ofNat_of_lt' h, eq_comm]

theorem not_isHexDigit_plus (d : Nat) : ¬ IsHexDigit '+' d := by
  rw [← Text.hexValue?_eq_some_iff, show Text.hexValue? '+' = none from rfl]
  exact nofun

/-- Two characters are read as an octet if they are two digits, or a plus sign and a digit. -/
theorem octet?_eq_some_iff : octet? part = some b ↔ IsReadGroup part b := by
  -- With a plus sign in front the one digit after it counts, and without it both characters.
  have signed (y : Char) : octet? ['+', y] = some b ↔ ∃ j, IsHexDigit y j ∧ b.toNat = j := by
    show (Text.readHex? [y]).map UInt8.ofNat = some b ↔ _
    simp only [Option.map_eq_some_iff, Text.readHex?_singleton]
    refine exists_congr fun j => and_congr_right fun hj => ofNat_eq_iff ?_
    exact hj.lt.trans (by decide)
  have unsigned {x : Char} (y : Char) (h : x ≠ '+') : octet? [x, y] = some b ↔
      ∃ i j, IsHexDigit x i ∧ IsHexDigit y j ∧ b.toNat = 16 * i + j := by
    have read : octet? [x, y] = (Text.readHex? [x, y]).map UInt8.ofNat := by
      show (Text.readSignedHex? [x, y]).map _ = _
      unfold Text.readSignedHex?
      split
      next same => exact absurd (List.cons.inj same).1 h
      next => rfl
    rw [read]
    simp only [Option.map_eq_some_iff, Text.readHex?_pair]
    constructor
    · rintro ⟨n, ⟨i, j, hi, hj, rfl⟩, value⟩
      have := hi.lt
      have := hj.lt
      exact ⟨i, j, hi, hj, (ofNat_eq_iff (by omega)).mp value⟩
    · rintro ⟨i, j, hi, hj, value⟩
      have := hi.lt
      have := hj.lt
      exact ⟨_, ⟨i, j, hi, hj, rfl⟩, (ofNat_eq_iff (by omega)).mpr value⟩
  constructor
  · intro h
    match part with
    | [x, y] =>
      by_cases plus : x = '+'
      · subst plus
        obtain ⟨j, digit, value⟩ := (signed y).mp h
        exact .inr ⟨y, j, rfl, digit, value⟩
      · obtain ⟨i, j, first, second, value⟩ := (unsigned y plus).mp h
        exact .inl ⟨x, y, i, j, rfl, first, second, value⟩
  · rintro (⟨x, y, i, j, rfl, first, second, value⟩ | ⟨y, j, rfl, digit, value⟩)
    · have digit : x ≠ '+' := fun plus => not_isHexDigit_plus i (plus ▸ first)
      exact (unsigned y digit).mpr ⟨i, j, first, second, value⟩
    · exact (signed y).mpr ⟨j, digit, value⟩

/-! ### Texts -/

/-- A text is six groups with colons between them, each of which stands for an octet. -/
def Spells (group : List Char → UInt8 → Prop) (cs : List Char) (v : Vector UInt8 6) : Prop :=
  ∃ groups, cs = [':'].intercalate groups ∧ List.Forall₂ group groups v.toList

theorem IsReadGroup.colon_not_mem (h : IsReadGroup part b) : ':' ∉ part := by
  have digit {d : Nat} (colon : IsHexDigit ':' d) : False := by
    rw [← Text.hexValue?_eq_some_iff, show Text.hexValue? ':' = none from rfl] at colon
    cases colon
  intro mem
  rcases h with ⟨x, y, i, j, rfl, first, second, -⟩ | ⟨y, j, rfl, second, -⟩ <;>
    rcases List.mem_cons.mp mem with here | here
  · exact digit (here ▸ first)
  · exact digit (List.mem_singleton.mp here ▸ second)
  · cases here
  · exact digit (List.mem_singleton.mp here ▸ second)

theorem exists_eq_six (v : Vector UInt8 6) :
    ∃ b₀ b₁ b₂ b₃ b₄ b₅, v = #v[b₀, b₁, b₂, b₃, b₄, b₅] := by
  refine ⟨v[0], v[1], v[2], v[3], v[4], v[5], Vector.ext fun i h => ?_⟩
  interval_cases i <;> rfl

/-- Six parts are an address if each is read as the octet at its place. -/
theorem ofParts?_eq_some_iff :
    ofParts? parts = some a ↔ List.Forall₂ IsReadGroup parts a.octets.toList := by
  constructor
  · intro h
    unfold ofParts? at h
    split at h
    next p₀ p₁ p₂ p₃ p₄ p₅ =>
      simp only [Option.bind_eq_bind, Option.bind_eq_some_iff] at h
      obtain ⟨b₀, h₀, b₁, h₁, b₂, h₂, b₃, h₃, b₄, h₄, b₅, h₅, address⟩ := h
      obtain rfl : ofOctets #v[b₀, b₁, b₂, b₃, b₄, b₅] = a := Option.some.inj address
      rw [octets_ofOctets]
      exact .cons (octet?_eq_some_iff.mp h₀) <| .cons (octet?_eq_some_iff.mp h₁) <|
        .cons (octet?_eq_some_iff.mp h₂) <| .cons (octet?_eq_some_iff.mp h₃) <|
        .cons (octet?_eq_some_iff.mp h₄) <| .cons (octet?_eq_some_iff.mp h₅) .nil
    next => cases h
  · intro h
    -- An address has six octets, so that there are six parts and each of them is read.
    obtain ⟨b₀, b₁, b₂, b₃, b₄, b₅, octets⟩ := exists_eq_six a.octets
    rw [octets] at h
    rcases h with _ | ⟨h₀, _ | ⟨h₁, _ | ⟨h₂, _ | ⟨h₃, _ | ⟨h₄, _ | ⟨h₅, _ | _⟩⟩⟩⟩⟩⟩
    have address : ofOctets #v[b₀, b₁, b₂, b₃, b₄, b₅] = a := octets ▸ ofOctets_octets a
    unfold ofParts?
    simp only [octet?_eq_some_iff.mpr h₀, octet?_eq_some_iff.mpr h₁, octet?_eq_some_iff.mpr h₂,
      octet?_eq_some_iff.mpr h₃, octet?_eq_some_iff.mpr h₄, octet?_eq_some_iff.mpr h₅]
    exact congrArg some address

/-- A text is read as an address if it spells the octets, with or without plus signs. -/
theorem ofParts?_splitOn_eq_some_iff :
    ofParts? (Text.splitOn ':' cs) = some a ↔ Spells IsReadGroup cs a.octets := by
  rw [ofParts?_eq_some_iff]
  constructor
  · intro h
    exact ⟨_, (Text.intercalate_splitOn ':' cs).symm, h⟩
  · rintro ⟨groups, rfl, h⟩
    have ne_nil : groups ≠ [] := by
      rintro rfl
      obtain ⟨b₀, b₁, b₂, b₃, b₄, b₅, octets⟩ := exists_eq_six a.octets
      rw [octets] at h
      cases h
    have free : ∀ group ∈ groups, ':' ∉ group :=
      ((List.forall₂_and_left _ _).mp (h.imp fun _ _ read => ⟨read.colon_not_mem, read⟩)).1
    rwa [Text.splitOn_intercalate ne_nil free]

theorem parse_eq_ok_iff :
    parse s = .ok a ↔ ∃ body, Trimmed s.toList body ∧ Spells IsReadGroup body a.octets := by
  have read : parse s = .ok a ↔ ofParts? (Text.splitOn ':' (Text.trim s.toList)) = some a := by
    unfold parse
    split
    next b hb => simp [hb]
    next hb => simp [hb]
  rw [read, ofParts?_splitOn_eq_some_iff]
  constructor
  · exact fun h => ⟨_, Text.trimmed_trim _, h⟩
  · rintro ⟨body, trimmed, h⟩
    rwa [Text.trim_eq_iff.mpr trimmed]

/-! ### Showing what was read -/

/-- A character of an address as it is shown: a plus sign becomes a zero. -/
def shown (c : Char) : Char := if c = '+' then '0' else c.toUpper

theorem shown_of_isHexDigit {d : Nat} (h : IsHexDigit c d) : shown c = Text.upperDigit d := by
  have digit : c ≠ '+' := fun plus => not_isHexDigit_plus d (plus ▸ h)
  unfold shown
  rw [if_neg digit, h.toUpper_eq]

/-- A group is shown with two digits. -/
theorem IsReadGroup.hexDigits (h : IsReadGroup part b) :
    Text.hexDigits Text.upperDigit 2 b.toNat = part.map shown := by
  have two (n : Nat) : Text.hexDigits Text.upperDigit 2 n =
      [Text.upperDigit (n / 16 % 16), Text.upperDigit (n % 16)] := rfl
  rcases h with ⟨x, y, i, j, rfl, first, second, value⟩ | ⟨y, j, rfl, second, value⟩
  · have := first.lt
    have := second.lt
    rw [two, value, show (16 * i + j) / 16 % 16 = i by omega, show (16 * i + j) % 16 = j by omega,
      List.map_cons, List.map_singleton, shown_of_isHexDigit first, shown_of_isHexDigit second]
  · have := second.lt
    rw [two, value, show j / 16 % 16 = 0 by omega, show j % 16 = j by omega, List.map_cons,
      List.map_singleton, shown_of_isHexDigit second]
    rfl

/-- An address is shown as the text that spells it, in upper case and without plus signs. -/
theorem render_of_spells (h : Spells IsReadGroup body a.octets) :
    a.render = String.ofList (body.map shown) := by
  obtain ⟨groups, rfl, h⟩ := h
  have digits : List.Forall₂ (· = ·) (groups.map (List.map shown))
      (a.octets.toList.map fun b => Text.hexDigits Text.upperDigit 2 b.toNat) :=
    List.forall₂_map_left_iff.mpr (List.forall₂_map_right_iff.mpr
      (h.imp fun _ _ read => read.hexDigits.symm))
  rw [List.forall₂_eq_eq_eq] at digits
  unfold render toChars
  rw [← digits, Text.map_intercalate]
  rfl

/-- An address is read back from its text. -/
theorem parse_render (a : Address) : parse a.render = .ok a := by
  have digit (b : UInt8) : IsGroup (Text.hexDigits Text.upperDigit 2 b.toNat) b := by
    have high : b.toNat / 16 % 16 < 16 := Nat.mod_lt _ (by decide)
    have low : b.toNat % 16 < 16 := Nat.mod_lt _ (by decide)
    have lt := b.toNat_lt
    exact ⟨_, _, _, _, rfl, Text.isHexDigit_iff.mpr ⟨high, .inr rfl⟩,
      Text.isHexDigit_iff.mpr ⟨low, .inr rfl⟩, by omega⟩
  -- Two digits in upper case spell an octet, and six of these the address.
  have groups : Spells IsReadGroup a.toChars a.octets :=
    ⟨_, rfl, List.forall₂_map_left_iff.mpr (List.forall₂_same.mpr fun b _ => .inl (digit b))⟩
  refine parse_eq_ok_iff.mpr ⟨a.toChars, ?_, groups⟩
  have visible : ∀ c ∈ a.toChars, Text.isBlank c = false := by
    have digits : ∀ d < 16, Text.isBlank (Text.upperDigit d) = false := by decide
    intro c mem
    rcases Text.mem_of_mem_intercalate mem with colon | ⟨group, here, mem⟩
    · rw [List.mem_singleton.mp colon]
      decide
    · obtain ⟨b, -, rfl⟩ := List.mem_map.mp here
      obtain ⟨d, lt, rfl⟩ := Text.exists_of_mem_hexDigits mem
      exact digits d lt
  have trimmed := Text.trim_append [] [] (by simp) visible (by simp)
  rw [List.nil_append, List.append_nil, Text.trim_eq_iff] at trimmed
  unfold render
  rwa [String.toList_ofList]

/-! ### What is read as an address -/

/-- A group of digits has no plus sign in it. -/
theorem IsGroup.plus_not_mem (h : IsGroup part b) : '+' ∉ part := by
  obtain ⟨x, y, i, j, rfl, first, second, -⟩ := h
  intro mem
  rcases List.mem_cons.mp mem with here | here
  · exact not_isHexDigit_plus i (here ▸ first)
  · exact not_isHexDigit_plus j (List.mem_singleton.mp here ▸ second)

theorem plus_not_mem_of_spells (h : Spells IsGroup cs v) : '+' ∉ cs := by
  obtain ⟨groups, rfl, h⟩ := h
  have free : ∀ group ∈ groups, '+' ∉ group :=
    ((List.forall₂_and_left _ _).mp (h.imp fun _ _ read => ⟨read.plus_not_mem, read⟩)).1
  intro mem
  rcases Text.mem_of_mem_intercalate mem with sep | ⟨group, here, mem⟩
  · cases List.mem_singleton.mp sep
  · exact free group here mem

/-- Without plus signs all groups that are read are groups of digits. -/
theorem spells_isGroup_iff : Spells IsGroup cs v ↔ Spells IsReadGroup cs v ∧ '+' ∉ cs := by
  constructor
  · intro h
    refine ⟨?_, plus_not_mem_of_spells h⟩
    obtain ⟨groups, same, h⟩ := h
    exact ⟨groups, same, h.imp fun _ _ digits => .inl digits⟩
  · rintro ⟨⟨groups, rfl, h⟩, unsigned⟩
    have free : ∀ group ∈ groups, '+' ∉ group :=
      fun group here mem => unsigned (Text.mem_intercalate_of_mem _ here mem)
    refine ⟨groups, rfl, ((List.forall₂_and_left _ _).mpr ⟨free, h⟩).imp ?_⟩
    rintro group b ⟨unsigned, digits | ⟨y, j, rfl, -⟩⟩
    · exact digits
    · exact absurd (.head _) unsigned

/-- A text is read as an address exactly if, without the blanks around it, it is six groups with
colons between them, and then the octets of the address are those of the groups in their order.  The
address is shown as this text in upper case.  A group is two hexadecimal digits, or else a plus sign
and one digit, and then it is shown with a zero for the plus sign; so of the texts without plus
signs just those are read in which every group is two digits.  Any other text is refused and quoted
as it was given. -/
theorem parse_spells (s : String) :
    (∀ a, parse s = .ok a ↔ ∃ body, Trimmed s.toList body ∧ Spells IsReadGroup body a.octets ∧
      a.render = String.ofList (body.map shown)) ∧
      ('+' ∉ s.toList → ∀ a, parse s = .ok a ↔
        ∃ body, Trimmed s.toList body ∧ Spells IsGroup body a.octets ∧
          a.render = String.ofList (body.map Char.toUpper)) ∧
      ((∀ a, parse s ≠ .ok a) → parse s = .error ⟨s⟩) := by
  have reads (a : Address) : parse s = .ok a ↔ ∃ body, Trimmed s.toList body ∧
      Spells IsReadGroup body a.octets ∧ a.render = String.ofList (body.map shown) := by
    rw [parse_eq_ok_iff]
    refine exists_congr fun body => and_congr_right fun _ => ?_
    exact ⟨fun spells => ⟨spells, render_of_spells spells⟩, And.left⟩
  refine ⟨reads, fun unsigned a => ?_, fun refused => ?_⟩
  · rw [reads]
    refine exists_congr fun body => and_congr_right fun trimmed => ?_
    -- Without plus signs every group that is read is one of two digits.
    have free : '+' ∉ body := fun mem => unsigned (trimmed.subset mem)
    have upper : body.map shown = body.map Char.toUpper :=
      List.map_congr_left fun c mem => if_neg fun plus : c = '+' => free (plus ▸ mem)
    rw [spells_isGroup_iff, upper, and_iff_left free]
  · unfold parse at refused ⊢
    split
    next a h => exact absurd (by rw [h]) (refused a)
    next => rfl

/-- Blanks around a text do not matter, and a plus sign passes for the first digit of a group, but
not for a third. -/
theorem parse_spells_signs :
    (∃ body, Trimmed " 0a:FF:00:1b:c2:+d\n".toList body ∧
        Spells IsReadGroup body (ofNat 0x0AFF001BC20D).octets ∧
        (ofNat 0x0AFF001BC20D).render = String.ofList (body.map shown)) ∧
      '+' ∉ "0a:FF:00:1b:c2:0d".toList ∧
      (∃ body, Trimmed "0a:FF:00:1b:c2:0d".toList body ∧
        Spells IsGroup body (ofNat 0x0AFF001BC20D).octets ∧
        (ofNat 0x0AFF001BC20D).render = String.ofList (body.map Char.toUpper)) ∧
      (∀ a, parse " 0a:FF:00:1b:c2:+0d" ≠ .ok a) ∧
      parse " 0a:FF:00:1b:c2:+0d" = .error ⟨" 0a:FF:00:1b:c2:+0d"⟩ := by
  have unsigned : '+' ∉ "0a:FF:00:1b:c2:0d".toList := by decide
  have refused : ∀ a, parse " 0a:FF:00:1b:c2:+0d" ≠ .ok a := by
    have refusal : (parse " 0a:FF:00:1b:c2:+0d").toOption = none := by decide
    intro a read
    rw [read] at refusal
    cases refusal
  exact ⟨((parse_spells _).1 _).mp (by decide), unsigned,
    ((parse_spells _).2.1 unsigned _).mp (by decide), refused, (parse_spells _).2.2 refused⟩

/-- A plus sign stands where a digit should. -/
theorem parse_plus_sign :
    parse "+1:22:33:44:55:66" = .ok (ofNat 0x012233445566) ∧
      ¬ ∃ body v, Trimmed "+1:22:33:44:55:66".toList body ∧ Spells IsGroup body v := by
  refine ⟨by decide, ?_⟩
  rintro ⟨body, v, trimmed, spells⟩
  have same : Text.trim "+1:22:33:44:55:66".toList = body := Text.trim_eq_iff.mpr trimmed
  have signed : '+' ∈ Text.trim "+1:22:33:44:55:66".toList := by decide
  exact plus_not_mem_of_spells spells (same ▸ signed)

end BluetoothDiscovery.Address
