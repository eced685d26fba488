import BluetoothDiscovery.Text.Decimal
import BluetoothDiscovery.Text.Hex
import Mathlib.Data.Nat.Digits.Defs
import Mathlib.Tactic.Common

/-!
# Digits are read as they were written

The characters that are hexadecimal digits, in either case, are those of `lowerRow` and `upperRow`
(`hexValue?_eq_some_iff`).  Numbers of a fixed width, and numbers of as many digits as they need,
are read back from their digits (`readHex?_hexDigits`, `readHex?_lowerHex`, `digitsValue_toDigits`).
-/

namespace BluetoothDiscovery.Text

/-! ### Hexadecimal digits -/

/-- The sixteen digits in lower case, by their values. -/
def lowerRow : List Char :=
  ['0', '1', '2', '3', '4', '5', '6', '7', '8', '9', 'a', 'b', 'c', 'd', 'e', 'f']

/-- The sixteen digits in upper case, by their values. -/
def upperRow : List Char :=
  ['0', '1', '2', '3', '4', '5', '6', '7', '8', '9', 'A', 'B', 'C', 'D', 'E', 'F']

/-- A character is the hexadecimal digit of a value, in either case. -/
def IsHexDigit (c : Char) (d : Nat) : Prop := lowerRow[d]? = some c ∨ upperRow[d]? = some c

variable {c c' : Char} {d n : Nat} {cs : List Char}

theorem lowerRow_getElem? (h : d < 16) : lowerRow[d]? = some (lowerDigit d) := by
  decide +revert

theorem upperRow_getElem? (h : d < 16) : upperRow[d]? = some (upperDigit d) := by
  decide +revert

theorem IsHexDigit.lt (h : IsHexDigit c d) : d < 16 := by
  rcases h with h | h <;> exact (List.getElem?_eq_some_iff.mp h).1

theorem isHexDigit_iff : IsHexDigit c d ↔ d < 16 ∧ (c = lowerDigit d ∨ c = upperDigit d) := by
  constructor
  · intro h
    have lt := h.lt
    unfold IsHexDigit at h
    rw [lowerRow_getElem? lt, upperRow_getElem? lt] at h
    refine ⟨lt, ?_⟩
    exact h.imp (fun h => (Option.some.inj h).symm) fun h => (Option.some.inj h).symm
  · rintro ⟨lt, h⟩
    unfold IsHexDigit
    rw [lowerRow_getElem? lt, upperRow_getElem? lt]
    exact h.imp (fun h => congrArg some h.symm) fun h => congrArg some h.symm

theorem hexValue?_lowerDigit (h : d < 16) : hexValue? (lowerDigit d) = some d := by
  decide +revert

theorem hexValue?_upperDigit (h : d < 16) : hexValue? (upperDigit d) = some d := by
  decide +revert

/-- A character of a range is the first one's successor by the difference of their numbers. -/
theorem eq_ofNat_of_range {first last : Char} (low : first ≤ c) (high : c ≤ last) :
    c = Char.ofNat (first.toNat + (c.toNat - first.toNat)) ∧
      c.toNat - first.toNat ≤ last.toNat - first.toNat := by
  have low' : first.toNat ≤ c.toNat := low
  have high' : c.toNat ≤ last.toNat := high
  rw [Nat.add_sub_cancel' low', Char.ofNat_toNat]
  exact ⟨rfl, by omega⟩

theorem isHexDigit_of_hexValue? (h : hexValue? c = some d) : IsHexDigit c d := by
  rw [isHexDigit_iff]
  unfold hexValue? at h
  split at h
  next range =>
    -- A decimal digit, or else a letter in lower or in upper case.
    obtain ⟨same, le⟩ := eq_ofNat_of_range range.1 range.2
    obtain rfl : c.toNat - '0'.toNat = d := Option.some.inj h
    have lt : c.toNat - '0'.toNat < 10 := Nat.lt_succ_of_le le
    refine ⟨by omega, .inl ?_⟩
    unfold lowerDigit
    rwa [if_pos lt]
  next =>
    split at h
    next range =>
      obtain ⟨same, le⟩ := eq_ofNat_of_range range.1 range.2
      obtain rfl : c.toNat - 'a'.toNat + 10 = d := Option.some.inj h
      have lt : c.toNat - 'a'.toNat < 6 := Nat.lt_succ_of_le le
      refine ⟨by omega, .inl ?_⟩
      unfold lowerDigit
      rwa [if_neg (by omega), Nat.add_sub_cancel]
    next =>
      split at h
      next range =>
        obtain ⟨same, le⟩ := eq_ofNat_of_range range.1 range.2
        obtain rfl : c.toNat - 'A'.toNat + 10 = d := Option.some.inj h
        have lt : c.toNat - 'A'.toNat < 6 := Nat.lt_succ_of_le le
        refine ⟨by omega, .inr ?_⟩
        unfold upperDigit
        rwa [if_neg (by omega), Nat.add_sub_cancel]
      next => cases h

/-- The characters that have a value are the digits of either case. -/
theorem hexValue?_eq_some_iff : hexValue? c = some d ↔ IsHexDigit c d := by
  refine ⟨isHexDigit_of_hexValue?, fun h => ?_⟩
  obtain ⟨lt, rfl | rfl⟩ := isHexDigit_iff.mp h
  · exact hexValue?_lowerDigit lt
  · exact hexValue?_upperDigit lt

/-- The upper-case form of a digit of either case. -/
theorem IsHexDigit.toUpper_eq (h : IsHexDigit c d) : c.toUpper = upperDigit d := by
  have forms : ∀ d < 16, (lowerDigit d).toUpper = upperDigit d ∧
      (upperDigit d).toUpper = upperDigit d := by decide
  obtain ⟨lt, rfl | rfl⟩ := isHexDigit_iff.mp h
  · exact (forms d lt).1
  · exact (forms d lt).2

/-! ### Hexadecimal numbers -/

theorem readHexFrom?_append (acc : Nat) (cs ds : List Char) :
    readHexFrom? acc (cs ++ ds) = (readHexFrom? acc cs).bind (readHexFrom? · ds) := by
  induction cs generalizing acc with
  | nil => rfl
  | cons c cs ih =>
    rw [List.cons_append, readHexFrom?, readHexFrom?]
    cases hexValue? c with
    | none => rfl
    | some d => exact ih _

theorem readHexFrom?_singleton (acc : Nat) (h : hexValue? c = some d) :
    readHexFrom? acc [c] = some (acc * 16 + d) := by
  rw [readHexFrom?, h]
  rfl

theorem readHex?_of_ne_nil (h : cs ≠ []) : readHex? cs = readHexFrom? 0 cs := by
  cases cs with
  | nil => exact absurd rfl h
  | cons c cs => rfl

/-- Only digits are read. -/
theorem exists_isHexDigit_of_readHexFrom? {acc : Nat} (h : readHexFrom? acc cs = some n) :
    ∀ c ∈ cs, ∃ d, IsHexDigit c d := by
  induction cs generalizing acc with
  | nil => simp
  | cons c cs ih =>
    rw [readHexFrom?, Option.bind_eq_some_iff] at h
    obtain ⟨d, first, rest⟩ := h
    exact List.forall_mem_cons.mpr ⟨⟨d, hexValue?_eq_some_iff.mp first⟩, ih rest⟩

/-- A text that is a number without a sign is read as the same number where a sign may stand. -/
theorem readSignedHex?_of_readHex? (h : readHex? cs = some n) : readSignedHex? cs = some n := by
  unfold readSignedHex?
  split
  next => cases h
  next => exact h

theorem readHex?_singleton : readHex? [c] = some n ↔ IsHexDigit c n := by
  rw [← hexValue?_eq_some_iff, readHex?_of_ne_nil (List.cons_ne_nil c []), readHexFrom?]
  cases hexValue? c with
  | none => simp
  | some d =>
    show some (0 * 16 + d) = some n ↔ some d = some n
    rw [Nat.zero_mul, Nat.zero_add]

theorem readHex?_pair :
    readHex? [c, c'] = some n ↔ ∃ i j, IsHexDigit c i ∧ IsHexDigit c' j ∧ n = 16 * i + j := by
  rw [readHex?_of_ne_nil (List.cons_ne_nil c [c'])]
  simp only [← hexValue?_eq_some_iff, readHexFrom?, Option.bind_eq_some_iff]
  constructor
  · rintro ⟨i, hi, j, hj, value⟩
    refine ⟨i, j, hi, hj, ?_⟩
    have := Option.some.inj value
    omega
  · rintro ⟨i, j, hi, hj, rfl⟩
    exact ⟨i, hi, j, hj, congrArg some (by omega)⟩

/-- The digits of a fixed width are those of the number below the power of their count. -/
theorem readHexFrom?_hexDigits {digit : Nat → Char}
    (values : ∀ d < 16, hexValue? (digit d) = some d) (width n acc : Nat) :
    readHexFrom? acc (hexDigits digit width n) =
      some (acc * Nat.pow 16 width + n % Nat.pow 16 width) := by
  induction width generalizing n with
  | zero =>
    rw [hexDigits, readHexFrom?]
    simp [Nat.mod_one]
  | succ width ih =>
    have lt : n % 16 < 16 := Nat.mod_lt n (by decide)
    rw [hexDigits, readHexFrom?_append, ih, Option.bind_some,
      readHexFrom?_singleton _ (values _ lt)]
    have split : n % (16 * Nat.pow 16 width) = n % 16 + 16 * (n / 16 % Nat.pow 16 width) :=
      Nat.mod_mul
    have power : Nat.pow 16 (width + 1) = 16 * Nat.pow 16 width :=
      (Nat.pow_succ' : 16 ^ (width + 1) = _)
    rw [power, split]
    congr 1
    rw [Nat.add_mul, Nat.mul_assoc, Nat.mul_comm (Nat.pow 16 width) 16]
    omega

theorem readHex?_hexDigits {digit : Nat → Char}
    (values : ∀ d < 16, hexValue? (digit d) = some d) {width : Nat} (any : width ≠ 0)
    (fits : n < Nat.pow 16 width) : readHex? (hexDigits digit width n) = some n := by
  have ne_nil : hexDigits digit width n ≠ [] := by
    intro h
    have length := length_hexDigits digit width n
    rw [h] at length
    exact any length.symm
  rw [readHex?_of_ne_nil ne_nil, readHexFrom?_hexDigits values, Nat.zero_mul, Nat.zero_add,
    Nat.mod_eq_of_lt fits]

/-- Every character of a number of fixed width is the digit of a value below 16. -/
theorem exists_of_mem_hexDigits {digit : Nat → Char} {width : Nat}
    (h : c ∈ hexDigits digit width n) : ∃ d < 16, c = digit d := by
  induction width generalizing n with
  | zero => cases h
  | succ width ih =>
    rcases List.mem_append.mp h with h | h
    · exact ih h
    · exact ⟨n % 16, Nat.mod_lt n (by decide), List.mem_singleton.mp h⟩

/-- A number is read back from as many digits as it needs. -/
theorem readHex?_lowerHex (n : Nat) : readHex? (lowerHex n) = some n := by
  have digits : ∀ d < 16, hexValue? (Nat.digitChar d) = some d := by decide
  unfold lowerHex
  rw [readHex?_of_ne_nil Nat.toDigits_ne_nil]
  -- On the number, which has one digit less than sixteen times as much.
  induction n using Nat.strong_induction_on with
  | _ n ih =>
    by_cases small : n < 16
    · rw [Nat.toDigits_of_lt_base small, readHexFrom?_singleton 0 (digits n small)]
      simp
    · rw [Nat.toDigits_of_base_le (by decide) (Nat.le_of_not_lt small), readHexFrom?_append,
        ih (n / 16) (Nat.div_lt_self (by omega) (by decide)), Option.bind_some,
        readHexFrom?_singleton _ (digits _ (Nat.mod_lt n (by decide)))]
      congr 1
      omega

/-! ### Decimal numbers -/

theorem digitsValue_toDigits (n : Nat) : digitsValue (Nat.toDigits 10 n) = n := by
  have h := Nat.ofDigitChars_ten_toDigits (n := n)
  rw [Nat.ofDigitChars_eq_foldl] at h
  unfold digitsValue
  simpa [Nat.mul_comm] using h

theorem all_isDigit_toDigits (n : Nat) : (Nat.toDigits 10 n).all Char.isDigit = true :=
  List.all_eq_true.mpr fun _ mem => Nat.isDigit_of_mem_toDigits (by decide) (by decide) mem

/-- The digits of a number begin with a zero only if it is the one digit. -/
theorem head?_toDigits (h : (Nat.toDigits 10 n).head? = some '0') :
    Nat.toDigits 10 n = ['0'] := by
  induction n using Nat.strong_induction_on with
  | _ n ih =>
    by_cases small : n < 10
    · rw [Nat.toDigits_of_lt_base small] at h ⊢
      exact congrArg ([·]) (Option.some.inj h)
    · have lt : n / 10 < n := Nat.div_lt_self (by omega) (by decide)
      rw [Nat.toDigits_of_base_le (by decide) (Nat.le_of_not_lt small),
        List.head?_append, List.head?_eq_some_head Nat.toDigits_ne_nil, Option.some_or,
        ← List.head?_eq_some_head Nat.toDigits_ne_nil] at h
      -- The tenth part of a number of two digits or more is not zero.
      have zero := digitsValue_toDigits (n / 10)
      rw [ih _ lt h] at zero
      have : digitsValue ['0'] = 0 := by decide
      omega

end BluetoothDiscovery.Text
