import BluetoothDiscovery.Proofs.Address
import BluetoothDiscovery.Proofs.Text.Order
import Mathlib.Data.String.Basic

/-!
# The forms of an address

An address is a number of 48 bits, a row of six octets and a text.  Each form gives back the others
(`ofOctets_octets`, `octets_ofOctets`, `parse_render`), and they have one order, where octets and
texts are compared from the left (`octets_lt_octets`, `render_lt_render`).

In a word of 64 bits an address is what a mask leaves of the word, its octets are found by shifts,
and it is put together from them by shifts as well (`word_ofNat`, `octets_eq_shift`,
`word_ofOctets`); no bit is lost on the way, as 16 bits of the word are free.
-/

namespace BluetoothDiscovery.Address

variable {a b : Address}

/-! ### Words -/

/-- An address in a word. -/
def word (a : Address) : UInt64 := UInt64.ofNat a.toNat

theorem toNat_word (a : Address) : a.word.toNat = a.toNat :=
  UInt64.toNat_ofNat_of_lt' (a.lt.trans (by decide))

/-- A word is cut to an address by a mask of 48 bits. -/
theorem word_ofNat (raw : UInt64) : (ofNat raw.toNat).word = raw &&& 0xFFFFFFFFFFFF := by
  refine UInt64.toNat_inj.mp ?_
  rw [toNat_word, UInt64.toNat_and]
  exact (Nat.and_two_pow_sub_one_eq_mod raw.toNat 48).symm

/-- An octet is found by a shift to the right. -/
theorem octets_eq_shift (a : Address) (i : Fin 6) :
    a.octets[i] = (a.word >>> UInt64.ofNat (8 * (5 - i))).toUInt8 := by
  have small : 8 * (5 - i.val) < 64 := by omega
  have amount : (UInt64.ofNat (8 * (5 - i))).toNat % 64 = 8 * (5 - i) := by
    rw [UInt64.toNat_ofNat_of_lt' (small.trans (by decide)), Nat.mod_eq_of_lt small]
  refine UInt8.toNat_inj.mp ?_
  unfold octets
  rw [Fin.getElem_fin, Vector.getElem_ofFn, UInt64.toNat_toUInt8, UInt64.toNat_shiftRight, amount,
    toNat_word]
  rfl

/-- The word with one more octet at its lower end. -/
def pushOctet (word : UInt64) (b : UInt8) : UInt64 := word <<< 8 ||| b.toUInt64

theorem toNat_pushOctet {word : UInt64} (free : word.toNat < 2 ^ 56) (b : UInt8) :
    (pushOctet word b).toNat = word.toNat * 256 + b.toNat := by
  -- Nothing is shifted out of the word.
  have shifted : (word <<< 8).toNat = word.toNat <<< 8 := by
    rw [UInt64.toNat_shiftLeft]
    show word.toNat <<< 8 % 2 ^ 64 = _
    rw [Nat.shiftLeft_eq]
    omega
  unfold pushOctet
  rw [UInt64.toNat_or, shifted, UInt8.toNat_toUInt64, ← Nat.shiftLeft_add_eq_or_of_lt b.toNat_lt,
    Nat.shiftLeft_eq]

/-- Octets that find room in a word are the digits of its number by 256. -/
theorem toNat_foldl_pushOctet {word : UInt64} (octets : List UInt8)
    (free : (word.toNat + 1) * 256 ^ octets.length ≤ 2 ^ 64) :
    (octets.foldl pushOctet word).toNat =
      octets.foldl (fun n b => n * 256 + b.toNat) word.toNat := by
  induction octets generalizing word with
  | nil => rfl
  | cons b octets ih =>
    have byte := b.toNat_lt
    rw [List.length_cons, pow_succ', ← Nat.mul_assoc] at free
    -- There is room for this octet, and for the later ones once it is in its place.
    have room : (word.toNat + 1) * 256 ≤ 2 ^ 64 :=
      (Nat.le_mul_of_pos_right _ (Nat.pow_pos (by decide))).trans free
    have pushed : (pushOctet word b).toNat = word.toNat * 256 + b.toNat :=
      toNat_pushOctet (by omega) b
    have later : ((pushOctet word b).toNat + 1) * 256 ^ octets.length ≤ 2 ^ 64 := by
      rw [pushed]
      exact (Nat.mul_le_mul_right _ (by omega)).trans free
    rw [List.foldl_cons, List.foldl_cons, ih later, pushed]

/-- An address is put together from its octets in a word, the first one first. -/
theorem word_ofOctets (v : Vector UInt8 6) : (ofOctets v).word = v.foldl pushOctet 0 := by
  refine UInt64.toNat_inj.mp ?_
  rw [toNat_word, ← Vector.foldl_toList, toNat_foldl_pushOctet]
  · obtain ⟨b₀, b₁, b₂, b₃, b₄, b₅, rfl⟩ := exists_eq_six v
    show _ = (((((0 * 256 + b₀.toNat) * 256 + b₁.toNat) * 256 + b₂.toNat) * 256 + b₃.toNat) * 256 +
      b₄.toNat) * 256 + b₅.toNat
    rw [Nat.zero_mul, Nat.zero_add]
    rfl
  · rw [Vector.length_toList]
    decide

/-! ### Order -/

theorem octets_eq_positions (a : Address) :
    a.octets.toList = Text.positions 256 UInt8.ofNat 6 a.toNat := by
  have cut (n : Nat) : UInt8.ofNat (n % 256) = UInt8.ofNat n := UInt8.ofNat_mod_size
  rw [octets_eq]
  simp only [Text.positions, Nat.div_div_eq_div_mul, cut]
  rfl

theorem octets_lt_octets (lt : a < b) : a.octets.toList < b.octets.toList := by
  have rising (d e : Nat) (lt : d < e) (fits : e < 256) : UInt8.ofNat d < UInt8.ofNat e := by
    rw [UInt8.lt_iff_toNat_lt, UInt8.toNat_ofNat_of_lt' fits,
      UInt8.toNat_ofNat_of_lt' (lt.trans fits)]
    exact lt
  rw [octets_eq_positions, octets_eq_positions]
  exact Text.positions_lt_positions rising lt b.lt

theorem render_lt_render (lt : a < b) : a.render < b.render := by
  have rising (d e : Nat) (lt : d < e) (fits : e < 16) : Text.upperDigit d < Text.upperDigit e := by
    have all : ∀ e < 16, ∀ d < e, Text.upperDigit d < Text.upperDigit e := by decide
    exact all e fits d lt
  have groups (x y : UInt8) (lt : x < y) : Text.hexDigits Text.upperDigit 2 x.toNat <
      Text.hexDigits Text.upperDigit 2 y.toNat := by
    rw [Text.hexDigits_eq_positions, Text.hexDigits_eq_positions]
    exact Text.positions_lt_positions rising (UInt8.lt_iff_toNat_lt.mp lt) y.toNat_lt
  unfold render toChars
  rw [String.lt_iff_toList_lt, String.toList_ofList, String.toList_ofList]
  refine Text.intercalate_lt_intercalate _ (fun _ => Text.length_hexDigits _ _ _) groups ?_
    (octets_lt_octets lt)
  rw [Vector.length_toList, Vector.length_toList]

/-- A form that keeps the order of addresses one way keeps it both ways. -/
theorem lt_iff_of_rising {β : Type} [LT β] [Std.Asymm fun x y : β => x < y] {form : Address → β}
    (rising : ∀ {a b}, a < b → form a < form b) : a < b ↔ form a < form b := by
  refine ⟨rising, fun lt => ?_⟩
  rcases Nat.lt_trichotomy a.toNat b.toNat with below | same | above
  · exact below
  · obtain rfl : a = b := Ranked.rank_injective same
    exact absurd lt (Std.Asymm.asymm _ _ lt)
  · exact absurd lt (Std.Asymm.asymm _ _ (rising above))

/-! ### Numbers, octets and texts -/

theorem ofNat_toNat (a : Address) : ofNat a.toNat = a :=
  Ranked.rank_injective (Nat.mod_eq_of_lt a.lt)

/-- **The forms of an address** are the same things in the same order.  However an address is made,
it is a number of 48 bits: of a word it is what a mask of 48 bits leaves, of octets it is what is
put together by shifts, and a text that is read and the default are such numbers as well.  The
octets are cut out of the number, the highest first.  An address is had back from its number, its
octets and its text, and octets are had back from their address.  Of two addresses the smaller one
has the smaller octets and the smaller text, where octets are compared from the first on, and texts
by the code points of their characters. -/
theorem forms_agree :
    (∀ raw : UInt64, (ofNat raw.toNat).toNat < 2 ^ 48 ∧
        (ofNat raw.toNat).toNat = raw.toNat % 2 ^ 48 ∧
        (ofNat raw.toNat).word = raw &&& 0xFFFFFFFFFFFF) ∧
      (∀ v : Vector UInt8 6, (ofOctets v).toNat < 2 ^ 48 ∧
        (ofOctets v).word = v.foldl pushOctet 0 ∧ (ofOctets v).octets = v) ∧
      (∀ s a, parse s = .ok a → a.toNat < 2 ^ 48) ∧
      (default : Address).toNat < 2 ^ 48 ∧
      (∀ (a : Address) (i : Fin 6),
        a.octets[i] = (a.word >>> UInt64.ofNat (8 * (5 - i))).toUInt8) ∧
      (∀ a : Address, ofNat a.word.toNat = a ∧ ofOctets a.octets = a ∧ parse a.render = .ok a) ∧
      ∀ a b : Address, (a < b ↔ a.octets.toList < b.octets.toList) ∧
        (a < b ↔ a.render < b.render) := by
  refine ⟨fun raw => ⟨(ofNat raw.toNat).lt, rfl, word_ofNat raw⟩,
    fun v => ⟨(ofOctets v).lt, word_ofOctets v, octets_ofOctets v⟩, fun _ a _ => a.lt,
    Address.lt _, octets_eq_shift, fun a => ⟨?_, ofOctets_octets a, parse_render a⟩,
    fun a b => ⟨?_, ?_⟩⟩
  · rw [toNat_word, ofNat_toNat]
  · exact lt_iff_of_rising octets_lt_octets
  · exact lt_iff_of_rising render_lt_render

/-- A text in lower case is read, and the digits of an address stand before its letters. -/
theorem forms_agree_digits_letters :
    parse "\t00:00:00:00:0a:9f " = .ok (ofNat 0x0A9F) ∧ (ofNat 0x0A9F).toNat < 2 ^ 48 ∧
      (ofNat 0x0A9F).octets.toList < (ofNat 0x0AA0).octets.toList ∧
      (ofNat 0x0A9F).render < (ofNat 0x0AA0).render := by
  have read : parse "\t00:00:00:00:0a:9f " = .ok (ofNat 0x0A9F) := by decide
  have below : ofNat 0x0A9F < ofNat 0x0AA0 := by decide
  obtain ⟨-, -, reads, -, -, -, order⟩ := forms_agree
  exact ⟨read, reads _ _ read, (order _ _).1.mp below, (order _ _).2.mp below⟩

end BluetoothDiscovery.Address
