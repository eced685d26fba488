import BluetoothDiscovery.Proofs.Text.Digits
import Mathlib.Algebra.Order.Group.Nat
import Mathlib.Data.List.Lex

/-!
# The order of digits

Rows of one length are compared from the left, and a number is written from the left with its most
significant digit first.  So numbers are in the order of their rows of digits, whatever the base, as
long as the digits are in the order of their values (`positions_lt_positions`).  The same holds of
rows that are written piece by piece, if the pieces are of one width (`intercalate_lt_intercalate`).
-/

namespace BluetoothDiscovery.Text

variable {α β : Type} [LT α] [LT β]

/-! ### Rows of one length -/

/-- What stands behind rows of one length does not count if these are different. -/
theorem append_lt_append {xs ys : List α} (same : xs.length = ys.length) (lt : xs < ys)
    (us vs : List α) : xs ++ us < ys ++ vs := by
  induction lt with
  | nil => cases same
  | rel first => exact .rel first
  | cons _ ih => exact .cons (ih (Nat.succ.inj same))

/-! ### Digits -/

/-- The lowest digits of a number by a base, most significant first. -/
def positions (base : Nat) (digit : Nat → α) : Nat → Nat → List α
  | 0, _ => []
  | width + 1, n => positions base digit width (n / base) ++ [digit (n % base)]

omit [LT α] in
theorem length_positions (base : Nat) (digit : Nat → α) (width n : Nat) :
    (positions base digit width n).length = width := by
  induction width generalizing n with
  | zero => rfl
  | succ width ih => rw [positions, List.length_append, ih, List.length_singleton]

theorem hexDigits_eq_positions (digit : Nat → Char) (width n : Nat) :
    hexDigits digit width n = positions 16 digit width n := by
  induction width generalizing n with
  | zero => rfl
  | succ width ih => rw [hexDigits, positions, ih]

/-- Numbers that fit are in the order of their digits. -/
theorem positions_lt_positions {base : Nat} {digit : Nat → α}
    (rising : ∀ d e, d < e → e < base → digit d < digit e) {width m n : Nat} (lt : m < n)
    (fits : n < base ^ width) : positions base digit width m < positions base digit width n := by
  induction width generalizing m n with
  | zero =>
    rw [pow_zero] at fits
    omega
  | succ width ih =>
    rw [pow_succ] at fits
    have pos : 0 < base := Nat.pos_of_ne_zero fun zero => by simp [zero] at fits
    rw [positions, positions]
    -- Without their last digits the numbers are in this order too, or equal.
    rcases (Nat.div_le_div_right lt.le : m / base ≤ n / base).lt_or_eq with above | level
    · refine append_lt_append ?_ (ih above ((Nat.div_lt_iff_lt_mul pos).mpr fits)) _ _
      rw [length_positions, length_positions]
    · -- The numbers differ in their last digits alone.
      have last : m % base < n % base := by
        have hm := Nat.div_add_mod m base
        have hn := Nat.div_add_mod n base
        rw [level] at hm
        omega
      rw [level]
      exact List.Lex.append_left _ (.rel (rising _ _ last (Nat.mod_lt n pos))) _

/-! ### Pieces -/

/-- Rows of one length are in the order of what is written for them piece by piece. -/
theorem flatMap_lt_flatMap {piece : α → List β} {width : Nat}
    (widths : ∀ x, (piece x).length = width) (rising : ∀ x y, x < y → piece x < piece y)
    {xs ys : List α} (same : xs.length = ys.length) (lt : xs < ys) :
    xs.flatMap piece < ys.flatMap piece := by
  induction lt with
  | nil => cases same
  | rel first =>
    rw [List.flatMap_cons, List.flatMap_cons]
    exact append_lt_append ((widths _).trans (widths _).symm) (rising _ _ first) _ _
  | cons _ ih =>
    rw [List.flatMap_cons, List.flatMap_cons]
    exact List.Lex.append_left _ (ih (Nat.succ.inj same)) _

omit [LT β] in
/-- All pieces but the first stand behind a separator. -/
theorem intercalate_cons (sep piece : List β) (pieces : List (List β)) :
    sep.intercalate (piece :: pieces) = piece ++ pieces.flatMap (sep ++ ·) := by
  induction pieces generalizing piece with
  | nil => simp
  | cons next pieces ih =>
    rw [List.intercalate_cons_cons, ih, List.flatMap_cons, List.append_assoc, List.append_assoc]

/-- The order is the same with separators between the pieces. -/
theorem intercalate_lt_intercalate {piece : α → List β} {width : Nat} (sep : List β)
    (widths : ∀ x, (piece x).length = width) (rising : ∀ x y, x < y → piece x < piece y)
    {xs ys : List α} (same : xs.length = ys.length) (lt : xs < ys) :
    sep.intercalate (xs.map piece) < sep.intercalate (ys.map piece) := by
  have behind (x : α) : (sep ++ piece x).length = sep.length + width := by
    rw [List.length_append, widths]
  cases lt with
  | nil => cases same
  | rel first =>
    rw [List.map_cons, List.map_cons, intercalate_cons, intercalate_cons]
    exact append_lt_append ((widths _).trans (widths _).symm) (rising _ _ first) _ _
  | cons later =>
    rw [List.map_cons, List.map_cons, intercalate_cons, intercalate_cons, List.flatMap_map,
      List.flatMap_map]
    refine List.Lex.append_left _ (flatMap_lt_flatMap behind ?_ (Nat.succ.inj same) later) _
    exact fun x y lt => List.Lex.append_left _ (rising x y lt) _

end BluetoothDiscovery.Text
