import BluetoothDiscovery.Advertisement.Structure
import BluetoothDiscovery.Uuid
import Mathlib.Algebra.BigOperators.Fin

/-!
# How the octets of an advertisement are divided

`Framed` is the grammar of a row of advertising data structures: it says where the row ends and what
its structures are, without saying how they are found.  Every row of octets is framed in exactly one
way, which is the one that `AdStructure.split` finds (`framed_iff`).

The body of a structure is divided further.  The items of a list stand one after the other
(`chunks_eq_items`), and an item is a number whose octets count 1, 256, 256², and so on
(`littleEndian_eq_number`).
-/

namespace BluetoothDiscovery

namespace AdStructure

/-! ### Structures -/

/-- A row of octets, and its structures.  The row goes on until it ends, until a length is zero, and
until a length reaches beyond the end; the octets from there on belong to no structure. -/
inductive Framed : List UInt8 → List AdStructure → Prop
  | ended : Framed [] []
  | padding (rest : List UInt8) : Framed (0 :: rest) []
  | truncated {n : UInt8} {rest : List UInt8} (short : rest.length < n.toNat) :
      Framed (n :: rest) []
  | next {n kind : UInt8} {body rest : List UInt8} {ss : List AdStructure}
      (length : n.toNat = body.length + 1) (later : Framed rest ss) :
      Framed (n :: kind :: (body ++ rest)) (⟨kind, body⟩ :: ss)

variable {bytes rest body : List UInt8} {n : UInt8} {ss : List AdStructure} {width : Nat}

theorem split_padding (rest : List UInt8) : split (0 :: rest) = [] := by
  rw [split]
  simp

theorem split_truncated (short : rest.length < n.toNat) : split (n :: rest) = [] := by
  rw [split, if_pos short]

theorem split_next (length : n.toNat = body.length + 1) (kind : UInt8) (rest : List UInt8) :
    split (n :: kind :: (body ++ rest)) = ⟨kind, body⟩ :: split rest := by
  have here : (kind :: (body ++ rest)).take n.toNat = kind :: body := by
    rw [length, List.take_succ_cons, List.take_left]
  have later : (kind :: (body ++ rest)).drop n.toNat = rest := by
    rw [length, List.drop_succ_cons, List.drop_left]
  have enough : ¬ (kind :: (body ++ rest)).length < n.toNat := by
    rw [length, List.length_cons, List.length_append]
    omega
  rw [split, if_neg enough, here, later]

theorem framed_split (bytes : List UInt8) : Framed bytes (split bytes) := by
  induction hlen : bytes.length using Nat.strong_induction_on generalizing bytes with
  | _ len ih =>
    cases bytes with
    | nil =>
      rw [split]
      exact .ended
    | cons n rest =>
      by_cases short : rest.length < n.toNat
      · rw [split_truncated short]
        exact .truncated short
      · cases hpieces : rest.take n.toNat with
        | nil =>
          -- Only a structure without octets has no kind.
          have zero : n = 0 := by
            rw [List.take_eq_nil_iff] at hpieces
            rcases hpieces with none | none
            · exact UInt8.toNat_inj.mp none
            · rw [none] at short
              exact UInt8.toNat_inj.mp (by simpa using short)
          rw [zero, split_padding]
          exact .padding rest
        | cons kind body =>
          have length : n.toNat = body.length + 1 := by
            have taken := congrArg List.length hpieces
            rw [List.length_take, List.length_cons] at taken
            omega
          have whole : rest = kind :: (body ++ rest.drop n.toNat) := by
            rw [← List.cons_append, ← hpieces, List.take_append_drop]
          have shorter : (rest.drop n.toNat).length < len := by
            rw [← hlen, List.length_drop, List.length_cons]
            omega
          rw [whole, split_next length]
          exact .next length (ih _ shorter _ rfl)

/-- Every row of octets is framed in one way. -/
theorem framed_iff : Framed bytes ss ↔ split bytes = ss := by
  constructor
  · intro h
    induction h with
    | ended => rw [split]
    | padding rest => exact split_padding rest
    | truncated short => exact split_truncated short
    | next length _ ih => rw [split_next length, ih]
  · rintro rfl
    exact framed_split bytes

/-! ### Items -/

/-- The items of some octets each that stand in a row; a rest that is too short is none. -/
def items (width : Nat) (body : List UInt8) : List (List UInt8) :=
  (List.range (body.length / width)).map fun i => (body.drop (i * width)).take width

theorem chunks_eq_items (pos : 0 < width) (body : List UInt8) :
    chunks width body = items width body := by
  induction hlen : body.length using Nat.strong_induction_on generalizing body with
  | _ len ih =>
    by_cases enough : width ≤ body.length
    · have shorter : (body.drop width).length < len := by
        rw [← hlen, List.length_drop]
        omega
      -- One item is taken off the front, and those of the rest move up by one.
      have count : body.length / width = (body.drop width).length / width + 1 := by
        rw [List.length_drop, Nat.div_eq_sub_div pos enough]
      rw [chunks, dif_pos ⟨pos, enough⟩, ih _ shorter _ rfl]
      unfold items
      rw [count, List.range_succ_eq_map, List.map_cons, List.map_map]
      congr 1
      · rw [Nat.zero_mul, List.drop_zero]
      · refine List.map_congr_left fun i _ => ?_
        show _ = (body.drop ((i + 1) * width)).take width
        rw [List.drop_drop, Nat.add_mul, Nat.one_mul, Nat.add_comm]
    · -- What is left is too short for one more.
      have none : body.length / width = 0 := Nat.div_eq_of_lt (Nat.lt_of_not_le enough)
      rw [chunks, dif_neg fun h => enough h.2]
      unfold items
      rw [none]
      rfl

/-- Every item is whole. -/
theorem length_of_mem_items {item : List UInt8} (mem : item ∈ items width body) :
    item.length = width := by
  obtain ⟨i, hi, rfl⟩ := List.mem_map.mp mem
  rw [List.mem_range] at hi
  have whole : (i + 1) * width ≤ body.length :=
    (Nat.mul_le_mul_right width hi).trans (Nat.div_mul_le_self body.length width)
  rw [Nat.add_mul, Nat.one_mul] at whole
  rw [List.length_take, List.length_drop]
  omega

end AdStructure

/-! ### Numbers -/

namespace Uuid

/-- The number of octets of which the first counts least. -/
def number (octets : List UInt8) : Nat :=
  ∑ i : Fin octets.length, (octets.get i).toNat * 256 ^ (i : Nat)

theorem number_cons (b : UInt8) (octets : List UInt8) :
    number (b :: octets) = number octets * 256 + b.toNat := by
  show ∑ i : Fin (octets.length + 1), ((b :: octets).get i).toNat * 256 ^ (i : Nat) = _
  rw [Fin.sum_univ_succ, add_comm, number, Finset.sum_mul]
  congr 1
  · refine Finset.sum_congr rfl fun i _ => ?_
    show (octets.get i).toNat * 256 ^ ((i : Nat) + 1) = _
    rw [pow_succ, mul_assoc]
  · show b.toNat * 256 ^ 0 = _
    rw [pow_zero, mul_one]

theorem littleEndian_eq_number (octets : List UInt8) : littleEndian octets = number octets := by
  induction octets with
  | nil => rfl
  | cons b octets ih =>
    rw [number_cons, ← ih]
    rfl

theorem number_lt (octets : List UInt8) : number octets < 256 ^ octets.length := by
  induction octets with
  | nil => exact Nat.one_pos
  | cons b octets ih =>
    have byte := b.toNat_lt
    rw [number_cons, List.length_cons, Nat.pow_succ]
    omega

end Uuid

end BluetoothDiscovery
