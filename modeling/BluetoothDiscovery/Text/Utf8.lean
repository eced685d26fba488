/-!
# Reading UTF-8

`scan` splits octets into characters. Octets that no character can start with, or a character that
breaks off, give one `none` for each longest run that could still have been the start of a
character. `decode?` refuses such text; `decodeLossy` puts U+FFFD in the place of each `none`.
-/

namespace BluetoothDiscovery.Text.Utf8

/-- What an octet opens: the bits it holds of its character and the range of each octet to come.
The ranges after `E0`, `ED`, `F0` and `F4` leave out overlong forms, surrogates and numbers above
`10FFFF`. -/
def opening? (b : Nat) : Option (Nat × List (Nat × Nat)) :=
  let tail := (0x80, 0xBF)
  if b < 0x80 then some (b, [])
  else if b < 0xC2 then none
  else if b < 0xE0 then some (b - 0xC0, [tail])
  else if b = 0xE0 then some (0, [(0xA0, 0xBF), tail])
  else if b = 0xED then some (0xD, [(0x80, 0x9F), tail])
  else if b < 0xF0 then some (b - 0xE0, [tail, tail])
  else if b = 0xF0 then some (0, [(0x90, 0xBF), tail, tail])
  else if b < 0xF4 then some (b - 0xF0, [tail, tail, tail])
  else if b = 0xF4 then some (4, [(0x80, 0x8F), tail, tail])
  else none

/-- Goes on with a character: its number, unless an octet to come is missing or out of range, and
the octets that are left. -/
def finish (acc : Nat) : List (Nat × Nat) → List UInt8 → Option Nat × List UInt8
  | [], bs => (some acc, bs)
  | _ :: _, [] => (none, [])
  | (low, high) :: ranges, b :: bs =>
    if low ≤ b.toNat ∧ b.toNat ≤ high then finish (acc * 64 + (b.toNat - 0x80)) ranges bs
    else (none, b :: bs)

theorem length_finish_le (acc : Nat) (ranges : List (Nat × Nat)) (bs : List UInt8) :
    (finish acc ranges bs).2.length ≤ bs.length := by
  induction ranges generalizing acc bs with
  | nil => simp [finish]
  | cons r ranges ih =>
    cases bs with
    | nil => simp [finish]
    | cons b bs =>
      rw [finish]
      split
      · exact Nat.le_trans (ih _ _) (by simp)
      · simp

/-- The characters of an octet row, with `none` for each piece that is not one. -/
def scan : List UInt8 → List (Option Char)
  | [] => []
  | b :: bs =>
    match opening? b.toNat with
    | none => none :: scan bs
    | some (bits, ranges) =>
      ((finish bits ranges bs).1.map Char.ofNat) :: scan (finish bits ranges bs).2
termination_by bs => bs.length
decreasing_by
  · simp
  · exact Nat.lt_succ_of_le (length_finish_le _ _ _)

/-- The text of an octet row, if every octet belongs to a character. -/
def decode? (bs : List UInt8) : Option (List Char) :=
  (scan bs).mapM id

/-- The text of an octet row, with U+FFFD for each piece that is not a character. -/
def decodeLossy (bs : List UInt8) : List Char :=
  (scan bs).map (·.getD '\uFFFD')

end BluetoothDiscovery.Text.Utf8
