/-!
# Advertising data structures

The octets of an advertisement are a row of structures, each a length octet, a kind and a body; the
length counts the kind and the body. A length of zero, or one that reaches beyond the end, ends the
row, and what follows is no part of it.
-/

namespace BluetoothDiscovery

/-- One structure of an advertisement. -/
structure AdStructure where
  kind : UInt8
  body : List UInt8
deriving DecidableEq, Repr

namespace AdStructure

/-- The structures at the front of a row of octets. -/
def split : List UInt8 → List AdStructure
  | [] => []
  | n :: rest =>
    if rest.length < n.toNat then []
    else match rest.take n.toNat with
      | [] => []
      | kind :: body => ⟨kind, body⟩ :: split (rest.drop n.toNat)
termination_by bytes => bytes.length
decreasing_by
  simp only [List.length_drop, List.length_cons]
  omega

/-- A structure as octets. -/
def octets (s : AdStructure) : List UInt8 :=
  UInt8.ofNat (s.body.length + 1) :: s.kind :: s.body

/-- The pieces of `width` octets at the front of a row; a shorter rest is left out. -/
def chunks (width : Nat) (bytes : List UInt8) : List (List UInt8) :=
  if _h : 0 < width ∧ width ≤ bytes.length then
    bytes.take width :: chunks width (bytes.drop width)
  else []
termination_by bytes.length
decreasing_by
  simp only [List.length_drop]
  omega

end AdStructure

end BluetoothDiscovery
