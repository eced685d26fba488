import BluetoothDiscovery.Text.Blank
import BluetoothDiscovery.Text.Hex
import BluetoothDiscovery.Text.Split

/-!
# Sets of named flags

A `Flags table` is a set of flags of eight bits. The table names some of the bits, in the order in
which names are listed; the other bits can be set too and are kept. As text a set is its names with
bars between them, then the bits without a name as one hexadecimal number.
-/

namespace BluetoothDiscovery

/-- The named bits of a kind of flags, in the order in which they are listed. -/
abbrev FlagTable := List (String × UInt8)

/-- A set of flags. -/
structure Flags (table : FlagTable) where
  bits : UInt8
deriving DecidableEq, Repr

namespace Flags

variable {table : FlagTable}

/-- No flag. -/
def empty : Flags table := ⟨0⟩

instance : EmptyCollection (Flags table) := ⟨empty⟩

instance : Inhabited (Flags table) := ⟨∅⟩

/-- Whether no bit is set, named or not. -/
def isEmpty (f : Flags table) : Bool := f.bits == 0

/-- The flags in either set. -/
def union (f g : Flags table) : Flags table := ⟨f.bits ||| g.bits⟩

instance : Union (Flags table) := ⟨union⟩

/-- Whether all of `g` is in `f`. -/
def contains (f g : Flags table) : Bool := f.bits &&& g.bits == g.bits

/-- `f` where a condition holds, and no flag otherwise. -/
def onlyIf (condition : Bool) (f : Flags table) : Flags table := if condition then f else ∅

/-- The names of the flags in a set, in the order of the table. -/
def names (f : Flags table) : List String :=
  (table.filter fun e => f.bits &&& e.2 == e.2).map (·.1)

/-- The bits of a set that the table has no name for. -/
def unnamed (f : Flags table) : UInt8 :=
  table.foldl (fun bits e => bits &&& ~~~ e.2) f.bits

/-! ### Text -/

/-- A set as text. -/
def render (f : Flags table) : String :=
  let rest := if f.unnamed = 0 then []
    else ["0x" ++ String.ofList (Text.lowerHex f.unnamed.toNat)]
  " | ".intercalate (f.names ++ rest)

/-- A set as text with the kind of its flags, where the empty set shows as well. -/
def describe (kind : String) (f : Flags table) : String :=
  let inside := if f.isEmpty then "0x0" else f.render
  s!"{kind}({inside})"

/-- One piece of a text: bits after `0x`, or a name of the table. -/
def piece? (cs : List Char) : Option (Flags table) :=
  match cs with
  | '0' :: 'x' :: digits => do
    let n ← Text.readSignedHex? digits
    if n < 256 then some ⟨UInt8.ofNat n⟩ else none
  | cs => (table.find? (·.1 == String.ofList cs)).map fun e => ⟨e.2⟩

/-- Reads a set: nothing but blanks is the empty set; otherwise each piece between the bars counts,
without the blanks around it. -/
def parse? (s : String) : Option (Flags table) :=
  if s.toList.all Text.isBlank then some ∅
  else (Text.splitOn '|' s.toList).foldlM (fun f p => (piece? (Text.trim p)).map (f ∪ ·)) ∅

end Flags

end BluetoothDiscovery
