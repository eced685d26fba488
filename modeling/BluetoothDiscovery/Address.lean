import BluetoothDiscovery.Text.Blank
import BluetoothDiscovery.Text.Hex
import BluetoothDiscovery.Text.Split

/-!
# Device addresses

An `Address` is a number of 48 bits. It is shown as six octets, the most significant first, each as
two upper-case hexadecimal digits, with colons between them. `Address.parse` reads that form in
either case and with blanks around it.

Addresses are ordered as numbers, which is also the order of their octets and of their text.
-/

namespace BluetoothDiscovery

/-- A device address of 48 bits. -/
structure Address where
  toNat : Nat
  lt : toNat < 0x1000000000000
deriving DecidableEq, Repr

namespace Address

/-- The address of the lowest 48 bits of a number. -/
def ofNat (n : Nat) : Address :=
  ⟨n % 0x1000000000000, Nat.mod_lt _ (by decide)⟩

instance : Inhabited Address := ⟨ofNat 0⟩

instance : LE Address := ⟨fun a b => a.toNat ≤ b.toNat⟩

instance : LT Address := ⟨fun a b => a.toNat < b.toNat⟩

instance (a b : Address) : Decidable (a ≤ b) := inferInstanceAs (Decidable (a.toNat ≤ b.toNat))

instance (a b : Address) : Decidable (a < b) := inferInstanceAs (Decidable (a.toNat < b.toNat))

/-! ### Octets -/

/-- The octets of an address, most significant first. -/
def octets (a : Address) : Vector UInt8 6 :=
  Vector.ofFn fun i => UInt8.ofNat (a.toNat >>> (8 * (5 - i.val)))

/-- The address with given octets, most significant first. -/
def ofOctets (v : Vector UInt8 6) : Address where
  toNat := ((((v[0].toNat * 256 + v[1].toNat) * 256 + v[2].toNat) * 256 + v[3].toNat) * 256 +
    v[4].toNat) * 256 + v[5].toNat
  lt := by
    have h₀ := v[0].toNat_lt
    have h₁ := v[1].toNat_lt
    have h₂ := v[2].toNat_lt
    have h₃ := v[3].toNat_lt
    have h₄ := v[4].toNat_lt
    have h₅ := v[5].toNat_lt
    omega

/-! ### Text -/

/-- An address as it is shown, in characters. -/
def toChars (a : Address) : List Char :=
  [':'].intercalate (a.octets.toList.map fun b => Text.hexDigits Text.upperDigit 2 b.toNat)

/-- An address as it is shown. -/
def render (a : Address) : String :=
  String.ofList a.toChars

instance : ToString Address := ⟨render⟩

/-- A text that is not an address. -/
structure ParseError where
  text : String
deriving DecidableEq, Repr

/-- What is said about a text that is not an address; the text is quoted as it was given. -/
def ParseError.message (e : ParseError) : String :=
  s!"invalid Bluetooth address: '{e.text}'"

/-- One octet from two characters: two digits, or one digit after a plus sign. -/
def octet? : List Char → Option UInt8
  | [a, b] => (Text.readSignedHex? [a, b]).map UInt8.ofNat
  | _ => none

/-- The address that six parts stand for. -/
def ofParts? : List (List Char) → Option Address
  | [a, b, c, d, e, f] => do
    return ofOctets #v[← octet? a, ← octet? b, ← octet? c, ← octet? d, ← octet? e, ← octet? f]
  | _ => none

/-- Reads an address: six parts with colons between them, after the blanks around them are gone. -/
def parse (s : String) : Except ParseError Address :=
  match ofParts? (Text.splitOn ':' (Text.trim s.toList)) with
  | some a => .ok a
  | none => .error ⟨s⟩

end Address

end BluetoothDiscovery
