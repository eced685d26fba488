import BluetoothDiscovery.Text.Hex

/-!
# Service UUIDs

A `Uuid` is a number of 128 bits. Services that Bluetooth itself assigns have short identifiers of
16 or 32 bits, which stand for the UUID `xxxxxxxx-0000-1000-8000-00805f9b34fb`; `Uuid.ofShort` is
that expansion, and it is the same for a short identifier of either width.
-/

namespace BluetoothDiscovery

/-- A service identifier of 128 bits. -/
structure Uuid where
  toNat : Nat
  lt : toNat < 0x100000000000000000000000000000000
deriving DecidableEq, Repr

namespace Uuid

/-- The UUID of the lowest 128 bits of a number. -/
def ofNat (n : Nat) : Uuid :=
  ⟨n % 0x100000000000000000000000000000000, Nat.mod_lt _ (by decide)⟩

/-- What the short identifiers leave of a UUID: its lowest 96 bits. -/
def baseLow : Nat := 0x0000_1000_8000_0080_5f9b_34fb

/-- The UUID of a short identifier: the identifier stands above the base. -/
def ofShort (short : UInt32) : Uuid where
  toNat := short.toNat * 0x1000000000000000000000000 + baseLow
  lt := by
    have := short.toNat_lt
    simp only [baseLow]
    omega

/-- Different short identifiers stand for different services. -/
theorem ofShort_inj {a b : UInt32} : ofShort a = ofShort b ↔ a = b := by
  constructor
  · intro h
    have : a.toNat * 0x1000000000000000000000000 + baseLow =
        b.toNat * 0x1000000000000000000000000 + baseLow := congrArg toNat h
    exact UInt32.toNat_inj.1 (by omega)
  · rintro rfl
    rfl

/-- The number whose octets, least significant first, are given. -/
def littleEndian (octets : List UInt8) : Nat :=
  octets.foldr (fun b n => n * 256 + b.toNat) 0

/-- The number whose octets, most significant first, are given. -/
def bigEndian (octets : List UInt8) : Nat :=
  octets.foldl (fun n b => n * 256 + b.toNat) 0

/-- The UUID of an identifier in little-endian octets: two or four octets are a short identifier,
sixteen are the whole. -/
def ofLittleEndian (octets : List UInt8) : Uuid :=
  if octets.length ≤ 4 then ofShort (UInt32.ofNat (littleEndian octets))
  else ofNat (littleEndian octets)

/-! ### Text -/

/-- The hyphens of a UUID stand after the eighth, twelfth, sixteenth and twentieth digit. -/
def hyphenated (digits : List Char) : List Char :=
  let (a, r) := digits.splitAt 8
  let (b, r) := r.splitAt 4
  let (c, r) := r.splitAt 4
  let (d, e) := r.splitAt 4
  ['-'].intercalate [a, b, c, d, e]

/-- A UUID as text: lower-case digits with hyphens. -/
def render (u : Uuid) : String :=
  String.ofList (hyphenated (Text.hexDigits Text.lowerDigit 32 u.toNat))

instance : ToString Uuid := ⟨render⟩

/-- The UUID of exactly 32 digits. -/
def ofDigits? (cs : List Char) : Option Uuid :=
  if cs.length = 32 then (Text.readHex? cs).map ofNat else none

/-- The UUID of digits with hyphens at their places. -/
def ofHyphenated? (cs : List Char) : Option Uuid :=
  let digits := cs.filter (· != '-')
  if cs = hyphenated digits then ofDigits? digits else none

/-- The scheme that may stand before a hyphenated UUID, in lower case. -/
def scheme : List Char := "urn:uuid:".toList

/-- Reads a UUID: its 32 digits alone, or hyphenated, and then also in braces or after the
scheme. Letters may be of either case throughout. -/
def parse? (s : String) : Option Uuid :=
  let cs := s.toList
  if cs.length = 32 then ofDigits? cs
  else match cs with
    | '\x7b' :: rest =>
      if rest.getLast? = some '\x7d' then ofHyphenated? rest.dropLast else none
    | cs =>
      if (cs.take scheme.length).map Char.toLower = scheme then
        ofHyphenated? (cs.drop scheme.length)
      else ofHyphenated? cs

end Uuid

end BluetoothDiscovery
