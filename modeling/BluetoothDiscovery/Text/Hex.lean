/-!
# Hexadecimal text

Digits are read in either case. `readHex?` reads a whole text as one number; `hexDigits` writes the
lowest digits of a number at a fixed width, most significant digit first.
-/

namespace BluetoothDiscovery.Text

/-- The value of one hexadecimal digit, in either case. -/
def hexValue? (c : Char) : Option Nat :=
  if '0' ≤ c ∧ c ≤ '9' then some (c.toNat - '0'.toNat)
  else if 'a' ≤ c ∧ c ≤ 'f' then some (c.toNat - 'a'.toNat + 10)
  else if 'A' ≤ c ∧ c ≤ 'F' then some (c.toNat - 'A'.toNat + 10)
  else none

/-- The number that a row of digits adds to the digits before it. -/
def readHexFrom? (acc : Nat) : List Char → Option Nat
  | [] => some acc
  | c :: r => (hexValue? c).bind fun d => readHexFrom? (acc * 16 + d) r

/-- The number that a text of one or more digits stands for; any other text is refused. -/
def readHex? : List Char → Option Nat
  | [] => none
  | cs => readHexFrom? 0 cs

/-- As `readHex?`, but the digits may follow one plus sign. -/
def readSignedHex? : List Char → Option Nat
  | '+' :: r => readHex? r
  | cs => readHex? cs

/-- The digit of a value below 16, with letters in lower case. -/
def lowerDigit (d : Nat) : Char :=
  if d < 10 then Char.ofNat ('0'.toNat + d) else Char.ofNat ('a'.toNat + (d - 10))

/-- The digit of a value below 16, with letters in upper case. -/
def upperDigit (d : Nat) : Char :=
  if d < 10 then Char.ofNat ('0'.toNat + d) else Char.ofNat ('A'.toNat + (d - 10))

/-- The lowest `width` digits of `n`, most significant first, each written by `digit`. -/
def hexDigits (digit : Nat → Char) : Nat → Nat → List Char
  | 0, _ => []
  | width + 1, n => hexDigits digit width (n / 16) ++ [digit (n % 16)]

@[simp] theorem length_hexDigits (digit : Nat → Char) (width n : Nat) :
    (hexDigits digit width n).length = width := by
  induction width generalizing n with
  | zero => rfl
  | succ w ih => simp [hexDigits, ih]

/-- A number in lower-case digits, as few as it needs and at least one. -/
def lowerHex (n : Nat) : List Char :=
  (Nat.toDigits 16 n)

end BluetoothDiscovery.Text
