import BluetoothDiscovery.Text.Decimal
import BluetoothDiscovery.Text.DoubleRange
import BluetoothDiscovery.Value

/-!
# Numbers in JSON

A number without a fraction and an exponent is an integer, if it has one of 64 bits. Any other is a
double, and as such it is only approximate: of its digits the first count as far as they make a
number of 64 bits, and this number and the power of ten that it is multiplied by are rounded before
the product is. A number whose product is infinite is well-formed, but stands for no value.
-/

namespace BluetoothDiscovery.Json

open Text (digitsValue doubleBound nearestDouble)

/-- An integer of at most 64 bits, signed or unsigned, or else a number that is not kept exactly. -/
def integerValue (negative : Bool) (n : Nat) : Value :=
  if negative then
    if n ≠ 0 ∧ n ≤ 0x8000000000000000 then .integer (-n) else .inexact
  else if n < 0x10000000000000000 then .integer n
  else .inexact

/-- The digits after a decimal point, if a point follows. -/
def readFraction? : List Char → Option (List Char × List Char)
  | '.' :: cs =>
    let ds := cs.takeWhile Char.isDigit
    if ds.isEmpty then none else some (ds, cs.dropWhile Char.isDigit)
  | cs => some ([], cs)

/-- The exponent, if a mark for one follows. -/
def readExponent? : List Char → Option (Option Int × List Char)
  | c :: cs =>
    if c = 'e' ∨ c = 'E' then
      let (negative, ds) := match cs with
        | '-' :: r => (true, r)
        | '+' :: r => (false, r)
        | r => (false, r)
      let digits := ds.takeWhile Char.isDigit
      if digits.isEmpty then none
      else
        let n : Int := digitsValue digits
        some (some (if negative then -n else n), ds.dropWhile Char.isDigit)
    else some (none, c :: cs)
  | [] => some (none, [])

/-- Takes digits behind a number as long as it has 64 bits: the number they make, and how many
digits are left. -/
def leadingDigits (n : Nat) : List Char → Nat × Nat
  | [] => (n, 0)
  | d :: ds =>
    let m := n * 10 + digitsValue [d]
    if m < 0x10000000000000000 then leadingDigits m ds else (n, ds.length + 1)

/-- Whether a number with some digits before and after its point, and with an exponent, is infinite
as a double. -/
def isInfinite (whole fraction : List Char) (exponent : Int) : Bool :=
  let (n, wholeLeft) := leadingDigits 0 whole
  let (n, fractionLeft) := leadingDigits n fraction
  let scale : Int := exponent + wholeLeft + fractionLeft - fraction.length
  if n = 0 ∨ scale < 0 then false
  else if 308 < scale then true
  else decide (doubleBound ≤ nearestDouble n * nearestDouble (Nat.pow 10 scale.toNat))

/-- A number without its sign. Digits after a leading zero are refused. -/
def readUnsigned? (negative : Bool) (cs : List Char) : Option (Value × List Char) := do
  let whole := cs.takeWhile Char.isDigit
  if whole.isEmpty ∨ (whole.length ≠ 1 ∧ whole.head? = some '0') then none
  else
    let (fraction, cs) ← readFraction? (cs.dropWhile Char.isDigit)
    let (exponent, cs) ← readExponent? cs
    let value :=
      if isInfinite whole fraction (exponent.getD 0) then .unreadable
      else if fraction.isEmpty ∧ exponent.isNone then integerValue negative (digitsValue whole)
      else .inexact
    return (value, cs)

end BluetoothDiscovery.Json
