/-!
# Decimal numbers

The value of a row of decimal digits, and whole numbers as text.
-/

namespace BluetoothDiscovery.Text

/-- The value of a row of decimal digits. -/
def digitsValue (ds : List Char) : Nat :=
  ds.foldl (fun n d => n * 10 + (d.toNat - '0'.toNat)) 0

/-- The number that a text of one or more decimal digits stands for. One plus sign may stand in
front of them. -/
def readDecimal? (s : String) : Option Nat :=
  let ds := match s.toList with
    | '+' :: ds => ds
    | ds => ds
  if !ds.isEmpty && ds.all Char.isDigit then some (digitsValue ds) else none

end BluetoothDiscovery.Text
