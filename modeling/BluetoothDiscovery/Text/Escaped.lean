/-!
# Text with escapes

`Text.escapedAscii` writes any text with the printable characters of ASCII alone, as it could stand
between quotes: what is beyond them stands as its code point between braces.
-/

namespace BluetoothDiscovery.Text

/-- One character between quotes. -/
def escapeToAscii (c : Char) : List Char :=
  if c = '\t' then ['\\', 't']
  else if c = '\n' then ['\\', 'n']
  else if c = '\r' then ['\\', 'r']
  else if c = '"' ∨ c = '\x27' ∨ c = '\\' then ['\\', c]
  else if 0x20 ≤ c.toNat ∧ c.toNat ≤ 0x7e then [c]
  else '\\' :: 'u' :: '\x7b' :: (Nat.toDigits 16 c.toNat ++ ['\x7d'])

/-- A text between quotes. -/
def escapedAscii (s : String) : String :=
  .ofList (s.toList.flatMap escapeToAscii)

end BluetoothDiscovery.Text
