import BluetoothDiscovery.Text.Hex
import BluetoothDiscovery.Value

/-!
# Writing JSON

`Json.compact` writes a value on one line without blanks; `Json.pretty` writes each item and entry
on a line of its own, two blanks deeper than its list or table. Strings escape the quote, the
backslash and the control characters below U+0020, and nothing else.
-/

namespace BluetoothDiscovery.Json

open Text (hexDigits lowerDigit)

/-- One character inside a string. -/
def escapeChar (c : Char) : List Char :=
  match c with
  | '"' => ['\\', '"']
  | '\\' => ['\\', '\\']
  | '\x08' => ['\\', 'b']
  | '\x0c' => ['\\', 'f']
  | '\n' => ['\\', 'n']
  | '\r' => ['\\', 'r']
  | '\t' => ['\\', 't']
  | c => if c.toNat < 0x20 then '\\' :: 'u' :: hexDigits lowerDigit 4 c.toNat else [c]

/-- A string with its quotes. -/
def quoted (s : String) : String :=
  String.ofList ('"' :: s.toList.flatMap escapeChar ++ ['"'])

/-- A value without parts. What has no JSON form of its own is written `null`. -/
def scalar : Value → String
  | .boolean true => "true"
  | .boolean false => "false"
  | .integer n => toString n
  | .text s => quoted s
  | _ => "null"

mutual

/-- A value on one line. -/
def compact : Value → String
  | .list items => "[" ++ ",".intercalate (compactItems items) ++ "]"
  | .table entries => "\x7b" ++ ",".intercalate (compactEntries entries) ++ "\x7d"
  | v => scalar v

/-- `compact` for each item. -/
def compactItems : List Value → List String
  | [] => []
  | v :: vs => compact v :: compactItems vs

/-- Each entry as its key and its `compact` value. -/
def compactEntries : List (Key × Value) → List String
  | [] => []
  | (k, v) :: es => (quoted k.text ++ ":" ++ compact v) :: compactEntries es

end

/-- Lines between two brackets, the lines one level deeper than the brackets. -/
def block (depth : Nat) (opening closing : String) (lines : List String) : String :=
  let margin (d : Nat) := "\n" ++ String.ofList (List.replicate (2 * d) ' ')
  if lines.isEmpty then opening ++ closing
  else opening ++ margin (depth + 1) ++ ("," ++ margin (depth + 1)).intercalate lines ++
    margin depth ++ closing

mutual

/-- A value over several lines; `depth` is the level of its closing bracket. -/
def prettyAt (depth : Nat) : Value → String
  | .list items => block depth "[" "]" (prettyItems (depth + 1) items)
  | .table entries => block depth "\x7b" "\x7d" (prettyEntries (depth + 1) entries)
  | v => scalar v

/-- `prettyAt` for each item. -/
def prettyItems (depth : Nat) : List Value → List String
  | [] => []
  | v :: vs => prettyAt depth v :: prettyItems depth vs

/-- Each entry as its key and its `prettyAt` value. -/
def prettyEntries (depth : Nat) : List (Key × Value) → List String
  | [] => []
  | (k, v) :: es => (quoted k.text ++ ": " ++ prettyAt depth v) :: prettyEntries depth es

end

/-- A value over several lines. -/
def pretty (v : Value) : String :=
  prettyAt 0 v

end BluetoothDiscovery.Json
