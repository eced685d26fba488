import BluetoothDiscovery.Json.Number
import BluetoothDiscovery.Text.Hex

/-!
# Reading JSON

`Json.read?` reads a whole text as one value, strictly by the grammar of RFC 8259: no leading zeros,
no comments, no control characters inside strings, nothing but blanks around the value. Each part of
the grammar is a function from the rest of the text to what it read and the rest after it.

The grammar alone does not make every number and string a value: half of a surrogate pair and a
number beyond the range of doubles become `Value.unreadable`, which may be skipped but not read.
-/

namespace BluetoothDiscovery.Json

open Text (hexValue?)

/-- The four characters that may stand between tokens. -/
def isSpace (c : Char) : Bool :=
  c == ' ' || c == '\n' || c == '\t' || c == '\r'

/-- The text from its next token on. -/
def skipSpace (cs : List Char) : List Char :=
  cs.dropWhile isSpace

/-! ### Strings -/

/-- The character of a one-letter escape. -/
def escape? : Char → Option Char
  | '"' => some '"'
  | '\\' => some '\\'
  | '/' => some '/'
  | 'b' => some '\x08'
  | 'f' => some '\x0c'
  | 'n' => some '\n'
  | 'r' => some '\r'
  | 't' => some '\t'
  | _ => none

/-- One code unit of 16 bits, from the four digits after its escape. -/
def unit? (a b c d : Char) : Option Nat := do
  return (((← hexValue? a) * 16 + (← hexValue? b)) * 16 + (← hexValue? c)) * 16 + (← hexValue? d)

/-- A piece of a string. -/
inductive Piece where
  /-- A character that stands for itself. -/
  | plain (c : Char)
  /-- A character that an escape of one letter stands for. -/
  | escaped (c : Char)
  /-- A code unit of 16 bits that an escape of four digits stands for. -/
  | unit (u : Nat)

/-- Whether a piece is no escape. -/
def Piece.isPlain : Piece → Bool
  | .plain _ => true
  | _ => false

/-- The pieces of a string after its opening quote. -/
def readPieces? : List Char → Option (List Piece × List Char)
  | '"' :: cs => some ([], cs)
  | '\\' :: 'u' :: a :: b :: c :: d :: cs => do
    let u ← unit? a b c d
    let (ps, rest) ← readPieces? cs
    return (.unit u :: ps, rest)
  | '\\' :: e :: cs => do
    let c ← escape? e
    let (ps, rest) ← readPieces? cs
    return (.escaped c :: ps, rest)
  | c :: cs =>
    if c.toNat < 0x20 ∨ c = '\\' then none
    else (readPieces? cs).map fun (ps, rest) => (.plain c :: ps, rest)
  | [] => none

/-- The characters of a string's pieces: a high and a low surrogate side by side are one character,
and a surrogate without its partner is none. -/
def joinPieces? : List Piece → Option (List Char)
  | [] => some []
  | .plain c :: ps => (joinPieces? ps).map (c :: ·)
  | .escaped c :: ps => (joinPieces? ps).map (c :: ·)
  | .unit u :: .unit v :: ps =>
    if 0xD800 ≤ u ∧ u < 0xDC00 then
      if 0xDC00 ≤ v ∧ v < 0xE000 then
        (joinPieces? ps).map (Char.ofNat (0x10000 + (u - 0xD800) * 0x400 + (v - 0xDC00)) :: ·)
      else none
    else if 0xDC00 ≤ u ∧ u < 0xE000 then none
    else (joinPieces? (.unit v :: ps)).map (Char.ofNat u :: ·)
  | .unit u :: ps =>
    if 0xD800 ≤ u ∧ u < 0xE000 then none
    else (joinPieces? ps).map (Char.ofNat u :: ·)

/-- A string after its opening quote; the inner `none` stands for one without a text. -/
def readString? (cs : List Char) : Option (Option String × List Char) :=
  (readPieces? cs).map fun (ps, rest) => ((joinPieces? ps).map String.ofList, rest)

/-- A key after its opening quote; the inner `none` stands for one without a text. -/
def readKey? (cs : List Char) : Option (Option Key × List Char) :=
  (readPieces? cs).map fun (ps, rest) =>
    ((joinPieces? ps).map fun cs => ⟨String.ofList cs, ps.all Piece.isPlain⟩, rest)

/-! ### Values -/

/-- Takes a given word from the front of a text. -/
def readWord? (word : String) (cs : List Char) : Option (List Char) :=
  if word.toList.isPrefixOf cs then some (cs.drop word.length) else none

/-- The table of some entries; a key without a text leaves it without a value. -/
def tableOf (entries : List (Option Key × Value)) : Value :=
  match entries.mapM fun e => e.1.map fun k => (k, e.2) with
  | some entries => .table entries
  | none => .unreadable

mutual

/-- The value at the front of a text. Every call to a part of the grammar costs one unit of fuel,
and each stands for at least one character of the text. -/
def readValue? : Nat → List Char → Option (Value × List Char)
  | 0, _ => none
  | fuel + 1, cs =>
    match skipSpace cs with
    | [] => none
    | c :: rest =>
      if c = '[' then
        match skipSpace rest with
        | ']' :: rest => some (.list [], rest)
        | _ => (readItems? fuel rest).map fun (vs, rest) => (.list vs, rest)
      else if c = '\x7b' then
        match skipSpace rest with
        | '\x7d' :: rest => some (.table [], rest)
        | _ => (readEntries? fuel rest).map fun (es, rest) =>
            (tableOf es, rest)
      else if c = '"' then
        (readString? rest).map fun (s, rest) => (s.elim .unreadable .text, rest)
      else if c = '-' then readUnsigned? true rest
      else if c.isDigit then readUnsigned? false (c :: rest)
      else if c = 'n' then (readWord? "ull" rest).map fun rest => (.null, rest)
      else if c = 't' then (readWord? "rue" rest).map fun rest => (.boolean true, rest)
      else if c = 'f' then (readWord? "alse" rest).map fun rest => (.boolean false, rest)
      else none

/-- The items of a list up to its closing bracket; there is at least one. -/
def readItems? : Nat → List Char → Option (List Value × List Char)
  | 0, _ => none
  | fuel + 1, cs => do
    let (v, rest) ← readValue? fuel cs
    match skipSpace rest with
    | ',' :: rest => (readItems? fuel rest).map fun (vs, rest) => (v :: vs, rest)
    | ']' :: rest => return ([v], rest)
    | _ => none

/-- The entries of a table up to its closing brace; there is at least one. -/
def readEntries? : Nat → List Char → Option (List (Option Key × Value) × List Char)
  | 0, _ => none
  | fuel + 1, cs =>
    match skipSpace cs with
    | '"' :: rest => do
      let (k, rest) ← readKey? rest
      match skipSpace rest with
      | ':' :: rest =>
        let (v, rest) ← readValue? fuel rest
        match skipSpace rest with
        | ',' :: rest => (readEntries? fuel rest).map fun (es, rest) => ((k, v) :: es, rest)
        | '\x7d' :: rest => return ([(k, v)], rest)
        | _ => none
      | _ => none
    | _ => none

end

/-- The value that a whole text stands for. -/
def read? (text : String) : Option Value := do
  let cs := text.toList
  let (v, rest) ← readValue? (cs.length + 1) cs
  if (skipSpace rest).isEmpty then some v else none

end BluetoothDiscovery.Json
