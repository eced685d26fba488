import BluetoothDiscovery.Text.Hex

/-!
# Strings in TOML

TOML writes a string in one of four forms. With `"` there are escapes, with `'` there are none; one
quote admits a single line, and three quotes admit several, where a line break right after the
opening quotes does not count. Up to two quotes may stand before the three that close a string.

`quote` writes a string in the first of the forms that suits it, and `readQuoted?` reads any form.
-/

namespace BluetoothDiscovery.Toml

open Text (hexDigits readHex? upperDigit)

/-! ### Reading -/

/-- Whether a character may stand in a string as it is: it is a tab, or no control character. -/
def isPlain (c : Char) : Bool :=
  c == '\t' || (0x20 ≤ c.toNat && c.toNat != 0x7F)

/-- The character of an escape of one letter. -/
def escape? : Char → Option Char
  | 'b' => some '\x08'
  | 't' => some '\t'
  | 'n' => some '\n'
  | 'f' => some '\x0c'
  | 'r' => some '\r'
  | '"' => some '"'
  | '\\' => some '\\'
  | _ => none

/-- The character with a number in hexadecimal digits. -/
def scalarValue? (digits : List Char) : Option Char := do
  let n ← readHex? digits
  if h : n.isValidChar then some (Char.ofNatAux n h) else none

/-- A string with one more character in front. -/
def prepend (c : Char) (read : Option (List Char × List Char)) :
    Option (List Char × List Char) :=
  read.map fun (s, rest) => (c :: s, rest)

/-- The end of a string of several lines at one of its quotes, `rest` being what follows that quote:
three quotes close the string, and of more than three the first two at most belong to it. -/
def closeLines? (q : Char) (rest : List Char) : Option (List Char × List Char) :=
  let more := (rest.takeWhile (· == q)).length
  if more < 2 then none
  else
    let kept := min (more - 2) 2
    some (List.replicate kept q, rest.drop (kept + 2))

/-- Whether there is a line break with nothing but blanks before it. -/
def startsBreak (cs : List Char) : Bool :=
  match cs.dropWhile fun c => c == ' ' || c == '\t' with
  | '\n' :: _ => true
  | '\r' :: '\n' :: _ => true
  | _ => false

/-- A string of one line with escapes, after its opening quote. -/
def readLine? : List Char → Option (List Char × List Char)
  | '"' :: rest => some ([], rest)
  | '\\' :: 'u' :: a :: b :: c :: d :: rest => do
    prepend (← scalarValue? [a, b, c, d]) (readLine? rest)
  | '\\' :: 'U' :: a :: b :: c :: d :: e :: f :: g :: h :: rest => do
    prepend (← scalarValue? [a, b, c, d, e, f, g, h]) (readLine? rest)
  | '\\' :: e :: rest => do prepend (← escape? e) (readLine? rest)
  | c :: rest => if isPlain c ∧ c ≠ '\\' then prepend c (readLine? rest) else none
  | [] => none

/-- A string of one line without escapes, after its opening quote. -/
def readLiteralLine? : List Char → Option (List Char × List Char)
  | '\'' :: rest => some ([], rest)
  | c :: rest => if isPlain c then prepend c (readLiteralLine? rest) else none
  | [] => none

/-- A string of several lines with escapes, after its opening quotes and the line break after them.
The flag tells that an escaped line break stands just before; then blanks and further line breaks
are passed over. -/
def readLines? : Bool → List Char → Option (List Char × List Char)
  | true, ' ' :: rest => readLines? true rest
  | true, '\t' :: rest => readLines? true rest
  | true, '\n' :: rest => readLines? true rest
  | true, '\r' :: '\n' :: rest => readLines? true rest
  | _, '"' :: rest => (closeLines? '"' rest).or (prepend '"' (readLines? false rest))
  | _, '\\' :: 'u' :: a :: b :: c :: d :: rest => do
    prepend (← scalarValue? [a, b, c, d]) (readLines? false rest)
  | _, '\\' :: 'U' :: a :: b :: c :: d :: e :: f :: g :: h :: rest => do
    prepend (← scalarValue? [a, b, c, d, e, f, g, h]) (readLines? false rest)
  | _, '\\' :: e :: rest =>
    if startsBreak (e :: rest) then readLines? true rest
    else do prepend (← escape? e) (readLines? false rest)
  | _, '\r' :: '\n' :: rest => prepend '\n' (readLines? false rest)
  | _, c :: rest =>
    if c = '\n' ∨ (isPlain c ∧ c ≠ '\\') then prepend c (readLines? false rest) else none
  | _, [] => none

/-- A string of several lines without escapes, after its opening quotes and the line break after
them. -/
def readLiteralLines? : List Char → Option (List Char × List Char)
  | '\'' :: rest => (closeLines? '\'' rest).or (prepend '\'' (readLiteralLines? rest))
  | '\r' :: '\n' :: rest => prepend '\n' (readLiteralLines? rest)
  | c :: rest => if c = '\n' ∨ isPlain c then prepend c (readLiteralLines? rest) else none
  | [] => none

/-- The text after a line break at its front, or the text itself. -/
def skipBreak : List Char → List Char
  | '\n' :: rest => rest
  | '\r' :: '\n' :: rest => rest
  | cs => cs

/-- A string in any form, and the rest of the text. -/
def readQuoted? : List Char → Option (List Char × List Char)
  | '"' :: '"' :: '"' :: rest => readLines? false (skipBreak rest)
  | '"' :: rest => readLine? rest
  | '\'' :: '\'' :: '\'' :: rest => readLiteralLines? (skipBreak rest)
  | '\'' :: rest => readLiteralLine? rest
  | _ => none

/-! ### Writing -/

/-- A character that has to be escaped: a control character other than a tab or a line feed. -/
def isControl (c : Char) : Bool :=
  (c.toNat < 0x20 && c != '\t' && c != '\n') || c.toNat == 0x7F

/-- Whether three of a character stand side by side. -/
def hasTriple (q : Char) : List Char → Bool
  | a :: b :: c :: rest => (a == q && b == q && c == q) || hasTriple q (b :: c :: rest)
  | _ => false

/-- A character in a string with escapes, but for the quote and the line feed. -/
def escapeChar (c : Char) : List Char :=
  match c with
  | '\x08' => ['\\', 'b']
  | '\t' => ['\\', 't']
  | '\x0c' => ['\\', 'f']
  | '\r' => ['\\', 'r']
  | '\\' => ['\\', '\\']
  | c => if isControl c then '\\' :: 'u' :: hexDigits upperDigit 4 c.toNat else [c]

/-- The inside of a string of one line with escapes. -/
def escapeLine (cs : List Char) : List Char :=
  cs.flatMap fun c =>
    if c = '"' then ['\\', '"'] else if c = '\n' then ['\\', 'n'] else escapeChar c

/-- The inside of a string of several lines with escapes: every third quote of a run is escaped, so
that no three stand side by side. `run` counts the quotes just before. -/
def escapeLines (run : Nat) : List Char → List Char
  | [] => []
  | c :: rest =>
    if c = '"' then
      if run = 2 then '\\' :: '"' :: escapeLines 0 rest else '"' :: escapeLines (run + 1) rest
    else (if c = '\n' then ['\n'] else escapeChar c) ++ escapeLines 0 rest

/-- The forms of a string. -/
inductive Form where
  | line
  | literalLine
  | lines
  | literalLines
deriving DecidableEq, Repr

/-- The form in which a string is written: the first of the four that needs no escape but for tabs,
and otherwise one with escapes, of several lines if the string has a line break. -/
def formOf (cs : List Char) : Form :=
  let control := cs.any isControl
  let multiline := cs.contains '\n'
  if !control && !cs.contains '\\' && !cs.contains '"' && !multiline then .line
  else if !control && !cs.contains '\'' && !multiline then .literalLine
  else if !control && !cs.contains '\\' && !hasTriple '"' cs then .lines
  else if !control && !hasTriple '\'' cs then .literalLines
  else if multiline then .lines
  else .line

/-- A string in a given form. Of several lines, the first is written on a line of its own. -/
def write (cs : List Char) : Form → List Char
  | .line => '"' :: escapeLine cs ++ ['"']
  | .literalLine => '\'' :: cs ++ ['\'']
  | .lines => '"' :: '"' :: '"' :: lead ++ escapeLines 0 cs ++ ['"', '"', '"']
  | .literalLines => '\'' :: '\'' :: '\'' :: lead ++ cs ++ ['\'', '\'', '\'']
where
  /-- The line break after the opening quotes. -/
  lead : List Char := if cs.contains '\n' then ['\n'] else []

/-- A string with its quotes. -/
def quote (cs : List Char) : List Char := write cs (formOf cs)

end BluetoothDiscovery.Toml
