import BluetoothDiscovery.Toml.Quoted
import BluetoothDiscovery.Toml.Scalar
import BluetoothDiscovery.Toml.Tree

/-!
# Reading TOML

`Toml.read?` reads a document of TOML 1.0: line by line, each an entry, a header, a comment or
nothing. Each part of the grammar is a function from the rest of the text to what it read and the
rest after it.
-/

namespace BluetoothDiscovery.Toml

/-! ### Blanks and comments -/

/-- The text from its first character on that is neither a space nor a tab. -/
def skipBlank (cs : List Char) : List Char :=
  cs.dropWhile fun c => c == ' ' || c == '\t'

/-- The text after a comment, if one stands in front of it; a comment reaches to the end of the
line. -/
def skipComment : List Char → List Char
  | '#' :: rest => rest.dropWhile isPlain
  | cs => cs

/-- The text after the end of a line, before which only blanks and a comment may stand. -/
def endLine? (cs : List Char) : Option (List Char) :=
  match skipComment (skipBlank cs) with
  | [] => some []
  | '\n' :: rest => some rest
  | '\r' :: '\n' :: rest => some rest
  | _ => none

/-- The text after blanks, line breaks and comments, as they may stand inside a list. A comment in a
list ends with its line. -/
def skipLines : Nat → List Char → Option (List Char)
  | 0, cs => some cs
  | fuel + 1, cs =>
    match skipBlank cs with
    | '#' :: rest => (endLine? ('#' :: rest)).bind fun rest =>
        if rest.isEmpty then none else skipLines fuel rest
    | '\n' :: rest => skipLines fuel rest
    | '\r' :: '\n' :: rest => skipLines fuel rest
    | cs => some cs

/-! ### Keys -/

/-- Whether a character may stand in a key without quotes. -/
def isBare (c : Char) : Bool :=
  c.isAlphanum || c == '-' || c == '_'

/-- One part of a key. -/
def readKeyPart? (cs : List Char) : Option (String × List Char) :=
  match cs with
  | '"' :: '"' :: '"' :: _ => none
  | '\'' :: '\'' :: '\'' :: _ => none
  | '"' :: rest => (readLine? rest).map fun (k, rest) => (.ofList k, rest)
  | '\'' :: rest => (readLiteralLine? rest).map fun (k, rest) => (.ofList k, rest)
  | cs =>
    let bare := cs.takeWhile isBare
    if bare.isEmpty then none else some (.ofList bare, cs.dropWhile isBare)

/-- The parts of a dotted key before the last, the last, and the rest of the text after it. -/
def readKey? : Nat → List Char → Option (List String × String × List Char)
  | 0, _ => none
  | fuel + 1, cs => do
    let (part, rest) ← readKeyPart? (skipBlank cs)
    match skipBlank rest with
    | '.' :: rest => (readKey? fuel rest).map fun (parts, last, rest) => (part :: parts, last, rest)
    | rest => return ([], part, rest)

/-- No key has more parts, and no value more levels of brackets. -/
def nestingLimit : Nat := 79

/-- A key with the equals sign after it. -/
def readKeyOfEntry? (cs : List Char) : Option (List String × String × List Char) := do
  match ← readKey? nestingLimit cs with
  | (parts, last, '=' :: rest) => return (parts, last, rest)
  | _ => none

/-! ### Values -/

mutual

/-- A value at the front of a text. Every call costs one unit of fuel, and stands for a character of
the text; `depth` is how many brackets may still be opened. -/
def readValue? : Nat → Nat → List Char → Option (Value × List Char)
  | 0, _, _ => none
  | fuel + 1, depth, cs =>
    match cs with
    | '[' :: rest =>
      if depth = 0 then none
      else (readItems? fuel (depth - 1) rest).map fun (vs, rest) => (.list vs, rest)
    | '\x7b' :: rest =>
      if depth = 0 then none
      else match skipBlank rest with
        | '\x7d' :: rest => some (.table [], rest)
        | rest => (readEntries? fuel (depth - 1) (.header, []) rest).map fun (b, rest) =>
            (.table (Tree.entryValues b.2), rest)
    | c :: rest =>
      if c = '"' ∨ c = '\'' then
        (readQuoted? (c :: rest)).map fun (s, rest) => (.text (.ofList s), rest)
      else readScalar? (c :: rest)
    | [] => none

/-- The items of a list up to its closing bracket; a comma may stand before the bracket. -/
def readItems? : Nat → Nat → List Char → Option (List Value × List Char)
  | 0, _, _ => none
  | fuel + 1, depth, cs => do
    match ← skipLines fuel cs with
    | ']' :: rest => return ([], rest)
    | cs =>
      let (v, rest) ← readValue? fuel depth cs
      match ← skipLines fuel rest with
      | ']' :: rest => return ([v], rest)
      | ',' :: rest => (readItems? fuel depth rest).map fun (vs, rest) => (v :: vs, rest)
      | _ => none

/-- The entries of a table in braces up to the closing brace, added to those before. There is at
least one, all stand on one line, and no comma stands before the brace. -/
def readEntries? : Nat → Nat → Branch → List Char → Option (Branch × List Char)
  | 0, _, _, _ => none
  | fuel + 1, depth, b, cs => do
    let (path, key, rest) ← readKeyOfEntry? cs
    let (v, rest) ← readValue? fuel depth (skipBlank rest)
    let b ← Tree.addValue path key v b
    match skipBlank rest with
    | '\x7d' :: rest => return (b, rest)
    | ',' :: rest => readEntries? fuel depth b rest
    | _ => none

end

/-! ### Documents -/

/-- A document as far as it was read: its root, and how the table that entries go to is found. -/
structure Draft where
  root : Branch := (.header, [])
  current : List String := []

/-- Adds an entry to the current table. -/
def Draft.add (d : Draft) (path : List String) (key : String) (v : Value) : Option Draft :=
  (Tree.alterAt false (Tree.addValue path key v) d.current d.root).map ({ d with root := · })

/-- Reads the header at the front of a text, and the rest of the text after its line. -/
def readHeader? (d : Draft) : List Char → Option (Draft × List Char)
  | '[' :: '[' :: cs => do
    match ← readKey? nestingLimit cs with
    | (path, key, ']' :: ']' :: rest) =>
      return (⟨← Tree.addTables path key d.root, path ++ [key]⟩, ← endLine? rest)
    | _ => none
  | '[' :: cs => do
    match ← readKey? nestingLimit cs with
    | (path, key, ']' :: rest) =>
      return (⟨← Tree.addTable path key d.root, path ++ [key]⟩, ← endLine? rest)
    | _ => none
  | _ => none

/-- Reads a document line by line. Every line costs one unit of fuel. -/
def readLinesOf? : Nat → Draft → List Char → Option Draft
  | 0, _, _ => none
  | fuel + 1, d, cs =>
    match skipBlank cs with
    | [] => some d
    | '#' :: rest => (endLine? ('#' :: rest)).bind (readLinesOf? fuel d)
    | '\n' :: rest => readLinesOf? fuel d rest
    | '\r' :: '\n' :: rest => readLinesOf? fuel d rest
    | '[' :: rest => (readHeader? d ('[' :: rest)).bind fun (d, rest) => readLinesOf? fuel d rest
    | cs => do
      let (path, key, rest) ← readKeyOfEntry? cs
      let (v, rest) ← readValue? (cs.length + 1) nestingLimit (skipBlank rest)
      readLinesOf? fuel (← d.add path key v) (← endLine? rest)

/-- The value that a whole document stands for, which is a table. A byte order mark may stand in
front of it. -/
def read? (text : String) : Option Value :=
  let cs := match text.toList with
    | '\uFEFF' :: cs => cs
    | cs => cs
  (readLinesOf? (cs.length + 1) {} cs).map fun d => .table (Tree.entryValues d.root.2)

end BluetoothDiscovery.Toml
