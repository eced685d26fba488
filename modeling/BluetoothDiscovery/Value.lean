/-!
# Structured values

`Value` is what a structured text holds, whatever notation it was written in: both the scenario and
the settings readers first make a `Value` of their text and then read their own types from it.

Entries of a table keep the order and the repetitions of the text, and their keys whether they were
written with escapes. `Value.canonical` is the view of a table as a map: the last entry of a key
counts, keys stand in ascending order, and how they were written is forgotten.
-/

namespace BluetoothDiscovery

/-- The notation a value was written in, where reading a type from it depends on that. -/
inductive Dialect where
  | json
  | toml
deriving DecidableEq, Repr

/-- The key of an entry. -/
structure Key where
  text : String
  /-- Whether the key was written as it is, without an escape. -/
  verbatim : Bool := true
deriving DecidableEq, Inhabited, Repr

instance : Coe String Key := ⟨fun text => { text }⟩

/-- A structured value. -/
inductive Value where
  | null
  | boolean (b : Bool)
  | integer (n : Int)
  /-- A number with a fraction or an exponent, or beyond 64 bits. No type of this library reads
  one, so its size is not kept. -/
  | inexact
  | text (s : String)
  /-- A date or a time. No type of this library reads one. -/
  | moment
  | list (items : List Value)
  | table (entries : List (Key × Value))
  /-- Something well-formed that stands for no value, such as half of a surrogate pair. It may be
  skipped but not read. -/
  | unreadable
deriving Inhabited, Repr

namespace Value

/-- Puts a key at its place in an ascending row of keys, instead of an earlier entry of the key. -/
def insertEntry (key : String) (value : Value) : List (Key × Value) → List (Key × Value)
  | [] => [(key, value)]
  | (k, v) :: rest =>
    if key < k.text then (key, value) :: (k, v) :: rest
    else if key = k.text then (key, value) :: rest
    else (k, v) :: insertEntry key value rest

mutual

/-- The same value with every table as a map: of repeated keys the last, all keys ascending. -/
def canonical : Value → Value
  | .list items => .list (canonicalItems items)
  | .table entries =>
    .table ((canonicalEntries entries).foldl (fun m e => insertEntry e.1.text e.2 m) [])
  | v => v

/-- `canonical` for each item. -/
def canonicalItems : List Value → List Value
  | [] => []
  | v :: vs => canonical v :: canonicalItems vs

/-- `canonical` for the value of each entry. -/
def canonicalEntries : List (Key × Value) → List (Key × Value)
  | [] => []
  | (k, v) :: es => (k, canonical v) :: canonicalEntries es

end

mutual

/-- Whether no part of a value is `unreadable`. -/
def isReadable : Value → Bool
  | .unreadable => false
  | .list items => areReadable items
  | .table entries => entriesReadable entries
  | _ => true

/-- `isReadable` for all items. -/
def areReadable : List Value → Bool
  | [] => true
  | v :: vs => isReadable v && areReadable vs

/-- `isReadable` for the values of all entries. -/
def entriesReadable : List (Key × Value) → Bool
  | [] => true
  | (_, v) :: es => isReadable v && entriesReadable es

end

mutual

/-- How many lists and tables stand inside one another at most. -/
def depth : Value → Nat
  | .list items => depthOfItems items + 1
  | .table entries => depthOfEntries entries + 1
  | _ => 0

/-- The greatest depth of an item. -/
def depthOfItems : List Value → Nat
  | [] => 0
  | v :: vs => max (depth v) (depthOfItems vs)

/-- The greatest depth of an entry's value. -/
def depthOfEntries : List (Key × Value) → Nat
  | [] => 0
  | (_, v) :: es => max (depth v) (depthOfEntries es)

end

/-- The value of the first entry with a key. -/
def get? (key : String) : Value → Option Value
  | .table entries => (entries.find? (·.1.text == key)).map (·.2)
  | _ => none

end Value

end BluetoothDiscovery
