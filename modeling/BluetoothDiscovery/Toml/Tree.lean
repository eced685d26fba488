import BluetoothDiscovery.Value

/-!
# Tables of a TOML document

Entries and headers of a document say piece by piece what its tables hold. A `Tree` keeps for each
table how it came to be, for that decides what may still be added to it: a table that a header
opened is closed to dotted keys, and one that came from a dotted key is closed to everything else.
A key is never given twice.
-/

namespace BluetoothDiscovery.Toml

/-- How a table came to be. -/
inductive Origin where
  /-- A header names it. -/
  | header
  /-- A longer header passes through it. -/
  | implied
  /-- A dotted key passes through it. -/
  | dotted
deriving DecidableEq, Repr

/-- What stands at a key of a document under construction. -/
inductive Tree where
  /-- A value that is complete, as are tables and lists in brackets. -/
  | leaf (v : Value)
  | table (origin : Origin) (entries : List (String × Tree))
  /-- Tables that headers in double brackets opened, each with its entries. -/
  | tables (items : List (List (String × Tree)))
deriving Inhabited

/-- A table under construction. -/
abbrev Branch := Origin × List (String × Tree)

namespace Tree

/-- Changes the entry of a key, or adds one; `none` refuses. -/
def alterEntry (key : String) (f : Option Tree → Option Tree) :
    List (String × Tree) → Option (List (String × Tree))
  | [] => (f none).map fun t => [(key, t)]
  | (k, t) :: rest =>
    if k = key then (f (some t)).map fun t => (k, t) :: rest
    else (alterEntry key f rest).map fun rest => (k, t) :: rest

/-- Changes the last item of a list; `none` refuses. -/
def alterLast {α : Type} (f : α → Option α) : List α → Option (List α)
  | [] => none
  | [a] => (f a).map fun a => [a]
  | a :: as => (alterLast f as).map fun as => a :: as

/-- Changes the table at the end of a path, which is made where it is missing. With `byDots` the
path is that of a dotted key, which does not pass through tables that a header opened. Of the
tables of one key a path means the last. -/
def alterAt (byDots : Bool) (f : Branch → Option Branch) : List String → Branch → Option Branch
  | [], b => f b
  | key :: path, (origin, entries) =>
    (alterEntry key (fun
      | none => (alterAt byDots f path (if byDots then .dotted else .implied, [])).map fun b =>
          .table b.1 b.2
      | some (.leaf _) => none
      | some (.table o es) =>
        if byDots ∧ o = .header then none
        else (alterAt byDots f path (o, es)).map fun b => .table b.1 b.2
      | some (.tables items) =>
        (alterLast (fun es => (alterAt byDots f path (.header, es)).map (·.2)) items).map .tables)
      entries).map fun entries => (origin, entries)

/-- Adds a value at a dotted key of a table. The last table on the way has to come from a dotted key
itself, if there is any. -/
def addValue (path : List String) (key : String) (v : Value) (b : Branch) : Option Branch :=
  alterAt true (fun (origin, entries) =>
    if (origin == .dotted) == path.isEmpty then none
    else (alterEntry key (fun
      | none => some (.leaf v)
      | some _ => none) entries).map fun entries => (origin, entries)) path b

/-- Opens a table by a header. -/
def addTable (path : List String) (key : String) (b : Branch) : Option Branch :=
  alterAt false (fun (origin, entries) =>
    (alterEntry key (fun
      | none => some (.table .header [])
      | some (.table .implied es) => some (.table .header es)
      | some _ => none) entries).map fun entries => (origin, entries)) path b

/-- Opens one more table of a key by a header in double brackets. -/
def addTables (path : List String) (key : String) (b : Branch) : Option Branch :=
  alterAt false (fun (origin, entries) =>
    (alterEntry key (fun
      | none => some (.tables [[]])
      | some (.tables items) => some (.tables (items ++ [[]]))
      | some _ => none) entries).map fun entries => (origin, entries)) path b

mutual

/-- The value that a finished tree stands for. -/
def toValue : Tree → Value
  | .leaf v => v
  | .table _ entries => .table (entryValues entries)
  | .tables items => .list (itemValues items)

/-- `toValue` for each entry. -/
def entryValues : List (String × Tree) → List (Key × Value)
  | [] => []
  | (k, t) :: rest => (k, toValue t) :: entryValues rest

/-- A value for each of the tables of one key. -/
def itemValues : List (List (String × Tree)) → List Value
  | [] => []
  | es :: rest => .table (entryValues es) :: itemValues rest

end

end Tree

end BluetoothDiscovery.Toml
