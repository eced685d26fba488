import BluetoothDiscovery.Value

/-!
# Reading types from structured values

Readers answer `none` for a value that their type refuses; there is one kind of refusal, so no
reason is kept. Integers are exact and in range, `null` stands only for an absent optional value,
and unknown entries of a table are skipped without a look.
-/

namespace BluetoothDiscovery.Decode

def boolean? : Value → Option Bool
  | .boolean b => some b
  | _ => none

def text? : Value → Option String
  | .text s => some s
  | _ => none

/-- An integer of a range. -/
def integer? (low high : Int) : Value → Option Int
  | .integer n => if low ≤ n ∧ n ≤ high then some n else none
  | _ => none

/-- A natural number below a bound. -/
def natural? (bound : Nat) (v : Value) : Option Nat :=
  (integer? 0 (bound - 1) v).map Int.toNat

/-- A natural number of 64 bits. -/
def natural64? (v : Value) : Option Nat :=
  natural? 0x10000000000000000 v

def octet? (v : Value) : Option UInt8 :=
  (natural? 0x100 v).map UInt8.ofNat

def signed16? (v : Value) : Option Int16 :=
  (integer? (-0x8000) 0x7fff v).map Int16.ofInt

/-- A list, each item read by `item?`. -/
def list? {α : Type} (item? : Value → Option α) : Value → Option (List α)
  | .list items => items.mapM item?
  | _ => none

/-- A value that may be absent. -/
def optional? {α : Type} (read? : Value → Option α) : Value → Option (Option α)
  | .null => some none
  | v => (read? v).map some

/-- A table read as a list of entries, in the order of the text. -/
def entries? {κ α : Type} (key? : Key → Option κ) (value? : Value → Option α) :
    Value → Option (List (κ × α))
  | .table entries => entries.mapM fun (k, v) => do return (← key? k, ← value? v)
  | _ => none

/-- Whether a value fills the place of a variant's missing content. -/
def isUnit : Dialect → Value → Bool
  | .json, .null => true
  | .toml, .table [] => true
  | .toml, .list [] => true
  | _, _ => false

/-- One of several named values: its name, or a table with the name as its only key. -/
def named? {α : Type} (dialect : Dialect) (ofName? : String → Option α) : Value → Option α
  | .text s => ofName? s
  | .table [(k, v)] => if isUnit dialect v then ofName? k.text else none
  | _ => none

/-! ### Structures -/

/-- The fields of a structure as a value gives them, in the order of declaration. -/
structure Fields where
  /-- Whether they were given by name, so that a field that is not given may be optional. -/
  byName : Bool
  given : List (String × Option Value)

/-- Takes a structure's fields from a value. A table gives them by name, each once at most. A list
gives them in the order of declaration; only in TOML may it be longer than the structure. A date in
TOML is a table without a known key. -/
def fields? (dialect : Dialect) (names : List String) : Value → Option Fields
  | .table entries =>
    if names.all fun n => entries.countP (·.1.text == n) ≤ 1 then
      some ⟨true, names.map fun n => (n, (entries.find? (·.1.text == n)).map (·.2))⟩
    else none
  | .list items =>
    if dialect = .toml ∨ items.length ≤ names.length then
      some ⟨false, names.zipIdx.map fun (n, i) => (n, items[i]?)⟩
    else none
  | .moment => some ⟨true, names.map fun n => (n, none)⟩
  | _ => none

namespace Fields

/-- The value given for a field. -/
def find? (f : Fields) (name : String) : Option Value :=
  (f.given.find? (·.1 == name)).bind (·.2)

/-- A field that has to be given. -/
def required? {α : Type} (f : Fields) (name : String) (read? : Value → Option α) : Option α :=
  (f.find? name).bind read?

/-- A field that takes a default where it is not given. -/
def withDefault? {α : Type} (f : Fields) (name : String) (default : α)
    (read? : Value → Option α) : Option α :=
  match f.find? name with
  | none => some default
  | some v => read? v

/-- An optional field: where fields are given by name it may be left out. -/
def optional? {α : Type} (f : Fields) (name : String) (read? : Value → Option α) :
    Option (Option α) :=
  match f.find? name with
  | none => if f.byName then some none else none
  | some v => Decode.optional? read? v

end Fields

end BluetoothDiscovery.Decode
