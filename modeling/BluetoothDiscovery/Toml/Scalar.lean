import BluetoothDiscovery.Text.Decimal
import BluetoothDiscovery.Text.DoubleRange
import BluetoothDiscovery.Text.Hex
import BluetoothDiscovery.Text.Split
import BluetoothDiscovery.Value

/-!
# Numbers, dates and words in TOML

Every value of TOML 1.0 that is not a string, a list or a table is one word without blanks, except
that a blank may stand between a date and a time. `Toml.scalar?` reads such a word.
-/

namespace BluetoothDiscovery.Toml

open Text (digitsValue hexValue? overflowsDouble splitOn)

/-- The digits of a row in which single underscores may stand between digits. -/
def plainDigits? (isDigit : Char → Bool) (cs : List Char) : Option (List Char) :=
  let runs := splitOn '_' cs
  if runs.all fun r => !r.isEmpty && r.all isDigit then some runs.flatten else none

/-- The sign in front of a number, and the rest. -/
def splitSign : List Char → Bool × List Char
  | '+' :: cs => (false, cs)
  | '-' :: cs => (true, cs)
  | cs => (false, cs)

/-! ### Integers -/

/-- The decimal digits of a whole number, which has no leading zero. -/
def wholeDigits? (cs : List Char) : Option (List Char) := do
  let ds ← plainDigits? Char.isDigit cs
  if ds.head? = some '0' ∧ cs.length ≠ 1 then none else some ds

/-- The value of digits of a base that is a power of two, at most sixteen. -/
def based? (base : Nat) (cs : List Char) : Option Int := do
  let ds ← plainDigits? (fun c => (hexValue? c).any (· < base)) cs
  return ds.foldl (fun n c => n * base + (hexValue? c).getD 0) 0

/-- An integer of 64 bits: decimal with or without a sign, or in another base without one. -/
def integer? (cs : List Char) : Option Value := do
  let n ← match cs with
    | '0' :: 'x' :: r => based? 16 r
    | '0' :: 'o' :: r => based? 8 r
    | '0' :: 'b' :: r => based? 2 r
    | cs =>
      let (negative, r) := splitSign cs
      (wholeDigits? r).map fun ds =>
        let n : Int := digitsValue ds
        if negative then -n else n
  if -0x8000000000000000 ≤ n ∧ n < 0x8000000000000000 then some (.integer n) else none

/-! ### Numbers with a fraction or an exponent -/

/-- The exponent after its mark. -/
def exponent? (cs : List Char) : Option Int :=
  let (negative, r) := splitSign cs
  (plainDigits? Char.isDigit r).map fun ds =>
    let n : Int := digitsValue ds
    if negative then -n else n

/-- A number with a fraction, an exponent or both, or one of the words for infinity and no number.
One that is too great for a double is refused, and one that is too small is not. -/
def fractional? (cs : List Char) : Option Value := do
  let (negative, r) := splitSign cs
  if r = ['i', 'n', 'f'] ∨ r = ['n', 'a', 'n'] then return .inexact
  let isMark := fun c => c == 'e' || c == 'E'
  let mantissa := r.takeWhile (!isMark ·)
  let exponent ← match r.dropWhile (!isMark ·) with
    | [] => some 0
    | _ :: cs => exponent? cs
  let (whole, fraction) ← match splitOn '.' mantissa with
    | [w] => if mantissa.length = r.length then none else some (← wholeDigits? w, [])
    | [w, f] => some (← wholeDigits? w, ← plainDigits? Char.isDigit f)
    | _ => none
  if !negative && overflowsDouble (digitsValue (whole ++ fraction)) (exponent - fraction.length)
  then none else return .inexact

/-! ### Dates and times -/

/-- The number of exactly two digits, if it lies in a range. -/
def twoDigits? (low high : Nat) (a b : Char) : Option Nat :=
  let n := digitsValue [a, b]
  if a.isDigit ∧ b.isDigit ∧ low ≤ n ∧ n ≤ high then some n else none

/-- The days of a month. -/
def daysIn (year month : Nat) : Nat :=
  if month = 2 then
    if year % 4 = 0 ∧ (year % 100 ≠ 0 ∨ year % 400 = 0) then 29 else 28
  else if month = 4 ∨ month = 6 ∨ month = 9 ∨ month = 11 then 30
  else 31

/-- Whether a text is a date of the calendar. -/
def isDate : List Char → Bool
  | [y₁, y₂, y₃, y₄, '-', m₁, m₂, '-', d₁, d₂] =>
    [y₁, y₂, y₃, y₄].all Char.isDigit &&
      (twoDigits? 1 12 m₁ m₂).any fun month =>
        (twoDigits? 1 (daysIn (digitsValue [y₁, y₂, y₃, y₄]) month) d₁ d₂).isSome
  | _ => false

/-- The text after a time of day, if one stands in front of it. -/
def afterTime? : List Char → Option (List Char)
  | h₁ :: h₂ :: ':' :: m₁ :: m₂ :: ':' :: s₁ :: s₂ :: rest => do
    let _ ← twoDigits? 0 23 h₁ h₂
    let _ ← twoDigits? 0 59 m₁ m₂
    let _ ← twoDigits? 0 60 s₁ s₂
    match rest with
    | '.' :: rest =>
      if (rest.takeWhile Char.isDigit).isEmpty then none else some (rest.dropWhile Char.isDigit)
    | rest => some rest
  | _ => none

/-- Whether a text is an offset from universal time. -/
def isOffset : List Char → Bool
  | ['Z'] | ['z'] => true
  | [sign, h₁, h₂, ':', m₁, m₂] =>
    (sign == '+' || sign == '-') && (twoDigits? 0 23 h₁ h₂).isSome &&
      (twoDigits? 0 59 m₁ m₂).isSome
  | _ => false

/-- Whether a text is a time of day, with or without an offset. -/
def isTime (withOffset : Bool) (cs : List Char) : Bool :=
  (afterTime? cs).any fun rest => rest.isEmpty || (withOffset && isOffset rest)

/-- Whether a text is a date, a time of day, or a date and a time. -/
def isMoment (cs : List Char) : Bool :=
  isTime false cs ||
    (isDate (cs.take 10) && match cs.drop 10 with
      | [] => true
      | c :: rest => (c == 'T' || c == 't' || c == ' ') && isTime true rest)

/-! ### Words -/

/-- The value that a word stands for. -/
def scalar? (cs : List Char) : Option Value :=
  if cs = ['t', 'r', 'u', 'e'] then some (.boolean true)
  else if cs = ['f', 'a', 'l', 's', 'e'] then some (.boolean false)
  else if isMoment cs then some .moment
  else (fractional? cs).or (integer? cs)

/-- Whether a character ends a word. -/
def endsWord (c : Char) : Bool :=
  c == ' ' || c == '\t' || c == '\n' || c == '\r' || c == '#' || c == ',' || c == ']' ||
    c == '\x7d'

/-- The value of the word at the front of a text, and the rest of the text. -/
def readScalar? (cs : List Char) : Option (Value × List Char) :=
  let word := cs.takeWhile (!endsWord ·)
  let rest := cs.dropWhile (!endsWord ·)
  match isDate word, rest with
  | true, ' ' :: more =>
    let time := more.takeWhile (!endsWord ·)
    if isTime true time then some (.moment, more.dropWhile (!endsWord ·)) else some (.moment, rest)
  | _, _ => (scalar? word).map (·, rest)

end BluetoothDiscovery.Toml
