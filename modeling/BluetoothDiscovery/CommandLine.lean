/-!
# Command lines

A `Command` says what may follow a program's name: named arguments, positional arguments and
subcommands, each again a command. `Command.read` reads a row of words by it.

A named argument is written `--name` or, if it has a letter, `-n`. One that takes a value finds it
in the same word (`--name=value`, `-nvalue`, `-n=value`) or in the next one, unless that starts with
a hyphen itself; a single hyphen is a value. After the word `--` no word is a name any more. Letters
of arguments without a value can share a word.

What a word completes is judged only when the next word or the end of the command comes, so that of
two faults the one to the right may be the one that is told. `Reader.settle` is that judgement.
-/

namespace BluetoothDiscovery.CommandLine

/-- What a value has to be. -/
inductive ValueRule where
  | anything
  /-- A path, so not empty. -/
  | path
  /-- A text with a property. -/
  | satisfying (property : String → Bool)

/-- An argument with a name. -/
structure NamedArgument where
  name : String
  letter : Option Char := none
  /-- What its value has to be; without a rule it takes no value. -/
  rule : Option ValueRule := none

/-- An argument that is told by its place. -/
structure PlacedArgument where
  name : String
  rule : ValueRule
  required : Bool

/-- What may follow a name. A command with subcommands needs one of them. -/
structure Command where
  name : String
  /-- Whether its version can be asked for. -/
  versioned : Bool := false
  named : List NamedArgument := []
  placed : List PlacedArgument := []
  subcommands : List Command := []

/-- Why there is nothing to run. -/
inductive Refusal where
  | helpWanted
  | versionWanted
  /-- A command that needs a subcommand got nothing at all, so its help is shown. -/
  | nothingGiven
  | subcommandMissing
  | subcommandUnknown
  | argumentUnknown
  | argumentMissing
  | argumentRepeated
  /-- There is no value, or an empty one where a path is needed. -/
  | valueMissing
  | valueUnexpected
  | valueInvalid
deriving DecidableEq, Repr

/-- What a row of words asks for: the subcommands from the outermost on, and the arguments with
their values, those of inner commands behind those of outer ones. -/
structure Invocation where
  path : List String := []
  arguments : List (String × String) := []
deriving DecidableEq, Repr

namespace Invocation

/-- The value of an argument. Of an argument given to several commands the innermost counts. -/
def value? (i : Invocation) (name : String) : Option String :=
  (i.arguments.reverse.find? (·.1 == name)).map (·.2)

/-- Whether an argument is given. -/
def has (i : Invocation) (name : String) : Bool := (i.value? name).isSome

end Invocation

/-! ### Judging arguments -/

/-- Whether a value is what it has to be. -/
def ValueRule.judge : ValueRule → String → Except Refusal Unit
  | .anything, _ => .ok ()
  | .path, v => if v.isEmpty then .error .valueMissing else .ok ()
  | .satisfying property, v => if property v then .ok () else .error .valueInvalid

/-- What is known while the words of one command are read. -/
structure Reader where
  given : List (String × String) := []
  /-- The argument that the last word began or completed, with its value if that has come. -/
  pending : Option (String × ValueRule × Option String) := none
  /-- The positional arguments to come. -/
  places : List PlacedArgument
  /-- Whether the word `--` has come. -/
  onlyPlaces : Bool := false

namespace Reader

/-- Whether the next word may be a value. -/
def awaitsValue (r : Reader) : Bool :=
  match r.pending with
  | some (_, _, none) => true
  | _ => false

/-- Takes in an argument whose value is known to be good. -/
def add (r : Reader) (name value : String) : Except Refusal Reader :=
  if r.given.any (·.1 == name) then .error .argumentRepeated
  else .ok { r with given := r.given ++ [(name, value)] }

/-- Judges the pending argument. -/
def settle (r : Reader) : Except Refusal Reader :=
  match r.pending with
  | none => .ok r
  | some (_, _, none) => .error .valueMissing
  | some (name, rule, some value) => do
    let r ← { r with pending := none }.add name value
    rule.judge value
    return r

/-- Begins an argument whose value may be in the next word. -/
def await (r : Reader) (name : String) (rule : ValueRule) (value : Option String) :
    Except Refusal Reader := do
  return { ← r.settle with pending := some (name, rule, value) }

/-- Takes in an argument without a value. -/
def addFlag (r : Reader) (name : String) : Except Refusal Reader := do
  (← r.settle).add name ""

/-- Takes in an argument whose value is in the same word. -/
def addAttached (r : Reader) (name : String) (rule : ValueRule) (value : String) :
    Except Refusal Reader := do
  (← r.await name rule (some value)).settle

end Reader

/-! ### Names -/

/-- What a name or a letter stands for. -/
inductive Meaning where
  | help
  | version
  | argument (a : NamedArgument)

namespace Command

/-- The meaning of a name behind two hyphens. -/
def ofName? (c : Command) (name : String) : Option Meaning :=
  match c.named.find? (·.name == name) with
  | some a => some (.argument a)
  | none =>
    if name = "help" then some .help
    else if name = "version" ∧ c.versioned then some .version
    else none

/-- The meaning of a letter behind one hyphen. -/
def ofLetter? (c : Command) (letter : Char) : Option Meaning :=
  match c.named.find? (·.letter == some letter) with
  | some a => some (.argument a)
  | none =>
    if letter = 'h' then some .help
    else if letter = 'V' ∧ c.versioned then some .version
    else none

/-- The subcommands, and with them the one that shows help. -/
def children (c : Command) : List Command :=
  if c.subcommands.isEmpty then [] else c.subcommands ++ [{ name := "help" }]

/-- The subcommand with a name. -/
def child? (c : Command) (name : String) : Option Command :=
  c.children.find? (·.name == name)

/-- What asking for help comes to: the words after it name a subcommand. -/
def help (c : Command) : List String → Refusal
  | [] => .helpWanted
  | w :: ws =>
    match c.child? w with
    | some d => d.help ws
    | none => .subcommandUnknown

/-- Splits a word behind its hyphens at the first equals sign. -/
def splitValue (cs : List Char) : List Char × Option (List Char) :=
  (cs.takeWhile (· != '='), (cs.dropWhile (· != '=')).tail?)

/-- Reads a word of two hyphens and `cs`. -/
def readLong (c : Command) (r : Reader) (cs : List Char) : Except Refusal Reader :=
  let (name, value) := splitValue cs
  match c.ofName? (.ofList name), value with
  | none, _ => .error .argumentUnknown
  | some (.argument { name, rule := some rule, .. }), none => r.await name rule none
  | some (.argument { name, rule := some rule, .. }), some v =>
    r.addAttached name rule (.ofList v)
  | some (.argument { name, rule := none, .. }), none => r.addFlag name
  | some .help, none => do
    let _ ← r.settle
    .error .helpWanted
  | some .version, none => do
    let _ ← r.settle
    .error .versionWanted
  | some _, some _ => .error .valueUnexpected

/-- Reads the letters behind one hyphen. -/
def readLetters (c : Command) (r : Reader) : List Char → Except Refusal Reader
  | [] => .ok r
  | letter :: cs =>
    match c.ofLetter? letter with
    | none => .error .argumentUnknown
    | some (.argument { name, rule := some rule, .. }) =>
      match cs with
      | [] => r.await name rule none
      | '=' :: v => r.addAttached name rule (.ofList v)
      | v => r.addAttached name rule (.ofList v)
    | some (.argument { name, rule := none, .. }) => do c.readLetters (← r.addFlag name) cs
    | some .help => do
      let _ ← r.settle
      .error .helpWanted
    | some .version => do
      let _ ← r.settle
      .error .versionWanted

/-- Reads a word that is a value or a positional argument. -/
def readPlain (c : Command) (r : Reader) (word : String) : Except Refusal Reader :=
  match r.pending, r.onlyPlaces with
  | some (name, rule, none), false => .ok { r with pending := some (name, rule, some word) }
  | _, _ =>
    match r.places with
    | p :: places => do
      return { ← r.await p.name p.rule (some word) with places }
    | [] =>
      if c.subcommands.isEmpty ∨ r.onlyPlaces ∧ (c.child? word).isSome then .error .argumentUnknown
      else .error .subcommandUnknown

/-- Reads a word that does not name a subcommand. -/
def readWord (c : Command) (r : Reader) (word : String) : Except Refusal Reader :=
  if r.onlyPlaces then c.readPlain r word
  else match word.toList with
    | ['-', '-'] => .ok { r with onlyPlaces := true }
    | '-' :: '-' :: cs => c.readLong r cs
    | '-' :: x :: cs => c.readLetters r (x :: cs)
    | _ => c.readPlain r word

/-- What the end of the words comes to where no subcommand was named. -/
def close (c : Command) (r : Reader) : Except Refusal Invocation := do
  let r ← r.settle
  if !c.subcommands.isEmpty then
    throw (if r.given.isEmpty then .nothingGiven else .subcommandMissing)
  if r.places.any (·.required) then throw .argumentMissing
  return { arguments := r.given }

/-- Reads words from some point of a command on. -/
def readFrom (c : Command) (r : Reader) : List String → Except Refusal Invocation
  | [] => c.close r
  | w :: ws =>
    match if r.onlyPlaces ∨ r.awaitsValue then none else c.child? w with
    | some d =>
      if w = "help" then .error (c.help ws)
      else do
        let inner ← d.readFrom { places := d.placed } ws
        let r ← r.settle
        return { path := d.name :: inner.path, arguments := r.given ++ inner.arguments }
    | none => do c.readFrom (← c.readWord r w) ws

/-- Reads the words that follow a command's name. -/
def read (c : Command) (words : List String) : Except Refusal Invocation :=
  c.readFrom { places := c.placed } words

end Command

end BluetoothDiscovery.CommandLine
