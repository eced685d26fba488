/-!
# Upper case

`upper` is the upper-case form of a text for comparison with words of ASCII letters. Besides the
ASCII letters themselves, a few other characters of Unicode have an upper-case form that consists of
ASCII letters; a text with any further character cannot match such a word, and `upper` leaves those
characters alone.
-/

namespace BluetoothDiscovery.Text

/-- The upper-case form of a character where it consists of ASCII letters, and else the character
itself. -/
def upperForm (c : Char) : List Char :=
  match c with
  | 'ß' => ['S', 'S']
  | 'ı' => ['I']
  | 'ſ' => ['S']
  | 'ﬀ' => ['F', 'F']
  | 'ﬁ' => ['F', 'I']
  | 'ﬂ' => ['F', 'L']
  | 'ﬃ' => ['F', 'F', 'I']
  | 'ﬄ' => ['F', 'F', 'L']
  | 'ﬅ' => ['S', 'T']
  | 'ﬆ' => ['S', 'T']
  | c => [c.toUpper]

/-- A text in upper case, as far as that can be ASCII letters. -/
def upper (s : String) : String :=
  String.ofList (s.toList.flatMap upperForm)

end BluetoothDiscovery.Text
