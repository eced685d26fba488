/-!
# Blank characters

`isBlank` is the Unicode property `White_Space`, and `trim` removes such characters from both ends
of a text. What is written between the ends is never touched (`trim_eq_self`).
-/

namespace BluetoothDiscovery.Text

/-- The characters of the Unicode property `White_Space`. -/
def isBlank (c : Char) : Bool :=
  let n := c.toNat
  (9 ≤ n && n ≤ 13) || n == 0x20 || n == 0x85 || n == 0xA0 || n == 0x1680 ||
    (0x2000 ≤ n && n ≤ 0x200A) || n == 0x2028 || n == 0x2029 || n == 0x202F || n == 0x205F ||
    n == 0x3000

/-- A text without the blanks at its end. -/
def trimEnd (cs : List Char) : List Char :=
  (cs.reverse.dropWhile isBlank).reverse

/-- A text without the blanks at its two ends. -/
def trim (cs : List Char) : List Char :=
  trimEnd (cs.dropWhile isBlank)

/-- A text that neither starts nor ends with a blank is its own trimmed form. -/
theorem trim_eq_self {cs : List Char} (hd : ∀ c ∈ cs.head?, isBlank c = false)
    (hl : ∀ c ∈ cs.getLast?, isBlank c = false) : trim cs = cs := by
  have h₁ : cs.dropWhile isBlank = cs := by
    cases cs with
    | nil => rfl
    | cons c r => simp_all
  have h₂ : cs.reverse.dropWhile isBlank = cs.reverse := by
    cases h : cs.reverse with
    | nil => rfl
    | cons c r =>
      have : cs.getLast? = some c := by
        rw [← List.head?_reverse, h, List.head?_cons]
      simp [hl c (by simp [this])]
  simp [trim, trimEnd, h₁, h₂]

end BluetoothDiscovery.Text
