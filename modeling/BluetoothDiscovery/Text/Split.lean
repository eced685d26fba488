/-!
# Splitting text at a separator

`splitOn sep` gives the pieces between the separators of a text, so one piece more than there are
separators; putting the separators back gives the text again (`intercalate_splitOn`).
-/

namespace BluetoothDiscovery.Text

/-- The pieces of a text between the occurrences of `sep`. -/
def splitOn (sep : Char) : List Char → List (List Char)
  | [] => [[]]
  | c :: r =>
    if c = sep then [] :: splitOn sep r
    else match splitOn sep r with
      | [] => [[c]]
      | piece :: pieces => (c :: piece) :: pieces

theorem splitOn_ne_nil (sep : Char) (cs : List Char) : splitOn sep cs ≠ [] := by
  cases cs with
  | nil => simp [splitOn]
  | cons c r =>
    rw [splitOn]
    split
    · simp
    · split <;> simp

/-- The pieces with the separator between them are the text. -/
theorem intercalate_splitOn (sep : Char) (cs : List Char) :
    [sep].intercalate (splitOn sep cs) = cs := by
  induction cs with
  | nil => rfl
  | cons c r ih =>
    rw [splitOn]
    split
    next h =>
      subst h
      cases hr : splitOn c r with
      | nil => exact absurd hr (splitOn_ne_nil _ _)
      | cons p ps => rw [hr] at ih; simp [List.intercalate, ← ih]
    next h =>
      cases hr : splitOn sep r with
      | nil => exact absurd hr (splitOn_ne_nil _ _)
      | cons p ps =>
        rw [hr] at ih
        cases ps <;> simp_all [List.intercalate]

end BluetoothDiscovery.Text
