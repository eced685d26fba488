import BluetoothDiscovery.Proofs.Text.Pieces
import BluetoothDiscovery.Proofs.Toml.Quoted
import BluetoothDiscovery.Toml.Reader

/-!
# Values at the end of a line

`Written chars v` says that the value `v` is read from `chars`, if `chars` stands at the end of a
line.  The words for truth, the decimal digits of a number below 2⁶³ and the quoted form of any
string are written so (`written_true`, `written_false`, `written_toDigits`, `written_quote`).  A row
of digits has to be told from the other words that may begin with digits: dates, times and numbers
with a fraction.
-/

namespace BluetoothDiscovery.Toml

open Text (digitsValue splitOn)

variable {cs word chars rest : List Char} {v : Value} {n : Nat}

/-! ### Words -/

theorem isDate_eq_false (h : '-' ∉ cs) : isDate cs = false := by
  unfold isDate
  split
  next => simp at h
  next => rfl

theorem afterTime?_eq_none (h : ':' ∉ cs) : afterTime? cs = none := by
  unfold afterTime?
  split
  next => simp at h
  next => rfl

theorem isMoment_eq_false (hyphen : '-' ∉ cs) (colon : ':' ∉ cs) : isMoment cs = false := by
  have date : isDate (cs.take 10) = false :=
    isDate_eq_false fun mem => hyphen (List.mem_of_mem_take mem)
  unfold isMoment isTime
  rw [afterTime?_eq_none colon, date]
  rfl

theorem splitSign_of_head?_ne (plus : cs.head? ≠ some '+') (minus : cs.head? ≠ some '-') :
    splitSign cs = (false, cs) := by
  unfold splitSign
  split
  · exact absurd rfl plus
  · exact absurd rfl minus
  · rfl

section digits

variable {ds : List Char}

theorem not_mem_of_all_isDigit (digits : ds.all Char.isDigit = true) {c : Char}
    (h : c.isDigit = false) : c ∉ ds := by
  intro mem
  rw [List.all_eq_true.mp digits c mem] at h
  cases h

theorem splitSign_digits (digits : ds.all Char.isDigit = true) : splitSign ds = (false, ds) := by
  have other {c : Char} (h : c.isDigit = false) : ds.head? ≠ some c := fun here =>
    not_mem_of_all_isDigit digits h (List.mem_of_mem_head? here)
  exact splitSign_of_head?_ne (other rfl) (other rfl)

theorem plainDigits?_digits (ne_nil : ds ≠ []) (digits : ds.all Char.isDigit = true) :
    plainDigits? Char.isDigit ds = some ds := by
  have whole : splitOn '_' ds = [ds] :=
    Text.splitOn_of_not_mem (not_mem_of_all_isDigit digits (by decide))
  unfold plainDigits?
  rw [whole]
  simp [ne_nil, digits]

/-- A row of digits is not a number with a fraction or an exponent. -/
theorem fractional?_digits (digits : ds.all Char.isDigit = true) : fractional? ds = none := by
  have free {c : Char} (h : c.isDigit = false) : c ∉ ds := not_mem_of_all_isDigit digits h
  have word : ¬ (ds = ['i', 'n', 'f'] ∨ ds = ['n', 'a', 'n']) := by
    rintro (rfl | rfl)
    · exact free (c := 'i') (by decide) (by decide)
    · exact free (c := 'a') (by decide) (by decide)
  have unmarked : ∀ c ∈ ds, (!(c == 'e' || c == 'E')) = true := by
    intro c mem
    simp only [Bool.not_eq_true', Bool.or_eq_false_iff, beq_eq_false_iff_ne]
    constructor
    · rintro rfl
      exact free (by decide) mem
    · rintro rfl
      exact free (by decide) mem
  unfold fractional?
  rw [splitSign_digits digits]
  simp only [if_neg word, List.takeWhile_eq_self_iff.mpr unmarked,
    List.dropWhile_eq_nil_iff.mpr unmarked, Text.splitOn_of_not_mem (free (c := '.') (by decide))]
  rfl

/-- A row of digits without a leading zero is an integer if its number is one of 64 bits. -/
theorem integer?_digits (ne_nil : ds ≠ []) (digits : ds.all Char.isDigit = true)
    (zero : ds.head? = some '0' → ds = ['0']) (lt : digitsValue ds < 0x8000000000000000) :
    integer? ds = some (.integer (digitsValue ds)) := by
  have whole : wholeDigits? ds = some ds := by
    unfold wholeDigits?
    rw [plainDigits?_digits ne_nil digits, Option.bind_eq_bind, Option.bind_some]
    refine if_neg fun ⟨first, long⟩ => long ?_
    rw [zero first]
    rfl
  have limit {low high m : Int} (range : low ≤ m ∧ m < high) :
      ((some m).bind fun m => if low ≤ m ∧ m < high then some (Value.integer m) else none) =
        some (.integer m) := if_pos range
  -- All are decimal digits, so that none of the prefixes for other bases is there.
  have free {c : Char} (h : c.isDigit = false) : c ∉ ds := not_mem_of_all_isDigit digits h
  unfold integer?
  split
  next => exact absurd (.tail _ (.head _)) (free (c := 'x') (by decide))
  next => exact absurd (.tail _ (.head _)) (free (c := 'o') (by decide))
  next => exact absurd (.tail _ (.head _)) (free (c := 'b') (by decide))
  next =>
    rw [splitSign_digits digits]
    show ((wholeDigits? ds).map _ >>= _) = _
    rw [whole]
    exact limit (m := digitsValue ds) ⟨by omega, by omega⟩

end digits

/-- A number is the word of its decimal digits. -/
theorem scalar?_toDigits (lt : n < 0x8000000000000000) :
    scalar? (Nat.toDigits 10 n) = some (.integer n) := by
  have digits := Text.all_isDigit_toDigits n
  have free {c : Char} (h : c.isDigit = false) : c ∉ Nat.toDigits 10 n :=
    not_mem_of_all_isDigit digits h
  have isTrue : Nat.toDigits 10 n ≠ ['t', 'r', 'u', 'e'] := fun same =>
    free (c := 't') (by decide) (same ▸ .head _)
  have isFalse : Nat.toDigits 10 n ≠ ['f', 'a', 'l', 's', 'e'] := fun same =>
    free (c := 'f') (by decide) (same ▸ .head _)
  have moment : isMoment (Nat.toDigits 10 n) = false :=
    isMoment_eq_false (free (by decide)) (free (by decide))
  have value := Text.digitsValue_toDigits n
  have integer := integer?_digits Nat.toDigits_ne_nil digits Text.head?_toDigits (value.symm ▸ lt)
  unfold scalar?
  rw [if_neg isTrue, if_neg isFalse, if_neg (by simp [moment]), fractional?_digits digits, integer,
    value]
  rfl

theorem readScalar?_word (inside : ∀ c ∈ word, (!endsWord c) = true) (date : isDate word = false)
    (rest : List Char) :
    readScalar? (word ++ '\n' :: rest) = (scalar? word).map (·, '\n' :: rest) := by
  have taken : (word ++ '\n' :: rest).takeWhile (!endsWord ·) = word := by
    rw [List.takeWhile_append_of_pos inside, List.takeWhile_cons_of_neg (by decide),
      List.append_nil]
  have left : (word ++ '\n' :: rest).dropWhile (!endsWord ·) = '\n' :: rest := by
    rw [List.dropWhile_append_of_pos inside, List.dropWhile_cons_of_neg (by decide)]
  unfold readScalar?
  simp only [taken, left, date]

/-! ### Values at the end of a line -/

/-- The value is read from the text at the end of a line. -/
structure Written (chars : List Char) (v : Value) : Prop where
  visible : ∀ c ∈ chars.head?, (c == ' ' || c == '\t') = false
  reads : ∀ fuel depth rest,
    readValue? (fuel + 1) depth (chars ++ '\n' :: rest) = some (v, '\n' :: rest)

/-- What a word stands for is read if the word does not begin as another kind of value does. -/
theorem written_word (ne_nil : word ≠ []) (value : scalar? word = some v)
    (inside : ∀ c ∈ word, (!endsWord c) = true) (date : isDate word = false)
    (starts : ∀ c ∈ word, c ≠ '[' ∧ c ≠ '\x7b' ∧ c ≠ '"' ∧ c ≠ '\'') : Written word v := by
  obtain ⟨c, r, rfl⟩ := List.exists_cons_of_ne_nil ne_nil
  constructor
  case visible =>
    rintro _ ⟨⟩
    have visible := inside c (.head _)
    simp only [endsWord, Bool.not_eq_true', Bool.or_eq_false_iff] at visible
    simp [visible]
  case reads =>
    intro fuel depth rest
    obtain ⟨bracket, brace, basic, literal⟩ := starts c (.head _)
    have word := readScalar?_word inside date rest
    rw [value] at word
    show readValue? (fuel + 1) depth (c :: (r ++ '\n' :: rest)) = _
    rw [readValue?, if_neg (by simp [basic, literal])]
    · exact word
    all_goals simp_all

theorem written_true : Written ['t', 'r', 'u', 'e'] (.boolean true) :=
  written_word (by decide) rfl (by simp [endsWord]) (by decide) (by simp)

theorem written_false : Written ['f', 'a', 'l', 's', 'e'] (.boolean false) :=
  written_word (by decide) rfl (by simp [endsWord]) (by decide) (by simp)

/-- A number of 63 bits is written in its decimal digits. -/
theorem written_toDigits (lt : n < 0x8000000000000000) :
    Written (Nat.toDigits 10 n) (.integer n) := by
  have digits := Text.all_isDigit_toDigits n
  have free {c : Char} (h : c.isDigit = false) : c ∉ Nat.toDigits 10 n :=
    not_mem_of_all_isDigit digits h
  refine written_word Nat.toDigits_ne_nil (scalar?_toDigits lt) (fun c mem => ?_)
    (isDate_eq_false (free (by decide))) fun c mem => ?_
  · simp only [endsWord, Bool.not_eq_true', Bool.or_eq_false_iff, beq_eq_false_iff_ne]
    refine ⟨⟨⟨⟨⟨⟨⟨?_, ?_⟩, ?_⟩, ?_⟩, ?_⟩, ?_⟩, ?_⟩, ?_⟩ <;> rintro rfl <;>
      exact free (by decide) mem
  · refine ⟨?_, ?_, ?_, ?_⟩ <;> rintro rfl <;> exact free (by decide) mem

/-- A string is written in quotes. -/
theorem written_quote (cs : List Char) : Written (quote cs) (.text (.ofList cs)) := by
  obtain ⟨q, inside, written, isQuote⟩ :
      ∃ q inside, quote cs = q :: inside ∧ (q = '"' ∨ q = '\'') := by
    unfold quote
    cases formOf cs with
    | line => exact ⟨_, _, rfl, .inl rfl⟩
    | literalLine => exact ⟨_, _, rfl, .inr rfl⟩
    | lines => exact ⟨_, _, rfl, .inl rfl⟩
    | literalLines => exact ⟨_, _, rfl, .inr rfl⟩
  constructor
  case visible =>
    rw [written]
    rintro _ ⟨⟩
    rcases isQuote with rfl | rfl <;> rfl
  case reads =>
    intro fuel depth rest
    have read : readQuoted? (quote cs ++ '\n' :: rest) = some (cs, '\n' :: rest) :=
      readQuoted?_quote cs (by simp) (by simp)
    rw [written, List.cons_append] at read ⊢
    rw [readValue?, if_pos isQuote, read]
    · rfl
    -- A value that begins with a quote is none of the other kinds of value.
    all_goals
      rintro rfl
      rcases isQuote with quote | quote <;> cases quote

end BluetoothDiscovery.Toml
