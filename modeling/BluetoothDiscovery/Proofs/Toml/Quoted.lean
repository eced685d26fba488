import BluetoothDiscovery.Proofs.Text.Digits
import BluetoothDiscovery.Toml.Quoted

/-!
# Strings are read as they were written

A string that `quote` wrote is read back, in whichever form it was written (`readQuoted?_quote`).
With escapes any string can be written, on one line or on several; without them just those strings
can in which nothing has to be escaped.
-/

namespace BluetoothDiscovery.Toml

open Text (hexDigits)

variable {c q : Char} {cs rest : List Char} {k run : Nat}

/-! ### Characters -/

theorem isPlain_of_not_isControl (control : isControl c = false) (same : c ≠ '\n') :
    isPlain c = true := by
  by_cases tab : c = '\t'
  · subst tab
    rfl
  · simp only [isControl, bne_iff_ne.mpr same, bne_iff_ne.mpr tab, Bool.and_true,
      Bool.or_eq_false_iff, decide_eq_false_iff_not, beq_eq_false_iff_ne] at control
    simp only [isPlain, Bool.or_eq_true, Bool.and_eq_true, decide_eq_true_eq, bne_iff_ne]
    exact .inr ⟨Nat.le_of_not_lt control.1, control.2⟩

/-- A control character is read back from the number of it. -/
theorem scalarValue?_hexDigits (lt : c.toNat < 0x10000) :
    scalarValue? (hexDigits Text.upperDigit 4 c.toNat) = some c := by
  have value : Text.readHex? (hexDigits Text.upperDigit 4 c.toNat) = some c.toNat :=
    Text.readHex?_hexDigits (fun _ => Text.hexValue?_upperDigit) (by decide) lt
  unfold scalarValue?
  rw [value]
  show (if h : c.toNat.isValidChar then some (Char.ofNatAux c.toNat h) else none) = some c
  rw [dif_pos (show c.toNat.isValidChar from c.valid)]
  rfl

theorem hexDigits_four (n : Nat) : ∃ x y z w, hexDigits Text.upperDigit 4 n = [x, y, z, w] :=
  ⟨_, _, _, _, rfl⟩

/-- The forms in which a character stands in a string with escapes. -/
inductive Escaped (c : Char) : List Char → Prop where
  | plain : isPlain c = true → c ≠ '\\' → c ≠ '"' → Escaped c [c]
  | letter {e : Char} : e ≠ 'u' → e ≠ 'U' → escape? e = some c → Escaped c ['\\', e]
  | number : c.toNat < 0x10000 → Escaped c ('\\' :: 'u' :: hexDigits Text.upperDigit 4 c.toNat)

theorem escaped_quote : Escaped '"' ['\\', '"'] := .letter (by decide) (by decide) rfl

theorem escaped_escapeChar (quote : c ≠ '"') (feed : c ≠ '\n') : Escaped c (escapeChar c) := by
  unfold escapeChar
  split
  · exact .letter (by decide) (by decide) rfl
  · exact .letter (by decide) (by decide) rfl
  · exact .letter (by decide) (by decide) rfl
  · exact .letter (by decide) (by decide) rfl
  · exact .letter (by decide) (by decide) rfl
  next backslash =>
    split
    next control =>
      refine .number ?_
      simp only [isControl, Bool.or_eq_true, Bool.and_eq_true, decide_eq_true_eq,
        beq_iff_eq] at control
      omega
    next control =>
      have plain := isPlain_of_not_isControl (Bool.eq_false_iff.mpr control) feed
      exact .plain plain backslash quote

theorem prepend_some (c : Char) (cs rest : List Char) :
    prepend c (some (cs, rest)) = some (c :: cs, rest) := rfl

/-! ### One line -/

theorem readLine?_escaped {written : List Char} (h : Escaped c written) (rest : List Char) :
    readLine? (written ++ rest) = prepend c (readLine? rest) := by
  cases h with
  | plain plain backslash quote =>
    show readLine? (c :: rest) = _
    rw [readLine?]
    · exact if_pos ⟨plain, backslash⟩
    all_goals simp_all
  | @letter e u U escape =>
    show readLine? ('\\' :: e :: rest) = _
    rw [readLine?, escape]
    · rfl
    all_goals simp_all
  | number lt =>
    have value := scalarValue?_hexDigits lt
    obtain ⟨x, y, z, w, digits⟩ := hexDigits_four c.toNat
    rw [digits] at value ⊢
    show readLine? ('\\' :: 'u' :: x :: y :: z :: w :: rest) = _
    rw [readLine?, value]
    rfl

/-- A string of one line is read back from the inside of it. -/
theorem readLine?_escapeLine (cs rest : List Char) :
    readLine? (escapeLine cs ++ '"' :: rest) = some (cs, rest) := by
  induction cs with
  | nil => rfl
  | cons c cs ih =>
    have escaped : Escaped c
        (if c = '"' then ['\\', '"'] else if c = '\n' then ['\\', 'n'] else escapeChar c) := by
      split
      next quote => exact quote ▸ escaped_quote
      next quote =>
        split
        next feed => exact feed ▸ .letter (by decide) (by decide) rfl
        next feed => exact escaped_escapeChar quote feed
    have split : escapeLine (c :: cs) = _ ++ escapeLine cs := List.flatMap_cons
    rw [split, List.append_assoc, readLine?_escaped escaped, ih, prepend_some]

/-- A string without quotes, line breaks and control characters is its own inside. -/
theorem readLiteralLine?_append (plain : ∀ c ∈ cs, isPlain c = true) (free : '\'' ∉ cs) (rest) :
    readLiteralLine? (cs ++ '\'' :: rest) = some (cs, rest) := by
  induction cs with
  | nil => rfl
  | cons c cs ih =>
    obtain ⟨first, others⟩ := List.forall_mem_cons.mp plain
    obtain ⟨quote, free⟩ := List.ne_and_not_mem_of_not_mem_cons free
    rw [List.cons_append, readLiteralLine?, if_pos first, ih others free, prepend_some]
    exact quote.symm

/-! ### Several lines -/

theorem closeLines?_of_head?_ne (h : rest.head? ≠ some q) : closeLines? q rest = none := by
  cases rest with
  | nil => rfl
  | cons c rest =>
    have other : (c == q) = false := by simpa using h
    simp [closeLines?, other]

theorem closeLines?_single (h : rest.head? ≠ some q) : closeLines? q (q :: rest) = none := by
  cases rest with
  | nil => simp [closeLines?]
  | cons c rest =>
    have other : (c == q) = false := by simpa using h
    simp [closeLines?, other]

/-- Two quotes at most stand before the quotes that close a string, and belong to it. -/
theorem closeLines?_replicate (le : k ≤ 2) (h : rest.head? ≠ some q) :
    closeLines? q (List.replicate (k + 2) q ++ rest) = some (List.replicate k q, rest) := by
  have none : rest.takeWhile (· == q) = [] := by
    cases rest with
    | nil => rfl
    | cons c rest => exact List.takeWhile_cons_of_neg (by simpa using h)
  have more : ((List.replicate (k + 2) q ++ rest).takeWhile (· == q)).length = k + 2 := by
    rw [List.takeWhile_append_of_pos (by simp), none, List.append_nil, List.length_replicate]
  unfold closeLines?
  simp only [more]
  rw [if_neg (by omega), Nat.add_sub_cancel, Nat.min_eq_left le, List.drop_left']
  exact List.length_replicate

theorem startsBreak_of_escape? {e : Char} (h : escape? e = some c) (rest : List Char) :
    startsBreak (e :: rest) = false := by
  have visible : e ≠ ' ' ∧ e ≠ '\t' ∧ e ≠ '\n' ∧ e ≠ '\r' := by
    refine ⟨?_, ?_, ?_, ?_⟩ <;> rintro rfl <;> cases h
  obtain ⟨space, tab, feed, back⟩ := visible
  unfold startsBreak
  rw [List.dropWhile_cons_of_neg (by simp [space, tab])]
  split
  next here => exact absurd (List.cons.inj here).1 feed
  next here => exact absurd (List.cons.inj here).1 back
  next => rfl

theorem readLines?_escaped {written : List Char} (h : Escaped c written) (rest : List Char) :
    readLines? false (written ++ rest) = prepend c (readLines? false rest) := by
  -- A character stands for itself, behind a backslash as a letter, or as its number in four digits.
  cases h with
  | plain plain backslash quote =>
    have notBack : c ≠ '\r' := by
      rintro rfl
      cases plain
    show readLines? false (c :: rest) = _
    rw [readLines?]
    · exact if_pos (.inr ⟨plain, backslash⟩)
    all_goals simp_all
  | @letter e u U escape =>
    show readLines? false ('\\' :: e :: rest) = _
    rw [readLines?, if_neg (by simp [startsBreak_of_escape? escape]), escape]
    · rfl
    all_goals simp_all
  | number lt =>
    have value := scalarValue?_hexDigits lt
    obtain ⟨x, y, z, w, digits⟩ := hexDigits_four c.toNat
    rw [digits] at value ⊢
    show readLines? false ('\\' :: 'u' :: x :: y :: z :: w :: rest) = _
    rw [readLines?, value]
    rfl

/-- What has to be escaped does not stand in front of an escaped character. -/
theorem Escaped.head?_ne {written : List Char} (h : Escaped c written) {d : Char}
    (special : d = '"' ∨ isPlain d = false) (rest : List Char) :
    (written ++ rest).head? ≠ some d := by
  cases h with
  | plain plain _ quote =>
    rintro ⟨⟩
    rcases special with same | control
    · exact quote same
    · rw [plain] at control
      cases control
  | letter =>
    rintro ⟨⟩
    rcases special with same | control
    · cases same
    · cases control
  | number =>
    rintro ⟨⟩
    rcases special with same | control
    · cases same
    · cases control

/-- A quote is written as it is only if there are not two before it. -/
theorem head?_escapeLines (h : c ≠ '"' ∨ run = 2) (cs rest : List Char) :
    (escapeLines run (c :: cs) ++ rest).head? ≠ some '"' := by
  by_cases quote : c = '"'
  · have full := h.resolve_left (not_not.mpr quote)
    rw [escapeLines, if_pos quote, if_pos full]
    exact nofun
  · rw [escapeLines, if_neg quote]
    split
    · exact nofun
    next feed =>
      rw [List.append_assoc]
      exact (escaped_escapeChar quote feed).head?_ne (.inl rfl) _

/-- At a quote that was written as it is a string ends only if nothing but this quote, or one more,
is left of it. -/
theorem closeLines?_escapeLines (pos : 0 < run) (le : run ≤ 2) (h : rest.head? ≠ some '"')
    (cs : List Char) :
    closeLines? '"' (escapeLines run cs ++ '"' :: '"' :: '"' :: rest) = none ∨
      closeLines? '"' (escapeLines run cs ++ '"' :: '"' :: '"' :: rest) =
        some ('"' :: cs, rest) := by
  match cs with
  | [] => exact .inr (closeLines?_replicate (k := 1) (by decide) h)
  | c :: cs =>
    by_cases other : c ≠ '"' ∨ run = 2
    · exact .inl (closeLines?_of_head?_ne (head?_escapeLines other cs _))
    · obtain ⟨quote, notFull⟩ := not_or.mp other
      obtain rfl := not_not.mp quote
      obtain rfl : run = 1 := by omega
      have step : escapeLines 1 ('"' :: cs) = '"' :: escapeLines 2 cs := rfl
      rw [step]
      match cs with
      | [] => exact .inr (closeLines?_replicate (k := 2) (by decide) h)
      | d :: cs => exact .inl (closeLines?_single (head?_escapeLines (.inr rfl) cs _))

/-- A string of several lines is read back from the inside of it; `run` is the number of quotes that
stand before it as they are. -/
theorem readLines?_escapeLines (le : run ≤ 2) (h : rest.head? ≠ some '"') :
    readLines? false (escapeLines run cs ++ '"' :: '"' :: '"' :: rest) = some (cs, rest) := by
  induction cs generalizing run with
  | nil =>
    show readLines? false ('"' :: '"' :: '"' :: rest) = _
    rw [readLines?, show '"' :: '"' :: rest = List.replicate 2 '"' ++ rest from rfl,
      closeLines?_replicate (k := 0) (by decide) h]
    rfl
  | cons c cs ih =>
    by_cases quote : c = '"'
    · subst quote
      -- The third quote in a row is escaped.  At any other the string does not close, or it closes
      -- with what reading on comes to as well.
      by_cases full : run = 2
      · rw [escapeLines, if_pos rfl, if_pos full]
        show readLines? false (['\\', '"'] ++ (escapeLines 0 cs ++ _)) = _
        rw [readLines?_escaped escaped_quote, ih (by decide), prepend_some]
      · rw [escapeLines, if_pos rfl, if_neg full, List.cons_append, readLines?,
          ih (by omega), prepend_some]
        rcases closeLines?_escapeLines (Nat.succ_pos run) (by omega) h cs with more | close
        · rw [more, Option.none_or]
        · rw [close, Option.some_or]
    · rw [escapeLines, if_neg quote, List.append_assoc]
      split
      next feed =>
        subst feed
        rw [List.singleton_append, readLines?, if_pos (.inl rfl), ih (by decide), prepend_some]
        all_goals simp
      next feed =>
        rw [readLines?_escaped (escaped_escapeChar quote feed), ih (by decide), prepend_some]

/-! ### Several lines without escapes -/

/-- At a quote of a string without three of them side by side, the string ends only if nothing but
this quote, or one more, is left of it. -/
theorem closeLines?_append (triple : hasTriple '\'' ('\'' :: cs) = false)
    (h : rest.head? ≠ some '\'') :
    closeLines? '\'' (cs ++ '\'' :: '\'' :: '\'' :: rest) = none ∨
      closeLines? '\'' (cs ++ '\'' :: '\'' :: '\'' :: rest) = some ('\'' :: cs, rest) := by
  match cs with
  | [] => exact .inr (closeLines?_replicate (k := 1) (by decide) h)
  | c :: cs =>
    by_cases quote : c = '\''
    · subst quote
      match cs with
      | [] => exact .inr (closeLines?_replicate (k := 2) (by decide) h)
      | d :: cs =>
        have other : d ≠ '\'' := by
          rintro rfl
          cases triple
        exact .inl (closeLines?_single (by simpa using other))
    · exact .inl (closeLines?_of_head?_ne (by simpa using quote))

theorem hasTriple_tail (h : hasTriple q (c :: cs) = false) : hasTriple q cs = false := by
  match cs with
  | [] => rfl
  | [d] => rfl
  | d :: e :: cs =>
    rw [hasTriple, Bool.or_eq_false_iff] at h
    exact h.2

/-- A string without three quotes side by side and without control characters is its own inside. -/
theorem readLiteralLines?_append (plain : ∀ c ∈ cs, c = '\n' ∨ isPlain c = true)
    (triple : hasTriple '\'' cs = false) (h : rest.head? ≠ some '\'') :
    readLiteralLines? (cs ++ '\'' :: '\'' :: '\'' :: rest) = some (cs, rest) := by
  induction cs with
  | nil =>
    show readLiteralLines? ('\'' :: '\'' :: '\'' :: rest) = _
    rw [readLiteralLines?, show '\'' :: '\'' :: rest = List.replicate 2 '\'' ++ rest from rfl,
      closeLines?_replicate (k := 0) (by decide) h]
    rfl
  | cons c cs ih =>
    obtain ⟨first, others⟩ := List.forall_mem_cons.mp plain
    have rest := ih others (hasTriple_tail triple)
    rw [List.cons_append]
    -- At a quote the string does not close, or it closes with what reading on comes to as well.
    by_cases quote : c = '\''
    · subst quote
      rw [readLiteralLines?, rest, prepend_some]
      rcases closeLines?_append triple h with more | close
      · rw [more, Option.none_or]
      · rw [close, Option.some_or]
    · have notBack : c ≠ '\r' := by
        rintro rfl
        rcases first with feed | plain <;> cases ‹_›
      rw [readLiteralLines?, if_pos first, rest, prepend_some]
      all_goals simp_all

/-! ### Strings with their quotes -/

theorem readQuoted?_line (h : rest.head? ≠ some '"') (cs : List Char) :
    readQuoted? (write cs .line ++ rest) = some (cs, rest) := by
  have inside := readLine?_escapeLine cs rest
  show readQuoted? ('"' :: (escapeLine cs ++ ['"'] ++ rest)) = _
  rw [List.append_assoc, List.singleton_append, readQuoted?]
  · exact inside
  · -- Two quotes more could only be those of an empty string and of the text after it.
    intro more triple
    have ends : some ([], '"' :: more) = some (cs, rest) := by rw [← inside, triple]; rfl
    have after : '"' :: more = rest := congrArg Prod.snd (Option.some.inj ends)
    exact h (after ▸ rfl)

theorem readQuoted?_literalLine (h : rest.head? ≠ some '\'') (plain : ∀ c ∈ cs, isPlain c = true)
    (free : '\'' ∉ cs) : readQuoted? (write cs .literalLine ++ rest) = some (cs, rest) := by
  have inside := readLiteralLine?_append plain free rest
  show readQuoted? ('\'' :: (cs ++ ['\''] ++ rest)) = _
  rw [List.append_assoc, List.singleton_append, readQuoted?]
  · exact inside
  · intro more triple
    have ends : some ([], '\'' :: more) = some (cs, rest) := by rw [← inside, triple]; rfl
    have after : '\'' :: more = rest := congrArg Prod.snd (Option.some.inj ends)
    exact h (after ▸ rfl)

theorem skipBreak_of_head?_ne (feed : cs.head? ≠ some '\n') (back : cs.head? ≠ some '\r') :
    skipBreak cs = cs := by
  unfold skipBreak
  split
  · exact absurd rfl feed
  · exact absurd rfl back
  · rfl

/-- The line break after the opening quotes is written just where the string has line breaks, and
then it is not taken for one of them. -/
theorem skipBreak_lead {inside : List Char}
    (starts : '\n' ∉ cs → inside.head? ≠ some '\n' ∧ inside.head? ≠ some '\r') :
    skipBreak (write.lead cs ++ inside) = inside := by
  unfold write.lead
  split
  · rfl
  next single =>
    obtain ⟨feed, back⟩ := starts (by simpa using single)
    exact skipBreak_of_head?_ne feed back

theorem readQuoted?_lines (h : rest.head? ≠ some '"') (cs : List Char) :
    readQuoted? (write cs .lines ++ rest) = some (cs, rest) := by
  -- A string of one line begins with a character that is no break, so that none is skipped.
  have starts : '\n' ∉ cs →
      (escapeLines 0 cs ++ '"' :: '"' :: '"' :: rest).head? ≠ some '\n' ∧
        (escapeLines 0 cs ++ '"' :: '"' :: '"' :: rest).head? ≠ some '\r' := by
    intro single
    cases cs with
    | nil => exact ⟨nofun, nofun⟩
    | cons c cs =>
      by_cases quote : c = '"'
      · subst quote
        exact ⟨nofun, nofun⟩
      · have feed : c ≠ '\n' := (List.ne_and_not_mem_of_not_mem_cons single).1.symm
        have escaped := escaped_escapeChar quote feed
        rw [escapeLines, if_neg quote, if_neg feed, List.append_assoc]
        exact ⟨escaped.head?_ne (.inr rfl) _, escaped.head?_ne (.inr rfl) _⟩
  show readQuoted? ('"' :: '"' :: '"' :: (write.lead cs ++ escapeLines 0 cs ++ _ ++ rest)) = _
  rw [readQuoted?, List.append_assoc, List.append_assoc]
  show readLines? false
    (skipBreak (write.lead cs ++ (escapeLines 0 cs ++ '"' :: '"' :: '"' :: rest))) = _
  rw [skipBreak_lead starts]
  exact readLines?_escapeLines (by decide) h

theorem readQuoted?_literalLines (h : rest.head? ≠ some '\'')
    (plain : ∀ c ∈ cs, c = '\n' ∨ isPlain c = true) (triple : hasTriple '\'' cs = false) :
    readQuoted? (write cs .literalLines ++ rest) = some (cs, rest) := by
  have starts : '\n' ∉ cs → (cs ++ '\'' :: '\'' :: '\'' :: rest).head? ≠ some '\n' ∧
      (cs ++ '\'' :: '\'' :: '\'' :: rest).head? ≠ some '\r' := by
    intro single
    cases cs with
    | nil => exact ⟨nofun, nofun⟩
    | cons c cs =>
      have feed : c ≠ '\n' := (List.ne_and_not_mem_of_not_mem_cons single).1.symm
      have visible := (plain c (.head _)).resolve_left feed
      refine ⟨by simpa using feed, ?_⟩
      rintro ⟨⟩
      cases visible
  show readQuoted? ('\'' :: '\'' :: '\'' :: (write.lead cs ++ cs ++ _ ++ rest)) = _
  rw [readQuoted?, List.append_assoc, List.append_assoc]
  show readLiteralLines? (skipBreak (write.lead cs ++ (cs ++ '\'' :: '\'' :: '\'' :: rest))) = _
  rw [skipBreak_lead starts]
  exact readLiteralLines?_append plain triple h

theorem isPlain_of_any_isControl (control : cs.any isControl = false) :
    ∀ c ∈ cs, c = '\n' ∨ isPlain c = true := by
  intro c mem
  by_cases feed : c = '\n'
  · exact .inl feed
  · have visible := List.any_eq_false.mp control c mem
    exact .inr (isPlain_of_not_isControl (Bool.eq_false_iff.mpr visible) feed)

/-- A string is read back from the form in which it is written. -/
theorem readQuoted?_quote (cs : List Char) (basic : rest.head? ≠ some '"')
    (literal : rest.head? ≠ some '\'') : readQuoted? (quote cs ++ rest) = some (cs, rest) := by
  -- Each form is read back where the writer chooses it.
  unfold quote formOf
  simp only [Bool.and_eq_true, Bool.not_eq_true', List.contains_eq_mem, decide_eq_false_iff_not]
  split
  next => exact readQuoted?_line basic cs
  next =>
    split
    next suits =>
      obtain ⟨⟨control, free⟩, single⟩ := suits
      have plain : ∀ c ∈ cs, isPlain c = true := fun c mem =>
        (isPlain_of_any_isControl control c mem).resolve_left fun feed => single (feed ▸ mem)
      exact readQuoted?_literalLine literal plain free
    next =>
      split
      next => exact readQuoted?_lines basic cs
      next =>
        split
        next suits =>
          exact readQuoted?_literalLines literal (isPlain_of_any_isControl suits.1) suits.2
        next =>
          split
          · exact readQuoted?_lines basic cs
          · exact readQuoted?_line basic cs

end BluetoothDiscovery.Toml
