import BluetoothDiscovery.Text.Blank
import BluetoothDiscovery.Text.Split
import Mathlib.Data.List.TakeWhile
import Mathlib.Tactic.Common

/-!
# Pieces of a text

A text that was put together from pieces with a separator between them is split into the same pieces
again (`splitOn_intercalate`), and if blanks were put around the separators, then trimming the
pieces takes them away (`map_trim_splitOn_intercalate`).  `Trimmed` says of a text what is left of
it without the blanks around it, and `trim_eq_iff` that `trim` finds just that.
-/

namespace BluetoothDiscovery.Text

variable {sep : Char} {piece cs body : List Char} {pieces : List (List Char)}

/-! ### Splitting -/

theorem splitOn_of_not_mem (h : sep ∉ piece) : splitOn sep piece = [piece] := by
  induction piece with
  | nil => rfl
  | cons c r ih =>
    obtain ⟨first, rest⟩ := List.ne_and_not_mem_of_not_mem_cons h
    rw [splitOn, if_neg first.symm, ih rest]

theorem splitOn_append_sep (h : sep ∉ piece) (rest : List Char) :
    splitOn sep (piece ++ sep :: rest) = piece :: splitOn sep rest := by
  induction piece with
  | nil => exact if_pos rfl
  | cons c r ih =>
    obtain ⟨first, others⟩ := List.ne_and_not_mem_of_not_mem_cons h
    rw [List.cons_append, splitOn, if_neg first.symm, ih others]

/-- A text of pieces without the separator is split into these pieces. -/
theorem splitOn_intercalate (ne_nil : pieces ≠ []) (free : ∀ piece ∈ pieces, sep ∉ piece) :
    splitOn sep ([sep].intercalate pieces) = pieces := by
  induction pieces with
  | nil => exact absurd rfl ne_nil
  | cons piece pieces ih =>
    obtain ⟨first, others⟩ := List.forall_mem_cons.mp free
    cases pieces with
    | nil =>
      rw [List.intercalate_singleton]
      exact splitOn_of_not_mem first
    | cons next pieces =>
      rw [List.intercalate_cons_cons, List.append_assoc, List.singleton_append,
        splitOn_append_sep first, ih (List.cons_ne_nil _ _) others]

theorem map_intercalate (f : Char → Char) (sep : List Char) (pieces : List (List Char)) :
    (sep.intercalate pieces).map f = (sep.map f).intercalate (pieces.map (List.map f)) := by
  induction pieces with
  | nil => rfl
  | cons piece pieces ih =>
    cases pieces with
    | nil => simp
    | cons next pieces =>
      simp only [List.map_cons] at ih ⊢
      rw [List.intercalate_cons_cons, List.intercalate_cons_cons, List.map_append,
        List.map_append, ih]

theorem mem_intercalate_of_mem (sep : List Char) {c : Char} (h : piece ∈ pieces) (mem : c ∈ piece) :
    c ∈ sep.intercalate pieces := by
  induction pieces with
  | nil => cases h
  | cons first pieces ih =>
    cases pieces with
    | nil =>
      obtain rfl := List.mem_singleton.mp h
      rwa [List.intercalate_singleton]
    | cons next pieces =>
      rw [List.intercalate_cons_cons]
      rcases List.mem_cons.mp h with rfl | h
      · exact List.mem_append_left _ (List.mem_append_left _ mem)
      · exact List.mem_append_right _ (ih h)

theorem mem_of_mem_intercalate {sep : List Char} {c : Char} (h : c ∈ sep.intercalate pieces) :
    c ∈ sep ∨ ∃ piece ∈ pieces, c ∈ piece := by
  induction pieces with
  | nil => cases h
  | cons first pieces ih =>
    cases pieces with
    | nil =>
      rw [List.intercalate_singleton] at h
      exact .inr ⟨first, .head _, h⟩
    | cons next pieces =>
      rw [List.intercalate_cons_cons, List.append_assoc] at h
      rcases List.mem_append.mp h with h | h
      · exact .inr ⟨first, .head _, h⟩
      · rcases List.mem_append.mp h with h | h
        · exact .inl h
        · exact (ih h).imp id fun ⟨piece, here, mem⟩ => ⟨piece, .tail _ here, mem⟩

/-! ### Trimming -/

/-- What is left of a text without the blanks around it. -/
structure Trimmed (cs body : List Char) : Prop where
  around : ∃ lead trail, cs = lead ++ body ++ trail ∧ (∀ c ∈ lead, isBlank c = true) ∧
    ∀ c ∈ trail, isBlank c = true
  head : ∀ c ∈ body.head?, isBlank c = false
  last : ∀ c ∈ body.getLast?, isBlank c = false

theorem Trimmed.subset (h : Trimmed cs body) : body ⊆ cs := by
  obtain ⟨lead, trail, rfl, -⟩ := h.around
  intro c mem
  exact List.mem_append_left _ (List.mem_append_right _ mem)

theorem trimmed_trim (cs : List Char) : Trimmed cs (trim cs) := by
  have blank {l : List Char} : ∀ c ∈ l.takeWhile isBlank, isBlank c = true :=
    fun c mem => List.mem_takeWhile_imp mem
  have stops {l : List Char} : ∀ c ∈ (l.dropWhile isBlank).head?, isBlank c = false := by
    intro c mem
    have h := List.head?_dropWhile_not isBlank l
    rw [Option.mem_def.mp mem] at h
    exact h
  -- The text is trimmed from the front and then, turned around, from the back.
  let rest := cs.dropWhile isBlank
  have whole : rest = trim cs ++ (rest.reverse.takeWhile isBlank).reverse := by
    show rest = (rest.reverse.dropWhile isBlank).reverse ++ _
    rw [← List.reverse_append, List.takeWhile_append_dropWhile, List.reverse_reverse]
  constructor
  case around =>
    refine ⟨cs.takeWhile isBlank, (rest.reverse.takeWhile isBlank).reverse, ?_, blank,
      fun c mem => blank c (List.mem_reverse.mp mem)⟩
    rw [List.append_assoc, ← whole, List.takeWhile_append_dropWhile]
  case head =>
    intro c mem
    refine stops (l := cs) c ?_
    show c ∈ rest.head?
    rw [whole, List.head?_append, Option.mem_def.mp mem]
    rfl
  case last =>
    intro c mem
    refine stops (l := rest.reverse) c ?_
    rwa [← List.getLast?_reverse, Option.mem_def]

/-- A text is trimmed of the blanks around it, and of nothing else. -/
theorem trim_eq_iff : trim cs = body ↔ Trimmed cs body := by
  refine ⟨fun h => h ▸ trimmed_trim cs, ?_⟩
  rintro ⟨⟨lead, trail, rfl, leading, trailing⟩, head, last⟩
  have whole : (lead ++ body ++ trail).dropWhile isBlank = (body ++ trail).dropWhile isBlank := by
    rw [List.append_assoc, List.dropWhile_append_of_pos leading]
  -- A body that is empty leaves only blanks; any other begins and ends with what is no blank.
  cases body with
  | nil =>
    have none : trail.dropWhile isBlank = [] := List.dropWhile_eq_nil_iff.mpr trailing
    unfold trim
    rw [whole, List.nil_append, none]
    rfl
  | cons c r =>
    have first : isBlank c = false := head c rfl
    have stays : trim (c :: r) = c :: r := trim_eq_self head last
    have back : trimEnd (c :: r ++ trail) = trimEnd (c :: r) := by
      unfold trimEnd
      rw [List.reverse_append, List.dropWhile_append_of_pos fun c mem =>
        trailing c (List.mem_reverse.mp mem)]
    unfold trim at stays ⊢
    rw [whole, List.cons_append, List.dropWhile_cons_of_neg (by simp [first]), ← List.cons_append,
      back]
    rwa [List.dropWhile_cons_of_neg (by simp [first])] at stays

/-- A text without blanks is trimmed already, whatever blanks stand around it. -/
theorem trim_append (lead trail : List Char) (leading : ∀ c ∈ lead, isBlank c = true)
    (inside : ∀ c ∈ body, isBlank c = false) (trailing : ∀ c ∈ trail, isBlank c = true) :
    trim (lead ++ body ++ trail) = body :=
  trim_eq_iff.mpr {
    around := ⟨lead, trail, rfl, leading, trailing⟩
    head := fun c mem => inside c (List.mem_of_mem_head? mem)
    last := fun c mem => inside c (List.mem_of_mem_getLast? mem) }

/-- Pieces that were put together with blanks around the separators are found by splitting and
trimming. -/
theorem map_trim_splitOn_intercalate (sep : Char) (before after : List Char)
    (blank : ∀ c ∈ before ++ after, isBlank c = true ∧ c ≠ sep) (ne_nil : pieces ≠ [])
    (plain : ∀ piece ∈ pieces, ∀ c ∈ piece, isBlank c = false ∧ c ≠ sep) :
    (splitOn sep ((before ++ sep :: after).intercalate pieces)).map trim = pieces := by
  obtain ⟨blankBefore, blankAfter⟩ := List.forall_mem_append.mp blank
  -- All pieces but the first stand behind the blanks after a separator.
  suffices h : ∀ lead : List Char, (∀ c ∈ lead, isBlank c = true ∧ c ≠ sep) →
      (splitOn sep (lead ++ (before ++ sep :: after).intercalate pieces)).map trim = pieces from
    h [] (by simp)
  induction pieces with
  | nil => exact absurd rfl ne_nil
  | cons piece pieces ih =>
    intro lead blankLead
    obtain ⟨first, others⟩ := List.forall_mem_cons.mp plain
    have inside : ∀ c ∈ piece, isBlank c = false := fun c mem => (first c mem).1
    have leading : ∀ c ∈ lead, isBlank c = true := fun c mem => (blankLead c mem).1
    cases pieces with
    | nil =>
      have free : sep ∉ lead ++ piece := by
        rintro mem
        rcases List.mem_append.mp mem with mem | mem
        · exact (blankLead _ mem).2 rfl
        · exact (first _ mem).2 rfl
      have trimmed := trim_append lead [] leading inside (by simp)
      rw [List.append_nil] at trimmed
      rw [List.intercalate_singleton, splitOn_of_not_mem free, List.map_singleton, trimmed]
    | cons next pieces =>
      have free : sep ∉ lead ++ piece ++ before := by
        rintro mem
        rcases List.mem_append.mp mem with mem | mem
        · rcases List.mem_append.mp mem with mem | mem
          · exact (blankLead _ mem).2 rfl
          · exact (first _ mem).2 rfl
        · exact (blankBefore _ mem).2 rfl
      have trimmed := trim_append lead before leading inside fun c mem => (blankBefore c mem).1
      have split : lead ++ (before ++ sep :: after).intercalate (piece :: next :: pieces) =
          (lead ++ piece ++ before) ++
            sep :: (after ++ (before ++ sep :: after).intercalate (next :: pieces)) := by
        simp [List.intercalate_cons_cons]
      rw [split, splitOn_append_sep free, List.map_cons, trimmed,
        ih (List.cons_ne_nil _ _) others after blankAfter]

end BluetoothDiscovery.Text
