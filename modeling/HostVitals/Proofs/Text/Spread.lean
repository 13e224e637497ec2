import HostVitals.Proofs.Text.Numeral
import HostVitals.Text.Blank
import Mathlib.Data.List.Basic
import Mathlib.Data.List.TakeWhile

/-!
# Words set out in a line

Reading the other way round: a line is put together from its words, with blanks of any width
around them, and the readers find the words again.

* `Inline`: blanks within a line.
* `Spread`: items with the blanks around them; `Spread.line` is how they are printed.
* `words_line`: the words of a printed line are the printed items.
* `exists_trim`: what trimming takes away are blanks at the two ends; `trim_indent` is the way back.
* `splitOn_eq_iff`: the runs into which a separator divides a text.
* `SeenAs`: what becomes of a line once it is one of many (`lines_intercalate`, `endLines_cons`).
* `Whole`: whole lines, which are read apart from what follows (`Whole.lines_append`).
* `numeral_toDigits`: the decimal digits of a number are a numeral of that worth.
-/

namespace HostVitals.Text

/-! ## Blanks -/

/-- Blanks that do not end the line. -/
def Inline (cs : List Char) : Prop :=
  ∀ c ∈ cs, isBlank c = true ∧ c ≠ '\n'

instance (cs : List Char) : Decidable (Inline cs) :=
  List.decidableBAll _ cs

/-- A word: some characters, and none of them blank. -/
def Solid (cs : List Char) : Prop :=
  cs ≠ [] ∧ ∀ c ∈ cs, isBlank c = false

instance (cs : List Char) : Decidable (Solid cs) :=
  @instDecidableAnd _ _ inferInstance (List.decidableBAll _ cs)

/-- A text without blanks at its ends. -/
def Trimmed (cs : List Char) : Prop :=
  (∀ c ∈ cs.head?, isBlank c = false) ∧ ∀ c ∈ cs.getLast?, isBlank c = false

instance (cs : List Char) : Decidable (Trimmed cs) :=
  decidable_of_iff ((cs.head?.all fun c => !isBlank c) = true ∧
    (cs.getLast?.all fun c => !isBlank c) = true) (by simp [Trimmed, Option.all_eq_true])

theorem Inline.newline_not_mem {cs : List Char} (h : Inline cs) : '\n' ∉ cs :=
  fun mem => (h _ mem).2 rfl

theorem Solid.newline_not_mem {cs : List Char} (h : Solid cs) : '\n' ∉ cs :=
  fun mem => absurd (h.2 _ mem) (by decide)

theorem Solid.of_numeral {bound n : Nat} {token : List Char} (h : Numeral bound token n) :
    Solid token := by
  obtain ⟨digits, spelled, ne, only, _⟩ := h
  have solid : ∀ c ∈ digits, isBlank c = false := by
    intro c mem
    have digit : 48 ≤ c.toNat ∧ c.toNat ≤ 57 := by
      simpa [Char.isDigit, UInt32.le_iff_toNat_le] using only c mem
    simp only [isBlank, Bool.or_eq_false_iff, Bool.and_eq_false_iff, decide_eq_false_iff_not,
      beq_eq_false_iff_ne]
    omega
  rcases spelled with rfl | rfl
  · exact ⟨ne, solid⟩
  · exact ⟨List.cons_ne_nil _ _, List.forall_mem_cons.2 ⟨by decide, solid⟩⟩

/-! ## Words -/

theorem words_blank_append {gap : List Char} (blank : ∀ c ∈ gap, isBlank c = true)
    (after : List Char) : words (gap ++ after) = words after := by
  induction gap with
  | nil => rfl
  | cons c gap ih =>
    obtain ⟨first, rest⟩ := List.forall_mem_cons.1 blank
    rw [List.cons_append, words, fields_cons first]
    exact ih rest

theorem words_append_blank {gap : List Char} (blank : ∀ c ∈ gap, isBlank c = true)
    (before : List Char) : words (before ++ gap) = words before := by
  cases gap with
  | nil => rw [List.append_nil]
  | cons c gap =>
    obtain ⟨first, rest⟩ := List.forall_mem_cons.1 blank
    have none : words (gap ++ []) = [] := words_blank_append rest []
    rw [List.append_nil] at none
    calc words (before ++ c :: gap) = words before ++ words gap := fields_append_cons first _ _
      _ = words before := by rw [none, List.append_nil]

/-- A word ends where the line ends or a blank follows. -/
theorem words_solid_append {word after : List Char} (solid : Solid word)
    (ends : ∀ c ∈ after.head?, isBlank c = true) : words (word ++ after) = word :: words after := by
  have alone : words word = [word] := fields_eq_singleton solid.1 solid.2
  cases after with
  | nil => rw [List.append_nil, alone, words, fields_nil]
  | cons c after =>
    have blank := ends c rfl
    calc words (word ++ c :: after) = words word ++ words after := fields_append_cons blank _ _
      _ = word :: words after := by rw [alone]; rfl
      _ = word :: words (c :: after) := congrArg _ (fields_cons blank after).symm

/-- Trimming cuts blanks off at the two ends and leaves none there. -/
theorem exists_trim (cs : List Char) : ∃ front back, cs = front ++ (trim cs ++ back) ∧
    (∀ c ∈ front, isBlank c = true) ∧ (∀ c ∈ back, isBlank c = true) ∧ Trimmed (trim cs) := by
  have front := List.takeWhile_append_dropWhile (p := isBlank) (l := cs)
  have back := List.takeWhile_append_dropWhile (p := isBlank)
    (l := (cs.dropWhile isBlank).reverse)
  have cut : cs.dropWhile isBlank =
      trim cs ++ ((cs.dropWhile isBlank).reverse.takeWhile isBlank).reverse := by
    rw [trim, ← List.reverse_append, back, List.reverse_reverse]
  refine ⟨_, _, by rw [← cut, front], fun c mem => List.mem_takeWhile_imp mem,
    fun c mem => List.mem_takeWhile_imp (List.mem_reverse.1 mem), fun c first => ?_,
    fun c last => ?_⟩
  · have stops := List.head?_dropWhile_not isBlank cs
    rw [cut, List.head?_append, first] at stops
    simpa using stops
  · have stops := List.head?_dropWhile_not isBlank (cs.dropWhile isBlank).reverse
    rw [trim, List.getLast?_reverse] at last
    rw [last] at stops
    simpa using stops

theorem words_trim (cs : List Char) : words (trim cs) = words cs := by
  obtain ⟨front, back, split, blank, blank', _⟩ := exists_trim cs
  calc words (trim cs)
      = words (trim cs ++ back) := (words_append_blank blank' _).symm
    _ = words (front ++ (trim cs ++ back)) := (words_blank_append blank _).symm
    _ = words cs := by rw [← split]

/-- Trimming takes away an indent, and nothing of a name without outer blanks. -/
theorem trim_indent {indent name : List Char} (blank : ∀ c ∈ indent, isBlank c = true)
    (trimmed : Trimmed name) : trim (indent ++ name) = name := by
  have stays {cs : List Char} (first : ∀ c ∈ cs.head?, isBlank c = false) :
      cs.dropWhile isBlank = cs := by
    cases cs with
    | nil => rfl
    | cons c cs => exact List.dropWhile_cons_of_neg (by rw [first c rfl]; exact Bool.false_ne_true)
  rw [trim, List.dropWhile_append_of_pos blank, stays trimmed.1,
    stays (by rw [List.head?_reverse]; exact trimmed.2), List.reverse_reverse]

/-! ## Lines -/

/-- A line as a reader sees it, perhaps without its carriage return. -/
def SeenAs (line seen : List Char) : Prop :=
  seen = line ∨ seen = dropReturn line

theorem dropReturn_append_cons (before : List Char) (c : Char) (after : List Char) :
    dropReturn (before ++ c :: after) = before ++ dropReturn (c :: after) := by
  rw [dropReturn, dropReturn, List.getLast?_append_cons]
  split
  · rw [List.dropLast_append_of_ne_nil (List.cons_ne_nil c after)]
  · rfl

theorem dropReturn_cons {c : Char} (other : c ≠ '\r') (after : List Char) :
    dropReturn (c :: after) = c :: dropReturn after := by
  cases after with
  | nil => simp [dropReturn, other]
  | cons d after => exact dropReturn_append_cons [c] d after

/-- Only what stands after a bar or a colon can be cut short. -/
theorem SeenAs.of_append_cons {before after seen : List Char} {c : Char} (other : c ≠ '\r')
    (h : SeenAs (before ++ c :: after) seen) :
    ∃ rest, SeenAs after rest ∧ seen = before ++ c :: rest := by
  rcases h with rfl | rfl
  · exact ⟨after, .inl rfl, rfl⟩
  · exact ⟨dropReturn after, .inr rfl, by rw [dropReturn_append_cons, dropReturn_cons other]⟩

theorem SeenAs.subset {line seen : List Char} (h : SeenAs line seen) : seen ⊆ line := by
  rcases h with rfl | rfl
  · exact List.Subset.refl _
  · unfold dropReturn
    split
    · exact List.dropLast_subset line
    · exact List.Subset.refl _

/-- Where a carriage return sets fields apart it makes no difference at the end of a line. -/
theorem fields_dropReturn {sep : Char → Bool} (apart : sep '\r' = true) (line : List Char) :
    fields sep (dropReturn line) = fields sep line := by
  unfold dropReturn
  split
  · next last =>
    obtain ⟨front, rfl⟩ := List.getLast?_eq_some_iff.1 last
    rw [List.dropLast_concat, fields_append_cons apart, fields_nil, List.append_nil]
  · rfl

theorem SeenAs.words_eq {line seen : List Char} (h : SeenAs line seen) :
    words seen = words line := by
  rcases h with rfl | rfl
  · rfl
  · exact fields_dropReturn (by decide) line

/-- A line that is not empty is seen, and after it the others are. -/
theorem endLines_cons {line : List Char} (ne : line ≠ []) (rest : List (List Char)) :
    ∃ seen, SeenAs line seen ∧ endLines (line :: rest) = seen :: endLines rest := by
  cases rest with
  | nil => exact ⟨line, .inl rfl, by simp [endLines, ne]⟩
  | cons next more => exact ⟨dropReturn line, .inr rfl, rfl⟩

/-- What is taken of each line is taken of each piece, if line ends and an empty last piece make no
difference to it. -/
theorem filterMap_endLines {α : Type} {f : List Char → Option α} (empty : f [] = none)
    (same : ∀ line, f (dropReturn line) = f line) (pieces : List (List Char)) :
    (endLines pieces).filterMap f = pieces.filterMap f := by
  induction pieces with
  | nil => rfl
  | cons piece rest ih =>
    cases rest with
    | nil => cases piece <;> simp [endLines, empty]
    | cons next more =>
      rw [endLines, List.filterMap_cons, same, ih, ← List.filterMap_cons]
      exact List.cons_ne_nil _ _

/-- Nothing but whole lines, each with its line end. -/
def Whole (cs : List Char) : Prop :=
  cs = [] ∨ cs.getLast? = some '\n'

/-- Whole lines are read apart from what follows them. -/
theorem Whole.lines_append {before : List Char} (whole : Whole before) (after : List Char) :
    lines (before ++ after) = lines before ++ lines after := by
  rcases whole with rfl | last
  · rw [lines_nil]
    rfl
  · obtain ⟨front, rfl⟩ := List.getLast?_eq_some_iff.1 last
    rw [List.append_assoc]
    exact lines_append_newline front after

/-- A text falls into runs if it is put together from them and none of them holds the separator. -/
theorem splitOn_eq_iff {sep : Char} {cs : List Char} {runs : List (List Char)} (ne : runs ≠ []) :
    cs.splitOn sep = runs ↔ cs = [sep].intercalate runs ∧ ∀ run ∈ runs, sep ∉ run := by
  constructor
  · rintro rfl
    exact ⟨(List.intercalate_splitOn sep).symm, fun _ => not_mem_of_mem_splitOn⟩
  · rintro ⟨rfl, flat⟩
    exact List.splitOn_intercalate sep flat ne

/-- Of lines set one below the other each is seen, but for an empty one at the end. -/
theorem lines_intercalate {ls : List (List Char)} (ne : ls ≠ []) (flat : ∀ line ∈ ls, '\n' ∉ line) :
    lines (['\n'].intercalate ls) = endLines ls := by
  rw [lines, List.splitOn_intercalate '\n' flat ne]

/-! ## Setting words out -/

/-- Items to be set out in a line: each with the blanks before it, and the blanks after the last.
Only before the first item may there be none. -/
structure Spread (α : Type) where
  cells : List (List Char × α)
  rest : List Char
  inline : ∀ cell ∈ cells, Inline cell.1
  apart : ∀ cell ∈ cells.tail, cell.1 ≠ []
  inline_rest : Inline rest

namespace Spread

variable {α : Type}

/-- The items, in order. -/
def items (spread : Spread α) : List α :=
  spread.cells.map (·.2)

/-- The items as they are printed. -/
def line (print : α → List Char) (spread : Spread α) : List Char :=
  (spread.cells.flatMap fun cell => cell.1 ++ print cell.2) ++ spread.rest

theorem mem_line {print : α → List Char} {spread : Spread α} {c : Char}
    (h : c ∈ spread.line print) :
    (isBlank c = true ∧ c ≠ '\n') ∨ ∃ item ∈ spread.items, c ∈ print item := by
  rcases List.mem_append.1 h with cell | rest
  · obtain ⟨cell, mem, within⟩ := List.mem_flatMap.1 cell
    rcases List.mem_append.1 within with gap | item
    · exact .inl (spread.inline cell mem c gap)
    · exact .inr ⟨cell.2, List.mem_map_of_mem mem, item⟩
  · exact .inl (spread.inline_rest c rest)

/-- The words of a printed line are the printed items. -/
theorem words_line {print : α → List Char} (spread : Spread α)
    (solid : ∀ item ∈ spread.items, Solid (print item)) :
    words (spread.line print) = spread.items.map print := by
  obtain ⟨cells, rest, inline, apart, inlineRest⟩ := spread
  simp only [line, items, List.map_map] at solid ⊢
  induction cells with
  | nil => exact words_append_blank (fun c mem => (inlineRest c mem).1) []
  | cons cell cells ih =>
    obtain ⟨first, others⟩ := List.forall_mem_cons.1 inline
    obtain ⟨word, words'⟩ := List.forall_mem_cons.1 solid
    have ends : ∀ c ∈ ((cells.flatMap fun cell => cell.1 ++ print cell.2) ++ rest).head?,
        isBlank c = true := by
      intro c mem
      cases cells with
      | nil => exact (inlineRest c (List.mem_of_mem_head? mem)).1
      | cons next more =>
        -- A gap follows, and it is not empty.
        obtain ⟨d, gap, eq⟩ := List.exists_cons_of_ne_nil (apart next List.mem_cons_self)
        have blank := (others next List.mem_cons_self d (eq ▸ List.mem_cons_self)).1
        simp only [List.flatMap_cons, eq, List.cons_append, List.head?_cons,
          Option.mem_some_iff] at mem
        exact mem ▸ blank
    rw [List.flatMap_cons, List.append_assoc, List.append_assoc,
      words_blank_append (fun c mem => (first c mem).1), words_solid_append word ends,
      ih others (fun c mem => apart c (List.mem_of_mem_tail mem)) words']
    rfl

end Spread

/-! ## Numbers -/

/-- The decimal digits of a number are a numeral of that worth. -/
theorem numeral_toDigits {bound n : Nat} (small : n < bound) :
    Numeral bound (Nat.toDigits 10 n) n :=
  ⟨Nat.toDigits 10 n, .inl rfl, Nat.toDigits_ne_nil,
    fun c mem => Nat.isDigit_of_mem_toDigits (by decide) (by decide) mem, worth_toDigits n, small⟩

end HostVitals.Text
