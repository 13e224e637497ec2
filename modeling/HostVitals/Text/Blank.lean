/-!
# Blanks, fields and lines

How a kernel text is cut up before anything is read from it.

* `isBlank`: the white space that separates tokens.
* `trim`: a text without its outer blanks.
* `fields`: the non-empty runs between separator characters; `words` are the
  fields between blanks.
* `lines`: the lines of a text, without their line ends.

Fields are read separator by separator (`fields_append_cons`) and lines one after the
other (`lines_append_newline`), so nothing reaches over a separator or a line end.
-/

namespace HostVitals.Text

/-- The Unicode White_Space characters. -/
def isBlank (c : Char) : Bool :=
  let n := c.toNat
  (9 ≤ n && n ≤ 13) || n == 0x20 || n == 0x85 || n == 0xA0 || n == 0x1680 ||
    (0x2000 ≤ n && n ≤ 0x200A) || n == 0x2028 || n == 0x2029 || n == 0x202F ||
    n == 0x205F || n == 0x3000

/-- A text without the blanks at its two ends. -/
def trim (cs : List Char) : List Char :=
  ((cs.dropWhile isBlank).reverse.dropWhile isBlank).reverse

/-- The non-empty runs of characters outside `sep`, in order. -/
def fields (sep : Char → Bool) (cs : List Char) : List (List Char) :=
  (cs.splitOnP sep).filter fun run => !run.isEmpty

/-- The tokens of a text: its fields between blanks. -/
def words (cs : List Char) : List (List Char) :=
  fields isBlank cs

/-- A line without the carriage return that belongs to its line end. -/
def dropReturn (line : List Char) : List Char :=
  if line.getLast? = some '\r' then line.dropLast else line

/-- Reads the pieces between line feeds as lines. Each piece but the last ended
in a line feed, so a carriage return before it goes too; the last piece is a line
only when it is not empty, and keeps all its characters. -/
def endLines : List (List Char) → List (List Char)
  | [] => []
  | [last] => if last.isEmpty then [] else [last]
  | line :: rest => dropReturn line :: endLines rest

/-- The lines of a text. -/
def lines (cs : List Char) : List (List Char) :=
  endLines (cs.splitOn '\n')

/-! ## Fields -/

theorem fields_nil (sep : Char → Bool) : fields sep [] = [] := by
  simp [fields]

theorem ne_nil_of_mem_fields {sep : Char → Bool} {cs run : List Char} (h : run ∈ fields sep cs) :
    run ≠ [] := by
  simp only [fields, List.mem_filter, Bool.not_eq_true', List.isEmpty_eq_false_iff] at h
  exact h.2

/-- A run without separators is one field. -/
theorem fields_eq_singleton {sep : Char → Bool} {run : List Char} (ne : run ≠ [])
    (h : ∀ c ∈ run, sep c = false) : fields sep run = [run] := by
  have full : run.isEmpty = false := List.isEmpty_eq_false_iff.2 ne
  simp [fields, List.splitOnP_eq_singleton h, full]

/-- No field extends over a separator. -/
theorem fields_append_cons {sep : Char → Bool} {c : Char} (h : sep c = true)
    (before after : List Char) :
    fields sep (before ++ c :: after) = fields sep before ++ fields sep after := by
  rw [fields, List.splitOnP_append_cons before after h, List.filter_append]
  rfl

theorem fields_cons {sep : Char → Bool} {c : Char} (h : sep c = true) (after : List Char) :
    fields sep (c :: after) = fields sep after := by
  have := fields_append_cons h [] after
  rwa [fields_nil, List.nil_append, List.nil_append] at this

/-- What is set apart holds no separators. -/
theorem sep_of_mem_splitOnP {sep : Char → Bool} {cs : List Char} :
    ∀ run ∈ cs.splitOnP sep, ∀ c ∈ run, sep c = false := by
  induction cs with
  | nil => simp
  | cons d ds ih =>
    intro run mem
    rw [List.splitOnP_cons_eq_if_modifyHead] at mem
    split at mem
    · rcases List.mem_cons.1 mem with rfl | mem
      · simp
      · exact ih run mem
    · next hd =>
      obtain ⟨first, rest, eq⟩ := List.exists_cons_of_ne_nil (List.splitOnP_ne_nil sep ds)
      rw [eq] at mem ih
      rcases List.mem_cons.1 mem with rfl | mem
      · intro c hc
        rcases List.mem_cons.1 hc with rfl | hc
        · simpa using hd
        · exact ih first List.mem_cons_self c hc
      · exact ih run (List.mem_cons_of_mem _ mem)

theorem not_mem_of_mem_splitOn {c : Char} {cs run : List Char} (mem : run ∈ cs.splitOn c) :
    c ∉ run := by
  rw [List.splitOn_eq_splitOnP] at mem
  intro found
  simpa using sep_of_mem_splitOnP run mem c found

theorem sep_of_mem_fields {sep : Char → Bool} {cs run : List Char} (h : run ∈ fields sep cs) :
    ∀ c ∈ run, sep c = false :=
  sep_of_mem_splitOnP run (List.mem_filter.1 h).1

/-! ## Lines -/

theorem lines_nil : lines [] = [] := by
  simp [lines, endLines]

theorem endLines_append (front : List (List Char)) {rest : List (List Char)} (ne : rest ≠ []) :
    endLines (front ++ rest) = front.map dropReturn ++ endLines rest := by
  induction front with
  | nil => rfl
  | cons line front ih =>
    obtain ⟨next, more, eq⟩ : ∃ next more, front ++ rest = next :: more :=
      List.exists_cons_of_ne_nil (by simp [ne])
    rw [List.cons_append, eq, endLines, ← eq, ih]
    · rfl
    · simp

/-- A line feed ends a line; what follows is read on its own. -/
theorem lines_append_newline (before after : List Char) :
    lines (before ++ '\n' :: after) = lines (before ++ ['\n']) ++ lines after := by
  have split (rest : List Char) :
      lines (before ++ '\n' :: rest) = (before.splitOn '\n').map dropReturn ++ lines rest := by
    rw [lines, List.splitOn_append_cons_self, endLines_append _ (List.splitOn_ne_nil _ _)]
    rfl
  rw [split after, split [], lines_nil, List.append_nil]

/-- A text that begins with a whole line. -/
theorem lines_cons_line {line : List Char} (h : '\n' ∉ line) (after : List Char) :
    lines (line ++ '\n' :: after) = dropReturn line :: lines after := by
  rw [lines, List.splitOn_append_cons_self_of_not_mem h]
  exact endLines_append [line] (List.splitOn_ne_nil _ _)

example : words " a\tb  c\u00a0".toList = ["a".toList, "b".toList, "c".toList] := by decide +kernel
example : lines "a\r\n\nb\r".toList = ["a".toList, [], "b\r".toList] := by decide +kernel

end HostVitals.Text
