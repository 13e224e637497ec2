import HostVitals.Memory
import HostVitals.Proofs.NameMap.Listed
import HostVitals.Proofs.Text.Spread

/-!
# The memory table, line by line

A memory text is read one line at a time. A line sets one key or none, the last line that sets a
key counts, and no line reaches into another.

* `MemoryLine.Sets`: what a line sets, said without the reader.
* `find?_table_eq_some_iff`: a key has the value of the last line that sets it.
* `entryLine`, `Arranged`: entries as they are printed, one below the other, with lines that set
  nothing anywhere among them.
* `table_line_by_line`: the table of a text in two parts, and reading undoes printing.
-/

namespace HostVitals

open Text

namespace MemoryLine

/-- A key: some characters, and among them no colon and no blank. -/
def PlainKey (key : String) : Prop :=
  key ≠ "" ∧ ∀ c ∈ key.toList, c ≠ ':' ∧ isBlank c = false

instance (key : String) : Decidable (PlainKey key) :=
  @instDecidableAnd _ _ inferInstance (List.decidableBAll _ key.toList)

/-- The first two fields of a line are the key and a numeral of that value. -/
def Sets (line : List Char) (key : String) (value : Nat) : Prop :=
  ∃ token more, fields isSeparator line = key.toList :: token :: more ∧
    Numeral memoryBound token value

/-- A line that sets no key. -/
def Idle (line : List Char) : Prop :=
  ∀ key value, ¬ Sets line key value

theorem isSeparator_eq_false_iff {c : Char} :
    isSeparator c = false ↔ c ≠ ':' ∧ isBlank c = false := by
  simp [isSeparator]

/-- The reader takes a line as the entry that it sets. -/
theorem ofText_eq_entry_iff {line : List Char} {key : String} {value : Nat} :
    ofText line = .entry key value ↔ Sets line key value := by
  unfold ofText Sets
  constructor
  · intro h
    split at h
    · next first token more split =>
      split at h
      · next n read =>
        cases h
        exact ⟨token, more, by rw [split, String.toList_ofList],
          (readUnsigned_eq_ok_iff (by decide)).1 read⟩
      · cases h
    · cases h
  · rintro ⟨token, more, split, number⟩
    simp only [split, (readUnsigned_eq_ok_iff (by decide)).2 number, String.ofList_toList]

/-- The entry of a line, if it sets one. -/
def setting? (line : List Char) : Option (String × Nat) :=
  match ofText line with
  | .entry key value => some (key, value)
  | _ => none

theorem setting?_eq_some_iff {line : List Char} {key : String} {value : Nat} :
    setting? line = some (key, value) ↔ Sets line key value := by
  rw [← ofText_eq_entry_iff, setting?]
  cases ofText line <;> simp

theorem setting?_eq_none_iff {line : List Char} : setting? line = none ↔ Idle line := by
  rw [Option.eq_none_iff_forall_ne_some, Prod.forall]
  simp only [ne_eq, setting?_eq_some_iff, Idle]

/-- A carriage return at the end of a line makes no difference. -/
theorem setting?_dropReturn (line : List Char) : setting? (dropReturn line) = setting? line := by
  rw [setting?, setting?, ofText, ofText, fields_dropReturn (by decide)]

/-- A key that is set is plain. -/
theorem Sets.plainKey {line : List Char} {key : String} {value : Nat} (h : Sets line key value) :
    PlainKey key := by
  obtain ⟨token, more, split, _⟩ := h
  have mem : key.toList ∈ fields isSeparator line := split ▸ List.mem_cons_self
  refine ⟨fun empty => ne_nil_of_mem_fields mem ?_, fun c within => ?_⟩
  · rw [empty]
    rfl
  · exact isSeparator_eq_false_iff.1 (sep_of_mem_fields mem c within)

/-! ## Printed lines -/

/-- An entry as it is printed. -/
def entryLine (key : String) (value : Nat) : List Char :=
  key.toList ++ ':' :: ' ' :: (Nat.toDigits 10 value ++ ' ' :: "kB".toList)

/-- The line of an entry sets it. -/
theorem sets_entryLine {key : String} {value : Nat} (plain : PlainKey key)
    (small : value < memoryBound) : Sets (entryLine key value) key value := by
  have number : Numeral memoryBound (Nat.toDigits 10 value) value := numeral_toDigits small
  have first : fields isSeparator key.toList = [key.toList] := by
    exact fields_eq_singleton (mt String.toList_eq_nil_iff.1 plain.1) fun c mem =>
      isSeparator_eq_false_iff.2 (plain.2 c mem)
  have second : fields isSeparator (Nat.toDigits 10 value) = [Nat.toDigits 10 value] := by
    have solid := Solid.of_numeral number
    refine fields_eq_singleton solid.1 fun c mem => isSeparator_eq_false_iff.2 ⟨?_, solid.2 c mem⟩
    rintro rfl
    exact absurd (Nat.isDigit_of_mem_toDigits (by decide) (by decide) mem) (by decide)
  refine ⟨_, fields isSeparator "kB".toList, ?_, number⟩
  rw [entryLine, fields_append_cons (by decide), fields_cons (by decide),
    fields_append_cons (by decide), first, second]
  rfl

theorem newline_not_mem_entryLine {key : String} (plain : PlainKey key) (value : Nat) :
    '\n' ∉ entryLine key value := by
  have inKey : '\n' ∉ key.toList := fun mem => absurd (plain.2 _ mem).2 (by decide)
  have inValue : '\n' ∉ Nat.toDigits 10 value := fun mem =>
    absurd (Nat.isDigit_of_mem_toDigits (by decide) (by decide) mem) (by decide)
  simp [entryLine, inKey, inValue]

/-- Lines one below the other: one for each of the entries, in order, and between them any lines
that set nothing. An empty one at the end stands for a line feed there. -/
inductive Arranged : List (List Char) → List (String × Nat) → Prop where
  | done : Arranged [] []
  | entry (key : String) (value : Nat) {ls : List (List Char)} {es : List (String × Nat)}
    (rest : Arranged ls es) : Arranged (entryLine key value :: ls) ((key, value) :: es)
  | other {line : List Char} {ls : List (List Char)} {es : List (String × Nat)}
    (flat : '\n' ∉ line) (idle : Idle line) (rest : Arranged ls es) : Arranged (line :: ls) es

/-- Entries that can be printed so that they are read again. -/
def Printable (es : List (String × Nat)) : Prop :=
  ∀ e ∈ es, PlainKey e.1 ∧ e.2 < memoryBound

instance (es : List (String × Nat)) : Decidable (Printable es) :=
  List.decidableBAll _ es

theorem Arranged.flat {ls : List (List Char)} {es : List (String × Nat)} (h : Arranged ls es)
    (printable : Printable es) : ∀ line ∈ ls, '\n' ∉ line := by
  induction h with
  | done => exact fun line mem => absurd mem List.not_mem_nil
  | entry key value rest ih =>
    obtain ⟨⟨plain, _⟩, others⟩ := List.forall_mem_cons.1 printable
    exact List.forall_mem_cons.2 ⟨newline_not_mem_entryLine plain value, ih others⟩
  | other flat _ rest ih => exact List.forall_mem_cons.2 ⟨flat, ih printable⟩

/-- From lines that are arranged so the entries are read, in order. -/
theorem Arranged.filterMap_setting? {ls : List (List Char)} {es : List (String × Nat)}
    (h : Arranged ls es) (printable : Printable es) : ls.filterMap setting? = es := by
  induction h with
  | done => rfl
  | entry key value rest ih =>
    obtain ⟨⟨plain, small⟩, others⟩ := List.forall_mem_cons.1 printable
    rw [List.filterMap_cons_some (setting?_eq_some_iff.2 (sets_entryLine plain small)), ih others]
  | other _ idle rest ih =>
    rw [List.filterMap_cons_none (setting?_eq_none_iff.2 idle), ih printable]

end MemoryLine

namespace MemoryInfo

open MemoryLine

/-! ## Tables -/

/-- The entries that the lines of a text set, in order. -/
def entries (text : List Char) : List (String × Nat) :=
  (lines text).filterMap setting?

theorem table_eq_ofList (text : List Char) : table text = .ofList (entries text) := by
  rw [table, NameMap.ofList, entries, List.foldl_filterMap, List.foldl_map]
  congr 1
  funext m line
  rw [setting?]
  cases ofText line <;> rfl

theorem find?_table (text : List Char) (key : String) :
    (table text).find? key = (entries text).reverse.lookup key := by
  rw [table_eq_ofList, NameMap.find?_ofList]

theorem entries_append {before : List Char} (whole : Whole before) (after : List Char) :
    entries (before ++ after) = entries before ++ entries after := by
  rw [entries, whole.lines_append, List.filterMap_append]
  rfl

theorem find?_table_append {before : List Char} (whole : Whole before) (after : List Char)
    (key : String) : (table (before ++ after)).find? key =
      ((table after).find? key).or ((table before).find? key) := by
  simp only [find?_table, entries_append whole, List.reverse_append, List.lookup_append]

/-- A line that sets nothing may be left out. -/
theorem table_append_idle {before line : List Char} (whole : Whole before) (flat : '\n' ∉ line)
    (idle : Idle line) (after : List Char) :
    table (before ++ (line ++ '\n' :: after)) = table (before ++ after) := by
  have nothing : setting? (dropReturn line) = none := by
    rw [setting?_dropReturn, setting?_eq_none_iff.2 idle]
  have same : entries (line ++ '\n' :: after) = entries after := by
    rw [entries, lines_cons_line flat, List.filterMap_cons_none nothing, entries]
  rw [table_eq_ofList, table_eq_ofList, entries_append whole, entries_append whole, same]

/-- A key has the value of the last line that sets it. -/
theorem find?_table_eq_some_iff {text : List Char} {key : String} {value : Nat} :
    (table text).find? key = some value ↔
      ∃ before line after, lines text = before ++ line :: after ∧ Sets line key value ∧
        ∀ later ∈ after, ∀ other, ¬ Sets later key other := by
  -- From the end of the text, since a later line hides the earlier ones.
  rw [find?_table, entries, ← List.filterMap_reverse, NameMap.lookup_filterMap_eq_some_iff]
  simp only [ne_eq, setting?_eq_some_iff]
  constructor
  · rintro ⟨after, line, before, split, sets, last⟩
    refine ⟨before.reverse, line, after.reverse, ?_, sets, by simpa using last⟩
    rw [← List.reverse_reverse (lines text), split]
    simp
  · rintro ⟨before, line, after, split, sets, last⟩
    exact ⟨after.reverse, line, before.reverse, by simp [split], sets, by simpa using last⟩

/-- Keys of a table are plain. -/
theorem plainKey_of_mem_names {text : List Char} {key : String} (h : key ∈ (table text).names) :
    PlainKey key := by
  obtain ⟨value, known⟩ := Option.isSome_iff_exists.1 (NameMap.mem_names_iff.1 h)
  obtain ⟨_, _, _, _, sets, _⟩ := find?_table_eq_some_iff.1 known
  exact sets.plainKey

theorem entries_arranged {ls : List (List Char)} {es : List (String × Nat)}
    (arranged : Arranged ls es) (printable : Printable es) :
    entries (['\n'].intercalate ls) = es := by
  have seen : lines (['\n'].intercalate ls) = endLines ls := by
    cases ls with
    | nil => exact lines_nil
    | cons line rest => exact lines_intercalate (List.cons_ne_nil _ _) (arranged.flat printable)
  rw [entries, seen, filterMap_endLines (by decide +kernel) setting?_dropReturn,
    arranged.filterMap_setting? printable]

/-- A memory text is read line by line. Of a text in two parts the second overrides the first. A
line sets a key if its first two fields are the key and a numeral within bounds, and a key has the
value of the last line that sets it; a line that sets none takes nothing away. Every key is plain,
and any table of plain keys can be printed, its entries in any order and among any lines that set
nothing, and is read again. -/
theorem table_line_by_line :
    (∀ before after, Whole before → ∀ key, (table (before ++ after)).find? key =
      ((table after).find? key).or ((table before).find? key)) ∧
    (∀ line key value, MemoryLine.ofText line = .entry key value ↔ Sets line key value) ∧
    (∀ text key value, (table text).find? key = some value ↔
      ∃ before line after, lines text = before ++ line :: after ∧ Sets line key value ∧
        ∀ later ∈ after, ∀ other, ¬ Sets later key other) ∧
    (∀ before line after, Whole before → '\n' ∉ line → Idle line →
      table (before ++ (line ++ '\n' :: after)) = table (before ++ after)) ∧
    (∀ text, ∀ key ∈ (table text).names, PlainKey key) ∧
    ∀ (m : NameMap Nat) ls es, Printable m.entries → es.Perm m.entries → Arranged ls es →
      table (['\n'].intercalate ls) = m := by
  refine ⟨fun before after whole => find?_table_append whole after,
    fun line key value => ofText_eq_entry_iff, fun text key value => find?_table_eq_some_iff,
    fun before line after whole flat idle => table_append_idle whole flat idle after,
    fun text key mem => plainKey_of_mem_names mem, fun m ls es printable perm arranged => ?_⟩
  have printable' : Printable es := fun e mem => printable e (perm.mem_iff.1 mem)
  rw [table_eq_ofList, entries_arranged arranged printable']
  exact NameMap.ofList_eq_of_perm perm

/-- Two values. -/
def twoValues : NameMap Nat :=
  .ofList [("Active", 9), ("Cached", 3)]

/-- What is no value neither counts nor hides the value above it, be it no number or too large a
one, and does not disturb what is printed around it. -/
theorem table_line_by_line_junk :
    (table ("Cached: 3 kB\nActive: 1 kB\n".toList ++ "Active: +09\r\nCached: x kB".toList)).find?
      "Cached" = some 3 ∧
    table ("Cached: 3 kB\n".toList ++ ("Cached: 18446744073709551616".toList ++ '\n' :: [])) =
      table "Cached: 3 kB\n".toList ∧
    PlainKey "Active" ∧
    table "Cached: 3 kB\nActive: x kB\nActive: 9 kB\n".toList = twoValues := by
  obtain ⟨overrides, _, _, skips, plain, reads⟩ := table_line_by_line
  have idle : Idle "Active: x kB".toList := setting?_eq_none_iff.1 (by decide +kernel)
  have tooLarge : Idle "Cached: 18446744073709551616".toList :=
    setting?_eq_none_iff.1 (by decide +kernel)
  have nothing : Idle [] := setting?_eq_none_iff.1 (by decide +kernel)
  have arranged : Arranged
      [entryLine "Cached" 3, "Active: x kB".toList, entryLine "Active" 9, []]
      [("Cached", 3), ("Active", 9)] :=
    .entry "Cached" 3 (.other (by decide +kernel) idle (.entry "Active" 9
      (.other (by decide +kernel) nothing .done)))
  have printable : Printable twoValues.entries := by decide +kernel
  refine ⟨(overrides _ _ (.inr (by decide +kernel)) _).trans (by decide +kernel), ?_,
    plain "Active: 9".toList _ (by decide +kernel), ?_⟩
  · exact (skips _ _ _ (.inr (by decide +kernel)) (by decide +kernel) tooLarge).trans
      (by rw [List.append_nil])
  · exact reads twoValues _ _ printable (.swap _ _ _) arranged

end MemoryInfo

end HostVitals
