import HostVitals.Proofs.Network.Grammar
import HostVitals.Proofs.Text.Spread

/-!
# Printed interface tables

Reading undoes printing. A table is printed from its column names and rows, with any title, any
widths of the blanks and blank lines anywhere among the rows, and whatever reads the text finds
what was printed.

* `PrintedRow`, `BodyLine`, `PrintedTable`: what is printed. They hold what makes it printable, so
  there is no table whose text says something else.
* `PrintedRow.spelledBy_seen`: the line of a row spells the row.
* `PrintedTable.readHeader_seen`, `readRows_text`: what the readers find in the text of a table.
* `create_reads_printed`: what creation makes of such a text, and a refresh.
-/

namespace HostVitals

open Logged Text

namespace Network

/-! ## What is printed -/

/-- A column name: a word without bars. -/
structure ColumnName where
  chars : List Char
  solid : Solid chars
  barless : '|' ∉ chars

/-- An interface name as metric names have it. -/
def dotted (name : List Char) : String :=
  String.ofList (name.map fun c => if c = ':' then '.' else c)

/-- The row of an interface: an indent, its name and its counters. The name fits in a line and has
no blanks at its ends, but otherwise any characters, colons and blanks among them. -/
structure PrintedRow (columns : Nat) where
  indent : List Char
  name : List Char
  counters : Spread Nat
  inline_indent : Inline indent
  named : name ≠ []
  flat : '\n' ∉ name
  trimmed : Trimmed name
  bounded : ∀ n ∈ counters.items, n < counterBound
  complete : counters.items.length = columns

namespace PrintedRow

variable {columns : Nat}

/-- The text after the name and its colon. -/
def numbers (printed : PrintedRow columns) : List Char :=
  printed.counters.line (Nat.toDigits 10)

def line (printed : PrintedRow columns) : List Char :=
  (printed.indent ++ printed.name) ++ ':' :: printed.numbers

/-- The row that is to be read. -/
def row (printed : PrintedRow columns) : Row where
  name := dotted printed.name
  counters := printed.counters.items

end PrintedRow

/-- A line below the header: a blank one or a row. -/
inductive BodyLine (columns : Nat) where
  | blank (line : List Char) (inline : Inline line)
  | row (printed : PrintedRow columns)

namespace BodyLine

variable {columns : Nat}

def line : BodyLine columns → List Char
  | blank line _ => line
  | row printed => printed.line

def row? : BodyLine columns → Option (PrintedRow columns)
  | blank _ _ => none
  | row printed => some printed

end BodyLine

/-- An interface table: a title, a header with the column names between bars, and the lines below
it. Each interface has a name of its own also once its colons are dots. A last line that is empty
stands for a line feed at the end of the text. -/
structure PrintedTable where
  title : List Char
  label : List Char
  receive : Spread ColumnName
  transmit : Spread ColumnName
  body : List (BodyLine (receive.items.length + transmit.items.length))
  flat_title : '\n' ∉ title
  flat_label : '\n' ∉ label
  barless_label : '|' ∉ label
  inhabited : receive.items ≠ [] ∨ transmit.items ≠ []
  distinct : (body.filterMap BodyLine.row?).Pairwise fun a b => dotted a.name ≠ dotted b.name

namespace PrintedTable

/-- The number of columns. -/
abbrev width (table : PrintedTable) : Nat :=
  table.receive.items.length + table.transmit.items.length

/-- The names of the counters, in column order. -/
def columns (table : PrintedTable) : List String :=
  table.receive.items.map (fun column => "receive." ++ String.ofList column.chars) ++
    table.transmit.items.map fun column => "transmit." ++ String.ofList column.chars

def rows (table : PrintedTable) : List (PrintedRow table.width) :=
  table.body.filterMap BodyLine.row?

def header (table : PrintedTable) : List Char :=
  table.label ++ '|' ::
    (table.receive.line ColumnName.chars ++ '|' :: table.transmit.line ColumnName.chars)

/-- The table as it is printed, line by line. -/
def text (table : PrintedTable) : List Char :=
  ['\n'].intercalate (table.title :: table.header :: table.body.map BodyLine.line)

theorem length_columns (table : PrintedTable) : table.columns.length = table.width := by
  simp [columns]

end PrintedTable

/-! ## Rows -/

theorem solid_toDigits {n : Nat} (small : n < counterBound) : Solid (Nat.toDigits 10 n) :=
  .of_numeral (numeral_toDigits small)

namespace PrintedRow

variable {columns : Nat} (printed : PrintedRow columns)

theorem words_numbers : words printed.numbers = printed.counters.items.map (Nat.toDigits 10) :=
  printed.counters.words_line fun n mem => solid_toDigits (printed.bounded n mem)

/-- What is printed after the name are blanks and digits. -/
theorem isBlank_or_isDigit_of_mem_numbers {c : Char} (h : c ∈ printed.numbers) :
    isBlank c = true ∧ c ≠ '\n' ∨ c.isDigit = true := by
  refine (Spread.mem_line h).imp id ?_
  rintro ⟨n, _, digit⟩
  exact Nat.isDigit_of_mem_toDigits (by decide) (by decide) digit

theorem not_mem_numbers {c : Char} (other : (isBlank c = true → c = '\n') ∧ c.isDigit = false) :
    c ∉ printed.numbers := by
  intro mem
  rcases printed.isBlank_or_isDigit_of_mem_numbers mem with ⟨blank, ne⟩ | digit
  · exact ne (other.1 blank)
  · exact absurd digit (by rw [other.2]; exact Bool.false_ne_true)

theorem newline_not_mem_line : '\n' ∉ printed.line := by
  have numbers : '\n' ∉ printed.numbers := printed.not_mem_numbers (by decide)
  simp [line, printed.inline_indent.newline_not_mem, printed.flat, numbers]

theorem cleanName_indent : cleanName (printed.indent ++ printed.name) = dotted printed.name := by
  have blank : ∀ c ∈ printed.indent, isBlank c = true :=
    fun c mem => (printed.inline_indent c mem).1
  rw [cleanName, trim_indent blank printed.trimmed, dotted]

theorem not_blank_name : ¬Blank (printed.indent ++ printed.name) := by
  intro blank
  obtain ⟨c, rest, eq⟩ := List.exists_cons_of_ne_nil printed.named
  have first : isBlank c = false := printed.trimmed.1 c (by rw [eq]; rfl)
  have atName : isBlank c = true :=
    blank c (List.mem_append_right _ (by rw [eq]; exact List.mem_cons_self))
  exact absurd (first.symm.trans atName) Bool.false_ne_true

/-- The line of a row spells the row, also where its line end takes a blank with it. -/
theorem spelledBy_seen {seen : List Char} (h : SeenAs printed.line seen) :
    printed.row.SpelledBy columns seen := by
  obtain ⟨rest, seenRest, rfl⟩ := SeenAs.of_append_cons (by decide) h
  have colonless : ':' ∉ printed.numbers := printed.not_mem_numbers (by decide)
  refine ⟨_, rest, rfl, fun mem => colonless (seenRest.subset mem), printed.not_blank_name,
    printed.cleanName_indent.symm, ?_, printed.complete⟩
  rw [seenRest.words_eq, printed.words_numbers, List.forall₂_map_left_iff]
  exact List.forall₂_same.2 fun n mem => numeral_toDigits (printed.bounded n mem)

end PrintedRow

/-! ## Lines -/

namespace BodyLine

variable {columns : Nat}

theorem newline_not_mem_line : ∀ l : BodyLine columns, '\n' ∉ l.line
  | blank _ inline => inline.newline_not_mem
  | row printed => printed.newline_not_mem_line

/-- A line says its row, or nothing. -/
theorem mapM_read_seen (location : String) (l : BodyLine columns) {seen : List Char}
    (h : SeenAs l.line seen) :
    ([seen].filter isInhabited).mapM (Row.read columns location) =
      .ok (l.row?.toList.map PrintedRow.row) := by
  cases l with
  | blank line inline =>
    have blank : Blank seen := fun c mem => (inline c (h.subset mem)).1
    rw [List.filter_cons_of_neg (mt isInhabited_iff.1 (not_not_intro blank))]
    rfl
  | row printed =>
    have spelled := printed.spelledBy_seen h
    rw [List.filter_cons_of_pos spelled.isInhabited]
    exact mapM_eq_ok_iff.2 (.cons (Row.read_eq_ok_iff.2 spelled) .nil)

end BodyLine

/-- Of the lines of a text those that say something are seen one by one. -/
theorem filter_endLines_cons (line : List Char) (rest : List (List Char)) :
    ∃ seen, SeenAs line seen ∧ (endLines (line :: rest)).filter isInhabited =
      [seen].filter isInhabited ++ (endLines rest).filter isInhabited := by
  by_cases empty : line = []
  · subst empty
    exact ⟨[], .inl rfl, by cases rest <;> rfl⟩
  · obtain ⟨seen, sees, eq⟩ := endLines_cons empty rest
    exact ⟨seen, sees, by rw [eq, ← List.filter_append]; rfl⟩

/-- All lines below the header are read, each as what was printed. -/
theorem mapM_read_body {columns : Nat} (location : String) (body : List (BodyLine columns)) :
    ((endLines (body.map BodyLine.line)).filter isInhabited).mapM (Row.read columns location) =
      .ok ((body.filterMap BodyLine.row?).map PrintedRow.row) := by
  induction body with
  | nil => rfl
  | cons l body ih =>
    obtain ⟨seen, sees, eq⟩ := filter_endLines_cons l.line (body.map BodyLine.line)
    rw [List.map_cons, eq, List.mapM_append, l.mapM_read_seen location sees, ih]
    cases l <;> rfl

namespace PrintedTable

variable (table : PrintedTable)

theorem bar_not_mem_line (names : Spread ColumnName) : '|' ∉ names.line ColumnName.chars := by
  intro mem
  rcases Spread.mem_line mem with ⟨blank, _⟩ | ⟨name, _, within⟩
  · exact absurd blank (by decide)
  · exact name.barless within

theorem newline_not_mem_line (names : Spread ColumnName) :
    '\n' ∉ names.line ColumnName.chars := by
  intro mem
  rcases Spread.mem_line mem with ⟨_, ne⟩ | ⟨name, _, within⟩
  · exact ne rfl
  · exact name.solid.newline_not_mem within

/-- The header is read as the column names, also where its line end takes a blank with it. -/
theorem readHeader_seen (location : String) {seen : List Char} (h : SeenAs table.header seen) :
    readHeader location seen = .ok table.columns := by
  have assoc : table.header = (table.label ++ '|' :: table.receive.line ColumnName.chars) ++
      '|' :: table.transmit.line ColumnName.chars := by simp [header]
  rw [assoc] at h
  obtain ⟨transmit, seenTransmit, rfl⟩ := SeenAs.of_append_cons (by decide) h
  have barless : '|' ∉ transmit := fun mem => bar_not_mem_line _ (seenTransmit.subset mem)
  have sections : ((table.label ++ '|' :: table.receive.line ColumnName.chars) ++
      '|' :: transmit).splitOn '|' =
        [table.label, table.receive.line ColumnName.chars, transmit] := by
    rw [List.append_assoc, List.cons_append,
      List.splitOn_append_cons_self_of_not_mem table.barless_label,
      List.splitOn_append_cons_self_of_not_mem (bar_not_mem_line _),
      List.splitOn_eq_singleton barless]
  have names (spread : Spread ColumnName) : words (spread.line ColumnName.chars) =
      spread.items.map ColumnName.chars := spread.words_line fun name _ => name.solid
  have inhabited : table.columns ≠ [] := by
    rw [← List.length_pos_iff, length_columns]
    rcases table.inhabited with receive | transmit
    · exact Nat.add_pos_left (List.length_pos_iff.2 receive) _
    · exact Nat.add_pos_right _ (List.length_pos_iff.2 transmit)
  rw [readHeader, sections]
  simp only [List.map_cons, List.map_nil, words_trim, seenTransmit.words_eq, names, List.map_map]
  exact if_neg (by rwa [List.isEmpty_iff])

/-- What the lines of the text are: the title, the header, and what is seen of the others. -/
theorem lines_text : ∃ title header, SeenAs table.header header ∧
    lines table.text = title :: header :: endLines (table.body.map BodyLine.line) := by
  have flat : ∀ line ∈ table.title :: table.header :: table.body.map BodyLine.line,
      '\n' ∉ line := by
    refine List.forall_mem_cons.2 ⟨table.flat_title, List.forall_mem_cons.2 ⟨?_, ?_⟩⟩
    · simp [header, table.flat_label, newline_not_mem_line]
    · intro line mem
      obtain ⟨l, _, rfl⟩ := List.mem_map.1 mem
      exact l.newline_not_mem_line
  have inhabited : table.header ≠ [] := List.append_ne_nil_of_right_ne_nil _ (List.cons_ne_nil _ _)
  obtain ⟨header, sees, eq⟩ := endLines_cons inhabited (table.body.map BodyLine.line)
  refine ⟨dropReturn table.title, header, sees, ?_⟩
  rw [text, lines_intercalate (List.cons_ne_nil _ _) flat, endLines, eq]
  exact fun h => absurd h (List.cons_ne_nil _ _)

end PrintedTable

end Network

open Network

namespace NetworkDevices

/-! ## Reading a printed table -/

variable (table : PrintedTable)

theorem mapM_bodyLines_text (location : String) :
    (bodyLines table.text).mapM (Row.read table.width location) =
      .ok (table.rows.map PrintedRow.row) := by
  obtain ⟨title, header, _, seen⟩ := table.lines_text
  rw [bodyLines, seen]
  exact mapM_read_body location table.body

/-- A refresh reads the rows that are printed. -/
theorem readRows_text (location : String) :
    readRows table.width location table.text = .ok (table.rows.map PrintedRow.row) := by
  obtain ⟨title, header, _, seen⟩ := table.lines_text
  have enough : ¬(lines table.text).length < headerLines := by simp [seen, headerLines]
  rw [readRows, if_neg enough, mapM_bodyLines_text]

/-- Where names are not shared every row is the first with its name. -/
theorem find?_eq_some_of_pairwise {rows : List Row}
    (distinct : rows.Pairwise fun a b => a.name ≠ b.name) {row : Row} (mem : row ∈ rows) :
    rows.find? (·.name == row.name) = some row := by
  induction rows with
  | nil => cases mem
  | cons first rows ih =>
    obtain ⟨others, rest⟩ := List.pairwise_cons.1 distinct
    rcases List.mem_cons.1 mem with rfl | later
    · exact List.find?_cons_of_pos (beq_self_eq_true _)
    · rw [List.find?_cons_of_neg (by simpa using others row later)]
      exact ih rest later

theorem firstRow?_text (location : String) {printed : PrintedRow table.width}
    (mem : printed ∈ table.rows) :
    firstRow? table.width location (dotted printed.name) table.text = some printed.row := by
  have distinct : (table.rows.map PrintedRow.row).Pairwise fun a b => a.name ≠ b.name :=
    List.pairwise_map.2 table.distinct
  rw [firstRow?_eq_of_readRows (readRows_text table location)]
  exact find?_eq_some_of_pairwise distinct (List.mem_map_of_mem mem)

/-- Creation takes its columns from the header. -/
theorem create_text {host : Host} {procRoot : String}
    (source : host.readSource (join (join procRoot "net") "dev") =
      .ok (String.ofList table.text)) :
    ∃ devices, (create host procRoot).value = .ok devices ∧
      devices.path = join (join procRoot "net") "dev" ∧ devices.columns = table.columns := by
  obtain ⟨title, header, sees, seen⟩ := table.lines_text
  unfold create
  simp only [source, String.toList_ofList, seen, table.readHeader_seen _ sees]
  exact ⟨_, rfl, rfl, rfl⟩

/-- Reading undoes printing. From the text of a table creation makes a collector with the printed
columns and the printed interfaces, each counting on from its printed counters with meters that
have counted nothing; and a refresh of any collector with that many columns meets no fault in it. -/
theorem create_reads_printed (table : PrintedTable) :
    (∀ host procRoot,
      host.readSource (join (join procRoot "net") "dev") = .ok (String.ofList table.text) →
      ∃ devices, (create host procRoot).value = .ok devices ∧
        devices.columns = table.columns ∧
        (∀ name, name ∈ devices.interfaces.names ↔
          ∃ printed ∈ table.rows, dotted printed.name = name) ∧
        ∀ printed ∈ table.rows, ∃ interface,
          devices.interfaces.find? (dotted printed.name) = some interface ∧
          interface.name = dotted printed.name ∧
          interface.baseline = printed.counters.items ∧
          ∀ column ∈ interface.columns, column.meter.count = 0) ∧
    ∀ host (devices : NetworkDevices), devices.columns.length = table.columns.length →
      host.readSource devices.path = .ok (String.ofList table.text) →
      (Collector.refresh host devices).value.fault? = none := by
  constructor
  · intro host procRoot source
    obtain ⟨devices, created, path, columns⟩ := create_text table source
    obtain ⟨text, read, seeds⟩ := of_create created
    rw [path, source] at read
    cases read
    have width : devices.columns.length = table.width := by rw [columns, table.length_columns]
    rw [width, String.toList_ofList] at seeds
    refine ⟨devices, created, columns, fun name => ?_, fun printed mem => ?_⟩
    · rw [NameMap.mem_names_iff, seeds, Option.isSome_map,
        firstRow?_eq_of_readRows (readRows_text table _), List.find?_isSome]
      simp [PrintedRow.row]
    · refine ⟨_, by rw [seeds, firstRow?_text table _ mem]; rfl, rfl, ?_, ?_⟩
      · simp [Interface.baseline, Interface.seeded, PrintedRow.row, Function.comp_def]
      · intro column within
        obtain ⟨value, _, rfl⟩ := List.mem_map.1 within
        rfl
  · intro host devices width source
    rw [table.length_columns] at width
    simp [Collector.refresh, currentRows, source, width, readRows_text, bind, Except.bind,
      Logged.andThen]

/-- A table with colons and blanks in its names, counters that follow the colon at once, and blank
lines. -/
def aliasTable : PrintedTable where
  title := "Inter-|   Receive  |  Transmit".toList
  label := " face ".toList
  receive :=
    { cells := [([], ⟨"bytes".toList, by decide +kernel, by decide +kernel⟩),
        ("   ".toList, ⟨"errs".toList, by decide +kernel, by decide +kernel⟩)]
      rest := " ".toList
      inline := by decide +kernel
      apart := by decide +kernel
      inline_rest := by decide +kernel }
  transmit :=
    { cells := [(" ".toList, ⟨"bytes".toList, by decide +kernel, by decide +kernel⟩)]
      rest := "\r".toList
      inline := by decide +kernel
      apart := by decide +kernel
      inline_rest := by decide +kernel }
  body := [
    .blank " ".toList (by decide +kernel),
    .row
      { indent := "  ".toList
        name := "eth0:1".toList
        counters :=
          { cells := [([], 330), (" ".toList, 0), ("\t ".toList, 18)]
            rest := []
            inline := by decide +kernel
            apart := by decide +kernel
            inline_rest := by decide +kernel }
        inline_indent := by decide +kernel
        named := by decide +kernel
        flat := by decide +kernel
        trimmed := by decide +kernel
        bounded := by decide +kernel
        complete := rfl },
    .row
      { indent := []
        name := "wg 0".toList
        counters :=
          { cells := [("   ".toList, 7), (" ".toList, 8), (" ".toList, 9)]
            rest := []
            inline := by decide +kernel
            apart := by decide +kernel
            inline_rest := by decide +kernel }
        inline_indent := by decide +kernel
        named := by decide +kernel
        flat := by decide +kernel
        trimmed := by decide +kernel
        bounded := by decide +kernel
        complete := rfl },
    .blank [] (by decide +kernel)]
  flat_title := by decide +kernel
  flat_label := by decide +kernel
  barless_label := by decide +kernel
  inhabited := .inl (by decide +kernel)
  distinct := by decide +kernel

/-- A host with that table. -/
def aliasHost : Host where
  now := 0
  files := FileTree.empty.write "proc/net/dev" (String.ofList aliasTable.text).toUTF8
  mounts := .empty

example : String.ofList aliasTable.text =
    "Inter-|   Receive  |  Transmit\n face |bytes   errs | bytes\r\n \n" ++
      "  eth0:1:330 0\t 18\nwg 0:   7 8 9\n" := by
  decide +kernel

theorem create_reads_printed_alias :
    aliasHost.readSource (join (join "proc" "net") "dev") = .ok (String.ofList aliasTable.text) ∧
    ∃ devices, (create aliasHost "proc").value = .ok devices ∧
      devices.columns = ["receive.bytes", "receive.errs", "transmit.bytes"] ∧
      "wg 0" ∈ devices.interfaces.names ∧ "eth0:1" ∉ devices.interfaces.names ∧
      (∃ interface, devices.interfaces.find? "eth0.1" = some interface ∧
        interface.baseline = [330, 0, 18]) ∧
      (Collector.refresh { aliasHost with now := second } devices).value.fault? = none := by
  have source : aliasHost.readSource (join (join "proc" "net") "dev") =
      .ok (String.ofList aliasTable.text) := by decide +kernel
  obtain ⟨creates, refreshes⟩ := create_reads_printed aliasTable
  obtain ⟨devices, created, columns, names, seeded⟩ := creates aliasHost "proc" source
  have path : devices.path = join (join "proc" "net") "dev" := by
    obtain ⟨same, known, path, _⟩ := create_text aliasTable source
    cases created.symm.trans known
    exact path
  obtain ⟨interface, found, _, baseline, _⟩ :=
    seeded aliasTable.rows[0] (List.getElem_mem (by decide +kernel))
  refine ⟨source, devices, created, columns.trans (by decide +kernel), ?_, ?_,
    ⟨interface, found, baseline⟩, ?_⟩
  · exact (names "wg 0").2 (by decide +kernel)
  · exact fun mem => absurd ((names "eth0:1").1 mem) (by decide +kernel)
  · exact refreshes _ devices (by rw [columns]) (by rw [path]; exact source)

end NetworkDevices

end HostVitals
