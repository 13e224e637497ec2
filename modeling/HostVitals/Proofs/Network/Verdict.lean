import HostVitals.Proofs.Network.Printed

/-!
# The verdict on a line of the interface table

Every line is a row or has a fault, and of several faults one is reported. Which one does not
depend on the reader.

* `Row.Verdict`: what is to be made of a line. A missing separator comes before a missing name,
  this before a token that is no counter, and this before a wrong number of counters.
* `Row.CutTo`: the name of a row, cut out of its line.
* `read_eq_iff_verdict`: the reader gives the verdict.
-/

namespace HostVitals

open Text

namespace Network.Row

/-! ## The verdict -/

/-- What is to be made of a line: a row, or the first fault of it. -/
inductive Verdict (columns : Nat) (location : String) (line : List Char) :
    Except CollectorFault Row → Prop where
  | row {row : Row} (spelled : row.SpelledBy columns line) :
    Verdict columns location line (.ok row)
  | noSeparator (colonless : ':' ∉ line) :
    Verdict columns location line (.error (.malformed location (.noSeparator line)))
  | emptyName {raw rest : List Char} (split : line = raw ++ ':' :: rest) (last : ':' ∉ rest)
    (unnamed : Blank raw) :
    Verdict columns location line (.error (.malformed location .emptyName))
  | badNumber {raw rest token : List Char} {before after : List (List Char)}
    {reason : NumeralFault} (split : line = raw ++ ':' :: rest) (last : ':' ∉ rest)
    (named : ¬ Blank raw) (tokens : words rest = before ++ token :: after)
    (earlier : ∀ other ∈ before, ∃ n, Numeral counterBound other n)
    (bad : Spoiled counterBound token reason) :
    Verdict columns location line (.error (.badNumber (cleanName raw) location token reason))
  | counterCount {raw rest : List Char} {counters : List Nat}
    (split : line = raw ++ ':' :: rest) (last : ':' ∉ rest) (named : ¬ Blank raw)
    (numbers : List.Forall₂ (Numeral counterBound) (words rest) counters)
    (wrong : counters.length ≠ columns) :
    Verdict columns location line
      (.error (.malformed location (.counterCount (cleanName raw) columns counters.length)))

variable {columns : Nat} {location : String} {line raw rest : List Char}

/-- Once the name is read the counters are, and then their number is checked. -/
theorem read_of_named (separated : splitAtLast ':' line = some (raw, rest))
    (named : ¬ Blank raw) :
    Row.read columns location line =
      ((words rest).mapM (readCounter (cleanName raw) location)).bind fun counters =>
        if counters.length ≠ columns then
          .error (.malformed location (.counterCount (cleanName raw) columns counters.length))
        else .ok ⟨cleanName raw, counters⟩ := by
  have full : (cleanName raw).isEmpty = false := by
    rwa [← Bool.not_eq_true, isEmpty_cleanName]
  simp only [Row.read, separated, full, Bool.false_eq_true, if_false]
  rfl

/-- What the reader gives is the verdict. -/
theorem verdict_read (columns : Nat) (location : String) (line : List Char) :
    Verdict columns location line (Row.read columns location line) := by
  cases separated : splitAtLast ':' line with
  | none =>
    rw [Row.read, separated]
    exact .noSeparator (splitAtLast_eq_none_iff.1 separated)
  | some parts =>
    obtain ⟨raw, rest⟩ := parts
    obtain ⟨split, last⟩ := splitAtLast_eq_some_iff.1 separated
    by_cases unnamed : Blank raw
    · simp only [Row.read, separated, isEmpty_cleanName.2 unnamed, if_true]
      exact .emptyName split last unnamed
    · rw [read_of_named separated unnamed]
      cases numbers : (words rest).mapM (readCounter (cleanName raw) location) with
      | error fault =>
        obtain ⟨before, token, after, tokens, earlier, reason, bad, rfl⟩ :=
          mapM_readCounter_eq_error_iff.1 numbers
        exact .badNumber split last unnamed tokens earlier bad
      | ok counters =>
        have spelled := mapM_readCounter_eq_ok_iff.1 numbers
        show Verdict _ _ _ (if _ then _ else _)
        split
        · next wrong => exact .counterCount split last unnamed spelled wrong
        · next count =>
          exact .row ⟨raw, rest, split, last, unnamed, rfl, spelled, Decidable.not_not.1 count⟩

/-- The reader gives no other verdict. -/
theorem Verdict.read_eq {outcome : Except CollectorFault Row}
    (verdict : Verdict columns location line outcome) :
    Row.read columns location line = outcome := by
  cases verdict with
  | row spelled => exact read_eq_ok_iff.2 spelled
  | noSeparator colonless => rw [Row.read, splitAtLast_eq_none_iff.2 colonless]
  | emptyName split last unnamed =>
    have separated := splitAtLast_eq_some_iff.2 ⟨split, last⟩
    simp only [Row.read, separated, isEmpty_cleanName.2 unnamed, if_true]
    rfl
  | badNumber split last named tokens earlier bad =>
    have separated := splitAtLast_eq_some_iff.2 ⟨split, last⟩
    rw [read_of_named separated named,
      mapM_readCounter_eq_error_iff.2 ⟨_, _, _, tokens, earlier, _, bad, rfl⟩]
    rfl
  | counterCount split last named numbers wrong =>
    have separated := splitAtLast_eq_some_iff.2 ⟨split, last⟩
    rw [read_of_named separated named, mapM_readCounter_eq_ok_iff.2 numbers]
    exact if_pos wrong

/-! ## The name -/

/-- A line begins with this name between blanks, and with the last colon of the line. -/
def CutTo (line name : List Char) : Prop :=
  ∃ front back rest, line = front ++ (name ++ back) ++ ':' :: rest ∧ ':' ∉ rest ∧
    Blank front ∧ Blank back ∧ Trimmed name ∧ name ≠ []

/-- A row has the name that its line begins with, with dots for colons. -/
theorem SpelledBy.cutTo {row : Row} (spelled : row.SpelledBy columns line) :
    ∃ name, CutTo line name ∧ row.name = dotted name := by
  obtain ⟨raw, rest, rfl, last, named, name, _⟩ := spelled
  obtain ⟨front, back, split, blank, blank', trimmed⟩ := exists_trim raw
  exact ⟨trim raw, ⟨front, back, rest, by rw [← split], last, blank, blank', trimmed,
    mt trim_eq_nil_iff.1 named⟩, name⟩

theorem not_blank_dotted {name : List Char} (trimmed : Trimmed name) (ne : name ≠ []) :
    ¬ Blank (dotted name).toList := by
  obtain ⟨c, rest, rfl⟩ := List.exists_cons_of_ne_nil ne
  intro blank
  have first : isBlank (if c = ':' then '.' else c) = true := by
    refine blank _ ?_
    rw [dotted, String.toList_ofList, List.map_cons]
    exact List.mem_cons_self
  have solid : isBlank c = false := trimmed.1 c rfl
  split at first
  · exact absurd first (by decide)
  · exact absurd (solid.symm.trans first) Bool.false_ne_true

theorem colon_not_mem_dotted (name : List Char) : ':' ∉ (dotted name).toList := by
  rw [dotted, String.toList_ofList, List.mem_map]
  rintro ⟨c, _, same⟩
  split at same
  · exact absurd same (by decide)
  · contradiction

/-- The reader decides every line, and as its verdict says: it accepts just the rows, and of several
faults it reports the one that comes first. A row that it accepts has the name in front of the last
colon, trimmed and with dots for colons, so that no name is blank or has a colon. -/
theorem read_eq_iff_verdict (columns : Nat) (location : String) (line : List Char) :
    (∀ outcome, Row.read columns location line = outcome ↔
      Verdict columns location line outcome) ∧
    ∀ row, Row.read columns location line = .ok row →
      (∃ name, CutTo line name ∧ row.name = dotted name) ∧
      ¬ Blank row.name.toList ∧ ':' ∉ row.name.toList := by
  refine ⟨fun outcome => ⟨?_, Verdict.read_eq⟩, fun row read => ?_⟩
  · rintro rfl
    exact verdict_read columns location line
  · obtain ⟨name, cut, named⟩ := (read_eq_ok_iff.1 read).cutTo
    obtain ⟨_, _, _, _, _, _, _, trimmed, ne⟩ := id cut
    rw [named]
    exact ⟨⟨name, cut, rfl⟩, not_blank_dotted trimmed ne, colon_not_mem_dotted name⟩

/-- An alias between blanks, and a counter that follows its colon at once; and a line with a wrong
number of counters, of which one has no digit and a later one is too large. -/
theorem read_eq_iff_verdict_alias :
    Row.read 1 "proc/net/dev" " eth0:1 :+007\r".toList = .ok ⟨"eth0.1", [7]⟩ ∧
    (∃ name, CutTo " eth0:1 :+007\r".toList name ∧ "eth0.1" = dotted name) ∧
    Verdict 1 "proc/net/dev" "eth0: 7 x 340282366920938463463374607431768211456".toList
      (.error (.badNumber "eth0" "proc/net/dev" ['x'] .invalidDigit)) := by
  have read : Row.read 1 "proc/net/dev" " eth0:1 :+007\r".toList = .ok ⟨"eth0.1", [7]⟩ := by
    decide +kernel
  obtain ⟨_, named⟩ := read_eq_iff_verdict 1 "proc/net/dev" " eth0:1 :+007\r".toList
  obtain ⟨verdict, _⟩ := read_eq_iff_verdict 1 "proc/net/dev"
    "eth0: 7 x 340282366920938463463374607431768211456".toList
  exact ⟨read, (named _ read).1, (verdict _).1 (by decide +kernel)⟩

end Network.Row

end HostVitals
