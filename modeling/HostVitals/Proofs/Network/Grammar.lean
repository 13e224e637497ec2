import HostVitals.Proofs.Network.Rows
import HostVitals.Proofs.Text.Numeral
import Mathlib.Data.List.Forall2
import Mathlib.Data.List.TakeDrop
import Mathlib.Data.List.TakeWhile

/-!
# The grammar of interface rows

Which lines of the interface table are rows, said without the reader, and which line of a table
a refresh trips over.

* `Row.SpelledBy`: a line spells a row; `Row.read_eq_ok_iff` is the reader's side of it.
* `readRows_eq_error_iff`: the first line that is neither blank nor a row is the one reported.
-/

namespace HostVitals

/-! ## Blank text -/

namespace Text

/-- Nothing but white space. -/
def Blank (cs : List Char) : Prop :=
  ∀ c ∈ cs, isBlank c = true

instance (cs : List Char) : Decidable (Blank cs) :=
  inferInstanceAs (Decidable (∀ c ∈ cs, _))

theorem trim_eq_nil_iff {cs : List Char} : trim cs = [] ↔ Blank cs := by
  rw [trim, List.reverse_eq_nil_iff, List.dropWhile_eq_nil_iff]
  simp only [List.mem_reverse]
  constructor
  · intro rest c mem
    -- What is left after the outer blanks begins with a character that is none.
    cases left : cs.dropWhile isBlank with
    | nil => exact List.dropWhile_eq_nil_iff.1 left c mem
    | cons first more =>
      have stops := List.head?_dropWhile_not isBlank cs
      rw [left] at stops rest
      exact absurd (rest first List.mem_cons_self) (by simpa using stops)
  · exact fun blank c mem => blank c (List.dropWhile_subset isBlank mem)

end Text

open Text

namespace Network

theorem isInhabited_iff {line : List Char} : isInhabited line = true ↔ ¬ Blank line := by
  rw [isInhabited, Bool.not_eq_true', List.isEmpty_eq_false_iff, ne_eq, trim_eq_nil_iff]

theorem isEmpty_cleanName {raw : List Char} : (cleanName raw).isEmpty = true ↔ Blank raw := by
  rw [cleanName, String.isEmpty_iff, String.ofList_eq_empty_iff, List.map_eq_nil_iff,
    trim_eq_nil_iff]

/-! ## Rows -/

theorem splitAtLast_eq_some_iff {sep : Char} {cs before after : List Char} :
    splitAtLast sep cs = some (before, after) ↔ cs = before ++ sep :: after ∧ sep ∉ after := by
  rw [splitAtLast, List.span_eq_takeWhile_dropWhile]
  constructor
  · intro h
    have whole := List.takeWhile_append_dropWhile (p := (· != sep)) (l := cs.reverse)
    have other := fun c => List.mem_takeWhile_imp (p := (· != sep)) (l := cs.reverse) (x := c)
    have stops := List.head?_dropWhile_not (· != sep) cs.reverse
    cases left : cs.reverse.dropWhile (· != sep) with
    | nil => rw [left] at h; cases h
    | cons found rest =>
      rw [left] at h whole stops
      cases h
      have same : found = sep := by simpa using stops
      refine ⟨?_, fun mem => by simpa using other sep (List.mem_reverse.1 mem)⟩
      calc cs = cs.reverse.reverse := (List.reverse_reverse cs).symm
        _ = (cs.reverse.takeWhile (· != sep) ++ found :: rest).reverse :=
          congrArg List.reverse whole.symm
        _ = _ := by simp [same]
  · rintro ⟨rfl, last⟩
    have others : ∀ c ∈ after.reverse, (c != sep) = true := by
      intro c mem
      exact bne_iff_ne.2 fun same => last (same ▸ List.mem_reverse.1 mem)
    simp [List.takeWhile_append_of_pos others, List.dropWhile_append_of_pos others]

theorem splitAtLast_eq_none_iff {sep : Char} {cs : List Char} :
    splitAtLast sep cs = none ↔ sep ∉ cs := by
  have absent : cs.reverse.dropWhile (· != sep) = [] ↔ sep ∉ cs := by
    rw [List.dropWhile_eq_nil_iff]
    simp only [List.mem_reverse, bne_iff_ne]
    exact ⟨fun others mem => others sep mem rfl, fun out c mem same => out (same ▸ mem)⟩
  rw [splitAtLast, List.span_eq_takeWhile_dropWhile, ← absent]
  cases cs.reverse.dropWhile (· != sep) <;> simp

/-- Every element reads, each as its own value. -/
theorem mapM_eq_ok_iff {α β ε : Type} {f : α → Except ε β} {as : List α} {bs : List β} :
    as.mapM f = .ok bs ↔ List.Forall₂ (fun a b => f a = .ok b) as bs := by
  induction as generalizing bs with
  | nil =>
    rw [List.forall₂_nil_left_iff]
    exact ⟨fun h => by cases h; rfl, fun h => h ▸ rfl⟩
  | cons a as ih =>
    rw [List.mapM_cons, List.forall₂_cons_left_iff]
    constructor
    · intro h
      cases first : f a with
      | error e => rw [first] at h; cases h
      | ok b =>
        cases rest : as.mapM f with
        | error e => rw [first, rest] at h; cases h
        | ok bs' =>
          rw [first, rest] at h
          cases h
          exact ⟨b, bs', rfl, ih.1 rest, rfl⟩
    · rintro ⟨b, bs', first, rest, rfl⟩
      rw [first, ih.2 rest]
      rfl

/-- A list is read up to the first element that does not read. -/
theorem mapM_eq_error_iff {α β ε : Type} {f : α → Except ε β} {as : List α} {e : ε} :
    as.mapM f = .error e ↔ ∃ before a after, as = before ++ a :: after ∧
      (∀ b ∈ before, ∃ v, f b = .ok v) ∧ f a = .error e := by
  induction as with
  | nil =>
    refine iff_of_false (fun h => nomatch h) ?_
    rintro ⟨before, a, after, split, _⟩
    cases before <;> cases split
  | cons a as ih =>
    rw [List.mapM_cons]
    constructor
    · intro h
      cases first : f a with
      | error e' =>
        rw [first] at h
        cases h
        exact ⟨[], a, as, rfl, fun b mem => absurd mem List.not_mem_nil, first⟩
      | ok v =>
        cases rest : as.mapM f with
        | ok vs => rw [first, rest] at h; cases h
        | error e' =>
          rw [first, rest] at h
          cases h
          obtain ⟨before, bad, after, rfl, good, fault⟩ := ih.1 rest
          exact ⟨a :: before, bad, after, rfl, List.forall_mem_cons.2 ⟨⟨v, first⟩, good⟩, fault⟩
    · rintro ⟨before, bad, after, split, good, fault⟩
      cases before with
      | nil =>
        cases split
        rw [fault]
        rfl
      | cons b before =>
        cases split
        obtain ⟨⟨v, first⟩, good⟩ := List.forall_mem_cons.1 good
        rw [first, ih.2 ⟨before, bad, after, rfl, good, fault⟩]
        rfl

/-- Elements that are left out are not read. -/
theorem mapM_filter_eq_error_iff {α β ε : Type} {f : α → Except ε β} {keep : α → Bool}
    {as : List α} {e : ε} :
    (as.filter keep).mapM f = .error e ↔ ∃ before a after, as = before ++ a :: after ∧
      (∀ b ∈ before, keep b = true → ∃ v, f b = .ok v) ∧ keep a = true ∧ f a = .error e := by
  rw [mapM_eq_error_iff]
  constructor
  · rintro ⟨before, a, after, split, good, fault⟩
    obtain ⟨front, back, rfl, rfl, rest⟩ := List.filter_eq_append_iff.1 split
    obtain ⟨skipped, after, rfl, out, kept, rfl⟩ := List.filter_eq_cons_iff.1 rest
    refine ⟨front ++ skipped, a, after, by simp, fun b mem keeps => ?_, kept, fault⟩
    rcases List.mem_append.1 mem with early | late
    · exact good b (List.mem_filter.2 ⟨early, keeps⟩)
    · exact absurd keeps (out b late)
  · rintro ⟨before, a, after, rfl, good, kept, fault⟩
    refine ⟨before.filter keep, a, after.filter keep, by simp [kept], fun b mem => ?_, fault⟩
    obtain ⟨early, keeps⟩ := List.mem_filter.1 mem
    exact good b early keeps

theorem mapM_readCounter_eq_ok_iff {metric location : String} {tokens : List (List Char)}
    {counters : List Nat} :
    tokens.mapM (readCounter metric location) = .ok counters ↔
      List.Forall₂ (Numeral counterBound) tokens counters := by
  simp only [mapM_eq_ok_iff, readCounter_eq_ok_iff]

/-- Of several tokens that are no counters the first is reported. -/
theorem mapM_readCounter_eq_error_iff {metric location : String} {tokens : List (List Char)}
    {fault : CollectorFault} :
    tokens.mapM (readCounter metric location) = .error fault ↔
      ∃ before token after, tokens = before ++ token :: after ∧
        (∀ other ∈ before, ∃ n, Numeral counterBound other n) ∧
        ∃ reason, Spoiled counterBound token reason ∧
          fault = .badNumber metric location token reason := by
  simp only [mapM_eq_error_iff, readCounter_eq_ok_iff, readCounter_eq_error_iff]

/-- A line spells a row: a text that is not blank, the last colon, and after it one numeral per
column, between blanks. -/
def Row.SpelledBy (columns : Nat) (line : List Char) (row : Row) : Prop :=
  ∃ raw rest, line = raw ++ ':' :: rest ∧ ':' ∉ rest ∧ ¬ Blank raw ∧
    row.name = cleanName raw ∧ List.Forall₂ (Numeral counterBound) (words rest) row.counters ∧
    row.counters.length = columns

/-- The reader accepts a line as a row exactly when the line spells it. -/
theorem Row.read_eq_ok_iff {columns : Nat} {location : String} {line : List Char} {row : Row} :
    Row.read columns location line = .ok row ↔ row.SpelledBy columns line := by
  constructor
  · intro h
    obtain ⟨raw, rest, separated, name, named, numbers, count⟩ := Row.of_read h
    obtain ⟨split, last⟩ := splitAtLast_eq_some_iff.1 separated
    have inhabited : ¬ Blank raw := by
      rw [← isEmpty_cleanName, ← name, named]
      exact Bool.false_ne_true
    exact ⟨raw, rest, split, last, inhabited, name, mapM_readCounter_eq_ok_iff.1 numbers, count⟩
  · rintro ⟨raw, rest, split, last, inhabited, name, numbers, count⟩
    have separated : splitAtLast ':' line = some (raw, rest) :=
      splitAtLast_eq_some_iff.2 ⟨split, last⟩
    have named : (cleanName raw).isEmpty = false := by
      rwa [← Bool.not_eq_true, isEmpty_cleanName]
    have counted : (words rest).mapM (readCounter (cleanName raw) location) = .ok row.counters :=
      mapM_readCounter_eq_ok_iff.2 numbers
    calc Row.read columns location line = .ok ⟨cleanName raw, row.counters⟩ := by
          simp only [Row.read, separated, named, counted, Bool.false_eq_true, if_false]
          exact if_neg (not_not_intro count)
      _ = .ok row := by rw [← name]

/-- A line that spells a row says something. -/
theorem Row.SpelledBy.isInhabited {columns : Nat} {line : List Char} {row : Row}
    (h : row.SpelledBy columns line) : isInhabited line = true := by
  obtain ⟨raw, rest, rfl, _, inhabited, _⟩ := h
  exact isInhabited_iff.2 fun blank => inhabited fun c mem => blank c (List.mem_append_left _ mem)

/-- A line that no refresh minds: blank, or a row. -/
def Passable (columns : Nat) (line : List Char) : Prop :=
  Blank line ∨ ∃ row : Row, row.SpelledBy columns line

theorem passable_iff {columns : Nat} {location : String} {line : List Char} :
    Passable columns line ↔
      (isInhabited line = true → ∃ row, Row.read columns location line = .ok row) := by
  simp only [isInhabited_iff, Row.read_eq_ok_iff, Passable]
  exact Decidable.or_iff_not_imp_left

instance (columns : Nat) (line : List Char) : Decidable (Passable columns line) :=
  decidable_of_iff (isInhabited line = true → (Row.read columns "" line).toOption.isSome = true) <| by
    rw [passable_iff]
    cases Row.read columns "" line <;> simp [Except.toOption]

end Network

namespace NetworkDevices

open Network

/-! ## Tables -/

/-- What is wrong with a table: it has no header, or some line below it is neither blank nor a
row, and the first such line says why. -/
inductive TableFault (columns : Nat) (path : String) (text : List Char) :
    CollectorFault → Prop where
  | short (few : (lines text).length < 2) :
    TableFault columns path text (.malformed path .noHeader)
  | badLine {before after : List (List Char)} {line : List Char} {fault : CollectorFault}
    (split : (lines text).drop 2 = before ++ line :: after)
    (earlier : ∀ l ∈ before, Passable columns l) (bad : ¬ Passable columns line)
    (reason : Row.read columns path line = .error fault) :
    TableFault columns path text fault

theorem readRows_eq_error_iff {columns : Nat} {path : String} {text : List Char}
    {fault : CollectorFault} :
    readRows columns path text = .error fault ↔ TableFault columns path text fault := by
  unfold readRows
  split
  · next few =>
    constructor
    · intro h
      cases h
      exact .short few
    · rintro (_ | ⟨split, _⟩)
      · rfl
      · have some := congrArg List.length split
        simp only [List.length_drop, List.length_append, List.length_cons] at some
        simp only [headerLines] at few
        omega
  · next enough =>
    rw [bodyLines, mapM_filter_eq_error_iff]
    constructor
    · rintro ⟨before, line, after, split, good, inhabited, reason⟩
      refine .badLine split (fun l mem => passable_iff.2 (good l mem)) (fun passes => ?_) reason
      obtain ⟨row, read⟩ := passable_iff.1 passes inhabited
      cases read.symm.trans reason
    · rintro (few | ⟨split, earlier, bad, reason⟩)
      · exact absurd few enough
      · refine ⟨_, _, _, split, fun l mem => passable_iff.1 (earlier l mem), ?_, reason⟩
        exact isInhabited_iff.2 fun blank => bad (.inl blank)

theorem passable_of_readRows {columns : Nat} {path : String} {text : List Char} {rows : List Row}
    (h : readRows columns path text = .ok rows) :
    ∀ line ∈ (lines text).drop 2, Passable columns line := by
  unfold readRows at h
  split at h
  · cases h
  · have every := (List.forall₂_and_left (p := fun line =>
      ∃ row, Row.read columns path line = .ok row) _ _).1
        ((mapM_eq_ok_iff.1 h).imp fun line row read => ⟨⟨row, read⟩, read⟩)
    intro line mem
    exact passable_iff.2 fun inhabited => every.1 line (List.mem_filter.2 ⟨mem, inhabited⟩)

/-- A table is refused exactly if it has no header or a line that is neither blank nor a row. -/
theorem exists_tableFault_iff {columns : Nat} {path : String} {text : List Char} :
    (∃ fault, TableFault columns path text fault) ↔
      (lines text).length < 2 ∨ ∃ line ∈ (lines text).drop 2, ¬ Passable columns line := by
  constructor
  · rintro ⟨fault, few | ⟨split, _, bad, _⟩⟩
    · exact .inl few
    · exact .inr ⟨_, split ▸ List.mem_append_cons_self, bad⟩
  · rintro (few | ⟨line, mem, bad⟩)
    · exact ⟨_, .short few⟩
    · cases read : readRows columns path text with
      | error fault => exact ⟨fault, readRows_eq_error_iff.1 read⟩
      | ok rows => exact absurd (passable_of_readRows read line mem) bad

end NetworkDevices

end HostVitals
