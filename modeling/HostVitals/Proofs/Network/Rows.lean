import HostVitals.Network.Devices

/-!
# Rows of the interface table

Which line of a text counts for an interface. Creation and refresh read the same lines in
two ways: creation passes over the malformed ones as it goes and keeps the first of a name,
a refresh reads all of them before it drops the later ones of a name. Both come down to
`firstRow?`, the first well-formed line of a name.

* `firstRow?_eq_of_readRows`: a refresh without a fault sees every line.
* `of_create`: creation seeds each interface with its first row.
* `find?_markRows`: a refresh marks each known interface with its first row.
-/

namespace HostVitals

open Logged Network

/-! ## Rows of one text -/

namespace Network

/-- What it takes to read a row: a separator with a name before it, and after it one
number per column. -/
theorem Row.of_read {columns : Nat} {location : String} {line : List Char} {row : Row}
    (h : Row.read columns location line = .ok row) :
    ∃ raw rest, splitAtLast ':' line = some (raw, rest) ∧ row.name = cleanName raw ∧
      row.name.isEmpty = false ∧
      (Text.words rest).mapM (readCounter row.name location) = .ok row.counters ∧
      row.counters.length = columns := by
  unfold Row.read at h
  split at h
  · cases h
  · next raw rest separated =>
    simp only [bind, Except.bind] at h
    split at h
    · cases h
    · next named =>
      split at h
      · cases h
      · next counters numbers =>
        split at h
        · cases h
        · next count =>
          cases h
          exact ⟨raw, rest, separated, rfl, by simpa using named, numbers,
            Decidable.not_not.1 count⟩

theorem Row.length_counters_of_read {columns : Nat} {location : String} {line : List Char}
    {row : Row} (h : Row.read columns location line = .ok row) :
    row.counters.length = columns := by
  obtain ⟨_, _, _, _, _, _, count⟩ := Row.of_read h
  exact count

/-- Dropping the later rows of a name leaves the first one of every name. -/
theorem find?_firstPerName (rows : List Row) (name : String) :
    (firstPerName rows).find? (·.name == name) = rows.find? (·.name == name) := by
  induction rows with
  | nil => rfl
  | cons row rows ih =>
    rw [firstPerName, List.find?_cons, List.find?_cons]
    cases found : row.name == name with
    | true => rfl
    | false =>
      have other : name ≠ row.name := Ne.symm (beq_eq_false_iff_ne.1 found)
      rw [← ih, List.find?_filter]
      refine congrArg (List.find? · (firstPerName rows)) (funext fun r => ?_)
      by_cases same : r.name = name <;> simp [same, other]

theorem pairwise_firstPerName (rows : List Row) :
    (firstPerName rows).Pairwise fun a b => a.name ≠ b.name := by
  induction rows with
  | nil => exact .nil
  | cons row rows ih =>
    refine List.pairwise_cons.2 ⟨fun other mem => ?_, ih.filter _⟩
    have := (List.mem_filter.1 mem).2
    simpa using Ne.symm (by simpa using this)

end Network

namespace NetworkDevices

/-- The well-formed rows of a text. -/
def wellFormedRows (columns : Nat) (location : String) (text : List Char) : List Row :=
  (bodyLines text).filterMap fun line => (Row.read columns location line).toOption

/-- The first well-formed row of a text with a name. -/
def firstRow? (columns : Nat) (location name : String) (text : List Char) : Option Row :=
  (wellFormedRows columns location text).find? (·.name == name)

theorem length_counters_of_firstRow? {columns : Nat} {location name : String}
    {text : List Char} {row : Row} (h : firstRow? columns location name text = some row) :
    row.counters.length = columns := by
  obtain ⟨line, _, read⟩ := List.mem_filterMap.1 (List.mem_of_find?_eq_some h)
  cases parsed : Row.read columns location line with
  | error fault => rw [parsed] at read; cases read
  | ok found =>
    rw [parsed] at read
    cases read
    exact Row.length_counters_of_read parsed

theorem name_of_firstRow? {columns : Nat} {location name : String} {text : List Char} {row : Row}
    (h : firstRow? columns location name text = some row) : row.name = name := by
  simpa using List.find?_some h

/-- Where every line reads, the lines that read are all of them. -/
theorem filterMap_toOption_of_mapM {α β ε : Type} {f : α → Except ε β} {as : List α}
    {bs : List β} (h : as.mapM f = .ok bs) : (as.filterMap fun a => (f a).toOption) = bs := by
  induction as generalizing bs with
  | nil => cases h; rfl
  | cons a as ih =>
    rw [List.mapM_cons] at h
    cases first : f a with
    | error e => rw [first] at h; cases h
    | ok b =>
      cases rest : as.mapM f with
      | error e => rw [first, rest] at h; cases h
      | ok bs' =>
        rw [first, rest] at h
        cases h
        rw [List.filterMap_cons, first, ih rest]
        rfl

theorem firstRow?_eq_of_readRows {columns : Nat} {location : String} {text : List Char}
    {rows : List Row} (h : readRows columns location text = .ok rows) (name : String) :
    firstRow? columns location name text = rows.find? (·.name == name) := by
  unfold readRows at h
  split at h
  · cases h
  · rw [firstRow?, wellFormedRows, filterMap_toOption_of_mapM h]

/-! ## Creation -/

/-- A well-formed line adds its interface, unless the name is taken; any other adds none. -/
theorem value_addLine (now columns : Nat) (location : String) (interfaces : NameMap Interface)
    (line : List Char) :
    (addLine now columns location interfaces line).value =
      (Row.read columns location line).toOption.elim interfaces fun row =>
        interfaces.insertNew row.name (.seeded now row.name row.counters) := by
  unfold addLine
  cases Row.read columns location line with
  | error fault => rfl
  | ok row =>
    show _ = interfaces.insertNew row.name _
    unfold NameMap.insertNew
    cases taken : interfaces.contains row.name <;> simp [taken]

/-- The lines of a text add the interfaces of its well-formed rows. -/
theorem value_addLines (now columns : Nat) (location : String) (ls : List (List Char))
    (interfaces : NameMap Interface) :
    (ls.foldlM (addLine now columns location) interfaces).value =
      (ls.filterMap fun line => (Row.read columns location line).toOption).foldl
        (fun m row => m.insertNew row.name (.seeded now row.name row.counters)) interfaces := by
  rw [value_foldlM, List.foldl_filterMap]
  congr 1
  funext m line
  rw [value_addLine]
  cases (Row.read columns location line).toOption <;> rfl

/-- What a created collector holds: the columns of the header, and every interface of the
text with the values of its first well-formed row. -/
theorem of_create {host : Host} {procRoot : String} {devices : NetworkDevices}
    (created : (create host procRoot).value = .ok devices) :
    ∃ text, host.readSource devices.path = .ok text ∧
      ∀ name, devices.interfaces.find? name =
        (firstRow? devices.columns.length devices.path name text.toList).map fun row =>
          .seeded host.now row.name row.counters := by
  unfold create at created
  simp only at created
  split at created
  · cases created
  · next text readable =>
    split at created
    · split at created
      · cases created
      · next columns _ =>
        cases created
        refine ⟨text, readable, fun name => ?_⟩
        rw [value_addLines, NameMap.find?_foldl_insertNew, NameMap.find?_empty, Option.none_or]
        rfl
    · cases created

/-! ## Refresh -/

theorem find?_markRow (now : Nat) (interfaces : NameMap Interface) (row : Row)
    (name : String) :
    (markRow now interfaces row).value.find? name =
      if row.name = name then
        (interfaces.find? name).map fun interface => (interface.mark now row.counters).value
      else interfaces.find? name := by
  unfold markRow
  by_cases same : row.name = name
  · subst same
    cases known : interfaces.find? row.name <;> simp [known]
  · cases interfaces.find? row.name <;> simp [same, Ne.symm same]

/-- A row with another name leaves an interface alone. -/
theorem find?_markRows_of_forall_ne {now : Nat} {rows : List Row} {name : String}
    (others : ∀ row ∈ rows, row.name ≠ name) (interfaces : NameMap Interface) :
    (rows.foldlM (markRow now) interfaces).value.find? name = interfaces.find? name := by
  induction rows generalizing interfaces with
  | nil => rfl
  | cons row rows ih =>
    rw [List.foldlM_cons, value_bind, ih fun r mem => others r (List.mem_cons_of_mem _ mem),
      find?_markRow, if_neg (others row List.mem_cons_self)]

/-- Of rows with distinct names each known interface is marked with its own. -/
theorem find?_markRows {rows : List Row} (distinct : rows.Pairwise fun a b => a.name ≠ b.name)
    (now : Nat) (interfaces : NameMap Interface) (name : String) :
    (rows.foldlM (markRow now) interfaces).value.find? name =
      (rows.find? (·.name == name)).elim (interfaces.find? name) fun row =>
        (interfaces.find? name).map fun interface => (interface.mark now row.counters).value := by
  induction rows generalizing interfaces with
  | nil => rfl
  | cons row rows ih =>
    obtain ⟨first, rest⟩ := List.pairwise_cons.1 distinct
    rw [List.foldlM_cons, value_bind, List.find?_cons]
    by_cases same : row.name = name
    · have others : ∀ r ∈ rows, r.name ≠ name := fun r mem => same ▸ (first r mem).symm
      rw [find?_markRows_of_forall_ne others, find?_markRow, if_pos same, beq_iff_eq.2 same]
      rfl
    · rw [ih rest, find?_markRow, if_neg same, beq_eq_false_iff_ne.2 same]

end NetworkDevices

end HostVitals
