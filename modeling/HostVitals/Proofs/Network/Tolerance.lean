import HostVitals.Proofs.Network.Accounting
import HostVitals.Proofs.Network.Grammar
import HostVitals.Proofs.Text.Spread

/-!
# Creation and refresh on one table

Creation passes over the lines that are no rows and a refresh fails on them. On a table where it
does not fail both take the same row for every interface.

* `keepBelow`: a text without some of its lines; `lines_keepBelow` says which are left.
* `Headed`: the text begins with a header that names the columns.
* `create_of_headed`: what creation makes of such a text.
* `create_agrees_with_refresh`: lines that are no rows make no difference to creation, and after a
  refresh an interface counts on from where a new collector would.
-/

namespace HostVitals

open Logged Text

/-! ## Leaving lines out -/

namespace Text

/-- Takes out the lines that are not to be kept, with their line feeds. What stands behind the last
line feed is emptied, so that the line before it keeps its end. -/
def keepPieces (keep : List Char → Bool) : List (List Char) → List (List Char)
  | [] => []
  | [last] => [if keep last then last else []]
  | piece :: next :: rest =>
    if keep (dropReturn piece) then piece :: keepPieces keep (next :: rest)
    else keepPieces keep (next :: rest)

/-- A text without those of the lines below the first `top` that are not to be kept. -/
def keepBelow (top : Nat) (keep : List Char → Bool) (cs : List Char) : List Char :=
  ['\n'].intercalate ((cs.splitOn '\n').take top ++ keepPieces keep ((cs.splitOn '\n').drop top))

theorem keepPieces_ne_nil {keep : List Char → Bool} {pieces : List (List Char)}
    (ne : pieces ≠ []) : keepPieces keep pieces ≠ [] := by
  induction pieces with
  | nil => exact absurd rfl ne
  | cons piece rest ih =>
    cases rest with
    | nil => exact List.cons_ne_nil _ _
    | cons next rest =>
      rw [keepPieces]
      split
      · exact List.cons_ne_nil _ _
      · exact ih (List.cons_ne_nil _ _)

theorem mem_keepPieces {keep : List Char → Bool} {pieces : List (List Char)} {piece : List Char}
    (h : piece ∈ keepPieces keep pieces) : piece ∈ pieces ∨ piece = [] := by
  induction pieces with
  | nil => exact .inl h
  | cons first rest ih =>
    cases rest with
    | nil =>
      rw [keepPieces, List.mem_singleton] at h
      cases kept : keep first <;> simp [h, kept]
    | cons next rest =>
      rw [keepPieces] at h
      split at h
      · rcases List.mem_cons.1 h with rfl | later
        · exact .inl List.mem_cons_self
        · exact (ih later).imp_left (List.mem_cons_of_mem _)
      · exact (ih h).imp_left (List.mem_cons_of_mem _)

theorem endLines_keepPieces (keep : List Char → Bool) (pieces : List (List Char)) :
    endLines (keepPieces keep pieces) = (endLines pieces).filter keep := by
  induction pieces with
  | nil => rfl
  | cons piece rest ih =>
    cases rest with
    | nil =>
      -- Whether it is kept or emptied, the last piece is a line only if something is left of it.
      cases kept : keep piece <;> cases piece <;> simp [keepPieces, endLines, kept]
    | cons next rest =>
      rw [keepPieces, endLines, List.filter_cons, ← ih]
      · cases keep (dropReturn piece) with
        | false => rfl
        | true =>
          exact endLines_append [piece] (keepPieces_ne_nil (List.cons_ne_nil _ _))
      · exact List.cons_ne_nil _ _

theorem endLines_take_append_keepPieces (top : Nat) (keep : List Char → Bool)
    (pieces : List (List Char)) :
    endLines (pieces.take top ++ keepPieces keep (pieces.drop top)) =
      (endLines pieces).take top ++ ((endLines pieces).drop top).filter keep := by
  induction top generalizing pieces with
  | zero => exact endLines_keepPieces keep pieces
  | succ top ih =>
    match pieces with
    | [] => rfl
    | [last] => cases last <;> simp [endLines, keepPieces]
    | piece :: next :: rest =>
      have ne : (next :: rest).take top ++ keepPieces keep ((next :: rest).drop top) ≠ [] := by
        cases top with
        | zero => exact keepPieces_ne_nil (List.cons_ne_nil _ _)
        | succ top => exact List.cons_ne_nil _ _
      calc endLines (piece ::
            ((next :: rest).take top ++ keepPieces keep ((next :: rest).drop top)))
          = dropReturn piece ::
            endLines ((next :: rest).take top ++ keepPieces keep ((next :: rest).drop top)) :=
            endLines_append [piece] ne
        _ = _ := by rw [ih]; rfl

/-- The lines that are left: the first `top`, and of the others those that are to be kept. -/
theorem lines_keepBelow (top : Nat) (keep : List Char → Bool) (cs : List Char) :
    lines (keepBelow top keep cs) =
      (lines cs).take top ++ ((lines cs).drop top).filter keep := by
  have flat : ∀ piece ∈ cs.splitOn '\n', '\n' ∉ piece := fun piece => not_mem_of_mem_splitOn
  have ne : (cs.splitOn '\n').take top ++ keepPieces keep ((cs.splitOn '\n').drop top) ≠ [] := by
    cases top with
    | zero => exact keepPieces_ne_nil (List.splitOn_ne_nil _ _)
    | succ top =>
      exact List.append_ne_nil_of_left_ne_nil (by simp [List.splitOn_ne_nil]) _
  rw [keepBelow, lines_intercalate ne, endLines_take_append_keepPieces]
  · rfl
  · intro piece mem
    rcases List.mem_append.1 mem with above | below
    · exact flat piece (List.mem_of_mem_take above)
    · rcases mem_keepPieces below with kept | rfl
      · exact flat piece (List.mem_of_mem_drop kept)
      · exact List.not_mem_nil

end Text

open Network

/-! ## Baselines -/

namespace Network.Interface

@[simp] theorem baseline_seeded (now : Nat) (name : String) (values : List Nat) :
    (seeded now name values).baseline = values := by
  simp [baseline, seeded, Function.comp_def]

theorem baseline_mark {now : Nat} {interface : Interface} {values : List Nat}
    (fits : values.length = interface.columns.length) :
    (interface.mark now values).value.baseline = values := by
  have taken (column : Column) (value : Nat) :
      (column.take now interface.name value).value.baseline = value := by
    unfold Column.take
    split <;> rfl
  simp only [baseline, mark, value_bind, value_pure, value_mapM, List.map_map, Function.comp_def,
    taken]
  exact List.map_snd_zip fits.le

end Network.Interface

namespace NetworkDevices

/-! ## Creation -/

/-- A text has a header, and its second line names the columns. -/
def Headed (columns : List String) (location : String) (text : List Char) : Prop :=
  ∃ title header below, lines text = title :: header :: below ∧
    readHeader location header = .ok columns

/-- A table without the lines below its header that are neither blank nor rows. -/
def withoutMalformed (columns : Nat) (text : List Char) : List Char :=
  keepBelow headerLines (fun line => decide (Passable columns line)) text

theorem mem_wellFormedRows {columns : Nat} {location : String} {text : List Char} {row : Row} :
    row ∈ wellFormedRows columns location text ↔
      ∃ line ∈ (lines text).drop headerLines, row.SpelledBy columns line := by
  simp only [wellFormedRows, bodyLines, List.mem_filterMap, List.mem_filter,
    Collector.toOption_eq_some_iff, Row.read_eq_ok_iff]
  constructor
  · rintro ⟨line, ⟨mem, _⟩, spelled⟩
    exact ⟨line, mem, spelled⟩
  · rintro ⟨line, mem, spelled⟩
    exact ⟨line, ⟨mem, spelled.isInhabited⟩, spelled⟩

/-- Where a text stands is worth nothing to the rows in it. -/
theorem wellFormedRows_location (columns : Nat) (location location' : String)
    (text : List Char) :
    wellFormedRows columns location text = wellFormedRows columns location' text := by
  refine congrArg (List.filterMap · (bodyLines text)) (funext fun line => Option.ext fun row => ?_)
  simp only [Collector.toOption_eq_some_iff, Row.read_eq_ok_iff]

theorem wellFormedRows_withoutMalformed {columns : Nat} {location : String} {text : List Char}
    (headed : headerLines ≤ (lines text).length) :
    wellFormedRows columns location (withoutMalformed columns text) =
      wellFormedRows columns location text := by
  have kept : (lines (withoutMalformed columns text)).drop headerLines =
      ((lines text).drop headerLines).filter fun line => decide (Passable columns line) := by
    rw [withoutMalformed, lines_keepBelow,
      List.drop_left' (by rw [List.length_take]; exact min_eq_left headed)]
  simp only [wellFormedRows, bodyLines, kept, List.filter_filter, List.filterMap_filter]
  refine congrArg (List.filterMap · _) (funext fun line => ?_)
  -- What is left out gives no row, and so nothing is missing.
  cases read : Row.read columns location line with
  | error fault => simp [Except.toOption]
  | ok row =>
    have passes : Passable columns line := .inr ⟨row, Row.read_eq_ok_iff.1 read⟩
    simp [passes]

theorem headed_withoutMalformed {columns : List String} {location : String} {text : List Char}
    (headed : Headed columns location text) (width : Nat) :
    Headed columns location (withoutMalformed width text) := by
  obtain ⟨title, header, below, split, named⟩ := headed
  refine ⟨title, header, below.filter fun line => decide (Passable width line), ?_, named⟩
  rw [withoutMalformed, lines_keepBelow, split]
  rfl

/-- From a text with a header a collector is created, with an interface for each of its rows. -/
theorem create_of_headed {host : Host} {procRoot : String} {text : String} {columns : List String}
    (source : host.readSource (join (join procRoot "net") "dev") = .ok text)
    (headed : Headed columns (join (join procRoot "net") "dev") text.toList) :
    (create host procRoot).value = .ok
      { path := join (join procRoot "net") "dev"
        columns
        interfaces :=
          (wellFormedRows columns.length (join (join procRoot "net") "dev") text.toList).foldl
            (fun m row => m.insertNew row.name (.seeded host.now row.name row.counters)) .empty } := by
  obtain ⟨title, header, below, split, named⟩ := headed
  unfold create
  simp only [source, split, named, value_bind, value_pure, value_addLines]
  rfl

/-! ## Agreement -/

/-- A row that is marked is the row that a new interface is seeded with. -/
theorem baseline_next_of_firstRow? {devices : NetworkDevices} {later : Host} {text name : String}
    {known : Interface} {row : Row} (shaped : WellShaped devices)
    (source : later.readSource devices.path = .ok text)
    (succeeds : (Collector.refresh later devices).value.fault? = none)
    (knows : devices.interfaces.find? name = some known)
    (first : firstRow? devices.columns.length devices.path name text.toList = some row) :
    ∃ after, (Collector.next devices later).interfaces.find? name = some after ∧
      after.baseline = row.counters := by
  have fits : row.counters.length = known.columns.length :=
    (length_counters_of_firstRow? first).trans (shaped name known knows).2.symm
  refine ⟨(known.mark later.now row.counters).value, ?_, Interface.baseline_mark fits⟩
  rw [find?_next, takenRow?_eq_firstRow? source succeeds, first, Option.elim_some, knows]
  rfl

/-- From a table with a header a collector is created, and lines that are neither blank nor rows
make no difference to it: it has the columns of the header and an interface for every name of a
row. Where a collector with as many columns reads that table without a fault, each interface that it
knows and that is listed counts on from where the new collector counts. -/
theorem create_agrees_with_refresh {host : Host} {procRoot text : String} {columns : List String}
    (source : host.readSource (join (join procRoot "net") "dev") = .ok text)
    (headed : Headed columns (join (join procRoot "net") "dev") text.toList) :
    ∃ fresh, (create host procRoot).value = .ok fresh ∧ fresh.columns = columns ∧
      (∀ host' : Host, host'.now = host.now →
        host'.readSource (join (join procRoot "net") "dev") =
          .ok (String.ofList (withoutMalformed columns.length text.toList)) →
        (create host' procRoot).value = .ok fresh) ∧
      (∀ name, name ∈ fresh.interfaces.names ↔
        ∃ line ∈ (lines text.toList).drop headerLines, ∃ row : Row,
          row.SpelledBy columns.length line ∧ row.name = name) ∧
      ∀ (devices : NetworkDevices) (later : Host), devices.Reached →
        devices.columns.length = columns.length → later.readSource devices.path = .ok text →
        (Collector.refresh later devices).value.fault? = none →
        ∀ name known, devices.interfaces.find? name = some known →
          name ∈ fresh.interfaces.names →
          ∃ seeded after, fresh.interfaces.find? name = some seeded ∧
            (Collector.next devices later).interfaces.find? name = some after ∧
            after.baseline = seeded.baseline := by
  have created := create_of_headed source headed
  obtain ⟨same, read, seeds⟩ := of_create created
  obtain rfl : text = same := Except.ok.inj (source.symm.trans read)
  refine ⟨_, created, rfl, fun host' now source' => ?_, fun name => ?_, ?_⟩
  · have enough : headerLines ≤ (lines text.toList).length := by
      obtain ⟨title, header, below, split, _⟩ := headed
      simp [split, headerLines]
    have headed' := headed_withoutMalformed headed columns.length
    rw [create_of_headed source' (by rwa [String.toList_ofList]), String.toList_ofList,
      wellFormedRows_withoutMalformed enough, now]
  · rw [NameMap.mem_names_iff, seeds, Option.isSome_map, firstRow?, List.find?_isSome]
    simp only [mem_wellFormedRows, beq_iff_eq]
    constructor
    · rintro ⟨row, ⟨line, mem, spelled⟩, named⟩
      exact ⟨line, mem, row, spelled, named⟩
    · rintro ⟨line, mem, row, spelled, named⟩
      exact ⟨row, ⟨line, mem, spelled⟩, named⟩
  · intro devices later reached width source' succeeds name known knows listed
    rw [NameMap.mem_names_iff, Option.isSome_iff_exists] at listed
    obtain ⟨seeded, found⟩ := listed
    obtain ⟨row, first, rfl⟩ := Option.map_eq_some_iff.1 ((seeds name).symm.trans found)
    -- The refreshed collector may read the text in another place.
    have first' : firstRow? devices.columns.length devices.path name text.toList = some row := by
      rw [firstRow?, width, wellFormedRows_location _ _ (join (join procRoot "net") "dev")]
      exact first
    obtain ⟨after, marked, baseline⟩ :=
      baseline_next_of_firstRow? reached.wellShaped source' succeeds knows first'
    exact ⟨_, after, found, marked, by rw [baseline, Interface.baseline_seeded]⟩

/-- Rows between lines that are none: one has no colon, one a counter too few. -/
def crookedRows : String :=
  "eth0:1: 9 4\nbad\n\n  lo: 7 7\neth0:1: 3"

/-- The same rows alone. -/
def straightRows : String :=
  "eth0:1: 9 4\n\n  lo: 7 7\n"

/-- Two spellings of one name. -/
def aliasRows : String :=
  "eth0:1: 9 4\n  lo: 7 7\neth0.1: 3 3\n"

/-- A collector that knows the name. -/
def aliasDevices : NetworkDevices :=
  (create (tableHost 0 "eth0.1: 5 1\n") "proc").value.toOption.getD ⟨"", [], .empty⟩

theorem headed_table {rows : String} {below : List (List Char)}
    (split : lines (table rows).toList = "head".toList :: "|bytes|bytes".toList :: below) :
    Headed ["receive.bytes", "transmit.bytes"] (join (join "proc" "net") "dev")
      (table rows).toList :=
  ⟨_, _, below, split, by decide +kernel⟩

/-- The lines that are no rows make no difference, and of two spellings of a name the first is taken
by a new collector and by the refresh of one that knows the name. -/
theorem create_agrees_with_refresh_alias :
    (∃ fresh, (create (tableHost 1 crookedRows) "proc").value = .ok fresh ∧
      (create (tableHost 1 straightRows) "proc").value = .ok fresh) ∧
    ∃ fresh seeded after, (create (tableHost 1 aliasRows) "proc").value = .ok fresh ∧
      fresh.interfaces.find? "eth0.1" = some seeded ∧
      (Collector.next aliasDevices (tableHost 2 aliasRows)).interfaces.find? "eth0.1" =
        some after ∧
      after.baseline = seeded.baseline := by
  constructor
  · have source : (tableHost 1 crookedRows).readSource (join (join "proc" "net") "dev") =
        .ok (table crookedRows) := by decide +kernel
    have straight : String.ofList (withoutMalformed 2 (table crookedRows).toList) =
        table straightRows := by decide +kernel
    have source' : (tableHost 1 straightRows).readSource (join (join "proc" "net") "dev") =
        .ok (table straightRows) := by decide +kernel
    have split : lines (table crookedRows).toList = "head".toList :: "|bytes|bytes".toList ::
        ["eth0:1: 9 4".toList, "bad".toList, [], "  lo: 7 7".toList, "eth0:1: 3".toList] := by
      decide +kernel
    obtain ⟨fresh, created, _, same, _⟩ := create_agrees_with_refresh source (headed_table split)
    exact ⟨fresh, created, same (tableHost 1 straightRows) rfl (by rw [source', ← straight]; rfl)⟩
  · have source : (tableHost 1 aliasRows).readSource (join (join "proc" "net") "dev") =
        .ok (table aliasRows) := by decide +kernel
    have split : lines (table aliasRows).toList = "head".toList :: "|bytes|bytes".toList ::
        ["eth0:1: 9 4".toList, "  lo: 7 7".toList, "eth0.1: 3 3".toList] := by decide +kernel
    have begun : (create (tableHost 0 "eth0.1: 5 1\n") "proc").value = .ok aliasDevices :=
      Collector.eq_ok_getD _ (by decide +kernel)
    obtain ⟨known, knows⟩ : ∃ known, aliasDevices.interfaces.find? "eth0.1" = some known :=
      Option.isSome_iff_exists.1 (by decide +kernel)
    obtain ⟨fresh, created, _, _, names, agrees⟩ :=
      create_agrees_with_refresh source (headed_table split)
    have read : Row.read 2 "" "eth0:1: 9 4".toList = .ok ⟨"eth0.1", [9, 4]⟩ := by decide +kernel
    have listed : "eth0.1" ∈ fresh.interfaces.names :=
      (names _).2 ⟨_, by rw [split]; exact List.mem_cons_self, _, Row.read_eq_ok_iff.1 read, rfl⟩
    obtain ⟨seeded, after, found, marked, same⟩ := agrees aliasDevices (tableHost 2 aliasRows)
      ⟨_, _, _, [], begun, rfl⟩ (by decide +kernel) (by decide +kernel) (by decide +kernel)
      "eth0.1" known knows listed
    exact ⟨fresh, seeded, after, created, found, marked, same⟩

end NetworkDevices

end HostVitals
