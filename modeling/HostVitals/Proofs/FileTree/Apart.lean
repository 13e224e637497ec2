import HostVitals.FileTree
import HostVitals.NameMap
import Mathlib.Data.List.Forall2
import Mathlib.Logic.Relation

/-!
# Trees that differ in some files

Two trees may be the same but for one file, which has another content, or is there in only one
of them. A path that ends in another name cannot tell them apart.

* `DiffersAt`: two directories differ at most in the file at the end of a trail of names.
* `SameBut`: two trees differ at most in the files at some paths.
* `seen`: what can be told of the node that a path leads to.

`seen_walk` follows one path in two trees in step, and `SameBut.seen_resolve` is what it comes to
for whole trees. Writing and removing a file make trees of this kind (`sameBut_write`,
`sameBut_remove`).
-/

namespace HostVitals.FileTree

/-- The entries of a directory. -/
abbrev Entries := List (String × FileNode)

/-- A file, or nothing. -/
def FileOrNothing (node? : Option FileNode) : Prop :=
  node? = none ∨ ∃ content, node? = some (.file content)

/-- Two directories are the same, except perhaps for the file at the end of a trail of names. -/
inductive DiffersAt : List String → Entries → Entries → Prop where
  | nowhere (trail : List String) (entries : Entries) : DiffersAt trail entries entries
  | here {name : String} {first second : Entries}
    (others : ∀ other, other ≠ name → first.lookup other = second.lookup other)
    (one : FileOrNothing (first.lookup name)) (two : FileOrNothing (second.lookup name)) :
    DiffersAt [name] first second
  | within {name : String} {trail : List String} {first second inner inner' : Entries}
    (others : ∀ other, other ≠ name → first.lookup other = second.lookup other)
    (one : first.lookup name = some (.dir inner)) (two : second.lookup name = some (.dir inner'))
    (differs : DiffersAt trail inner inner') : DiffersAt (name :: trail) first second

/-- Two trees are the same, except perhaps for the files at some paths. -/
def SameBut (paths : List String) : FileTree → FileTree → Prop :=
  Relation.ReflTransGen fun first second => first.workdir = second.workdir ∧
    ∃ path ∈ paths, DiffersAt (first.trail path) first.entries second.entries

/-! ## Following a path in two trees -/

/-- What is seen of the node that a path leads to: nothing, a directory, or the content of a
file. -/
def seen : Except IoFault FileNode → Option (Option ByteArray)
  | .error _ => none
  | .ok (.dir _) => some none
  | .ok (.file content) => some (some content)

/-- Two directories differ at most in a file with this name, somewhere below them. -/
def Near (file : String) (first second : Entries) : Prop :=
  ∃ trail : List String, trail.getLast? = some file ∧ DiffersAt trail first second

theorem near_refl (file : String) (entries : Entries) : Near file entries entries :=
  ⟨[file], rfl, .nowhere _ _⟩

/-- Under a name stand the same nodes, or no directories if it is the name of the file, or two
directories that are near again. -/
theorem Near.lookup {file : String} {first second : Entries} (near : Near file first second)
    (name : String) :
    first.lookup name = second.lookup name ∨
    (name = file ∧ FileOrNothing (first.lookup name) ∧ FileOrNothing (second.lookup name)) ∨
    ∃ inner inner', first.lookup name = some (.dir inner) ∧
      second.lookup name = some (.dir inner') ∧ Near file inner inner' := by
  obtain ⟨trail, last, differs⟩ := near
  cases differs with
  | nowhere => exact .inl rfl
  | @here place _ _ others one two =>
    by_cases same : name = place
    · subst same
      exact .inr (.inl ⟨by simpa using last, one, two⟩)
    · exact .inl (others name same)
  | @within place trail _ _ inner inner' others one two differs =>
    by_cases same : name = place
    · subst same
      refine .inr (.inr ⟨inner, inner', one, two, ?_⟩)
      cases trail with
      | nil => cases differs; exact near_refl file inner
      | cons next trail => exact ⟨next :: trail, by simpa using last, differs⟩
    · exact .inl (others name same)

/-- Two directories that are near, with parents that are, look the same along names that do not
end in the name of the file. -/
theorem seen_walk {file : String} {names : List String} (elsewhere : names.getLast? ≠ some file)
    {parents parents' : List Entries} (above : List.Forall₂ (Near file) parents parents')
    {first second : Entries} (near : Near file first second) :
    seen (walk parents (.dir first) names) = seen (walk parents' (.dir second) names) := by
  -- The parents are generalized too: `..` goes on in one of them, any other name adds to them.
  induction names generalizing parents parents' first second with
  | nil => rfl
  | cons name rest ih =>
    have later : rest.getLast? ≠ some file := by
      intro last
      rw [List.getLast?_cons, last] at elsewhere
      exact elsewhere rfl
    by_cases still : name = "" ∨ name = "."
    · simp only [walk, still, if_true]
      exact ih later above near
    by_cases up : name = ".."
    · subst up
      simp only [walk, still, if_false, if_true]
      cases above with
      | nil => exact ih later .nil near
      | cons parent above => exact ih later above parent
    by_cases long : maxComponent < name.utf8ByteSize
    · simp only [walk, still, if_false, up, long, if_true]
    simp only [walk, still, if_false, up, long]
    obtain same | ⟨rfl, one, two⟩ | ⟨inner, inner', one, two, deeper⟩ := near.lookup name
    · rw [same]
      match second.lookup name with
      | none => rfl
      | some (.dir inner) => exact ih later (.cons near above) (near_refl file inner)
      | some (.file _) => cases rest <;> rfl
    · -- The path goes on after the file, which is no directory in either tree.
      cases rest with
      | nil => exact absurd rfl elsewhere
      | cons next rest =>
        rcases one with one | ⟨_, one⟩ <;> rcases two with two | ⟨_, two⟩ <;> rw [one, two] <;> rfl
    · rw [one, two]
      exact ih later (.cons near above) deeper

theorem exists_fromRoot (tree : FileTree) (path : String) :
    ∃ front, tree.fromRoot path = front ++ components path := by
  unfold fromRoot
  split
  · exact ⟨[], rfl⟩
  · exact ⟨tree.workdir, rfl⟩

theorem components_ne_nil (path : String) : components path ≠ [] := by
  simp [components, List.splitOn_ne_nil]

/-- The last name of a path is the same from the root on. -/
theorem getLast?_fromRoot (tree : FileTree) (path : String) :
    (tree.fromRoot path).getLast? = (components path).getLast? := by
  obtain ⟨front, whole⟩ := tree.exists_fromRoot path
  rw [whole, List.getLast?_append_of_ne_nil _ (components_ne_nil path)]

theorem seen_resolve {file path : String} (elsewhere : (components path).getLast? ≠ some file)
    {first second : FileTree} (there : first.workdir = second.workdir)
    (near : Near file first.entries second.entries) :
    seen (first.resolve path) = seen (second.resolve path) := by
  have route : first.fromRoot path = second.fromRoot path := by
    rw [fromRoot, fromRoot, there]
  rw [resolve, resolve, route]
  split; · rfl
  split; · rfl
  split; · rfl
  exact seen_walk (by rwa [getLast?_fromRoot]) .nil near

theorem holds_eq_isSome_seen (tree : FileTree) (path : String) :
    tree.holds path = (seen (tree.resolve path)).isSome := by
  unfold holds
  rcases tree.resolve path with _ | _ | _ <;> rfl

theorem toOption_readText (tree : FileTree) (path : String) :
    (tree.readText path).toOption = (seen (tree.resolve path)).bind fun content? =>
      content?.bind String.fromUTF8? := by
  unfold readText
  rcases tree.resolve path with _ | content | _
  · rfl
  · cases text : String.fromUTF8? content <;> simp [seen, text, Except.toOption]
  · rfl

theorem holds_of_seen {first second : FileTree} {path : String}
    (same : seen (first.resolve path) = seen (second.resolve path)) :
    first.holds path = second.holds path := by
  rw [holds_eq_isSome_seen, holds_eq_isSome_seen, same]

/-- Where the same is seen, the same text is read, or none. -/
theorem readText_of_seen {first second : FileTree} {path : String}
    (same : seen (first.resolve path) = seen (second.resolve path)) :
    (∃ text, first.readText path = .ok text ∧ second.readText path = .ok text) ∨
    ∃ fault fault', first.readText path = .error fault ∧ second.readText path = .error fault' := by
  have option : (first.readText path).toOption = (second.readText path).toOption := by
    rw [toOption_readText, toOption_readText, same]
  cases one : first.readText path with
  | ok text =>
    cases two : second.readText path with
    | ok text' =>
      rw [one, two] at option
      cases option
      exact .inl ⟨text, rfl, rfl⟩
    | error fault => rw [one, two] at option; cases option
  | error fault =>
    cases two : second.readText path with
    | ok text => rw [one, two] at option; cases option
    | error fault' => exact .inr ⟨fault, fault', rfl, rfl⟩

/-! ## The last name of a path -/

theorem components_append_slash (path : String) {name : String} (plain : '/' ∉ name.toList) :
    ∃ front, ∀ whole : String, whole.toList = path.toList ++ '/' :: name.toList →
      components whole = front ++ [name] := by
  refine ⟨(path.toList.splitOn '/').map String.ofList, fun whole split => ?_⟩
  rw [components, split, List.splitOn_append_cons_self, List.splitOn_eq_singleton plain,
    List.map_append, List.map_singleton, String.ofList_toList]

/-- What is appended to a path is its last component. -/
theorem components_join (path : String) {name : String} (plain : '/' ∉ name.toList) :
    ∃ front, components (Text.join path name) = front ++ [name] := by
  have relative : Text.isAbsolute name = false := by
    rw [Text.isAbsolute, beq_eq_false_iff_ne]
    exact fun first => plain (List.mem_of_mem_head? first)
  simp only [Text.join, relative, Bool.false_eq_true, if_false]
  split
  · next ends =>
    rcases Bool.or_eq_true _ _ ▸ ends with empty | slash
    · rw [String.isEmpty_iff.1 empty]
      exact ⟨[], by simp [components, List.splitOn_eq_singleton plain]⟩
    · obtain ⟨before, split⟩ := List.getLast?_eq_some_iff.1 (beq_iff_eq.1 slash)
      obtain ⟨front, joined⟩ := components_append_slash (String.ofList before) plain
      exact ⟨front, joined _ (by simp [split])⟩
  · obtain ⟨front, joined⟩ := components_append_slash path plain
    exact ⟨front, joined _ (by simp)⟩

theorem getLast?_components_join (path : String) {name : String} (plain : '/' ∉ name.toList) :
    (components (Text.join path name)).getLast? = some name := by
  obtain ⟨front, joined⟩ := components_join path plain
  rw [joined, List.getLast?_concat]

theorem getLast?_trail_join (tree : FileTree) (path : String) {name : String}
    (plain : '/' ∉ name.toList) (leads : ¬ (name = "" ∨ name = ".")) (down : name ≠ "..") :
    (tree.trail (Text.join path name)).getLast? = some name := by
  obtain ⟨front, joined⟩ := components_join path plain
  obtain ⟨above, whole⟩ := tree.exists_fromRoot (Text.join path name)
  rw [trail, whole, joined, ← List.append_assoc, List.foldl_append, List.foldl_cons,
    List.foldl_nil, if_neg leads, if_neg down, List.getLast?_reverse, List.head?_cons]

/-- Trees that are the same but for some files look the same along a path that ends in another
name than these. -/
theorem SameBut.seen_resolve {paths : List String} {path : String}
    (elsewhere : ∀ other ∈ paths, ∃ name,
      (∀ tree : FileTree, (tree.trail other).getLast? = some name) ∧
        (components path).getLast? ≠ some name)
    {first second : FileTree} (same : SameBut paths first second) :
    seen (first.resolve path) = seen (second.resolve path) := by
  induction same with
  | refl => rfl
  | tail _ last ih =>
    obtain ⟨there, other, mem, differs⟩ := last
    obtain ⟨name, file, different⟩ := elsewhere other mem
    exact ih.trans (FileTree.seen_resolve different there ⟨_, file _, differs⟩)

/-! ## Changes to one file -/

theorem lookup_filter_ne (name other : String) (entries : Entries) :
    (entries.filter fun e => e.1 != name).lookup other =
      if other = name then none else entries.lookup other := by
  by_cases same : other = name
  · rw [if_pos same, List.lookup_eq_none_iff]
    intro entry mem
    rw [same]
    exact bne_iff_ne.2 (Ne.symm (bne_iff_ne.1 (List.mem_filter.1 mem).2))
  · rw [if_neg same]
    induction entries with
    | nil => rfl
    | cons entry entries ih =>
      rw [List.filter_cons, NameMap.lookup_cons, ← ih]
      by_cases gone : entry.1 = name
      · simp [gone, same]
      · simp [gone, NameMap.lookup_cons]

theorem lookup_setEntry (name other : String) (node : FileNode) (entries : Entries) :
    (setEntry name node entries).lookup other =
      if other = name then some node else entries.lookup other := by
  rw [setEntry, NameMap.lookup_cons]
  by_cases same : other = name
  · rw [if_pos same, if_pos same]
  · rw [if_neg same, if_neg same, lookup_filter_ne, if_neg same]

theorem alter_cons (f : Option FileNode → FileNode) (name : String) {rest : List String}
    (long : rest ≠ []) (entries : Entries) :
    alter f (name :: rest) entries =
      setEntry name (.dir (alter f rest (entriesUnder name entries))) entries := by
  rw [alter]
  exact long

/-- A node of a directory after something below one of its entries is gone. -/
def eraseWithin (name : String) (rest : List String) (entry : String) : FileNode → FileNode
  | .dir inner => if entry = name then .dir (erase rest inner) else .dir inner
  | .file content => .file content

theorem erase_cons (name : String) {rest : List String} (long : rest ≠ []) (entries : Entries) :
    erase (name :: rest) entries =
      entries.map fun e => (e.1, eraseWithin name rest e.1 e.2) := by
  rw [erase]
  · refine List.map_congr_left fun entry _ => ?_
    obtain ⟨entry, content | inner⟩ := entry
    · rfl
    · by_cases same : entry = name <;> simp [same, eraseWithin]
  · exact long

theorem eraseWithin_of_ne {name entry : String} (ne : entry ≠ name) (rest : List String) :
    eraseWithin name rest entry = id := by
  funext node
  cases node with
  | file content => rfl
  | dir inner => exact if_neg ne

/-- A file with two contents. -/
theorem differsAt_alter (trail : List String) (entries : Entries) (content content' : ByteArray) :
    DiffersAt trail (alter (fun _ => .file content) trail entries)
      (alter (fun _ => .file content') trail entries) := by
  fun_induction alter (fun _ => .file content) trail entries with
  | case1 entries => exact .nowhere _ _
  | case2 name entries =>
    refine .here (fun other ne => ?_) (.inr ⟨content, ?_⟩) (.inr ⟨content', ?_⟩)
    · simp [alter, lookup_setEntry, ne]
    · simp [lookup_setEntry]
    · simp [alter, lookup_setEntry]
  | case3 name rest entries long ih =>
    rw [alter_cons _ name long]
    refine .within (fun other ne => ?_) ?_ ?_ ih
    · rw [lookup_setEntry, lookup_setEntry, if_neg ne, if_neg ne]
    · rw [lookup_setEntry, if_pos rfl]
    · rw [lookup_setEntry, if_pos rfl]

/-- A file that is there, and one that is not. -/
theorem differsAt_erase (trail : List String) (entries : Entries) (content : ByteArray) :
    DiffersAt trail (alter (fun _ => .file content) trail entries)
      (erase trail (alter (fun _ => .file content) trail entries)) := by
  fun_induction alter (fun _ => .file content) trail entries with
  | case1 entries => exact .nowhere _ _
  | case2 name entries =>
    refine .here (fun other ne => ?_) (.inr ⟨content, ?_⟩) (.inl ?_)
    · simp [erase, lookup_filter_ne, ne]
    · simp [lookup_setEntry]
    · simp [erase, lookup_filter_ne]
  | case3 name rest entries long ih =>
    rw [erase_cons name long]
    refine .within (fun other ne => ?_) ?_ ?_ ih
    · rw [NameMap.lookup_map, eraseWithin_of_ne ne, Option.map_id_fun, id]
    · rw [lookup_setEntry, if_pos rfl]
    · rw [NameMap.lookup_map, lookup_setEntry, if_pos rfl, Option.map_some, eraseWithin,
        if_pos rfl]

theorem trail_change (tree : FileTree) (path other : String)
    (f : List String → Entries → Entries) :
    (tree.change path f).trail other = tree.trail other := by
  unfold change
  split <;> rfl

/-- Two changes at a path make trees that differ there just as the changed entries do. -/
theorem sameBut_change {paths : List String} {path : String} (mem : path ∈ paths)
    (tree : FileTree) {f g : List String → Entries → Entries}
    (differs : ∀ trail entries, DiffersAt trail (f trail entries) (g trail entries)) :
    SameBut paths (tree.change path f) (tree.change path g) := by
  refine .single ⟨?_, path, mem, ?_⟩
  · unfold change
    split <;> rfl
  · rw [trail_change]
    unfold change
    split
    · exact .nowhere _ _
    · exact differs _ _

theorem sameBut_write {paths : List String} {path : String} (mem : path ∈ paths)
    (tree : FileTree) (content content' : ByteArray) :
    SameBut paths (tree.write path content) (tree.write path content') :=
  sameBut_change mem tree fun _ _ => differsAt_alter _ _ _ _

theorem change_change (tree : FileTree) (path : String) (f g : List String → Entries → Entries) :
    (tree.change path f).change path g = tree.change path fun trail => g trail ∘ f trail := by
  unfold change
  by_cases above : (tree.trail path).isPrefixOf tree.workdir
  · simp only [above, if_true]
  · simp only [above]
    exact if_neg above

theorem sameBut_remove {paths : List String} {path : String} (mem : path ∈ paths)
    (tree : FileTree) (content : ByteArray) :
    SameBut paths (tree.write path content) ((tree.write path content).remove path) := by
  rw [remove, write, change_change]
  exact sameBut_change mem tree fun _ _ => differsAt_erase _ _ _

end HostVitals.FileTree
