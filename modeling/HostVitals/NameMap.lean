/-!
# Maps from names

A finite map whose keys are names, kept in increasing order of the names. The order
of strings is by code point, which is also the order of their UTF-8 bytes.

The view of a map is `find?`: one lemma per operation says what it does to it.

* `find?_insert`, `find?_insertNew`, `find?_map`, `find?_modify`, `find?_ofList`: the
  look-ups after each operation.
* `mem_entries_iff`, `mem_names_iff`: entries and names by look-up.
* `find?_foldl_insertNew`: the look-ups after many first-come additions.
* `ext`: equal look-ups make equal maps.
-/

namespace HostVitals

/-- A map from names; its entries are in strictly increasing order of their names. -/
structure NameMap (α : Type) where
  entries : List (String × α)
  sorted : entries.Pairwise fun a b => a.1 < b.1

namespace NameMap

variable {α β : Type}

/-- The map without entries. -/
def empty : NameMap α where
  entries := []
  sorted := .nil

instance : Inhabited (NameMap α) := ⟨empty⟩

/-- Puts an entry in its place, where it replaces one of the same name. -/
def insertEntry (name : String) (value : α) : List (String × α) → List (String × α)
  | [] => [(name, value)]
  | e :: es =>
    if name < e.1 then (name, value) :: e :: es
    else if name = e.1 then (name, value) :: es
    else e :: insertEntry name value es

theorem mem_insertEntry {name : String} {value : α} {es : List (String × α)} {e : String × α}
    (h : e ∈ insertEntry name value es) : e = (name, value) ∨ e ∈ es := by
  induction es with
  | nil => simpa [insertEntry] using h
  | cons d ds ih =>
    rw [insertEntry] at h
    split at h
    · simpa using h
    · split at h
      · simp only [List.mem_cons] at h ⊢
        exact h.imp id .inr
      · simp only [List.mem_cons] at h ⊢
        rcases h with h | h
        · exact .inr (.inl h)
        · exact (ih h).imp id .inr

theorem sorted_insertEntry (name : String) (value : α) {es : List (String × α)}
    (h : es.Pairwise fun a b => a.1 < b.1) :
    (insertEntry name value es).Pairwise fun a b => a.1 < b.1 := by
  induction es with
  | nil => simp [insertEntry]
  | cons d ds ih =>
    obtain ⟨first, rest⟩ := List.pairwise_cons.1 h
    rw [insertEntry]
    split
    · next lt =>
      refine List.pairwise_cons.2 ⟨fun e he => ?_, h⟩
      rcases List.mem_cons.1 he with rfl | he
      · exact lt
      · exact String.lt_trans lt (first e he)
    · split
      · next eq => exact List.pairwise_cons.2 ⟨fun e he => by simpa [eq] using first e he, rest⟩
      · next nlt ne =>
        refine List.pairwise_cons.2 ⟨fun e he => ?_, ih rest⟩
        rcases mem_insertEntry he with rfl | he
        · exact Std.lt_of_le_of_ne (Std.not_lt.1 nlt) (Ne.symm ne)
        · exact first e he

/-- Adds an entry, or replaces the value of the one that has the name. -/
def insert (m : NameMap α) (name : String) (value : α) : NameMap α where
  entries := insertEntry name value m.entries
  sorted := sorted_insertEntry name value m.sorted

/-- The value under a name. -/
def find? (m : NameMap α) (name : String) : Option α :=
  m.entries.lookup name

/-- The name has a value. -/
def contains (m : NameMap α) (name : String) : Bool :=
  (m.find? name).isSome

/-- Adds an entry unless the name has a value already. -/
def insertNew (m : NameMap α) (name : String) (value : α) : NameMap α :=
  if m.contains name then m else m.insert name value

/-- The map of a list of entries; of two with one name the later stays. -/
def ofList (es : List (String × α)) : NameMap α :=
  es.foldl (fun m e => m.insert e.1 e.2) empty

/-- The names, in increasing order. -/
def names (m : NameMap α) : List String :=
  m.entries.map (·.1)

/-- The values, in the order of their names. -/
def values (m : NameMap α) : List α :=
  m.entries.map (·.2)

/-- The number of entries. -/
def size (m : NameMap α) : Nat :=
  m.entries.length

/-- Replaces each value. -/
def map (f : String → α → β) (m : NameMap α) : NameMap β where
  entries := m.entries.map fun e => (e.1, f e.1 e.2)
  sorted := List.pairwise_map.2 m.sorted

/-- Replaces the value under one name. -/
def modify (m : NameMap α) (name : String) (f : α → α) : NameMap α :=
  m.map fun n value => if n = name then f value else value

/-! ## The view -/

theorem lookup_cons (name : String) (e : String × α) (es : List (String × α)) :
    (e :: es).lookup name = if name = e.1 then some e.2 else es.lookup name := by
  rw [List.lookup_cons]
  by_cases h : name = e.1
  · rw [if_pos h, beq_iff_eq.2 h]
  · rw [if_neg h, beq_eq_false_iff_ne.2 h]

theorem lookup_eq_find? (name : String) (es : List (String × α)) :
    es.lookup name = (es.find? (·.1 == name)).map (·.2) := by
  induction es with
  | nil => rfl
  | cons e es ih =>
    rw [lookup_cons, List.find?_cons, ih]
    by_cases same : name = e.1
    · rw [if_pos same, beq_iff_eq.2 same.symm, Option.map_some]
    · rw [if_neg same, beq_eq_false_iff_ne.2 (Ne.symm same)]

theorem lookup_insertEntry (name other : String) (value : α) (es : List (String × α)) :
    (insertEntry name value es).lookup other =
      if other = name then some value else es.lookup other := by
  induction es with
  | nil => simp [insertEntry, lookup_cons]
  | cons d ds ih =>
    rw [insertEntry]
    split
    · simp [lookup_cons]
    · split
      · next eq => by_cases h : other = name <;> simp [lookup_cons, ← eq, h]
      · next ne =>
        by_cases h : other = d.1
        · simp [lookup_cons, h, Ne.symm ne]
        · simp [lookup_cons, h, ih]

@[simp] theorem find?_empty (name : String) : (empty : NameMap α).find? name = none := rfl

@[simp] theorem find?_insert (m : NameMap α) (name other : String) (value : α) :
    (m.insert name value).find? other = if other = name then some value else m.find? other :=
  lookup_insertEntry name other value m.entries

theorem find?_insertNew (m : NameMap α) (name other : String) (value : α) :
    (m.insertNew name value).find? other =
      if other = name then some ((m.find? name).getD value) else m.find? other := by
  unfold insertNew contains
  split
  · next h =>
    obtain ⟨v, hv⟩ := Option.isSome_iff_exists.1 h
    by_cases eq : other = name <;> simp [eq, hv]
  · next h =>
    have : m.find? name = none := by simpa using h
    simp [this]

theorem lookup_map (f : String → α → β) (es : List (String × α)) (name : String) :
    (es.map fun e => (e.1, f e.1 e.2)).lookup name = (es.lookup name).map (f name) := by
  induction es with
  | nil => rfl
  | cons e es ih =>
    by_cases h : name = e.1
    · simp [lookup_cons, h]
    · simp [lookup_cons, h, ih]

@[simp] theorem find?_map (f : String → α → β) (m : NameMap α) (name : String) :
    (m.map f).find? name = (m.find? name).map (f name) :=
  lookup_map f m.entries name

@[simp] theorem find?_modify (m : NameMap α) (name other : String) (f : α → α) :
    (m.modify name f).find? other =
      if other = name then (m.find? name).map f else m.find? other := by
  by_cases h : other = name
  · subst h
    simp [modify]
  · simp [modify, h]

@[simp] theorem names_map (f : String → α → β) (m : NameMap α) : (m.map f).names = m.names := by
  simp [names, map]

@[simp] theorem size_map (f : String → α → β) (m : NameMap α) : (m.map f).size = m.size :=
  List.length_map _

@[simp] theorem names_modify (m : NameMap α) (name : String) (f : α → α) :
    (m.modify name f).names = m.names :=
  names_map _ m

theorem pairwise_names (m : NameMap α) : m.names.Pairwise (· < ·) :=
  List.pairwise_map.2 m.sorted

theorem mem_entries_iff {m : NameMap α} {name : String} {value : α} :
    (name, value) ∈ m.entries ↔ m.find? name = some value := by
  obtain ⟨es, h⟩ := m
  show _ ∈ es ↔ es.lookup name = some value
  induction es with
  | nil => simp
  | cons e es ih =>
    obtain ⟨first, rest⟩ := List.pairwise_cons.1 h
    rw [lookup_cons]
    split
    · next eq =>
      have other : (name, value) ∉ es := fun mem => String.lt_irrefl _ (eq ▸ first _ mem)
      simp only [List.mem_cons, other, or_false, Option.some.injEq]
      constructor
      · intro h
        rw [← h]
      · rintro rfl
        rw [eq]
    · next ne =>
      have other : (name, value) ≠ e := fun h => ne (by rw [← h])
      simp only [List.mem_cons, other, false_or]
      exact ih rest

theorem mem_names_iff {m : NameMap α} {name : String} :
    name ∈ m.names ↔ (m.find? name).isSome := by
  simp only [names, List.mem_map, Option.isSome_iff_exists]
  constructor
  · rintro ⟨e, he, rfl⟩
    exact ⟨e.2, mem_entries_iff.1 he⟩
  · rintro ⟨v, hv⟩
    exact ⟨_, mem_entries_iff.2 hv, rfl⟩

theorem nodup_names (m : NameMap α) : m.names.Nodup := by
  refine m.pairwise_names.imp ?_
  rintro a b lt rfl
  exact String.lt_irrefl a lt

theorem nodup_entries (m : NameMap α) : m.entries.Nodup := by
  refine m.sorted.imp ?_
  intro a b lt eq
  exact String.lt_irrefl b.1 (eq ▸ lt)

/-- Maps that know the same names list them alike. -/
theorem names_eq_of_isSome {m : NameMap α} {n : NameMap β}
    (h : ∀ name, (m.find? name).isSome = (n.find? name).isSome) : m.names = n.names := by
  have members : ∀ name, name ∈ m.names ↔ name ∈ n.names := by
    intro name
    rw [mem_names_iff, mem_names_iff, h]
  exact List.Perm.eq_of_pairwise (fun _ _ _ _ lt gt => absurd gt (String.lt_asymm lt))
    m.pairwise_names n.pairwise_names
    ((List.perm_ext_iff_of_nodup m.nodup_names n.nodup_names).2 members)

/-- Equal look-ups make equal maps. -/
theorem ext {m n : NameMap α} (h : ∀ name, m.find? name = n.find? name) : m = n := by
  have members : ∀ e, e ∈ m.entries ↔ e ∈ n.entries := by
    intro e
    rw [mem_entries_iff, mem_entries_iff, h]
  have same : m.entries = n.entries :=
    List.Perm.eq_of_pairwise (fun _ _ _ _ lt gt => absurd gt (String.lt_asymm lt)) m.sorted
      n.sorted ((List.perm_ext_iff_of_nodup m.nodup_entries n.nodup_entries).2 members)
  cases m
  cases n
  cases same
  rfl

theorem find?_foldl_insert (es : List (String × α)) (m : NameMap α) (name : String) :
    (es.foldl (fun m e => m.insert e.1 e.2) m).find? name =
      (es.reverse.lookup name).or (m.find? name) := by
  induction es generalizing m with
  | nil => simp
  | cons e es ih =>
    rw [List.foldl_cons, ih, List.reverse_cons, List.lookup_append, Option.or_assoc,
      find?_insert, lookup_cons]
    by_cases h : name = e.1 <;> simp [h]

/-- Of many entries added one after the other, the first of each new name stays. -/
theorem find?_foldl_insertNew {ι : Type} (name : ι → String) (value : ι → α) (items : List ι)
    (m : NameMap α) (n : String) :
    (items.foldl (fun m i => m.insertNew (name i) (value i)) m).find? n =
      (m.find? n).or ((items.find? fun i => name i == n).map value) := by
  induction items generalizing m with
  | nil => simp
  | cons i items ih =>
    rw [List.foldl_cons, ih, find?_insertNew, List.find?_cons]
    by_cases same : n = name i
    · subst same
      cases m.find? (name i) <;> simp
    · rw [if_neg same, beq_eq_false_iff_ne.2 (Ne.symm same)]

/-- The last value listed for a name counts. -/
theorem find?_ofList (es : List (String × α)) (name : String) :
    (ofList es).find? name = es.reverse.lookup name := by
  rw [ofList, find?_foldl_insert, find?_empty, Option.or_none]

example : (ofList [("b", 1), ("a", 2), ("b", 3)]).entries = [("a", 2), ("b", 3)] := by
  decide +kernel

end NameMap

end HostVitals
