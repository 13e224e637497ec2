import HostVitals.NameMap
import Mathlib.Data.List.Dedup
import Mathlib.Data.List.Induction

/-!
# Maps of listed names

How much of a list is left in a map that was made from it, where names are listed more than once.

* `size_eq_length_dedup`, `size_eq_length_iff`: a map is as large as there are different names.
* `filter_entries`: the entry of a name is the only one that has it.
* `ofList_eq_of_perm`: a map is made again from its entries in any order.
* `lookup_filterMap_eq_some_iff`: which item of a list an entry is from.
* `LastNamed`: the last place of a name in a list.
* `find?_ofList_zipIdx`: a map from listed names to their places holds the last place of each.
-/

namespace HostVitals

namespace NameMap

variable {α : Type}

/-- The entry of a name is the only one that has it. -/
theorem filter_entries (m : NameMap α) (name : String) :
    m.entries.filter (·.1 = name) = ((m.find? name).map fun value => (name, value)).toList := by
  have nodup : (m.entries.map (·.1)).Nodup := m.nodup_names
  rw [find?]
  generalize m.entries = es at nodup ⊢
  induction es with
  | nil => rfl
  | cons e es ih =>
    obtain ⟨fresh, nodup⟩ := List.nodup_cons.1 nodup
    rw [List.filter_cons, lookup_cons]
    by_cases same : e.1 = name
    · have none : es.lookup name = none :=
        List.lookup_eq_none_iff.2 fun other mem => bne_iff_ne.2 fun eq =>
          fresh (List.mem_map.2 ⟨other, mem, eq.symm.trans same.symm⟩)
      rw [if_pos (decide_eq_true same), if_pos same.symm, ih nodup, none, ← same]
      rfl
    · rw [if_neg (by simpa using same), if_neg (Ne.symm same), ih nodup]

/-- A map is as large as the number of different names that it knows. -/
theorem size_eq_length_dedup {m : NameMap α} {names : List String}
    (known : ∀ name, (m.find? name).isSome ↔ name ∈ names) : m.size = names.dedup.length := by
  have same : m.names.Perm names.dedup := by
    refine (List.perm_ext_iff_of_nodup m.nodup_names (List.nodup_dedup names)).2 fun name => ?_
    rw [NameMap.mem_names_iff, known, List.mem_dedup]
  rw [NameMap.size, ← same.length_eq, NameMap.names, List.length_map]

/-- A map is as large as the list of the names that it knows if none is listed twice. -/
theorem size_eq_length_iff {m : NameMap α} {names : List String}
    (known : ∀ name, (m.find? name).isSome ↔ name ∈ names) :
    m.size = names.length ↔ names.Nodup := by
  rw [size_eq_length_dedup known, ← List.dedup_eq_self]
  exact ⟨(List.dedup_sublist _).eq_of_length, congrArg List.length⟩

/-- A list of the entries of a map makes that map, in whatever order they are listed. -/
theorem ofList_eq_of_perm {m : NameMap α} {es : List (String × α)} (perm : es.Perm m.entries) :
    ofList es = m := by
  refine ext fun name => ?_
  rw [find?_ofList]
  cases listed : es.reverse.lookup name with
  | some value =>
    obtain ⟨before, after, split, _⟩ := List.lookup_eq_some_iff.1 listed
    have mem : (name, value) ∈ es := List.mem_reverse.1 (split ▸ List.mem_append_cons_self)
    exact (mem_entries_iff.1 (perm.mem_iff.1 mem)).symm
  | none =>
    refine (Option.eq_none_iff_forall_ne_some.2 fun value known => ?_).symm
    have mem : (name, value) ∈ es := perm.mem_iff.2 (mem_entries_iff.2 known)
    simpa using List.lookup_eq_none_iff.1 listed _ (List.mem_reverse.2 mem)

/-- Of the entries that the items of a list make, that of the first item counts: none before it
makes an entry of this name. -/
theorem lookup_filterMap_eq_some_iff {ι : Type} {make : ι → Option (String × α)} {items : List ι}
    {name : String} {value : α} :
    (items.filterMap make).lookup name = some value ↔
      ∃ before item after, items = before ++ item :: after ∧ make item = some (name, value) ∧
        ∀ other ∈ before, ∀ hidden, make other ≠ some (name, hidden) := by
  constructor
  · intro listed
    obtain ⟨first, last, split, others⟩ := List.lookup_eq_some_iff.1 listed
    obtain ⟨start, rest, rfl, rfl, made⟩ := List.filterMap_eq_append_iff.1 split
    obtain ⟨skipped, item, after, rfl, empty, makes, _⟩ := List.filterMap_eq_cons_iff.1 made
    refine ⟨start ++ skipped, item, after, (List.append_assoc _ _ _).symm, makes,
      fun other mem hidden makes' => ?_⟩
    rcases List.mem_append.1 mem with mem | mem
    · simpa using others (name, hidden) (List.mem_filterMap.2 ⟨other, mem, makes'⟩)
    · exact absurd ((empty other mem).symm.trans makes') (by simp)
  · rintro ⟨before, item, after, rfl, makes, others⟩
    rw [List.filterMap_append, List.filterMap_cons_some makes]
    refine List.lookup_eq_some_iff.2 ⟨_, _, rfl, fun entry mem => ?_⟩
    obtain ⟨other, mem, makes'⟩ := List.mem_filterMap.1 mem
    rw [bne_iff_ne]
    intro same
    exact others other mem entry.2 (makes'.trans (by rw [same]))

end NameMap

/-- The name stands at that place of the list, and at no later one. -/
def LastNamed (names : List String) (name : String) (i : Nat) : Prop :=
  names[i]? = some name ∧ ∀ j, i < j → names[j]? ≠ some name

theorem LastNamed.lt_length {names : List String} {name : String} {i : Nat}
    (h : LastNamed names name i) : i < names.length :=
  (List.getElem?_eq_some_iff.1 h.1).1

/-- The name at the end of a list is the last of its kind, and hides no other name. -/
theorem lastNamed_concat {names : List String} {last name : String} {i : Nat} :
    LastNamed (names ++ [last]) name i ↔
      if name = last then i = names.length else LastNamed names name i := by
  have final : (names ++ [last])[names.length]? = some last := List.getElem?_concat_length
  have before {j : Nat} (inside : j < names.length) : (names ++ [last])[j]? = names[j]? :=
    List.getElem?_append_left inside
  have beyond {j : Nat} (out : names.length < j) : (names ++ [last])[j]? = none :=
    List.getElem?_eq_none (by rw [List.length_append, List.length_singleton]; omega)
  split
  · next same =>
    subst same
    constructor
    · intro named
      have inside := named.lt_length
      rw [List.length_append, List.length_singleton] at inside
      by_contra ne
      exact named.2 names.length (by omega) final
    · rintro rfl
      exact ⟨final, fun j later => by simp [beyond later]⟩
  · next other =>
    constructor
    · rintro ⟨at_i, later⟩
      have inside : i < names.length := by
        rcases Nat.lt_trichotomy i names.length with inside | rfl | out
        · exact inside
        · exact absurd (Option.some.inj (final.symm.trans at_i)).symm other
        · rw [beyond out] at at_i; cases at_i
      refine ⟨(before inside).symm.trans at_i, fun j less found => ?_⟩
      have inside' := (List.getElem?_eq_some_iff.1 found).1
      exact later j less ((before inside').trans found)
    · intro named
      refine ⟨(before named.lt_length).trans named.1, fun j less found => ?_⟩
      rcases Nat.lt_trichotomy j names.length with inside | rfl | out
      · exact named.2 j less ((before inside).symm.trans found)
      · exact other (Option.some.inj (final.symm.trans found)).symm
      · rw [beyond out] at found; cases found

namespace NameMap

/-- Of the places of a name the last is held. -/
theorem find?_ofList_zipIdx {names : List String} {name : String} {i : Nat} :
    (ofList names.zipIdx).find? name = some i ↔ LastNamed names name i := by
  rw [find?_ofList]
  -- From the end of the list, since an entry added later hides the earlier ones.
  induction names using List.reverseRecOn with
  | nil => simp [LastNamed]
  | append_singleton names last ih =>
    rw [lastNamed_concat, ← ih, List.zipIdx_append, List.reverse_append, Nat.zero_add]
    show ((last, names.length) :: names.zipIdx.reverse).lookup name = _ ↔ _
    rw [lookup_cons]
    split <;> simp [eq_comm]

/-- All names that are listed are known. -/
theorem isSome_find?_ofList_zipIdx {names : List String} {name : String} :
    ((ofList names.zipIdx).find? name).isSome ↔ name ∈ names := by
  rw [find?_ofList, lookup_eq_find?, Option.isSome_map, List.find?_isSome]
  simp only [List.mem_reverse, beq_iff_eq]
  rw [← List.mem_map, List.zipIdx_map_fst]

end NameMap

end HostVitals
