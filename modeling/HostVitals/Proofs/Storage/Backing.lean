import HostVitals.Proofs.Text.Spread
import HostVitals.Storage

/-!
# Block devices behind filesystems

Which block devices a list of filesystems rests on, said of the names alone and without the
order in which keys are handed out.

* `Store.name_eq`: the key of a filesystem, which is its name without one leading slash.
* `Store.RestsOn`: the device behind one filesystem.
* `Store.Wins`, `Store.Backed`: the filesystems that win their keys, and the devices behind
  them.

`restsOn_iff` compares with the device that a filesystem gives, and `backed_iff` says that it
does not matter which of two filesystems with one key wins it.
-/

namespace HostVitals.Store

/-- Exactly one leading slash is missing from the key, and it is the whole name if that has none. -/
theorem name_eq (store : Store) :
    store.name = "/" ++ store.key ∨
      store.key = store.name ∧ store.name.toList.head? ≠ some '/' := by
  unfold key
  split
  · next rest slash =>
    refine .inl (String.toList_inj.1 ?_)
    simp [slash]
  · next plain =>
    refine .inr ⟨rfl, fun slash => ?_⟩
    obtain ⟨rest, split⟩ := List.head?_eq_some_iff.1 slash
    exact plain rest split

/-- A name of exactly two parts, divided by a slash. The second part is not empty. -/
def TwoParts (name group device : List Char) : Prop :=
  name = group ++ '/' :: device ∧ '/' ∉ group ∧ '/' ∉ device ∧ device ≠ []

/-- The device behind a filesystem: the second of two parts of its key, and the whole key if it
has no two parts. -/
def RestsOn (store : Store) (device : String) : Prop :=
  (∃ group, TwoParts store.key.toList group device.toList) ∨
    device = store.key ∧ ∀ group rest, ¬TwoParts store.key.toList group rest

/-- A text falls into two runs if it holds the separator once, between them. -/
theorem splitOn_eq_pair_iff {sep : Char} {cs first second : List Char} :
    cs.splitOn sep = [first, second] ↔
      cs = first ++ sep :: second ∧ sep ∉ first ∧ sep ∉ second := by
  rw [Text.splitOn_eq_iff (List.cons_ne_nil _ _)]
  simp

theorem deviceName_of_twoParts {store : Store} {group device : List Char}
    (parts : TwoParts store.key.toList group device) :
    store.deviceName = String.ofList device := by
  obtain ⟨name, fresh, once, nonempty⟩ := parts
  rw [deviceName, splitOn_eq_pair_iff.2 ⟨name, fresh, once⟩]
  simp [nonempty]

theorem deviceName_of_not_twoParts {store : Store}
    (whole : ∀ group device, ¬TwoParts store.key.toList group device) :
    store.deviceName = store.key := by
  unfold deviceName
  split
  · next group device split =>
    obtain ⟨name, fresh, once⟩ := splitOn_eq_pair_iff.1 split
    by_cases empty : device = []
    · rw [empty]
      rfl
    · exact absurd ⟨name, fresh, once, empty⟩ (whole group device)
  · rfl

/-- A filesystem rests on the device that it gives. -/
theorem restsOn_iff {store : Store} {device : String} :
    store.RestsOn device ↔ store.deviceName = device := by
  by_cases parts : ∃ group rest, TwoParts store.key.toList group rest
  · obtain ⟨group, rest, two⟩ := parts
    rw [deviceName_of_twoParts two]
    constructor
    · rintro (⟨other, same⟩ | ⟨_, whole⟩)
      · rw [← deviceName_of_twoParts two, deviceName_of_twoParts same, String.ofList_toList]
      · exact absurd two (whole group rest)
    · rintro rfl
      exact .inl ⟨group, by rwa [String.toList_ofList]⟩
  · have whole : ∀ group rest, ¬TwoParts store.key.toList group rest :=
      fun group rest two => parts ⟨group, rest, two⟩
    rw [deviceName_of_not_twoParts whole]
    constructor
    · rintro (⟨group, two⟩ | ⟨same, _⟩)
      · exact absurd two (whole group _)
      · exact same.symm
    · rintro rfl
      exact .inr ⟨rfl, whole⟩

/-- Filesystems with one key have one device behind them. -/
theorem deviceName_congr {store other : Store} (same : store.key = other.key) :
    store.deviceName = other.deviceName := by
  unfold deviceName
  rw [same]

/-! ## Winners -/

/-- A filesystem of a list wins its key: the key is not taken already, and no filesystem
before it has it. -/
def Wins (taken : List String) (stores : List Store) (store : Store) : Prop :=
  store.key ∉ taken ∧
    ∃ before after, stores = before ++ store :: after ∧ ∀ other ∈ before, other.key ≠ store.key

/-- The device is behind a filesystem that wins its key. -/
def Backed (taken : List String) (stores : List Store) (device : String) : Prop :=
  ∃ store, Wins taken stores store ∧ store.RestsOn device

/-- A device is backed as soon as any filesystem on it has a key that is not taken. -/
theorem backed_iff {taken : List String} {stores : List Store} {device : String} :
    Backed taken stores device ↔
      ∃ store ∈ stores, store.key ∉ taken ∧ store.deviceName = device := by
  constructor
  · rintro ⟨store, ⟨free, before, after, rfl, _⟩, rests⟩
    exact ⟨store, by simp, free, restsOn_iff.1 rests⟩
  · rintro ⟨store, mem, free, named⟩
    -- The first filesystem with this key wins it, and has the same device behind it.
    cases first : stores.find? (·.key == store.key) with
    | none => simpa using List.find?_eq_none.1 first store mem
    | some winner =>
      obtain ⟨same, before, after, split, others⟩ := List.find?_eq_some_iff_append.1 first
      have same : winner.key = store.key := by simpa using same
      refine ⟨winner, ⟨same ▸ free, before, after, split, fun other mem => ?_⟩,
        restsOn_iff.2 ((deviceName_congr same).trans named)⟩
      rw [same]
      simpa using others other mem

instance (taken : List String) (stores : List Store) (device : String) :
    Decidable (Backed taken stores device) :=
  decidable_of_iff _ backed_iff.symm

/-- After the first filesystem its key is taken. -/
theorem backed_cons {taken : List String} {store : Store} {stores : List Store}
    {device : String} :
    Backed taken (store :: stores) device ↔
      (store.key ∉ taken ∧ store.deviceName = device) ∨
        Backed (store.key :: taken) stores device := by
  simp only [backed_iff, List.mem_cons]
  constructor
  · rintro ⟨other, rfl | mem, free, named⟩
    · exact .inl ⟨free, named⟩
    · by_cases same : other.key = store.key
      · exact .inl ⟨same ▸ free, (deviceName_congr same).symm.trans named⟩
      · exact .inr ⟨other, mem, not_or.2 ⟨same, free⟩, named⟩
  · rintro (⟨free, named⟩ | ⟨other, mem, free, named⟩)
    · exact ⟨store, .inl rfl, free, named⟩
    · exact ⟨other, .inr mem, (not_or.1 free).2, named⟩

end HostVitals.Store
