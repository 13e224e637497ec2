import HostVitals.Json
import Mathlib.Tactic.SplitIfs

/-!
# Quoted strings

A string in JSON is a text between quotes. The text spells the characters of the string one after
the other, each by itself or by an escape, and can be read in one way only.

* `Spells`: the characters that a text spells.
* `Quotes`: a text is the written form of a string.

`spells_escapeChar` says that every character is written so that it is spelled, and `Spells.unique`
that a text spells one thing only. For strings that is `quotes_stringText` and `stringText_inj`.
-/

namespace HostVitals.Json

/-- What may stand after a backslash, with the character that is meant. -/
def marks : List (Char × Char) :=
  [('"', '"'), ('\\', '\\'), ('/', '/'), ('b', '\x08'), ('f', '\x0c'), ('n', '\n'), ('r', '\r'),
    ('t', '\t')]

/-- A text between quotes spells some characters. -/
inductive Spells : List Char → List Char → Prop
  | nil : Spells [] []
  | plain {c : Char} {text cs : List Char} :
    c ≠ '"' → c ≠ '\\' → 0x20 ≤ c.toNat → Spells text cs → Spells (c :: text) (c :: cs)
  | mark {mark c : Char} {text cs : List Char} :
    (mark, c) ∈ marks → Spells text cs → Spells ('\\' :: mark :: text) (c :: cs)
  | code {high low c : Char} {text cs : List Char} :
    c.toNat < 0x100 → Nat.digitChar (c.toNat / 16) = high → Nat.digitChar (c.toNat % 16) = low →
    Spells text cs → Spells ('\\' :: 'u' :: '0' :: '0' :: high :: low :: text) (c :: cs)

/-- A text is the written form of a string. -/
def Quotes (text s : String) : Prop :=
  ∃ inner, text.toList = '"' :: inner ++ ['"'] ∧ Spells inner s.toList

/-! ## One way to write -/

theorem spells_escapeChar (c : Char) {text cs : List Char} (rest : Spells text cs) :
    Spells (escapeChar c ++ text) (c :: cs) := by
  unfold escapeChar
  split_ifs with quote backslash backspace formFeed lineFeed carriage tab control
  · subst quote; exact .mark (by decide) rest
  · subst backslash; exact .mark (by decide) rest
  · subst backspace; exact .mark (by decide) rest
  · subst formFeed; exact .mark (by decide) rest
  · subst lineFeed; exact .mark (by decide) rest
  · subst carriage; exact .mark (by decide) rest
  · subst tab; exact .mark (by decide) rest
  · exact .code (by omega) rfl rfl rest
  · exact .plain quote backslash (Nat.not_lt.1 control) rest

theorem spells_flatMap_escapeChar (cs : List Char) : Spells (cs.flatMap escapeChar) cs := by
  induction cs with
  | nil => exact .nil
  | cons c cs ih => exact spells_escapeChar c ih

/-- The written form of a string is one. -/
theorem quotes_stringText (s : String) : Quotes (stringText s) s :=
  ⟨s.toList.flatMap escapeChar, String.toList_ofList, spells_flatMap_escapeChar s.toList⟩

/-! ## One way to read -/

theorem eq_of_mem_marks {mark c d : Char} (means : (mark, c) ∈ marks) (means' : (mark, d) ∈ marks) :
    c = d := by
  have every : (marks.all fun one => marks.all fun other =>
      one.1 != other.1 || one.2 == other.2) = true := by decide
  simpa using List.all_eq_true.1 (List.all_eq_true.1 every _ means) _ means'

theorem digitChar_inj {m n : Nat} (hm : m < 16) (hn : n < 16)
    (same : Nat.digitChar m = Nat.digitChar n) : m = n := by
  have every : ∀ m : Fin 16, ∀ n : Fin 16, Nat.digitChar m = Nat.digitChar n → m = n := by decide
  exact Fin.mk.inj (every ⟨m, hm⟩ ⟨n, hn⟩ same)

/-- A text spells one thing only: its first character says how the next one is spelled. -/
theorem Spells.unique {text cs ds : List Char} (h : Spells text cs) (h' : Spells text ds) :
    cs = ds := by
  induction h generalizing ds with
  | nil => cases h'; rfl
  | plain _ backslash _ _ ih =>
    cases h' with
    | plain _ _ _ rest => rw [ih rest]
    | mark => exact absurd rfl backslash
    | code => exact absurd rfl backslash
  | mark means _ ih =>
    cases h' with
    | plain _ backslash => exact absurd rfl backslash
    | mark means' rest => rw [eq_of_mem_marks means means', ih rest]
    | code => simp [marks] at means
  | @code _ _ c _ _ small high low _ ih =>
    cases h' with
    | plain _ backslash => exact absurd rfl backslash
    | mark means => simp [marks] at means
    | @code _ _ d _ _ small' high' low' rest =>
      have first := digitChar_inj (by omega) (by omega) (high.trans high'.symm)
      have second := digitChar_inj (by omega) (by omega) (low.trans low'.symm)
      have same : c = d := Char.toNat_inj.1 (by omega)
      rw [same, ih rest]

theorem Quotes.unique {text s t : String} (h : Quotes text s) (h' : Quotes text t) : s = t := by
  obtain ⟨inner, split, spells⟩ := h
  obtain ⟨inner', split', spells'⟩ := h'
  rw [split, List.cons_append, List.cons_append, List.cons_inj_right,
    List.append_cancel_right_eq] at split'
  exact String.toList_inj.1 (spells.unique (split' ▸ spells'))

/-- Strings with the same written form are the same. -/
theorem stringText_inj {s t : String} (same : stringText s = stringText t) : s = t :=
  (quotes_stringText s).unique (same ▸ quotes_stringText t)

end HostVitals.Json
