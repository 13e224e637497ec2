import HostVitals.LoadAverage
import HostVitals.Proofs.Network.Grammar

/-!
# What the load sources give

Each of the two sources gives its fields as a whole or none of them, and neither knows of the
other.

* `Gives`: the fields that a source gives, by what its path leads to.
* `wanted?`: the part of a source that is looked at.

`gives_iff` says that the reader does what `Gives` says, `value_parse_iff` says it of both readers,
and `parse_degrades_per_source` what a parse of both sources comes to.
-/

namespace HostVitals.LoadAverage

open Logged
open Text (words)
open Decimal (readFloat FloatFault)
open Network (mapM_eq_ok_iff mapM_eq_error_iff)

/-- The first `n` fields of a source, which is what a path leads to. Those that its text has are
given if none of them is bad, and the others are zero. In every other case all of them are. -/
inductive Gives (n : Nat) : Except IoFault FileNode → List Float → Prop
  | fields {content : ByteArray} {text : String} {values : List Float} :
    String.fromUTF8? content = some text →
    List.Forall₂ (fun token x => readFloat token = .ok x) ((words text.toList).take n) values →
    Gives n (.ok (.file content)) (values ++ List.replicate (n - values.length) 0.0)
  | badField {content : ByteArray} {text : String} {token : List Char} {fault : FloatFault} :
    String.fromUTF8? content = some text → token ∈ (words text.toList).take n →
    readFloat token = .error fault → Gives n (.ok (.file content)) (List.replicate n 0.0)
  | noText {content : ByteArray} :
    String.fromUTF8? content = none → Gives n (.ok (.file content)) (List.replicate n 0.0)
  | directory {entries : List (String × FileNode)} :
    Gives n (.ok (.dir entries)) (List.replicate n 0.0)
  | unreachable {fault : IoFault} : Gives n (.error fault) (List.replicate n 0.0)

/-- The part of a source that is looked at, if it can be read at all: its first `n` tokens. -/
def wanted? (n : Nat) (host : Host) (path : String) : Option (List (List Char)) :=
  (host.files.readText path).toOption.map fun text => (words text.toList).take n

variable {n : Nat} {host : Host} {path : String} {fields : List Float}

/-! ## One source -/

theorem readable_of_mem {tokens : List (List Char)} {values : List Float}
    (read : List.Forall₂ (fun token x => readFloat token = .ok x) tokens values) :
    ∀ token ∈ tokens, ∃ x, readFloat token = .ok x := by
  induction read with
  | nil => nofun
  | cons good _ ih => exact List.forall_mem_cons.2 ⟨⟨_, good⟩, ih⟩

/-- The fields are those that are looked at, read as a whole, or zeros. -/
theorem value_readFields (n : Nat) (host : Host) (path : String) :
    (readFields n host path).value =
      match (wanted? n host path).map (·.mapM readFloat) with
      | some (.ok values) => values ++ List.replicate (n - values.length) 0.0
      | _ => List.replicate n 0.0 := by
  rw [readFields, wanted?]
  cases host.files.readText path with
  | error fault => rfl
  | ok text =>
    simp only [Except.toOption, Option.map_some, parseFields]
    cases ((words text.toList).take n).mapM readFloat <;> rfl

theorem length_readFields (n : Nat) (host : Host) (path : String) :
    (readFields n host path).value.length = n := by
  rw [value_readFields]
  split
  · next values read =>
    obtain ⟨tokens, looked, read⟩ := Option.map_eq_some_iff.1 read
    have whole := (mapM_eq_ok_iff.1 read).length_eq
    obtain ⟨text, _, rfl⟩ := Option.map_eq_some_iff.1 looked
    have short := List.length_take_le n (words text.toList)
    rw [List.length_append, List.length_replicate]
    omega
  · exact List.length_replicate

theorem wanted?_eq (n : Nat) (host : Host) (path : String) :
    wanted? n host path = match host.files.resolve path with
      | .ok (.file content) =>
        (String.fromUTF8? content).map fun text => (words text.toList).take n
      | _ => none := by
  rw [wanted?, FileTree.readText]
  rcases host.files.resolve path with _ | content | _
  · rfl
  · dsimp only
    cases String.fromUTF8? content <;> rfl
  · rfl

/-- The reader gives what the source gives. -/
theorem gives_iff :
    Gives n (host.files.resolve path) fields ↔ (readFields n host path).value = fields := by
  rw [value_readFields, wanted?_eq]
  constructor
  · intro gives
    generalize host.files.resolve path = node at gives ⊢
    cases gives with
    | fields isText read => simp only [isText, Option.map_some, mapM_eq_ok_iff.2 read]
    | @badField _ text token _ isText among bad =>
      simp only [isText, Option.map_some]
      cases read : ((words text.toList).take n).mapM readFloat with
      | error _ => rfl
      | ok values =>
        obtain ⟨x, good⟩ := readable_of_mem (mapM_eq_ok_iff.1 read) token among
        rw [bad] at good
        cases good
    | noText none => simp only [none, Option.map_none]
    | directory => rfl
    | unreachable => rfl
  · rintro rfl
    rcases host.files.resolve path with _ | content | _
    · exact .unreachable
    · cases isText : String.fromUTF8? content with
      | none =>
        simp only [isText, Option.map_none]
        exact .noText isText
      | some text =>
        simp only [isText, Option.map_some]
        cases read : ((words text.toList).take n).mapM readFloat with
        | ok values => exact .fields isText (mapM_eq_ok_iff.1 read)
        | error fault =>
          obtain ⟨before, token, after, split, _, bad⟩ := mapM_eq_error_iff.1 read
          exact .badField isText (split ▸ List.mem_append_right _ List.mem_cons_self) bad
    · exact .directory

/-- What is not looked at does not matter. -/
theorem readFields_of_wanted? {host' : Host} {path' : String}
    (same : wanted? n host path = wanted? n host' path') :
    (readFields n host path).value = (readFields n host' path').value := by
  rw [value_readFields, value_readFields, same]

/-! ## Both sources -/

theorem value_parse (host : Host) (loadPath uptimePath : String) (values : LoadValues) :
    (parse host loadPath uptimePath).value = values ↔
      (readFields 3 host loadPath).value =
        [values.oneMinute, values.fiveMinute, values.fifteenMinute] ∧
      (readFields 2 host uptimePath).value = [values.uptime, values.idle] := by
  obtain ⟨one, five, fifteen, load⟩ := List.length_eq_three.1 (length_readFields 3 host loadPath)
  obtain ⟨uptime, idle, time⟩ := List.length_eq_two.1 (length_readFields 2 host uptimePath)
  rw [load, time]
  simp only [parse, value_bind, value_pure, load, time]
  obtain ⟨_, _, _, _, _⟩ := values
  simp [and_assoc]

/-- A parse has what the two sources give. -/
theorem value_parse_iff {host : Host} {loadPath uptimePath : String} {values : LoadValues} :
    (parse host loadPath uptimePath).value = values ↔
      Gives 3 (host.files.resolve loadPath)
        [values.oneMinute, values.fiveMinute, values.fifteenMinute] ∧
      Gives 2 (host.files.resolve uptimePath) [values.uptime, values.idle] := by
  rw [value_parse, gives_iff, gives_iff]

/-- The sources degrade to zeros each on its own, and never in part. Whatever their paths lead to,
the five values are the three fields that the one source gives and the two that the other gives:
those of its first tokens as they stand, with zeros for the missing ones, or zeros only, if one of
these tokens is bad or the source is no text that can be read. What follows the tokens that are
looked at makes no difference, and neither does the other source. -/
theorem parse_degrades_per_source (host : Host) (loadPath uptimePath : String) :
    (∀ values, (parse host loadPath uptimePath).value = values ↔
      Gives 3 (host.files.resolve loadPath)
        [values.oneMinute, values.fiveMinute, values.fifteenMinute] ∧
      Gives 2 (host.files.resolve uptimePath) [values.uptime, values.idle]) ∧
    ∀ host' : Host,
      let values := (parse host loadPath uptimePath).value
      let values' := (parse host' loadPath uptimePath).value
      (wanted? 3 host loadPath = wanted? 3 host' loadPath →
        values.oneMinute = values'.oneMinute ∧ values.fiveMinute = values'.fiveMinute ∧
        values.fifteenMinute = values'.fifteenMinute) ∧
      (wanted? 2 host uptimePath = wanted? 2 host' uptimePath →
        values.uptime = values'.uptime ∧ values.idle = values'.idle) := by
  refine ⟨fun values => value_parse_iff, fun host' => ?_⟩
  intro values values'
  refine ⟨fun same => ?_, fun same => ?_⟩
  · have load := readFields_of_wanted? same
    simp only [values, values', parse, value_bind, value_pure, load, and_self]
  · have time := readFields_of_wanted? same
    simp only [values, values', parse, value_bind, value_pure, time, and_self]

/-- A host with nothing on it but the two sources. -/
def twoSources (load uptime : String) : Host where
  now := 0
  files := (FileTree.empty.write "proc/loadavg" load.toUTF8).write "proc/uptime" uptime.toUTF8
  mounts := .empty

/-- With a bad second field the good one before it is lost as well, and the uptime is not. A bad
third token after two fields is not looked at. -/
theorem parse_degrades_per_source_spoiled :
    let parsed (load uptime : String) :=
      (parse (twoSources load uptime) "proc/loadavg" "proc/uptime").value
    parsed "0.20 oops 0.12\n" "12.5\n" = ⟨0.0, 0.0, 0.0, 12.5, 0.0⟩ ∧
    (parsed "0.20 oops 0.12\n" "12.5 3.0 junk\n").idle = (parsed "" "12.5 3.0").idle := by
  have load (load uptime : String) :
      (twoSources load uptime).files.resolve "proc/loadavg" = .ok (.file load.toUTF8) := rfl
  have time (load uptime : String) :
      (twoSources load uptime).files.resolve "proc/uptime" = .ok (.file uptime.toUTF8) := rfl
  have spoiled := parse_degrades_per_source (twoSources "0.20 oops 0.12\n" "12.5\n") "proc/loadavg"
    "proc/uptime"
  have longer := parse_degrades_per_source (twoSources "0.20 oops 0.12\n" "12.5 3.0 junk\n")
    "proc/loadavg" "proc/uptime"
  refine ⟨(spoiled.1 _).2 ⟨?_, ?_⟩, ((longer.2 _).2 (by decide +kernel)).2⟩
  · rw [load]
    have isText : String.fromUTF8? "0.20 oops 0.12\n".toUTF8 = some "0.20 oops 0.12\n" := by
      decide +kernel
    have bad : readFloat "oops".toList = .error .invalid := by decide +kernel
    exact .badField isText (by decide +kernel) bad
  · rw [time]
    have isText : String.fromUTF8? "12.5\n".toUTF8 = some "12.5\n" := by decide +kernel
    have read : ((words "12.5\n".toList).take 2).Forall₂ (fun token x => readFloat token = .ok x)
        [12.5] := .cons (by decide +kernel) .nil
    exact .fields isText read

end HostVitals.LoadAverage
