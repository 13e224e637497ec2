import HostVitals.Proofs.LoadAverage.Fields

/-!
# How often the load sources are parsed

The load averages are read from many sides: as values, by any of their gauges, and by the poll
loop. All of them share one parse of the two sources, which is used until it has reached the
minimum age.

* `Reading`, `Answer`: the ways to read, and what they give.
* `Session`: load averages on a host whose clock moves and whose files change, with the hosts on
  which the sources were parsed.
* `Coherent`: what is kept belongs to the latest of these hosts, and they lie a minimum age apart.

`Coherent.step` and `Coherent.run` carry this invariant through a session,
`length_le_of_apart` counts the parses that fit into a time, and `reads_throttled` says when a
reading parses, what it gives, and how many parses there are.
-/

namespace HostVitals.LoadAverage

open Logged
open Text (join)

/-! ## Sessions -/

/-- A way to read the load averages. -/
inductive Reading where
  | values
  | gauge (gauge : LoadGauge)
  | refresh
  deriving DecidableEq, Repr

inductive Answer where
  | values (values : LoadValues)
  | gauge (value : Float)
  | refreshed (fault? : Option CollectorFault)

/-- What a reading gives of one parse. A refresh shows nothing of it, and never fails. -/
def Reading.of (values : LoadValues) : Reading → Answer
  | .values => .values values
  | .gauge .oneMinute => .gauge values.oneMinute
  | .gauge .fiveMinute => .gauge values.fiveMinute
  | .gauge .fifteenMinute => .gauge values.fifteenMinute
  | .gauge .uptime => .gauge values.uptime
  | .gauge .idle => .gauge values.idle
  | .refresh => .refreshed none

def answer (host : Host) (load : LoadAverage) : Reading → Logged (Answer × LoadAverage)
  | .values => do
    let (values, load) ← load.read host
    return (.values values, load)
  | .gauge gauge => do
    let (values, load) ← load.read host
    return (.gauge (gauge.pick values), load)
  | .refresh => do
    let outcome ← Collector.refresh host load
    return (.refreshed outcome.fault?, outcome.state)

def isParse : Event → Bool
  | .loadSourcesParsed _ => true
  | _ => false

/-- The sources were parsed on the way. -/
def parsesSources {α : Type} (computation : Logged α) : Bool :=
  computation.events.any isParse

/-- Something that happens in a session. -/
inductive Step where
  | advance (time : Nat)
  | change (files : FileTree)
  | read (reading : Reading)

/-- Load averages on a host. -/
structure Session where
  host : Host
  load : LoadAverage
  /-- The hosts on which the sources were parsed, the latest first. -/
  parsed : List Host

namespace Session

def start (host : Host) (procRoot : String) (minAge : Nat) : Session where
  host := host
  load := (create host procRoot minAge).value
  parsed := []

def step (s : Session) : Step → Session
  | .advance time => { s with host := { s.host with now := s.host.now + time } }
  | .change files => { s with host := { s.host with files } }
  | .read reading =>
    let answered := s.load.answer s.host reading
    { s with
      load := answered.value.2
      parsed := if parsesSources answered then s.host :: s.parsed else s.parsed }

def run (s : Session) (steps : List Step) : Session :=
  steps.foldl step s

end Session

/-! ## One reading -/

/-- Every reading goes through the one shared parse. -/
theorem value_answer (host : Host) (load : LoadAverage) (reading : Reading) :
    (load.answer host reading).value =
      (reading.of (load.read host).value.1, (load.read host).value.2) := by
  cases reading with
  | values | refresh => rfl
  | gauge gauge => cases gauge <;> rfl

theorem events_answer (host : Host) (load : LoadAverage) (reading : Reading) :
    (load.answer host reading).events = (load.read host).events := by
  cases reading with
  | refresh => simp [answer, Collector.refresh]
  | values => simp [answer]
  | gauge gauge => simp [answer]

theorem read_of_fresh {load : LoadAverage} {host : Host} {values : LoadValues}
    (fresh : load.fresh? host.now = some values) : load.read host = pure (values, load) := by
  rw [read, fresh]

theorem read_of_stale {load : LoadAverage} {host : Host} (stale : load.fresh? host.now = none) :
    let values := (parse host load.loadPath load.uptimePath).value
    (load.read host).value =
      (values, { load with last := some (host.now, values), parses := load.parses + 1 }) ∧
    parsesSources (load.read host) = true := by
  rw [read, stale]
  refine ⟨rfl, ?_⟩
  simp [parsesSources, isParse]

/-- A refresh never fails. -/
theorem refresh_fault?_eq_none (host : Host) (load : LoadAverage) :
    (Collector.refresh host load).value.fault? = none := rfl

/-! ## The invariant -/

/-- What a host gives when the sources below a directory are parsed. -/
def parsedOn (procRoot : String) (host : Host) : LoadValues :=
  (parse host (join procRoot "loadavg") (join procRoot "uptime")).value

/-- What is kept is the parse of the latest host on which the sources were parsed; all these
hosts are counted, and any two of them lie a minimum age apart. -/
structure Coherent (procRoot : String) (minAge : Nat) (s : Session) : Prop where
  loadPath : s.load.loadPath = join procRoot "loadavg"
  uptimePath : s.load.uptimePath = join procRoot "uptime"
  age : s.load.minAge = minAge
  last : s.load.last = s.parsed.head?.map fun host => (host.now, parsedOn procRoot host)
  counted : s.load.parses = s.parsed.length
  apart : s.parsed.Pairwise fun later earlier => earlier.now + minAge ≤ later.now
  past : ∀ host ∈ s.parsed, host.now ≤ s.host.now

/-- The latest parse has reached the minimum age, or there is none. -/
def Due (minAge : Nat) (s : Session) : Prop :=
  s.parsed = [] ∨
    ∃ latest earlier, s.parsed = latest :: earlier ∧ latest.now + minAge ≤ s.host.now

namespace Coherent

variable {procRoot : String} {minAge : Nat} {s : Session}

theorem start (host : Host) (procRoot : String) (minAge : Nat) :
    Coherent procRoot minAge (.start host procRoot minAge) := by
  rw [Session.start, value_create]
  exact {
    loadPath := rfl
    uptimePath := rfl
    age := rfl
    last := rfl
    counted := rfl
    apart := .nil
    past := fun _ mem => absurd mem List.not_mem_nil }

theorem fresh?_of_lt (h : Coherent procRoot minAge s) {latest : Host} {earlier : List Host}
    (parsed : s.parsed = latest :: earlier) (young : s.host.now < latest.now + minAge) :
    s.load.fresh? s.host.now = some (parsedOn procRoot latest) := by
  have past : latest.now ≤ s.host.now := h.past latest (parsed ▸ List.mem_cons_self)
  have last := h.last
  rw [parsed, List.head?_cons, Option.map_some] at last
  rw [fresh?, last, h.age]
  exact if_pos (by omega)

theorem fresh?_of_due (h : Coherent procRoot minAge s) (due : Due minAge s) :
    s.load.fresh? s.host.now = none := by
  have last := h.last
  rcases due with none | ⟨latest, earlier, parsed, old⟩
  · rw [none, List.head?_nil, Option.map_none] at last
    rw [fresh?, last]
  · rw [parsed, List.head?_cons, Option.map_some] at last
    rw [fresh?, last, h.age]
    exact if_neg (by omega)

theorem young_of_not_due (h : ¬Due minAge s) :
    ∃ latest earlier, s.parsed = latest :: earlier ∧ s.host.now < latest.now + minAge := by
  cases parsed : s.parsed with
  | nil => exact absurd (.inl parsed) h
  | cons latest earlier =>
    refine ⟨latest, earlier, rfl, Nat.lt_of_not_le fun old => h (.inr ?_)⟩
    exact ⟨latest, earlier, parsed, old⟩

theorem not_due_of_lt {latest : Host} {earlier : List Host} (parsed : s.parsed = latest :: earlier)
    (young : s.host.now < latest.now + minAge) : ¬Due minAge s := by
  rintro (none | ⟨other, _, split, old⟩)
  · rw [none] at parsed
    cases parsed
  · rw [parsed, List.cons.injEq] at split
    obtain ⟨rfl, _⟩ := split
    omega

/-- A parse is due by its age. -/
theorem due_iff (h : Coherent procRoot minAge s) :
    Due minAge s ↔ s.parsed = [] ∨
      ∃ latest earlier, s.parsed = latest :: earlier ∧ minAge ≤ s.host.now - latest.now := by
  refine or_congr_right (exists_congr fun latest => exists_congr fun earlier =>
    and_congr_right fun parsed => ?_)
  have past : latest.now ≤ s.host.now := h.past latest (parsed ▸ List.mem_cons_self)
  omega

/-- What a reading does: it parses the sources of its host if that is due, and else uses the
latest parse. -/
theorem step_read (h : Coherent procRoot minAge s) (reading : Reading) :
    (Due minAge s ∧ parsesSources (s.load.answer s.host reading) = true ∧
      (s.load.answer s.host reading).value.1 = reading.of (parsedOn procRoot s.host) ∧
      s.step (.read reading) =
        { s with
          load := { s.load with
            last := some (s.host.now, parsedOn procRoot s.host)
            parses := s.load.parses + 1 }
          parsed := s.host :: s.parsed }) ∨
    ∃ latest earlier, s.parsed = latest :: earlier ∧ s.host.now < latest.now + minAge ∧
      parsesSources (s.load.answer s.host reading) = false ∧
      (s.load.answer s.host reading).value.1 = reading.of (parsedOn procRoot latest) ∧
      s.step (.read reading) = s := by
  by_cases due : Due minAge s
  · obtain ⟨value, parses⟩ := read_of_stale (h.fresh?_of_due due)
    have answered : parsesSources (s.load.answer s.host reading) = true := by
      rw [parsesSources, events_answer]
      exact parses
    have sources : (parse s.host s.load.loadPath s.load.uptimePath).value =
        parsedOn procRoot s.host := by
      rw [h.loadPath, h.uptimePath]
      rfl
    rw [sources] at value
    refine .inl ⟨due, answered, ?_, ?_⟩
    · rw [value_answer, value]
    · rw [Session.step, answered, if_pos rfl, value_answer, value]
  · obtain ⟨latest, earlier, parsed, young⟩ := young_of_not_due due
    have read := read_of_fresh (h.fresh?_of_lt parsed young)
    have answered : parsesSources (s.load.answer s.host reading) = false := by
      rw [parsesSources, events_answer, read]
      rfl
    refine .inr ⟨latest, earlier, parsed, young, answered, ?_, ?_⟩
    · rw [value_answer, read]
      rfl
    · rw [Session.step, answered, if_neg Bool.false_ne_true, value_answer, read]
      rfl

theorem step (h : Coherent procRoot minAge s) (step : Step) :
    Coherent procRoot minAge (s.step step) := by
  cases step with
  | advance time =>
    exact { h with past := fun host mem => Nat.le_add_right_of_le (h.past host mem) }
  | change files => exact { h with }
  | read reading =>
    obtain ⟨due, _, _, after⟩ | ⟨_, _, _, _, _, _, after⟩ := h.step_read reading
    · rw [after]
      exact {
        h with
        last := rfl
        counted := congrArg (· + 1) h.counted
        apart := by
          refine List.pairwise_cons.2 ⟨fun host mem => ?_, h.apart⟩
          -- The due reading lies a minimum age after the latest parse, which is after the others.
          rcases due with none | ⟨latest, earlier, parsed, old⟩
          · rw [none] at mem
            cases mem
          · have apart := h.apart
            rw [parsed] at mem apart
            rcases List.mem_cons.1 mem with rfl | before
            · exact old
            · have := (List.pairwise_cons.1 apart).1 host before
              omega
        past := fun host mem => by
          rcases List.mem_cons.1 mem with rfl | before
          · exact Nat.le_refl _
          · exact h.past host before }
    · rw [after]
      exact h

theorem run (h : Coherent procRoot minAge s) (steps : List Step) :
    Coherent procRoot minAge (s.run steps) := by
  induction steps generalizing s with
  | nil => exact h
  | cons first rest ih => exact ih (h.step first)

end Coherent

/-! ## The number of parses -/

/-- Of hosts that lie a minimum age apart no more fit into a time than minimum ages and one. -/
theorem length_le_of_apart {minAge : Nat} (pos : 0 < minAge) {hosts : List Host}
    (apart : hosts.Pairwise fun later earlier => earlier.now + minAge ≤ later.now)
    {first last : Nat} (within : ∀ host ∈ hosts, first ≤ host.now ∧ host.now ≤ last) :
    hosts.length ≤ 1 + (last - first) / minAge := by
  -- Every host before the latest takes a minimum age.
  have reach : ∀ latest earlier, hosts = latest :: earlier →
      first + earlier.length * minAge ≤ latest.now := by
    intro latest earlier split
    subst split
    induction earlier generalizing latest with
    | nil => simpa using (within latest List.mem_cons_self).1
    | cons next earlier ih =>
      obtain ⟨after, apart⟩ := List.pairwise_cons.1 apart
      have := ih next apart fun host mem => within host (List.mem_cons_of_mem _ mem)
      have := after next List.mem_cons_self
      rw [List.length_cons, Nat.add_mul]
      omega
  cases split : hosts with
  | nil => exact Nat.zero_le _
  | cons latest earlier =>
    have := reach latest earlier split
    have := (within latest (split ▸ List.mem_cons_self)).2
    have fits : earlier.length ≤ (last - first) / minAge :=
      (Nat.le_div_iff_mul_le pos).2 (by omega)
    rw [List.length_cons]
    omega

/-- Reading the load averages is throttled and coherent. In any session that starts with
unread load averages, a reading parses the sources if nothing was parsed before or the latest
parse has reached the minimum age, and only then does it change anything. It gives what it shows
of the values that both sources give on the host of the latest parse, which is its own host or
less than the minimum age old. The parses are counted, any two of them lie a minimum age apart,
and so no more fit into a time than minimum ages and one. A refresh never fails. -/
theorem reads_throttled (host : Host) (procRoot : String) (minAge : Nat) (steps : List Step) :
    let s := (Session.start host procRoot minAge).run steps
    s.load.parses = s.parsed.length ∧
    (s.parsed.Pairwise fun later earlier => earlier.now + minAge ≤ later.now) ∧
    (∀ parse ∈ s.parsed, parse.now ≤ s.host.now) ∧
    (0 < minAge → ∀ first last, (∀ parse ∈ s.parsed, first ≤ parse.now ∧ parse.now ≤ last) →
      s.parsed.length ≤ 1 + (last - first) / minAge) ∧
    (Collector.refresh s.host s.load).value.fault? = none ∧
    ∀ reading,
      let answered := s.load.answer s.host reading
      let next := s.step (.read reading)
      let due := s.parsed = [] ∨ ∃ latest earlier, s.parsed = latest :: earlier ∧
        minAge ≤ s.host.now - latest.now
      (parsesSources answered = true ↔ due) ∧
      (due → next.parsed = s.host :: s.parsed ∧ next.load.parses = s.load.parses + 1) ∧
      (¬due → next = s) ∧
      ∃ latest earlier values, next.parsed = latest :: earlier ∧
        (latest = s.host ∨ s.host.now - latest.now < minAge) ∧
        Gives 3 (latest.files.resolve (join procRoot "loadavg"))
          [values.oneMinute, values.fiveMinute, values.fifteenMinute] ∧
        Gives 2 (latest.files.resolve (join procRoot "uptime")) [values.uptime, values.idle] ∧
        answered.value.1 = reading.of values := by
  intro s
  have coherent : Coherent procRoot minAge s := (Coherent.start host procRoot minAge).run steps
  refine ⟨coherent.counted, coherent.apart, coherent.past, fun pos first last within =>
    length_le_of_apart pos coherent.apart within, refresh_fault?_eq_none s.host s.load,
    fun reading => ?_⟩
  intro answered next due
  obtain ⟨old, parses, value, after⟩ | ⟨latest, earlier, parsed, young, parses, value, after⟩ :=
    coherent.step_read reading
  · have isDue : due := coherent.due_iff.1 old
    obtain ⟨load, time⟩ := value_parse_iff.1 (rfl : parsedOn procRoot s.host = _)
    exact ⟨iff_of_true parses isDue, fun _ => ⟨congrArg Session.parsed after,
      congrArg (·.load.parses) after⟩, fun notDue => absurd isDue notDue, s.host, s.parsed, _,
      congrArg Session.parsed after, .inl rfl, load, time, value⟩
  · have notDue : ¬due := mt coherent.due_iff.2 (Coherent.not_due_of_lt parsed young)
    have past : latest.now ≤ s.host.now := coherent.past latest (parsed ▸ List.mem_cons_self)
    obtain ⟨load, time⟩ := value_parse_iff.1 (rfl : parsedOn procRoot latest = _)
    exact ⟨iff_of_false (Bool.eq_false_iff.1 parses) notDue, fun isDue => absurd isDue notDue,
      fun _ => after, latest, earlier, _, (congrArg Session.parsed after).trans parsed,
      .inr (by omega), load, time, value⟩

/-- A host at the start of the clock, where both sources are there. -/
def loadHost : Host where
  now := 0
  files :=
    (FileTree.empty.write "proc/loadavg" "0.5 1 2\n".toUTF8).write "proc/uptime" "9 8\n".toUTF8
  mounts := .empty

/-- A reading just before the minimum age, when the sources are gone already, and one just at
it. -/
def loadSteps : List Step :=
  [.read .values, .advance 9, .change .empty, .read (.gauge .uptime), .advance 1, .read .refresh]

/-- The second reading shows what the first one parsed, and the third parses again, when nothing is
there. -/
theorem reads_throttled_at_minAge :
    let early := (Session.start loadHost "proc" 10).run (loadSteps.take 3)
    let late := (Session.start loadHost "proc" 10).run loadSteps
    parsesSources (early.load.answer early.host (.gauge .uptime)) = false ∧
    (early.load.answer early.host (.gauge .uptime)).value.1 = .gauge 9.0 ∧
    (early.load.answer early.host .values).value.1 = .values ⟨0.5, 1.0, 2.0, 9.0, 8.0⟩ ∧
    (late.load.answer late.host .values).value.1 = .values ⟨0.0, 0.0, 0.0, 0.0, 0.0⟩ ∧
    late.load.parses = 2 ∧ 0 < 10 ∧
    (∀ parse ∈ late.parsed, 0 ≤ parse.now ∧ parse.now ≤ 10) ∧
    late.parsed.length ≤ 1 + (10 - 0) / 10 := by
  intro early late
  obtain ⟨_, _, _, _, _, shown⟩ := reads_throttled loadHost "proc" 10 (loadSteps.take 3)
  obtain ⟨counted, _, _, few, _, shownLate⟩ := reads_throttled loadHost "proc" 10 loadSteps
  have earlyValues (reading : Reading) : (early.load.answer early.host reading).value.1 =
      reading.of ⟨0.5, 1.0, 2.0, 9.0, 8.0⟩ := by
    obtain ⟨_, _, _, latest, _, values, parsed, _, load, time, value⟩ := shown reading
    have first : (early.step (.read reading)).parsed = [loadHost] := by
      cases reading with
      | values | refresh => rfl
      | gauge gauge => cases gauge <;> rfl
    obtain ⟨rfl, _⟩ := List.cons.inj (first.symm.trans parsed)
    have given := value_parse_iff.2 ⟨load, time⟩
    have read : (parse loadHost (join "proc" "loadavg") (join "proc" "uptime")).value =
        ⟨0.5, 1.0, 2.0, 9.0, 8.0⟩ := by decide +kernel
    rw [value, ← given, read]
  have within : ∀ parse ∈ late.parsed, 0 ≤ parse.now ∧ parse.now ≤ 10 := by decide +kernel
  have two : late.parsed.length = 2 := by decide +kernel
  have unread : parsesSources (early.load.answer early.host (.gauge .uptime)) = false := by
    decide +kernel
  have gone : (late.load.answer late.host .values).value.1 =
      .values ⟨0.0, 0.0, 0.0, 0.0, 0.0⟩ := by
    obtain ⟨_, _, _, latest, _, values, parsed, _, load, time, value⟩ := shownLate .values
    have second : (late.step (.read .values)).parsed =
        [⟨10, .empty, .empty⟩, loadHost] := rfl
    obtain ⟨rfl, _⟩ := List.cons.inj (second.symm.trans parsed)
    have given := value_parse_iff.2 ⟨load, time⟩
    have read : (parse ⟨10, .empty, .empty⟩ (join "proc" "loadavg") (join "proc" "uptime")).value =
        ⟨0.0, 0.0, 0.0, 0.0, 0.0⟩ := by decide +kernel
    rw [value, ← given, read]
    rfl
  exact ⟨unread, earlyValues _, earlyValues _, gone, counted.trans two, by decide, within,
    few (by decide) 0 10 within⟩

end HostVitals.LoadAverage
