import HostVitals.Proofs.LoadAverage.Throttle
import HostVitals.Proofs.Monitor.Operation

/-!
# Starting, stopping and polling a monitor

A monitor is started, shut down and polled by calls from outside, in any order and any number.
The loop is settled after each call, and its period is either zero or longer than all of them
take, so that a running loop makes no pass besides the one with which it starts.

* `Call`, `calls`: the calls, each on the host as it is by then.
* `issued`: the calls with the monitors on which they are made.
* `passHosts`: the hosts on which the collectors are refreshed.

`call_eq` is all that one call does, `Punctual.call` what it keeps, `calls_eq` and
`isRunning_calls` what many calls do, and `calls_account` brings them together.
-/

namespace HostVitals

open Logged

namespace PollLoop

/-- A loop that is settled when it is due makes one pass, whatever its period. -/
theorem settle_of_due {period now : Nat} (pos : 0 < period) :
    settle { period, deadline := now, period_pos := pos } now =
      (1, { period, deadline := now + period, period_pos := pos }) := by
  have next : nextDeadline period now now = now + period := if_neg (by omega)
  have stop : ¬now + period ≤ now := by omega
  rw [settle, countDue, dif_pos (Nat.le_refl now), countDue]
  simp only [next, dif_neg stop]

end PollLoop

/-- Load averages that never stay fresh are parsed in every pass. -/
theorem LoadAverage.parses_run {load : LoadAverage} (never : load.minAge = 0)
    (hosts : List Host) : (Collector.run load hosts).parses = load.parses + hosts.length := by
  induction hosts generalizing load with
  | nil => rfl
  | cons host hosts ih =>
    have stale : load.fresh? host.now = none := by
      rw [fresh?, never]
      cases load.last <;> rfl
    have next : Collector.next load host = (load.read host).value.2 := rfl
    rw [Collector.run_cons, next, (read_of_stale stale).1, ih (by exact never), List.length_cons,
      Nat.add_assoc, Nat.add_comm 1]

/-- Every collector is refreshed once on each host, from its own state. -/
def Instruments.run (i : Instruments) (hosts : List Host) : Instruments where
  load := Collector.run i.load hosts
  memory := i.memory.map (Collector.run · hosts)
  network := i.network.map (Collector.run · hosts)
  disks := i.disks.map (Collector.run · hosts)

theorem Instruments.run_nil (i : Instruments) : i.run [] = i := by
  cases i
  simp [run]

theorem Instruments.run_cons (i : Instruments) (host : Host) (hosts : List Host) :
    i.run (host :: hosts) = (i.poll host).value.run hosts := by
  simp [run, value_poll, Function.comp_def]

namespace Monitor

/-! ## Calls -/

/-- A call from outside. -/
inductive Call where
  | start
  | shutdown
  | poll
  deriving DecidableEq, Repr

def Call.operation : Call → Operation
  | .start => .start
  | .shutdown => .shutdown
  | .poll => .act .poll

/-- The monitor after a call, once its loop has settled. -/
def call (host : Host) (monitor : Monitor) (what : Call) : Monitor :=
  (monitor.operate host what.operation).settle host

/-- The monitor after many calls, each on the host as it is by then. -/
def calls (monitor : Monitor) (made : List (Call × Host)) : Monitor :=
  made.foldl (fun monitor c => monitor.call c.2 c.1) monitor

/-- A call, with the monitor on which it is made. -/
structure Issued where
  monitor : Monitor
  what : Call
  host : Host

def issued (monitor : Monitor) : List (Call × Host) → List Issued
  | [] => []
  | (what, host) :: made => ⟨monitor, what, host⟩ :: issued (monitor.call host what) made

/-- The call starts a monitor that does not run, and succeeds. -/
def Issued.starts (i : Issued) : Bool :=
  i.what == .start && !i.monitor.isRunning && (i.monitor.start i.host).isOk

/-- The call makes the collectors be refreshed. -/
def Issued.refreshes (i : Issued) : Bool :=
  i.starts || i.what == .poll

/-- The hosts of the calls that make the collectors be refreshed. -/
def passHosts (monitor : Monitor) (made : List (Call × Host)) : List Host :=
  ((monitor.issued made).filter Issued.refreshes).map (·.host)

/-- The last call that was not a poll. -/
def lastSwitch? (made : List (Call × Host)) : Option Call :=
  ((made.map (·.1)).filter (· != .poll)).getLast?

theorem calls_cons (monitor : Monitor) (c : Call × Host) (made : List (Call × Host)) :
    monitor.calls (c :: made) = (monitor.call c.2 c.1).calls made := rfl

theorem lastSwitch?_cons (c : Call × Host) (made : List (Call × Host)) :
    lastSwitch? (c :: made) =
      (lastSwitch? made).or (if c.1 = .poll then none else some c.1) := by
  obtain ⟨what, host⟩ := c
  cases what <;> simp [lastSwitch?, List.getLast?_cons, Option.or_some]

/-! ## One call -/

variable {monitor : Monitor} {host : Host}

theorem settle_of_early (early : ∀ loop, monitor.loop = some loop → host.now < loop.deadline) :
    monitor.settle host = monitor := by
  obtain ⟨instruments, bundles, period, loop⟩ := monitor
  cases loop with
  | none => rfl
  | some loop =>
    simp only [settle, PollLoop.run, PollLoop.settle_of_lt (early loop rfl), PollLoop.passes,
      value_bind, value_pure]

theorem loop_of_not_running (ended : monitor.isRunning = false) : monitor.loop = none :=
  Option.isNone_iff_eq_none.1 (by simpa [isRunning] using ended)

theorem start_of_running (running : monitor.isRunning = true) :
    monitor.start host = .ok monitor := by
  obtain ⟨loop, is⟩ := Option.isSome_iff_exists.1 running
  rw [start, is]

theorem start_of_zero (host : Host) (ended : monitor.isRunning = false)
    (zero : monitor.period = 0) :
    monitor.start host = .error .zeroPeriod := by
  have refused : PollLoop.start monitor.period host.now = .error .zeroPeriod := by
    rw [PollLoop.start, dif_neg (by omega)]
  rw [start, loop_of_not_running ended, refused]
  rfl

/-- The loop of a monitor that was started now, after its first pass. -/
def freshLoop (host : Host) (monitor : Monitor) (pos : 0 < monitor.period) : PollLoop where
  period := monitor.period
  deadline := host.now + monitor.period
  period_pos := pos

/-- A start of a monitor that does not run makes one pass, whether or not it is waited for. -/
theorem start_of_pos (host : Host) (ended : monitor.isRunning = false)
    (pos : 0 < monitor.period) :
    ∃ started, monitor.start host = .ok started ∧ started.settle host =
      { monitor with
        instruments := (monitor.instruments.poll host).value
        loop := some (monitor.freshLoop host pos) } := by
  have accepted : PollLoop.start monitor.period host.now =
      .ok { period := monitor.period, deadline := host.now, period_pos := pos } := by
    rw [PollLoop.start, dif_pos pos]
  have first : settle host { monitor with
        loop := some { period := monitor.period, deadline := host.now, period_pos := pos } } =
      { monitor with
        instruments := (monitor.instruments.poll host).value
        loop := some (monitor.freshLoop host pos) } := by
    simp only [settle, PollLoop.run, PollLoop.settle_of_due pos, PollLoop.passes, value_bind,
      value_pure, freshLoop]
  refine ⟨_, by rw [start, loop_of_not_running ended, accepted]; rfl, ?_⟩
  split
  · rw [first]
    refine settle_of_early fun loop is => ?_
    obtain rfl := Option.some.inj is
    exact Nat.lt_add_of_pos_right pos
  · exact first

theorem isRunning_settle (host : Host) (monitor : Monitor) :
    (monitor.settle host).isRunning = monitor.isRunning := by
  unfold settle isRunning
  split
  · rfl
  · next loop running => rw [running]; rfl

/-- A monitor with a period can always be started, and then it runs. One that did not run before
makes a pass. -/
theorem exists_start (pos : 0 < monitor.period) (host : Host) :
    ∃ started, monitor.start host = .ok started ∧ started.isRunning = true ∧
      (monitor.isRunning = false →
        (started.settle host).instruments = (monitor.instruments.poll host).value) := by
  cases running : monitor.isRunning with
  | true => exact ⟨monitor, start_of_running running, running, nofun⟩
  | false =>
    obtain ⟨started, starts, settled⟩ := start_of_pos host running pos
    refine ⟨started, starts, ?_, fun _ => by rw [settled]⟩
    rw [← isRunning_settle host, settled]
    rfl

theorem value_shutdown (monitor : Monitor) :
    monitor.shutdown.value = { monitor with loop := none } := by
  obtain ⟨instruments, bundles, period, loop⟩ := monitor
  cases loop <;> rfl

theorem call_shutdown (monitor : Monitor) (host : Host) :
    monitor.call host .shutdown = { monitor with loop := none } := by
  show settle host monitor.shutdown.value = _
  rw [value_shutdown]
  rfl

theorem call_poll (early : ∀ loop, monitor.loop = some loop → host.now < loop.deadline) :
    monitor.call host .poll =
      { monitor with instruments := (monitor.instruments.poll host).value } :=
  show settle host (monitor.poll host).value = (monitor.poll host).value from settle_of_early early

theorem call_start {started : Monitor} (starts : monitor.start host = .ok started) :
    monitor.call host .start = started.settle host := by
  show settle host (monitor.operate host .start) = _
  rw [operate, starts]

theorem call_start_of_error {fault : IoFault} (refused : monitor.start host = .error fault) :
    monitor.call host .start = monitor.settle host := by
  show settle host (monitor.operate host .start) = _
  rw [operate, refused]

/-- A start makes a pass if the monitor does not run and has a period. -/
theorem refreshes_start (monitor : Monitor) (host : Host) :
    (Issued.mk monitor .start host).refreshes =
      (!monitor.isRunning && decide (0 < monitor.period)) := by
  cases running : monitor.isRunning with
  | true => simp [Issued.refreshes, Issued.starts, running]
  | false =>
    by_cases pos : 0 < monitor.period
    · obtain ⟨started, starts, _⟩ := start_of_pos host running pos
      simp [Issued.refreshes, Issued.starts, running, starts, pos, Except.isOk, Except.toBool]
    · have refused := start_of_zero host running (Nat.eq_zero_of_not_pos pos)
      simp [Issued.refreshes, Issued.starts, running, refused, pos, Except.isOk, Except.toBool]

/-- The loop after a call. -/
def loopAfter (host : Host) (monitor : Monitor) : Call → Option PollLoop
  | .start =>
    monitor.loop.or (if pos : 0 < monitor.period then some (monitor.freshLoop host pos) else none)
  | .shutdown => none
  | .poll => monitor.loop

/-- All that a call does: it may end the loop or start one, and it refreshes every collector once
or not at all. -/
theorem call_eq (early : ∀ loop, monitor.loop = some loop → host.now < loop.deadline)
    (what : Call) :
    monitor.call host what =
      { monitor with
        instruments :=
          monitor.instruments.run (if (Issued.mk monitor what host).refreshes then [host] else [])
        loop := monitor.loopAfter host what } := by
  cases what with
  | shutdown =>
    rw [call_shutdown]
    exact congrArg (fun i => { monitor with instruments := i, loop := none })
      (Instruments.run_nil _).symm
  | poll =>
    rw [call_poll early]
    exact congrArg (fun i => { monitor with instruments := i })
      ((Instruments.run_cons _ host []).trans (Instruments.run_nil _)).symm
  | start =>
    rw [refreshes_start]
    cases running : monitor.isRunning with
    | true =>
      obtain ⟨loop, is⟩ := Option.isSome_iff_exists.1 running
      have same : monitor.loopAfter host .start = monitor.loop := by
        rw [loopAfter, is, Option.some_or]
      rw [call_start (start_of_running running), settle_of_early early, same]
      exact congrArg (fun i => { monitor with instruments := i }) (Instruments.run_nil _).symm
    | false =>
      have idle := loop_of_not_running running
      by_cases pos : 0 < monitor.period
      · obtain ⟨started, starts, settled⟩ := start_of_pos host running pos
        have fresh : monitor.loopAfter host .start = some (monitor.freshLoop host pos) := by
          rw [loopAfter, idle, Option.none_or, dif_pos pos]
        rw [call_start starts, settled, fresh, decide_eq_true pos]
        exact congrArg
          (fun i => { monitor with instruments := i, loop := some (monitor.freshLoop host pos) })
          ((Instruments.run_cons _ host []).trans (Instruments.run_nil _)).symm
      · have refused := start_of_zero host running (Nat.eq_zero_of_not_pos pos)
        have same : monitor.loopAfter host .start = monitor.loop := by
          rw [loopAfter, idle, Option.none_or, dif_neg pos]
        rw [call_start_of_error refused, settle_of_early early, same, decide_eq_false pos]
        exact congrArg (fun i => { monitor with instruments := i }) (Instruments.run_nil _).symm

/-! ## Many calls -/

/-- A loop runs only with a positive period, and no call comes at its next deadline or later. -/
structure Punctual (monitor : Monitor) (made : List (Call × Host)) : Prop where
  positive : monitor.isRunning = true → 0 < monitor.period
  early : ∀ loop, monitor.loop = some loop → ∀ c ∈ made, c.2.now < loop.deadline

/-- The calls take less time than a period, if there is one. -/
def Short (period : Nat) (made : List (Call × Host)) : Prop :=
  period = 0 ∨ made.Pairwise fun a b => b.2.now < a.2.now + period

variable {c : Call × Host} {made : List (Call × Host)}

theorem Short.tail {period : Nat} (short : Short period (c :: made)) : Short period made :=
  short.imp_right fun pairwise => (List.pairwise_cons.1 pairwise).2

theorem Punctual.call_eq (punctual : monitor.Punctual (c :: made)) :
    monitor.call c.2 c.1 =
      { monitor with
        instruments :=
          monitor.instruments.run (if (Issued.mk monitor c.1 c.2).refreshes then [c.2] else [])
        loop := monitor.loopAfter c.2 c.1 } :=
  Monitor.call_eq (fun loop is => punctual.early loop is c List.mem_cons_self) c.1

/-- The loop that a call leaves has its next deadline after all later calls. -/
theorem Punctual.call (punctual : monitor.Punctual (c :: made))
    (short : Short monitor.period (c :: made)) :
    (monitor.call c.2 c.1).Punctual made := by
  obtain ⟨what, host⟩ := c
  have kept : ∀ loop, monitor.loop = some loop → ∀ d ∈ made, d.2.now < loop.deadline :=
    fun loop is d mem => punctual.early loop is d (List.mem_cons_of_mem _ mem)
  rw [punctual.call_eq]
  cases what with
  | shutdown => exact ⟨fun running => (nomatch running), fun loop is => (nomatch is)⟩
  | poll => exact ⟨punctual.positive, kept⟩
  | start =>
    by_cases pos : 0 < monitor.period
    · refine ⟨fun _ => pos, fun loop is => ?_⟩
      cases was : monitor.loop with
      | some old =>
        simp only [loopAfter, was, Option.some_or, Option.some.injEq] at is
        exact is ▸ kept old was
      | none =>
        simp only [loopAfter, was, Option.none_or, pos, dite_true, Option.some.injEq] at is
        subst is
        rcases short with zero | short
        · omega
        · exact (List.pairwise_cons.1 short).1
    · have same : monitor.loopAfter host .start = monitor.loop := by
        rw [loopAfter, dif_neg pos, Option.or_none]
      rw [same]
      exact ⟨punctual.positive, kept⟩

/-- Many calls refresh every collector once for each of them that makes it be refreshed, and leave
namespace and period alone. -/
theorem calls_eq (punctual : monitor.Punctual made) (short : Short monitor.period made) :
    monitor.calls made =
      { monitor with
        instruments := monitor.instruments.run (monitor.passHosts made)
        loop := (monitor.calls made).loop } := by
  induction made generalizing monitor with
  | nil =>
    exact congrArg (fun i => { monitor with instruments := i }) (Instruments.run_nil _).symm
  | cons c made ih =>
    have one := punctual.call_eq
    have later := ih (punctual.call short) (by rw [one]; exact short.tail)
    have hosts : monitor.passHosts (c :: made) =
        (if (Issued.mk monitor c.1 c.2).refreshes then [c.2] else []) ++
          (monitor.call c.2 c.1).passHosts made := by
      simp only [passHosts, issued, List.filter_cons]
      split <;> rfl
    rw [calls_cons, later, hosts]
    generalize (monitor.call c.2 c.1).passHosts made = rest
    rw [one]
    split <;> simp [Instruments.run_nil, Instruments.run_cons]

/-- A monitor runs after many calls if its period is not zero and the last of them that was not a
poll was a start. -/
theorem isRunning_calls (punctual : monitor.Punctual made) (short : Short monitor.period made) :
    (monitor.calls made).isRunning =
      (lastSwitch? made).elim monitor.isRunning fun what =>
        what == .start && decide (0 < monitor.period) := by
  induction made generalizing monitor with
  | nil => rfl
  | cons c made ih =>
    have one := punctual.call_eq
    have later := ih (punctual.call short) (by rw [one]; exact short.tail)
    rw [calls_cons, later, lastSwitch?_cons, one]
    cases lastSwitch? made with
    | some what => rfl
    | none =>
      obtain ⟨what, host⟩ := c
      cases what with
      | poll => rfl
      | shutdown => rfl
      | start =>
        show (monitor.loopAfter host .start).isSome = decide (0 < monitor.period)
        by_cases pos : 0 < monitor.period
        · rw [loopAfter, dif_pos pos, Option.isSome_or, decide_eq_true pos]
          exact Bool.or_true _
        · have ended : monitor.isRunning = false :=
            Bool.eq_false_iff.2 fun running => pos (punctual.positive running)
          rw [loopAfter, dif_neg pos, Option.or_none, decide_eq_false pos]
          exact ended

/-- Passes are made by the starts of monitors that do not run and by the polls. -/
theorem length_passHosts (monitor : Monitor) (made : List (Call × Host)) :
    (monitor.passHosts made).length =
      (monitor.issued made).countP Issued.starts + (made.map (·.1)).count .poll := by
  induction made generalizing monitor with
  | nil => rfl
  | cons c made ih =>
    obtain ⟨what, host⟩ := c
    have rest := ih (monitor.call host what)
    simp only [passHosts, List.length_map, ← List.countP_eq_length_filter, issued,
      List.countP_cons, List.map_cons, List.count_cons] at rest ⊢
    rw [rest]
    -- A start is not a poll, so no call counts twice.
    cases what with
    | start => simp [Issued.refreshes]; omega
    | shutdown => simp [Issued.refreshes, Issued.starts]
    | poll => simp [Issued.refreshes, Issued.starts]; omega

theorem punctual_of_ended (ended : monitor.loop = none) (made : List (Call × Host)) :
    monitor.Punctual made where
  positive running := by simp [isRunning, ended] at running
  early loop is := by simp [ended] at is

theorem Punctual.calls {earlier later : List (Call × Host)}
    (punctual : monitor.Punctual (earlier ++ later))
    (short : Short monitor.period (earlier ++ later)) :
    (monitor.calls earlier).Punctual later := by
  induction earlier generalizing monitor with
  | nil => exact punctual
  | cons c earlier ih =>
    have same : (monitor.call c.2 c.1).period = monitor.period := by rw [punctual.call_eq]
    exact ih (punctual.call short) (same ▸ short.tail)

/-- Building a monitor and starting it is the first call. -/
theorem settle_launch (host : Host) (config : MonitorConfig) :
    (launch host config).value.settle host = (build host config).value.call host .start := by
  show _ = settle host (operate host (build host config).value .start)
  rw [launch, value_bind, operate]
  cases (build host config).value.start host <;> rfl

theorem period_build (host : Host) (config : MonitorConfig) :
    (build host config).value.period = config.period := by
  rw [value_build]

theorem loop_build (host : Host) (config : MonitorConfig) :
    (build host config).value.loop = none := by
  rw [value_build]

/-- A monitor with a period is running when it is launched. -/
theorem isRunning_launch (pos : 0 < config.period) (host : Host) :
    (launch host config).value.isRunning = true := by
  obtain ⟨started, starts, runs, _⟩ := exists_start (period_build host config ▸ pos) host
  rw [launch, Logged.value_bind, starts]
  exact runs

theorem load_build (host : Host) (config : MonitorConfig) :
    (build host config).value.instruments.load.minAge = config.loadMinAge ∧
      (build host config).value.instruments.load.parses = 0 := by
  rw [value_build, LoadAverage.value_create]
  exact ⟨rfl, rfl⟩

/-- The life of a monitor. Whatever calls are made, it runs after them if its period is not zero and
the last of them that was not a poll was a start. Its collectors have been refreshed once for each
poll and for each start that succeeded while it did not run, each from its own state. A start while
it runs changes nothing. With a period of zero every start is refused and changes nothing. To shut
it down again does nothing more, and a later start polls from the state that was kept. No call
changes the namespace. A monitor that is started as soon as it is built goes on from a first call
of that kind. -/
theorem calls_account (first : Host) (config : MonitorConfig) {made : List (Call × Host)}
    (short : Short config.period made) :
    let built := (build first config).value
    let after := built.calls made
    let passes := built.passHosts made
    let ended := after.shutdown.value
    (after.isRunning = true ↔ 0 < config.period ∧ lastSwitch? made = some .start) ∧
    (after.instruments = built.instruments.run passes ∧
      passes.length =
        (built.issued made).countP Issued.starts + (made.map (·.1)).count .poll ∧
      (config.loadMinAge = 0 → after.instruments.load.parses = passes.length)) ∧
    (∀ earlier host later, made = earlier ++ (.start, host) :: later →
      (built.calls earlier).isRunning = true →
        (built.calls earlier).start host = .ok (built.calls earlier) ∧
        (built.calls earlier).call host .start = built.calls earlier) ∧
    (config.period = 0 → ∀ host,
      after.start host = .error .zeroPeriod ∧ after.call host .start = after) ∧
    (ended.isRunning = false ∧ ended.shutdown = pure ended ∧
      ended.instruments = after.instruments ∧
      (0 < config.period → ∀ host,
        (ended.call host .start).instruments = (after.instruments.poll host).value)) ∧
    (after.bundles = built.bundles ∧ after.metrics = built.metrics) ∧
    ((launch first config).value.settle first).calls made =
      built.calls ((.start, first) :: made) := by
  intro built after passes ended
  have period : built.period = config.period := period_build first config
  have punctual : built.Punctual made := punctual_of_ended (loop_build first config) made
  rw [← period] at short
  have whole : after = { built with
      instruments := built.instruments.run passes, loop := after.loop } := calls_eq punctual short
  have running : after.isRunning = (lastSwitch? made).elim built.isRunning fun what =>
    what == .start && decide (0 < built.period) := isRunning_calls punctual short
  have samePeriod : after.period = config.period := by rw [whole, period]
  have sameBundles : after.bundles = built.bundles := by rw [whole]
  have atRest : ended = { after with loop := none } := value_shutdown after
  refine ⟨?_, ⟨by rw [whole], length_passHosts built made, fun never => ?_⟩, ?_,
    fun zero host => ?_, ⟨?_, ?_, by rw [atRest], fun pos host => ?_⟩,
    ⟨sameBundles, by rw [metrics, metrics, sameBundles]⟩, ?_⟩
  · rw [running, isRunning, loop_build, period]
    cases lastSwitch? made <;> simp [and_comm]
  · obtain ⟨minAge, parses⟩ := load_build first config
    have counted := LoadAverage.parses_run (minAge.trans never) passes
    rw [whole, ← Nat.zero_add passes.length, ← parses]
    exact counted
  · rintro earlier host later rfl runs
    have early := (punctual.calls short).early
    exact ⟨start_of_running runs, by
      rw [call_start (start_of_running runs), settle_of_early fun loop is =>
        early loop is _ List.mem_cons_self]⟩
  · have rests : after.isRunning = false := by
      rw [running, isRunning, loop_build, period, zero]
      cases lastSwitch? made <;> simp
    have refused := start_of_zero host rests (samePeriod.trans zero)
    have idle := loop_of_not_running rests
    exact ⟨refused, by
      rw [call_start_of_error refused, settle_of_early fun loop is => by simp [idle] at is]⟩
  · rw [atRest]
    rfl
  · rw [atRest]
    rfl
  · rw [atRest]
    have stopped : ({ after with loop := none } : Monitor).isRunning = false := rfl
    obtain ⟨started, starts, settled⟩ := start_of_pos host stopped (by rw [samePeriod]; exact pos)
    rw [call_start starts, settled]
  · rw [settle_launch]
    rfl

/-- A monitor that is polled every minute, and parses its load averages in every pass. -/
def minutely : MonitorConfig :=
  { watched with period := 60 * second, loadMinAge := 0 }

/-- A start, a second one, a poll, two shutdowns and another start within ten seconds. -/
def lifeCalls : List (Call × Host) :=
  [(.start, memoryHost 0 "eth0: 5 1\n" ""), (.start, memoryHost (2 * second) "eth0: 6 1\n" ""),
    (.poll, memoryHost (4 * second) "eth0: 8 1\n" ""),
    (.shutdown, memoryHost (6 * second) "eth0: 9 1\n" ""),
    (.shutdown, memoryHost (7 * second) "eth0: 9 1\n" ""),
    (.start, memoryHost (10 * second) "eth0: 9 1\n" "")]

/-- Two of the starts make a pass, and so does the poll. Shut down once more, the monitor goes on
from where it was. -/
theorem calls_account_restart :
    let built := (build (memoryHost 0 "eth0: 3 1\n" "") minutely).value
    let after := built.calls lifeCalls
    after.isRunning = true ∧ (built.passHosts lifeCalls).length = 3 ∧
    after.instruments.load.parses = 3 ∧
    (after.shutdown.value.call (memoryHost (11 * second) "eth0: 12 1\n" "") .start).instruments =
      (after.instruments.poll (memoryHost (11 * second) "eth0: 12 1\n" "")).value := by
  have short : Short minutely.period lifeCalls := .inr (by decide +kernel)
  obtain ⟨running, ⟨_, passes, parses⟩, _, _, ⟨_, _, _, again⟩, _⟩ :=
    calls_account (memoryHost 0 "eth0: 3 1\n" "") minutely short
  rw [passes] at parses
  exact ⟨running.2 ⟨by decide, by decide⟩, passes.trans (by decide +kernel),
    (parses rfl).trans (by decide +kernel), again (by decide) _⟩

end Monitor

end HostVitals
