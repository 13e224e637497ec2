import HostVitals.Proofs.Monitor.Isolation

/-!
# The life of a monitor

What is done with a monitor after it was built: it is polled and read, and its loop is started,
settled and ended. None of this adds a metric or takes one away, or changes how often it polls.

* `Operation`, `operate`, `operations`: one thing that is done with a monitor, and many.

`bundles_operate` and `metrics_operate` say that the namespace stays as it was built, and
`period_operations` that the period does.
-/

namespace HostVitals.Monitor

/-- Something that is done with a monitor in the course of its life. -/
inductive Operation where
  | act (what : Act)
  | start
  | settle
  | shutdown
  deriving DecidableEq, Repr

/-- The monitor after an operation. One whose loop cannot be started is left as it is. -/
def operate (host : Host) (monitor : Monitor) : Operation → Monitor
  | .act what => monitor.act host what
  | .start =>
    match monitor.start host with
    | .ok started => started
    | .error _ => monitor
  | .settle => monitor.settle host
  | .shutdown => monitor.shutdown.value

/-- The monitor after many operations, each on the host as it is by then. -/
def operations (monitor : Monitor) (done : List (Operation × Host)) : Monitor :=
  done.foldl (fun monitor d => monitor.operate d.2 d.1) monitor

variable (host : Host) (monitor : Monitor)

theorem fixed_act (what : Act) :
    (monitor.act host what).bundles = monitor.bundles ∧
      (monitor.act host what).period = monitor.period := by
  cases what with
  | poll => exact ⟨rfl, rfl⟩
  | read how key name =>
    simp only [act]
    split
    · exact ⟨rfl, rfl⟩
    · cases how <;> exact ⟨rfl, rfl⟩

theorem fixed_settle :
    (monitor.settle host).bundles = monitor.bundles ∧
      (monitor.settle host).period = monitor.period := by
  unfold settle
  split <;> exact ⟨rfl, rfl⟩

theorem fixed_start {started : Monitor} (starts : monitor.start host = .ok started) :
    started.bundles = monitor.bundles ∧ started.period = monitor.period := by
  unfold start at starts
  split at starts
  · cases starts
    exact ⟨rfl, rfl⟩
  · cases loop : PollLoop.start monitor.period host.now with
    | error fault =>
      rw [loop] at starts
      cases starts
    | ok loop' =>
      rw [loop] at starts
      cases starts
      split
      · exact fixed_settle host _
      · exact ⟨rfl, rfl⟩

/-- No operation changes the namespace or the period. -/
theorem fixed_operate (operation : Operation) :
    (monitor.operate host operation).bundles = monitor.bundles ∧
      (monitor.operate host operation).period = monitor.period := by
  cases operation with
  | act what => exact fixed_act host monitor what
  | start =>
    simp only [operate]
    split
    · next started starts => exact fixed_start host monitor starts
    · exact ⟨rfl, rfl⟩
  | settle => exact fixed_settle host monitor
  | shutdown =>
    simp only [operate, shutdown]
    split <;> exact ⟨rfl, rfl⟩

theorem bundles_operate (operation : Operation) :
    (monitor.operate host operation).bundles = monitor.bundles :=
  (fixed_operate host monitor operation).1

/-- No operation changes what is published. -/
theorem metrics_operate (operation : Operation) :
    (monitor.operate host operation).metrics = monitor.metrics := by
  rw [metrics, metrics, bundles_operate]

/-- A monitor keeps its period for life. -/
theorem period_operations (done : List (Operation × Host)) :
    (monitor.operations done).period = monitor.period := by
  induction done generalizing monitor with
  | nil => rfl
  | cons d done ih => exact (ih _).trans (fixed_operate d.2 monitor d.1).2

end HostVitals.Monitor
