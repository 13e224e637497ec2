import HostVitals.Collector

/-!
# Runs of refreshes

A run refreshes one collector again and again, each time on the host as it is by then:
with other files, at another instant, or with nothing to read at all.

* `Collector.run`: the state after a run.
* `Collector.found`: what the refreshes of a run find, in order.

`run_keeps` carries an invariant of one refresh over a run, and `view_run` says what a run
does to a part of the state that a refresh changes only by what it finds; `view_run_again` is the
run that finds the same all along.
-/

namespace HostVitals.Collector

variable {κ ρ σ : Type} [Collector κ]

/-- The state after a refresh. -/
def next (c : κ) (host : Host) : κ :=
  (refresh host c).value.state

/-- The state after a run of refreshes. -/
def run (c : κ) (hosts : List Host) : κ :=
  hosts.foldl next c

/-- What the refreshes of a run find, in order. `look` says what a refresh on a host finds
from a state; one that finds nothing leaves no trace. -/
def found (look : Host → κ → Option ρ) : κ → List Host → List ρ
  | _, [] => []
  | c, host :: hosts => (look host c).toList ++ found look (next c host) hosts

@[simp] theorem run_nil (c : κ) : run c [] = c := rfl

@[simp] theorem run_cons (c : κ) (host : Host) (hosts : List Host) :
    run c (host :: hosts) = run (next c host) hosts := rfl

/-- What every refresh keeps, a run keeps. -/
theorem run_keeps {P : κ → Prop} (kept : ∀ c host, P c → P (next c host)) {c : κ} (h : P c)
    (hosts : List Host) : P (run c hosts) := by
  induction hosts generalizing c with
  | nil => exact h
  | cons host hosts ih => exact ih (kept c host h)

/-- Everything found in a run was found by a refresh from a state with the invariant. -/
theorem forall_mem_found {P : κ → Prop} {Q : ρ → Prop} {look : Host → κ → Option ρ}
    (kept : ∀ c host, P c → P (next c host))
    (fits : ∀ c host r, P c → look host c = some r → Q r) {c : κ} (h : P c)
    (hosts : List Host) : ∀ r ∈ found look c hosts, Q r := by
  induction hosts generalizing c with
  | nil => exact fun r mem => absurd mem List.not_mem_nil
  | cons host hosts ih =>
    intro r mem
    rcases List.mem_append.1 mem with now | later
    · exact fits c host r h (Option.mem_toList.1 now)
    · exact ih (kept c host h) r later

/-- A part of the state that a refresh changes only by what it finds is changed by a run
by what the run finds. -/
theorem view_run {P : κ → Prop} (look : Host → κ → Option ρ) (view : κ → Option σ)
    (take : σ → ρ → σ) (kept : ∀ c host, P c → P (next c host))
    (stepwise : ∀ c host, P c →
      view (next c host) = (look host c).elim (view c) fun r => (view c).map (take · r))
    {c : κ} (h : P c) (hosts : List Host) :
    view (run c hosts) = (view c).map fun s => (found look c hosts).foldl take s := by
  induction hosts generalizing c with
  | nil => exact Option.map_id'.symm
  | cons host hosts ih =>
    rw [run_cons, ih (kept c host h), stepwise c host h, found]
    cases look host c with
    | none => rfl
    | some r => exact Option.map_map _ _ _

/-- Where taking a thing twice comes to taking it once, a run that finds the same thing all along
ends as its first refresh. -/
theorem view_run_again {P : κ → Prop} (look : Host → κ → Option ρ) (view : κ → Option σ)
    (take : σ → ρ → σ) (kept : ∀ c host, P c → P (next c host))
    (stepwise : ∀ c host, P c →
      view (next c host) = (look host c).elim (view c) fun r => (view c).map (take · r))
    (settled : ∀ s r, take (take s r) r = take s r) {c : κ} (h : P c) {host : Host}
    {hosts : List Host} (same : ∀ d, P d → ∀ again ∈ hosts, look again d = look host c) :
    view (run c (host :: hosts)) = view (next c host) := by
  have later : ∀ d, P d → view d = view (next c host) →
      view (run d hosts) = view (next c host) := by
    induction hosts with
    | nil => exact fun d _ start => start
    | cons again hosts ih =>
      obtain ⟨now, rest⟩ : (∀ d, P d → look again d = look host c) ∧
          ∀ d, P d → ∀ other ∈ hosts, look other d = look host c :=
        ⟨fun d hd => same d hd again List.mem_cons_self,
          fun d hd other mem => same d hd other (List.mem_cons_of_mem _ mem)⟩
      intro d hd start
      refine ih rest (next d again) (kept d again hd) ?_
      rw [stepwise d again hd, now d hd, start, stepwise c host h]
      cases look host c with
      | none => rfl
      | some r =>
        rw [Option.elim_some, Option.elim_some, Option.map_map]
        exact congrArg (Option.map · (view c)) (funext fun s => settled s r)
  exact later (next c host) (kept c host h) rfl

/-! ## Outcomes -/

theorem toOption_eq_some_iff {α ε : Type} {outcome : Except ε α} {a : α} :
    outcome.toOption = some a ↔ outcome = .ok a := by
  cases outcome <;> simp [Except.toOption]

theorem bind_eq_ok_iff {α β ε : Type} {outcome : Except ε α} {f : α → Except ε β} {b : β} :
    (outcome >>= f) = .ok b ↔ ∃ a, outcome = .ok a ∧ f a = .ok b := by
  cases outcome <;> simp [bind, Except.bind]

/-- A creation that succeeds gives the collector that it holds. -/
theorem eq_ok_getD {α : Type} {outcome : Except CollectorFault α} (fallback : α)
    (succeeds : outcome.toOption.isSome = true) :
    outcome = .ok (outcome.toOption.getD fallback) := by
  cases outcome with
  | error fault => cases succeeds
  | ok c => rfl

end HostVitals.Collector
