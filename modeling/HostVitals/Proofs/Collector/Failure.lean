import HostVitals.BlockDevice.Devices
import HostVitals.Proofs.Network.Accounting
import HostVitals.Proofs.Network.Grammar

/-!
# Refreshes that fail

A refresh of the interfaces or of the block devices reads its whole source before it marks
anything, so one that fails leaves no trace, whatever it has already read.

* `Collector.Inert`: a failed refresh does nothing but report its fault.
* `Collector.AllFail`: every refresh of a run fails.

`run_skip` carries this over to runs; `failed_refreshes_change_nothing` also says exactly when
a refresh fails, and with which fault.
-/

namespace HostVitals

open Text Network

namespace Collector

variable {κ : Type} [Collector κ]

/-- A refresh that fails leaves the collector as it was, and logs nothing by itself. -/
def Inert (κ : Type) [Collector κ] : Prop :=
  ∀ (c : κ) (host : Host) (fault : CollectorFault), (refresh host c).value.fault? = some fault →
    refresh host c = pure ⟨c, some fault⟩

/-- Every refresh of a run fails. -/
def AllFail : κ → List Host → Prop
  | _, [] => True
  | c, host :: hosts =>
    (refresh host c).value.fault?.isSome = true ∧ AllFail (next c host) hosts

theorem run_append (c : κ) (before after : List Host) :
    run c (before ++ after) = run (run c before) after :=
  List.foldl_append

theorem run_of_allFail (inert : Inert κ) {c : κ} {hosts : List Host} (fail : AllFail c hosts) :
    run c hosts = c := by
  induction hosts generalizing c with
  | nil => rfl
  | cons host hosts ih =>
    obtain ⟨now, later⟩ := fail
    obtain ⟨fault, failed⟩ := Option.isSome_iff_exists.1 now
    have same : next c host = c := by rw [next, inert c host fault failed]; rfl
    rw [same] at later
    rw [run_cons, same, ih later]

/-- Failed refreshes in the middle of a run might as well not have been tried. -/
theorem run_skip (inert : Inert κ) {c : κ} {before failing : List Host}
    (fail : AllFail (run c before) failing) (after : List Host) :
    run c (before ++ failing ++ after) = run c (before ++ after) := by
  rw [run_append, run_append, run_append, run_of_allFail inert fail]

end Collector

open Collector

namespace NetworkDevices

theorem currentRows_eq_error_iff {host : Host} {devices : NetworkDevices}
    {fault : CollectorFault} :
    devices.currentRows host = .error fault ↔
      (∃ cause, host.files.readText devices.path = .error cause ∧
        fault = .unreadable devices.path cause) ∨
      ∃ text, host.files.readText devices.path = .ok text ∧
        TableFault devices.columns.length devices.path text.toList fault := by
  simp only [currentRows, Host.readSource, ← readRows_eq_error_iff]
  cases host.files.readText devices.path with
  | error cause => simp [bind, Except.bind, eq_comm]
  | ok text => simp [bind, Except.bind]

theorem fault?_refresh (host : Host) (devices : NetworkDevices) (fault : CollectorFault) :
    (refresh host devices).value.fault? = some fault ↔
      devices.currentRows host = .error fault := by
  cases read : devices.currentRows host <;> simp [refresh, read]

/-- A refresh fails if the source is no readable text, or if there is something wrong with the
table that it is. -/
theorem isSome_fault?_refresh (host : Host) (devices : NetworkDevices) :
    (refresh host devices).value.fault?.isSome = true ↔
      (∃ cause, host.files.readText devices.path = .error cause) ∨
      ∃ text, host.files.readText devices.path = .ok text ∧
        ((lines text.toList).length < 2 ∨
          ∃ line ∈ (lines text.toList).drop 2, ¬ Passable devices.columns.length line) := by
  simp only [Option.isSome_iff_exists, fault?_refresh, currentRows_eq_error_iff]
  constructor
  · rintro ⟨fault, ⟨cause, unreadable, _⟩ | ⟨text, readable, wrong⟩⟩
    · exact .inl ⟨cause, unreadable⟩
    · exact .inr ⟨text, readable, exists_tableFault_iff.1 ⟨fault, wrong⟩⟩
  · rintro (⟨cause, unreadable⟩ | ⟨text, readable, wrong⟩)
    · exact ⟨_, .inl ⟨cause, unreadable, rfl⟩⟩
    · obtain ⟨fault, wrong⟩ := exists_tableFault_iff.2 wrong
      exact ⟨fault, .inr ⟨text, readable, wrong⟩⟩

theorem inert : Inert NetworkDevices := by
  intro devices host fault failed
  -- Only the reading of the table can fail, and it comes before the first mark.
  simp only [refresh, (fault?_refresh host devices fault).1 failed]

end NetworkDevices

namespace BlockDevices

theorem fault?_refresh (host : Host) (disks : BlockDevices) (fault : CollectorFault) :
    (refresh host disks).value.fault? = some fault ↔
      ∃ cause, host.files.readText disks.path = .error cause ∧
        fault = .unreadable disks.path cause := by
  cases read : host.files.readText disks.path <;>
    simp [refresh, Host.readSource, read, eq_comm]

theorem inert : Inert BlockDevices := by
  intro disks host fault failed
  obtain ⟨cause, unreadable, rfl⟩ := (fault?_refresh host disks fault).1 failed
  simp only [refresh, Host.readSource, unreadable]

end BlockDevices

/-- A failed refresh changes nothing. Interfaces fail to refresh exactly if their source is no
readable text, is shorter than its header, or has a line below it that is neither blank nor a
row with one counter per column; the first such line gives the fault. Block devices fail exactly
if their source is no readable text. Either way every baseline and every meter stays as it was,
so that failed refreshes in the middle of a run make no difference to its end. -/
theorem failed_refreshes_change_nothing :
    (∀ (devices : NetworkDevices) (host : Host),
      ((refresh host devices).value.fault?.isSome = true ↔
        (∃ cause, host.files.readText devices.path = .error cause) ∨
        ∃ text, host.files.readText devices.path = .ok text ∧
          ((lines text.toList).length < 2 ∨
            ∃ line ∈ (lines text.toList).drop 2, ¬ Blank line ∧
              ¬ ∃ row : Row, row.SpelledBy devices.columns.length line)) ∧
      ∀ fault, (refresh host devices).value.fault? = some fault ↔
        (∃ cause, host.files.readText devices.path = .error cause ∧
          fault = .unreadable devices.path cause) ∨
        ∃ text, host.files.readText devices.path = .ok text ∧
          NetworkDevices.TableFault devices.columns.length devices.path text.toList fault) ∧
    (∀ (disks : BlockDevices) (host : Host) (fault : CollectorFault),
      (refresh host disks).value.fault? = some fault ↔
        ∃ cause, host.files.readText disks.path = .error cause ∧
          fault = .unreadable disks.path cause) ∧
    Inert NetworkDevices ∧ Inert BlockDevices ∧
    (∀ (devices : NetworkDevices) (before failing after : List Host),
      AllFail (run devices before) failing →
        run devices (before ++ failing ++ after) = run devices (before ++ after)) ∧
    ∀ (disks : BlockDevices) (before failing after : List Host),
      AllFail (run disks before) failing →
        run disks (before ++ failing ++ after) = run disks (before ++ after) := by
  refine ⟨fun devices host => ⟨?_, fun fault => ?_⟩, fun disks host => ?_,
    NetworkDevices.inert, BlockDevices.inert, fun devices before failing after fail => ?_,
    fun disks before failing after fail => ?_⟩
  · simpa only [Passable, not_or] using NetworkDevices.isSome_fault?_refresh host devices
  · rw [NetworkDevices.fault?_refresh, NetworkDevices.currentRows_eq_error_iff]
  · exact BlockDevices.fault?_refresh host disks
  · exact run_skip NetworkDevices.inert fail after
  · exact run_skip BlockDevices.inert fail after

/-- A row for a known interface, followed by one that is too short. -/
def brokenHost : Host :=
  NetworkDevices.tableHost 2 "eth0: 9 1\n  lo: 0\n"

/-- The row before the bad one is not taken either, and a missing table changes as little. -/
theorem failed_refreshes_change_nothing_late_fault :
    refresh brokenHost NetworkDevices.tableDevices =
      pure ⟨NetworkDevices.tableDevices,
        some (.malformed "proc/net/dev" (.counterCount "lo" 2 1))⟩ ∧
    run NetworkDevices.tableDevices
        ([NetworkDevices.tableHost 1 "eth0: 6 1\n"] ++
          [brokenHost, { brokenHost with files := .empty }] ++
          [NetworkDevices.tableHost 4 "eth0:12 0\n"]) =
      run NetworkDevices.tableDevices
        ([NetworkDevices.tableHost 1 "eth0: 6 1\n"] ++
          [NetworkDevices.tableHost 4 "eth0:12 0\n"]) := by
  obtain ⟨_, _, inert, _, skip, _⟩ := failed_refreshes_change_nothing
  exact ⟨inert _ _ _ (by decide +kernel),
    skip _ _ _ _ ⟨by decide +kernel, by decide +kernel, trivial⟩⟩

end HostVitals
