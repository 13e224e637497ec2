import HostVitals.Host
import HostVitals.Logged
import HostVitals.NameMap

/-!
# Filesystems

Mounted filesystems with gauges for their capacity. Nothing is kept: each reading
asks for the size anew, and one that fails shows zero.
-/

namespace HostVitals

open Logged (report)

/-- The figures of a filesystem. -/
inductive Figure where
  | total
  | usable
  | unallocated
  deriving DecidableEq, Repr

/-- The name under which a figure is exposed. -/
def Figure.name : Figure → String
  | .total => "total"
  | .usable => "usable"
  | .unallocated => "unallocated"

/-- Where the size of a store comes from. -/
inductive StoreSize where
  /-- Fixed figures, of which some may be unknown. -/
  | fixed (total usable unallocated : Option Nat)
  /-- The system is asked about a mount point. -/
  | mounted (mountPoint : String)
  deriving DecidableEq, Repr

/-- A filesystem: the name of its device, its type, and its size. -/
structure Store where
  name : String
  fsType : String
  size : StoreSize
  deriving DecidableEq, Repr

/-- Sizes in bytes stop at the greatest 64-bit number. -/
def maxBytes : Nat := UInt64.size - 1

/-- A number of blocks in bytes. -/
def blockBytes (blocks fragment : Nat) : Nat :=
  min (blocks * fragment) maxBytes

/-- A figure of a filesystem that the system has sized. -/
def Figure.ofCounts (counts : BlockCounts) : Figure → Nat
  | .total => blockBytes counts.blocks counts.fragment
  | .usable => blockBytes counts.available counts.fragment
  | .unallocated => blockBytes counts.free counts.fragment

namespace Store

def ofMount (mount : Mount) : Store where
  name := mount.device
  fsType := mount.fsType
  size := .mounted mount.mountPoint

def read (mounts : MountTable) (store : Store) (figure : Figure) : Except CollectorFault Nat :=
  match store.size with
  | .fixed total usable unallocated =>
    let known := match figure with
      | .total => total
      | .usable => usable
      | .unallocated => unallocated
    match known with
    | some n => .ok n
    | none => .error (.malformed store.name .unavailable)
  | .mounted mountPoint =>
    match mounts.size mountPoint with
    | .ok counts => .ok (Figure.ofCounts counts figure)
    | .error cause => .error (.unsized mountPoint cause)

/-- What a gauge shows: the figure, or zero if it could not be read. -/
def gauge (mounts : MountTable) (store : Store) (figure : Figure) : Logged Nat :=
  match store.read mounts figure with
  | .ok n => return n
  | .error fault => do
    report (.capacityReadFailed store.name fault)
    return 0

/-- The name without one leading slash, under which the gauges are exposed. -/
def key (store : Store) : String :=
  match store.name.toList with
  | '/' :: rest => String.ofList rest
  | _ => store.name

/-- The block device behind a filesystem: the second of exactly two parts of its name,
otherwise the whole name. -/
def deviceName (store : Store) : String :=
  match store.key.toList.splitOn '/' with
  | [_, device] => if device.isEmpty then store.key else String.ofList device
  | _ => store.key

def metrics : NameMap Figure :=
  .ofList ([.total, .usable, .unallocated].map fun f : Figure => (f.name, f))

end Store

end HostVitals
