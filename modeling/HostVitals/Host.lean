import HostVitals.CollectorFault
import HostVitals.FileTree

/-!
# The host

What a collector can see of the machine at one moment: the clock, the files, and the
sizes of the mounted filesystems. Instants and lengths of time are in nanoseconds; the
clock only moves forward.
-/

namespace HostVitals

/-- Nanoseconds in a second. -/
def second : Nat := 1000000000

/-- Nanoseconds in a millisecond. -/
def millisecond : Nat := 1000000

/-- The size of a filesystem as the system reports it, in blocks of `fragment` bytes. -/
structure BlockCounts where
  fragment : Nat
  blocks : Nat
  free : Nat
  available : Nat
  deriving DecidableEq, Repr

/-- A filesystem that the system lists as mounted. -/
structure Mount where
  device : String
  fsType : String
  mountPoint : String
  deriving DecidableEq, Repr

/-- The mounted filesystems, and the answers of the system for the mount points that it
can size. -/
structure MountTable where
  listed : List Mount
  answers : List (String × Except IoFault BlockCounts)

namespace MountTable

/-- The table without mount points. -/
def empty : MountTable := ⟨[], []⟩

/-- Sets the answer for a mount point. -/
def set (mounts : MountTable) (path : String) (answer : Except IoFault BlockCounts) :
    MountTable :=
  { mounts with
    answers := (path, answer) :: mounts.answers.filter fun e => e.1 != path }

/-- Asks for the size of the filesystem at a mount point. A path with a NUL cannot be
passed to the system; the fault names the first one. -/
def size (mounts : MountTable) (path : String) : Except IoFault BlockCounts :=
  match path.toUTF8.data.toList.idxOf? 0 with
  | some position => .error (.nulAt position)
  | none => (mounts.answers.lookup path).getD (.error .notFound)

end MountTable

/-- The machine at one moment. -/
structure Host where
  now : Nat
  files : FileTree
  mounts : MountTable

namespace Host

/-- The text of a source, as a collector reads it. -/
def readSource (host : Host) (path : String) : Except CollectorFault String :=
  match host.files.readText path with
  | .ok text => .ok text
  | .error cause => .error (.unreadable path cause)

end Host

end HostVitals
