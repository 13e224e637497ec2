/-!
# Name filters

Which devices, interfaces and filesystem types are instrumented. Names are compared
exactly, with regard to case.
-/

namespace HostVitals

/-- A choice of names. -/
inductive NameFilter where
  | all
  | none
  /-- The listed names. -/
  | only (names : List String)
  /-- The listed names, and those that begin with one of the `starts`. -/
  | startingWith (names starts : List String)
  /-- The names that a caller's own predicate chooses. -/
  | satisfying (predicate : String → Bool)

namespace NameFilter

/-- `name` begins with `start`. -/
def begins (start name : String) : Bool :=
  start.toList.isPrefixOf name.toList

/-- The name is chosen. -/
def accepts : NameFilter → String → Bool
  | .all, _ => true
  | .none, _ => false
  | .only names, name => names.contains name
  | .startingWith names starts, name =>
    names.contains name || starts.any fun start => begins start name
  | .satisfying predicate, name => predicate name

/-- The interfaces instrumented by default: the loopback, and the usual names of wired,
bonded and wireless interfaces. -/
def defaultInterfaces : NameFilter :=
  .startingWith ["lo"] ["eth", "bond", "wlan"]

/-- The filesystem types instrumented by default. -/
def defaultStorageTypes : List String :=
  ["minix", "ext", "ext2", "ext3", "ext4", "Reiserfs", "XFS", "JFS", "xia", "msdos", "umsdos",
    "vfat", "ntfs", "nfs", "iso9660", "hpfs", "sysv", "smb", "ncpfs"]

example : defaultInterfaces.accepts "eth0" = true := by decide +kernel
example : defaultInterfaces.accepts "lo0" = false := by decide +kernel

end NameFilter

end HostVitals
