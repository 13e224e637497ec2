/-!
# Request targets

What a request is for: a path, or the server itself. A path stands alone or follows the
address of a host; the server is meant by the name of a host alone, and by a star. A query
and a fragment may follow a path. They do not matter, but a query has to be well formed.

* `Target.ofText?`: the target that a text denotes.
-/

namespace HostVitals.Http

/-- What a request is for. -/
inductive Target where
  /-- A resource, by its path, which begins with a slash. -/
  | resource (path : List Char)
  /-- The server as a whole. -/
  | server
  deriving DecidableEq, Repr

/-! ## Paths -/

/-- A character that is neither blank nor a control in ASCII. -/
def isVisible (c : Char) : Bool :=
  '!' ≤ c && c != '\x7f'

def isPathChar (c : Char) : Bool :=
  isVisible c && !(['#', '<', '>', '?', '\x60'].contains c)

/-- A character that may stand in a query as it is. Its mark may, too. -/
def isQueryChar (c : Char) : Bool :=
  isVisible c && !(['"', '#', '<', '>'].contains c)

/-- The path in front of a query or fragment; one that is left out is the root. A fragment
may hold anything. -/
def readPath? (cs : List Char) : Option (List Char) :=
  let (path, query) := (cs.takeWhile (· != '#')).span (· != '?')
  if !path.all isPathChar || !query.all isQueryChar then none
  else if path.isEmpty then some ['/']
  else some path

/-! ## Hosts -/

def maxSchemeLength : Nat := 64

def isSchemeChar (c : Char) : Bool :=
  c.isAlphanum || ['+', '-', '.', '~'].contains c

def dropScheme? (cs : List Char) : Option (List Char) :=
  let (scheme, rest) := cs.span isSchemeChar
  match rest with
  | ':' :: '/' :: '/' :: address => if scheme.length ≤ maxSchemeLength then some address else none
  | _ => none

def endsHost (c : Char) : Bool :=
  c == '/' || c == '?' || c == '#'

/-- A character of the name of a host that has no further meaning there. -/
def isHostChar (c : Char) : Bool :=
  c.isAlphanum || "!$&'()*+,-.;=_~".toList.contains c

/-- What matters of the front of a host name for what may follow. Colons and codes count
from the last user or bracketed address on. -/
structure HostScan where
  colons : Nat
  /-- A percent sign was seen. -/
  coded : Bool
  /-- A bracket was opened. -/
  opened : Bool
  /-- It was closed again. -/
  closed : Bool
  deriving DecidableEq, Repr

namespace HostScan

def start : HostScan where
  colons := 0
  coded := false
  opened := false
  closed := false

/-- The most colons in one part, as in a bracketed address with its port. -/
def maxColons : Nat := 8

/-- Reads one character. One pair of brackets may open, where no code is in front of it. -/
def step (scan : HostScan) : Char → Option HostScan
  | ':' => if scan.colons < maxColons then some { scan with colons := scan.colons + 1 } else none
  | '%' => some { scan with coded := true }
  | '[' => if scan.coded || scan.opened then none else some { scan with opened := true }
  | ']' =>
    if scan.opened && !scan.closed then
      some { scan with colons := 0, coded := false, closed := true }
    else none
  | '@' => some { scan with colons := 0, coded := false }
  | c => if isHostChar c then some scan else none

/-- The name may end: its brackets are paired, and in its last part there is at most the
colon of a port, and no code. -/
def mayEnd (scan : HostScan) : Bool :=
  scan.opened == scan.closed && scan.colons ≤ 1 && !scan.coded

end HostScan

/-- The name of a host, with a user in front and a port behind it, if they are given. Codes
may stand in the user and in a bracketed address only. -/
def isHost (cs : List Char) : Bool :=
  !cs.isEmpty && cs.getLast? != some '@' && (cs.foldlM HostScan.step .start).any HostScan.mayEnd

/-! ## Targets -/

/-- The size of the longest target, in bytes. -/
def maxTargetSize : Nat := 65534

/-- The target of an address, its scheme aside. -/
def readAddress? (address : List Char) : Option Target :=
  let (host, rest) := address.span fun c => !endsHost c
  if isHost host then Target.resource <$> readPath? rest else none

/-- The target that a text denotes. -/
def Target.ofText? (text : String) : Option Target :=
  if maxTargetSize < text.utf8ByteSize then none
  else
    match text.toList with
    | ['*'] => some .server
    | '/' :: rest => Target.resource <$> readPath? ('/' :: rest)
    | cs =>
      match dropScheme? cs with
      | some address => readAddress? address
      | none => if isHost cs then some .server else none

example : Target.ofText? "/metrics/a%2Fb?q#f" = some (.resource "/metrics/a%2Fb".toList) := by
  decide +kernel
example : Target.ofText? "http://u:p@[::1]:80?q" = some (.resource ['/']) := by decide +kernel
example : Target.ofText? "h:80" = some .server := by decide +kernel
example : Target.ofText? "h:80/metrics" = none := by decide +kernel
example : Target.ofText? "/a b" = none := by decide +kernel

end HostVitals.Http
