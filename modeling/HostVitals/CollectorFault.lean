import HostVitals.IoFault
import HostVitals.Text.Numeral
import HostVitals.Text.Quoted

/-!
# Faults of a collector

Why a source could not be turned into metrics. No fault leaves its collector: it is
logged, and the other collectors carry on.
-/

namespace HostVitals

open Text (NumeralFault quote)

/-- What is wrong with the layout of a source. -/
inductive FormatFault where
  /-- The header of the interface table does not have three sections. -/
  | headerSections (header : List Char)
  /-- The header of the interface table names no counter. -/
  | noCounters
  /-- The interface table has no header. -/
  | noHeader
  /-- A row of the interface table has no colon. -/
  | noSeparator (line : List Char)
  /-- A row of the interface table has no name. -/
  | emptyName
  /-- A row of the interface table does not have one counter per column. -/
  | counterCount (name : String) (expected actual : Nat)
  /-- A store does not know the figure. -/
  | unavailable
  /-- The collector fails on purpose. -/
  | alwaysFails
  deriving DecidableEq, Repr

def FormatFault.message : FormatFault → String
  | .headerSections header =>
    "expected 'face|receive|transmit' header, got " ++ quote header
  | .noCounters => "header names no counters"
  | .noHeader => "fewer than two header lines"
  | .noSeparator line => "no interface separator in " ++ quote line
  | .emptyName => "empty interface name"
  | .counterCount name expected actual =>
    name ++ ": expected " ++ toString expected ++ " counters, got " ++ toString actual
  | .unavailable => "unavailable"
  | .alwaysFails => "always fails"

/-- Why a collector could not be built or refreshed. -/
inductive CollectorFault where
  /-- The source is missing or cannot be read. -/
  | unreadable (path : String) (cause : IoFault)
  /-- The source is not laid out as expected. -/
  | malformed (location : String) (reason : FormatFault)
  /-- One value of the source is not a number. -/
  | badNumber (metric location : String) (token : List Char) (reason : NumeralFault)
  /-- A mount point could not be asked for its size. -/
  | unsized (path : String) (cause : IoFault)
  deriving DecidableEq, Repr

namespace CollectorFault

/-- The text of a fault, without its cause. -/
def message : CollectorFault → String
  | .unreadable path _ => "Failed to read file " ++ path
  | .malformed location reason => "Invalid format in " ++ location ++ ": " ++ reason.message
  | .badNumber metric location token reason =>
    "Failed to parse " ++ metric ++ " from " ++ location ++ ": " ++
      quote token ++ ": " ++ reason.message
  | .unsized path _ => "statvfs failed for " ++ path

/-- The system fault behind a fault. -/
def cause? : CollectorFault → Option IoFault
  | .unreadable _ cause => some cause
  | .unsized _ cause => some cause
  | _ => none

end CollectorFault

end HostVitals
