import HostVitals.Settings.Basic
import HostVitals.Toml.Document

/-!
# Decoding settings

Settings are written as a TOML document. A group of settings is a table of named
fields, or an array of the fields in their order; what is not known, or comes after the
last field, is passed over. `Settings.load` reads the document from a file.
-/

namespace HostVitals

open Toml

namespace Settings

/-- The fields of a group, by name, where `known` lists the names in order. What has
another name is only looked at for numbers that have no value or cannot be represented. -/
def fieldsOf? (known : List String) : Value → Option Table
  | .table _ entries =>
    if Value.entriesSound (entries.filter fun e => !known.contains e.1) then some entries
    else none
  | .array items => some (known.zip items)
  | .tables latest => some (known.zip (latest.reverse.map (.table .header)))
  | _ => none

/-- A field that has to be there. -/
def required {α : Type} (fields : Table) (name : String) (decode : Value → Option α) :
    Option α :=
  (fields.lookup name).bind decode

/-- A field with a value for when it is not there. -/
def optional {α : Type} (fields : Table) (name : String) (absent : α)
    (decode : Value → Option α) : Option α :=
  match fields.lookup name with
  | none => some absent
  | some value => decode value

def decodeString : Value → Option String
  | .string s => some s
  | _ => none

/-- A number below a bound. -/
def decodeNat (bound : Nat) : Value → Option Nat
  | .integer (some n) => if 0 ≤ n ∧ n < bound then some n.toNat else none
  | _ => none

def decodeStrings : Value → Option (List String)
  | .array items => items.mapM decodeString
  | _ => none

/-- A choice of interfaces. -/
def decodeInterfaces : Value → Option InterfaceSelection
  | .string "default" => some .default
  | .string "all" => some .all
  | .string "none" => some .none
  | value => (decodeStrings value).map .only

def decodeServer (value : Value) : Option ServerSettings := do
  let fields ← fieldsOf? ["port", "host"] value
  let port ← required fields "port" (decodeNat UInt16.size)
  let host ← required fields "host" decodeString
  return { port, host }

def decodeMonitor (value : Value) : Option MonitorSettings := do
  let fields ← fieldsOf?
    ["poll_interval_secs", "load_average_min_age_secs", "meminfo_keys", "storage_types",
      "interfaces", "proc_root", "sys_root"] value
  let pollInterval ← required fields "poll_interval_secs" (decodeNat UInt64.size)
  let loadMinAge ← optional fields "load_average_min_age_secs" 10 (decodeNat UInt64.size)
  let memoryKeys ← optional fields "meminfo_keys" MemoryInfo.defaultKeys decodeStrings
  let storageTypes ← optional fields "storage_types" NameFilter.defaultStorageTypes decodeStrings
  let interfaces ← optional fields "interfaces" .default decodeInterfaces
  let procRoot ← optional fields "proc_root" "/proc" decodeString
  let sysRoot ← optional fields "sys_root" "/sys" decodeString
  return { pollInterval, loadMinAge, memoryKeys, storageTypes, interfaces, procRoot, sysRoot }

def ofTable (root : Table) : Option Settings := do
  let fields ← fieldsOf? ["server", "monitor"] (.table .header root)
  let server ← required fields "server" decodeServer
  let monitor ← required fields "monitor" decodeMonitor
  return { server, monitor }

/-- Why no settings could be loaded. -/
inductive LoadFault where
  /-- The file could not be read. -/
  | io (fault : IoFault)
  /-- The text is no TOML document, or not one of settings. -/
  | toml
  | invalid (fault : SettingsFault)
  deriving DecidableEq, Repr

/-- Decodes and checks settings. -/
def parse (text : String) : Except LoadFault Settings :=
  match (Document.read? text).bind ofTable with
  | none => .error .toml
  | some settings =>
    match settings.validate with
    | .ok () => .ok settings
    | .error fault => .error (.invalid fault)

/-- The file that is read when none is named. -/
def defaultFile : String := "config.toml"

def load (host : Host) (file : Option String) : Except LoadFault Settings :=
  match host.files.readText (file.getD defaultFile) with
  | .error fault => .error (.io fault)
  | .ok text => parse text

end Settings

end HostVitals
