import FlowTracker.Settings.Basic
import FlowTracker.Settings.Field
import FlowTracker.Settings.Layer

/-!
# Reading settings from a layer

Every field is read from the value under its key, and gets its default if there is none; keys that
mean nothing are passed over.  A group of fields may also be given as a list of values in the order of
its declaration.  The fields are read in the order of their keys, and the first value of the wrong
shape is reported with its key.
-/

namespace FlowTracker

namespace SettingsError

/-- The result of reading the value under a key: an error is put under the key as well. -/
def under {α : Type} (key : String) : Except SettingsError α → Except SettingsError α
  | .error (.unreadable path problem) => .error (.unreadable (key :: path) problem)
  | result => result

def here {α : Type} : Except String α → Except SettingsError α
  | .ok a => .ok a
  | .error problem => .error (.unreadable [] problem)

end SettingsError

namespace Settings

open SettingsError

/-! ### Single values -/

def readCount : Value → Except SettingsError Nat
  | .integer n =>
    if 0 ≤ n ∧ n < Word.count then .ok n.toNat
    else here (.error ("invalid value: integer `" ++ toString n ++ "`, expected a count"))
  | value => here (.error (value.mismatch "a count"))

/-- Reads a span of time.  An integer that does not fit a word is reported where it stands, even deep
inside of a value that is no span anyway. -/
def readSpan (value : Value) : Except SettingsError Span :=
  match value.widePath? with
  | some path => .error (.unreadable path "invalid type: integer, expected a word")
  | none =>
    match Span.ofValue value with
    | .ok span => .ok span
    | .error (.text (.fault cause)) => .error (.fault cause)
    | .error error => here (.error error.message)

def readLevel (value : Value) : Except SettingsError Level := here (Level.ofValue value)

def readPath : Value → Except SettingsError (Option String)
  | .null => .ok none
  | value => (here (value.readText "a path")).map some

def firstEntry : Layer → Option (String × Value)
  | [] => none
  | entry :: rest =>
    match firstEntry rest with
    | none => some entry
    | some other => if other.1 < entry.1 then some other else some entry

/-- Reads a format: its name, or a map whose first key is its name, over nothing.  What is wrong with the
key or its value is reported under the key. -/
def readFormat : Value → Except SettingsError ExportFormat
  | .text name => here (ExportFormat.ofName name)
  | .map entries =>
    match firstEntry entries with
    | none => here (.error "invalid type: map, expected a format")
    | some (name, value) => do
      let format ← under name (here (ExportFormat.ofName name))
      match value with
      | .null => return format
      | value => under name (here (.error (value.mismatch "unit")))
  | value => here (.error (value.mismatch "a format"))

/-! ### Groups -/

def field {α : Type} (entries : Layer) (key : String) (default : α)
    (read : Value → Except SettingsError α) : Except SettingsError α :=
  match entries.lookup key with
  | none => .ok default
  | some value => under key (read value)

def item {α : Type} (items : List Value) (position : Nat) (default : α)
    (read : Value → Except SettingsError α) : Except SettingsError α :=
  match items[position]? with
  | none => .ok default
  | some value => under (toString position) (read value)

def readFlow : Value → Except SettingsError FlowSettings
  | .map entries => do
    let usual := FlowSettings.default
    let closedTimeout ← field entries "closed_timeout" usual.closedTimeout readSpan
    let establishedTimeout ← field entries "established_timeout" usual.establishedTimeout readSpan
    let managerInterval ← field entries "manager_interval" usual.managerInterval readSpan
    let maxFlows ← field entries "max_flows" usual.maxFlows readCount
    let newTimeout ← field entries "new_timeout" usual.newTimeout readSpan
    let waitTimeout ← field entries "wait_timeout" usual.waitTimeout readSpan
    return { maxFlows, managerInterval, newTimeout, establishedTimeout, closedTimeout, waitTimeout }
  | .list items => do
    let usual := FlowSettings.default
    let maxFlows ← item items 0 usual.maxFlows readCount
    let managerInterval ← item items 1 usual.managerInterval readSpan
    let newTimeout ← item items 2 usual.newTimeout readSpan
    let establishedTimeout ← item items 3 usual.establishedTimeout readSpan
    let closedTimeout ← item items 4 usual.closedTimeout readSpan
    let waitTimeout ← item items 5 usual.waitTimeout readSpan
    return { maxFlows, managerInterval, newTimeout, establishedTimeout, closedTimeout, waitTimeout }
  | value => here (.error (value.mismatch "flow settings"))

/-- Reads the settings of the output: the format is all of them. -/
def readExporter : Value → Except SettingsError ExportFormat
  | .map entries => field entries "format" Settings.default.format readFormat
  | .list items => item items 0 Settings.default.format readFormat
  | value => here (.error (value.mismatch "exporter settings"))

def ofLayer (layer : Layer) : Except SettingsError Settings := do
  let usual := Settings.default
  let format ← field layer "exporter" usual.format readExporter
  let flow ← field layer "flow" usual.flow readFlow
  let input ← field layer "input" usual.input readPath
  let logLevel ← field layer "log_level" usual.logLevel readLevel
  let channelCapacity ←
    field layer "packet_channel_capacity" usual.channelCapacity readCount
  let workers ← field layer "worker_count" usual.workers readCount
  return { logLevel, input, workers, channelCapacity, flow, format }

end Settings

end FlowTracker
