import FlowTracker.Export.Format
import FlowTracker.Level
import FlowTracker.Replay.Run
import FlowTracker.Span

/-!
# Settings

What a run is told: the capture, the number of workers, the size of the flow table, the timeouts and
the format of the output.  Every field has a default.  Some values are refused although they can be
read.
-/

namespace FlowTracker

structure FlowSettings where
  maxFlows : Nat
  /-- How often the manager looks at the queues. -/
  managerInterval : Span
  newTimeout : Span
  establishedTimeout : Span
  closedTimeout : Span
  /-- How long a worker waits for a free slot. -/
  waitTimeout : Span
  deriving DecidableEq, Repr, Inhabited

structure Settings where
  logLevel : Level
  /-- The capture, if one is given. -/
  input : Option String
  workers : Nat
  channelCapacity : Nat
  flow : FlowSettings
  format : ExportFormat
  deriving DecidableEq, Repr, Inhabited

def FlowSettings.default : FlowSettings where
  maxFlows := 65536
  managerInterval := .ofSecs 1
  newTimeout := .ofSecs 30
  establishedTimeout := .ofSecs 300
  closedTimeout := .ofSecs 10
  waitTimeout := .ofMicros 100000

def Settings.default : Settings where
  logLevel := .info
  input := none
  workers := 2
  channelCapacity := 1024
  flow := .default
  format := .jsonCompact

/-! ### Errors -/

inductive SettingsError where
  | noFile (path : String)
  /-- Under the path there is something, but no file. -/
  | noRegularFile (path : String)
  | wrongExtension (extension : String)
  /-- A layer cannot be read, or the value under a key has the wrong shape. -/
  | unreadable (key : List String) (problem : String)
  | invalid (field reason : String)
  | fault (fault : Fault)
  deriving DecidableEq, Repr, Inhabited

namespace SettingsError

def keyText (key : List String) : String := String.intercalate "." key

def problemText (key : List String) (problem : String) : String :=
  if key.isEmpty then problem else problem ++ " for key \"" ++ keyText key ++ "\""

def message : SettingsError → String
  | .noFile path => "config file " ++ path ++ " does not exist"
  | .noRegularFile path => "path '" ++ path ++ "' is not a valid file"
  | .wrongExtension extension =>
      "invalid file extension '." ++ extension ++ "', expected 'yaml' or 'yml'"
  | .unreadable key problem => "configuration error: " ++ problemText key problem
  | .invalid field reason => "invalid value for '" ++ field ++ "': " ++ reason
  | .fault cause => cause.message

end SettingsError

/-! ### Ranges -/

namespace Settings

/-- Refuses values that are out of range; of several ones the first is named. -/
def validate (settings : Settings) : Except SettingsError Unit := do
  if settings.workers = 0 then
    throw (.invalid "worker_count" "must be at least 1")
  if settings.channelCapacity = 0 then
    throw (.invalid "packet_channel_capacity" "must be at least 1")
  if settings.flow.maxFlows = 0 ∨ 4294967295 ≤ settings.flow.maxFlows then
    throw (.invalid "flow.max_flows" "must be between 1 and 4294967294")
  if settings.flow.managerInterval.isZero then
    throw (.invalid "flow.manager_interval" "must be greater than zero")

/-- The replay that the settings ask for, with an exporter that always works. -/
def plan (settings : Settings) : ReplayPlan where
  workers := settings.workers
  channelCapacity := settings.channelCapacity
  maxFlows := settings.flow.maxFlows
  wait := settings.flow.waitTimeout
  manager := {
    timeouts := ⟨settings.flow.newTimeout, settings.flow.establishedTimeout,
      settings.flow.closedTimeout⟩
    exporter := .reliable }

end Settings

end FlowTracker
