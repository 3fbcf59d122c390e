import FlowTracker.Export.Json
import FlowTracker.FlowRecord
import FlowTracker.Value

/-!
# Export formats

Released flows are printed as JSON, indented or one line each, or by their structure, likewise
indented or one line each; or they are not printed at all.
-/

namespace FlowTracker

inductive ExportFormat where
  | json
  | jsonCompact
  | pretty
  | debug
  | none
  deriving DecidableEq, Repr, Inhabited

namespace ExportFormat

/-- All formats, in the order in which messages name them. -/
def all : List ExportFormat := [.json, .jsonCompact, .pretty, .debug, .none]

def name : ExportFormat → String
  | .json => "json"
  | .jsonCompact => "json-compact"
  | .pretty => "pretty"
  | .debug => "debug"
  | .none => "none"

def ofName (name : String) : Except String ExportFormat :=
  match all.find? fun format => format.name == name with
  | some format => .ok format
  | .none =>
    .error ("unknown variant `" ++ name ++ "`, expected one of "
      ++ String.intercalate ", " (all.map fun format => "`" ++ format.name ++ "`"))

/-- Reads a format: its name, or a map from its name to nothing. -/
def ofValue : Value → Except String ExportFormat
  | .text name => ofName name
  | .map [(name, value)] => do
    let format ← ofName name
    match value with
    | .null => return format
    | value => throw (value.mismatch "unit")
  | .map _ => .error "invalid value: map, expected map with a single key"
  | value => .error (value.mismatch "string or map")

end ExportFormat

/-! ### Released flows as objects -/

def Timestamp.toJson (time : Timestamp) : Json :=
  .object [("sec", .number time.sec.toNat), ("usec", .number time.usec.toNat)]

def FiveTuple.toJson (tuple : FiveTuple) : Json :=
  .object [
    ("src_ip", .word tuple.source.address.text),
    ("dst_ip", .word tuple.target.address.text),
    ("src_port", .number tuple.source.port.toNat),
    ("dst_port", .number tuple.target.port.toNat),
    ("protocol", .word tuple.protocol.text)]

def FlowRecord.members (record : FlowRecord) : List (String × Json) := [
  ("state", .word record.state.name),
  ("tuple", record.tuple.toJson),
  ("first_seen", record.firstSeen.toJson),
  ("last_seen", record.lastSeen.toJson),
  ("packets_toserver", .number record.toServer.packets.toNat),
  ("packets_toclient", .number record.toClient.packets.toNat),
  ("bytes_toserver", .number record.toServer.bytes.toNat),
  ("bytes_toclient", .number record.toClient.bytes.toNat),
  ("tcp_flags_toserver", .number record.toServer.tcpFlags.toNat),
  ("tcp_flags_toclient", .number record.toClient.tcpFlags.toNat)]

def FlowRecord.toJson (record : FlowRecord) : Json := .object record.members

def ReleasedFlow.toJson (flow : ReleasedFlow) : Json :=
  .object (("reason", .word flow.reason.name) :: flow.record.members)

namespace ExportFormat

/-- What the printer of a format writes for a flow, with the line end.  Without a format of its own
it falls back to the structure on one line. -/
def print (format : ExportFormat) (flow : ReleasedFlow) : String :=
  (match format with
    | .json => flow.toJson.indented 0
    | .jsonCompact => flow.toJson.compact
    | .pretty => flow.inspect.block 0
    | .debug | .none => flow.inspect.inline) ++ "\n"

/-- What exporting a flow writes: nothing if no format is chosen. -/
def emit (format : ExportFormat) (flow : ReleasedFlow) : String :=
  match format with
  | .none => ""
  | format => format.print flow

end ExportFormat

end FlowTracker
