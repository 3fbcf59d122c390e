import FlowTracker.FlowKey
import FlowTracker.Timestamp

/-!
# Flow records

What is kept of a conversation: its lifecycle state, the tuple of its first packet, the times of its
first and newest packet, and counts, bytes and TCP flags of each direction.  `FlowRecord.update`
changes the fields in a fixed order, so a counter that overflows leaves the changes made before it.
-/

namespace FlowTracker

inductive FlowState where
  /-- Traffic was seen in one direction only. -/
  | new
  /-- Traffic was seen in both directions. -/
  | established
  /-- A TCP packet ended the conversation. -/
  | closed
  deriving DecidableEq, Repr, Inhabited

def FlowState.name : FlowState → String
  | .new => "new"
  | .established => "established"
  | .closed => "closed"

def FlowState.inspect : FlowState → Inspect
  | .new => .atom "New"
  | .established => .atom "Established"
  | .closed => .atom "Closed"

inductive ReleaseReason where
  | timeout
  | shutdown
  deriving DecidableEq, Repr, Inhabited

def ReleaseReason.name : ReleaseReason → String
  | .timeout => "timeout"
  | .shutdown => "shutdown"

def ReleaseReason.inspect : ReleaseReason → Inspect
  | .timeout => .atom "Timeout"
  | .shutdown => .atom "Shutdown"

/-- The flag bits that end a TCP conversation: FIN and RST. -/
def endingFlags : UInt8 := 0x05

structure Direction where
  packets : UInt64
  bytes : UInt64
  tcpFlags : UInt8
  deriving DecidableEq, Repr, Inhabited

def Direction.empty : Direction := ⟨0, 0, 0⟩

/-- The record of one conversation.  The source of `tuple` is the client. -/
structure FlowRecord where
  state : FlowState
  tuple : FiveTuple
  firstSeen : Timestamp
  lastSeen : Timestamp
  toServer : Direction
  toClient : Direction
  deriving DecidableEq, Repr, Inhabited

structure ReleasedFlow where
  reason : ReleaseReason
  record : FlowRecord
  deriving DecidableEq, Repr, Inhabited

namespace Direction

/-- Accounts one packet: the packet counter, then the bytes, then the flags. -/
def account (headers : Headers) (size : UInt64) : EStateM Fault Direction Unit := do
  match Word.add (← get).packets 1 with
  | .ok packets => modify fun direction => { direction with packets }
  | .error fault => throw fault
  match Word.add (← get).bytes size with
  | .ok bytes => modify fun direction => { direction with bytes }
  | .error fault => throw fault
  modify fun direction => { direction with tcpFlags := direction.tcpFlags ||| headers.tcpFlags }

end Direction

namespace FlowRecord

def key (record : FlowRecord) : FlowKey := record.tuple.key

def isToServer (record : FlowRecord) (headers : Headers) : Bool :=
  headers.tuple.source == record.tuple.source

def isClosing (record : FlowRecord) (headers : Headers) : Bool :=
  record.tuple.protocol == .tcp && (headers.tcpFlags &&& endingFlags) != 0

/-- The state after a packet: closed stays closed, an ending packet closes, and the first packet to
the client establishes. -/
def nextState (record : FlowRecord) (headers : Headers) : FlowState :=
  match record.state with
  | .closed => .closed
  | state =>
    if record.isClosing headers then .closed
    else if state = .new && !record.isToServer headers then .established
    else state

/-- Runs `account` on one direction of the record. -/
def accountToServer (account : EStateM Fault Direction Unit) : EStateM Fault FlowRecord Unit :=
  fun record =>
    match account record.toServer with
    | .ok () toServer => .ok () { record with toServer }
    | .error fault toServer => .error fault { record with toServer }

@[inherit_doc accountToServer]
def accountToClient (account : EStateM Fault Direction Unit) : EStateM Fault FlowRecord Unit :=
  fun record =>
    match account record.toClient with
    | .ok () toClient => .ok () { record with toClient }
    | .error fault toClient => .error fault { record with toClient }

/-- Accounts one packet of `size` octets and returns the state before it. -/
def update (headers : Headers) (time : Timestamp) (size : UInt64) :
    EStateM Fault FlowRecord FlowState := do
  let before := (← get).state
  if (← get).isToServer headers then accountToServer (Direction.account headers size)
  else accountToClient (Direction.account headers size)
  modify fun record =>
    if time.isAfter record.lastSeen then { record with lastSeen := time } else record
  modify fun record => { record with state := record.nextState headers }
  return before

/-- A record before its first packet is accounted. -/
def blank (headers : Headers) (time : Timestamp) : FlowRecord where
  state := .new
  tuple := headers.tuple
  firstSeen := time
  lastSeen := time
  toServer := .empty
  toClient := .empty

def start (headers : Headers) (time : Timestamp) (size : UInt64) : Except Fault FlowRecord :=
  match update headers time size (blank headers time) with
  | .ok _ record => .ok record
  | .error fault _ => .error fault

/-- Whether the newest packet lies more than `timeout` before `now`. -/
def isIdle (record : FlowRecord) (now : Timestamp) (timeout : Span) : Except Fault Bool := do
  return timeout < (← now.since record.lastSeen)

/-! ### Structural text -/

def inspectTime (time : Timestamp) : Inspect :=
  .record "Timestamp" [("sec", .nat time.sec.toNat), ("usec", .nat time.usec.toNat)]

def inspect (record : FlowRecord) : Inspect :=
  .record "FlowRecord" [
    ("state", record.state.inspect),
    ("tuple", record.tuple.inspect),
    ("first_seen", inspectTime record.firstSeen),
    ("last_seen", inspectTime record.lastSeen),
    ("packets_toserver", .nat record.toServer.packets.toNat),
    ("packets_toclient", .nat record.toClient.packets.toNat),
    ("bytes_toserver", .nat record.toServer.bytes.toNat),
    ("bytes_toclient", .nat record.toClient.bytes.toNat),
    ("tcp_flags_toserver", .nat record.toServer.tcpFlags.toNat),
    ("tcp_flags_toclient", .nat record.toClient.tcpFlags.toNat)]

end FlowRecord

def ReleasedFlow.inspect (flow : ReleasedFlow) : Inspect :=
  .record "ReleasedFlow" [("reason", flow.reason.inspect), ("record", flow.record.inspect)]

end FlowTracker
