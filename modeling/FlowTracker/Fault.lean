import FlowTracker.Inspect

/-!
# Faults

An operation whose contract is broken stops where it is: what it changed before stays changed, and
the caller gets a `Fault` that names the broken contract.  Every checked sum, difference and product
of 64-bit words, every slot access and every queue transfer reports through this one type, so that
"this run breaks no contract" is a statement about one kind of error.
-/

namespace FlowTracker

/-- Handle of a flow slot: its index in the arena and in the payload store. -/
abbrev FlowId := Nat

def FlowId.label (flow : FlowId) : String := "flow#" ++ toString flow

/-- The contracts that an operation can break. -/
inductive Fault where
  | addOverflow
  | subOverflow
  | mulOverflow
  | spanOverflow
  /-- An arena would hold more slots than handles exist. -/
  | arenaCapacity (capacity : Nat)
  /-- A channel would have more room than its places can be numbered. -/
  | channelCapacity
  /-- A store would have more octets than can be addressed. -/
  | storeCapacity
  | outOfBounds (size index : Nat)
  /-- A flow is inserted into a queue while some queue still owns it. -/
  | alreadyQueued (flow : FlowId) (queue : String)
  /-- A flow is taken out of a queue that does not own it. -/
  | notMember (flow : FlowId) (queue : String)
  /-- A transfer from nowhere finds the flow linked. -/
  | stillLinked (flow : FlowId)
  /-- A transfer joins queues over different arenas. -/
  | foreignArena (source target : String)
  /-- The sweep meets a record in a queue of another lifecycle state. -/
  | wrongQueue (flow : FlowId)
  /-- A lock that nobody releases, or a retry that cannot succeed, is waited for. -/
  | stalled (flow : FlowId)
  /-- A text is to be cut behind a number of octets, inside of a character that starts before. -/
  | splitCharacter (octets : Nat) (character : Char) (start : Nat)
  | exporter
  deriving DecidableEq, Repr, Inhabited

def Fault.message : Fault → String
  | .addOverflow => "attempt to add with overflow"
  | .subOverflow => "attempt to subtract with overflow"
  | .mulOverflow => "attempt to multiply with overflow"
  | .spanOverflow => "overflow in Duration::new"
  | .arenaCapacity capacity =>
      "flow arena capacity " ++ toString capacity ++ " exceeds the handle range"
  | .channelCapacity => "bounded channel capacity is too large"
  | .storeCapacity => "capacity overflow"
  | .outOfBounds size index =>
      "index out of bounds: the len is " ++ toString size ++ " but the index is "
        ++ toString index
  | .alreadyQueued flow queue =>
      flow.label ++ " inserted into queue " ++ queue ++ " while still linked elsewhere"
  | .notMember flow queue =>
      "assertion `left == right` failed: " ++ flow.label ++ " is not a member of queue " ++ queue
  | .stillLinked flow => flow.label ++ " requeued without a source but is still linked"
  | .foreignArena source target =>
      "queues " ++ source ++ " and " ++ target ++ " do not share a flow arena"
  | .wrongQueue flow =>
      "assertion `left == right` failed: " ++ flow.label ++ " is queued under the wrong state"
  | .stalled flow => flow.label ++ " is waited for without end"
  | .splitCharacter octets c start =>
      "end byte index " ++ toString octets ++ " is not a char boundary; it is inside "
        ++ (Inspect.quotedCharacter c).inline ++ " (bytes " ++ toString start ++ ".."
        ++ toString (start + c.utf8Size) ++ " of string)"
  | .exporter => "the flow exporter failed"

end FlowTracker
