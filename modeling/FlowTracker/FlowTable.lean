import FlowTracker.FlowRecord
import Std.Data.HashMap

/-!
# The flow table

Fixed slots for records, and the table that says which slot a conversation is bound to.  A slot and
the cell of the same index in the queue arena have one handle.  Each slot has a lock of its own:
`held` says that some party is working on the payload.
-/

namespace FlowTracker

structure Slot where
  /-- The tracked conversation; `none` while the slot is spare. -/
  record : Option FlowRecord
  /-- Whether some party holds the payload lock. -/
  held : Bool
  deriving DecidableEq, Repr, Inhabited

def Slot.spare : Slot := ⟨none, false⟩

/-- The slots and the bindings of conversations to them. -/
structure FlowTable where
  slots : Array Slot
  bindings : Std.HashMap FlowKey FlowId

namespace FlowTable

def ofCapacity (capacity : Nat) : FlowTable :=
  ⟨Array.replicate capacity .spare, ∅⟩

def capacity (table : FlowTable) : Nat := table.slots.size

/-! ### Bindings -/

def lookup (table : FlowTable) (key : FlowKey) : Option FlowId := table.bindings[key]?

/-- Binds a conversation to a slot, whatever it was bound to before. -/
def insert (table : FlowTable) (key : FlowKey) (flow : FlowId) : FlowTable :=
  { table with bindings := table.bindings.insert key flow }

/-- Binds a conversation to a slot, unless it is bound already; then the answer is its slot. -/
def bind (table : FlowTable) (key : FlowKey) (flow : FlowId) : Except FlowId FlowTable :=
  match table.lookup key with
  | some holder => .error holder
  | none => .ok (table.insert key flow)

/-- Whether a conversation is bound to this very slot. -/
def isBound (table : FlowTable) (key : FlowKey) (flow : FlowId) : Bool :=
  table.lookup key == some flow

/-- Removes the binding of a conversation if it is to this slot. -/
def unbind (table : FlowTable) (key : FlowKey) (flow : FlowId) : FlowTable :=
  if table.isBound key flow then { table with bindings := table.bindings.erase key } else table

def activeCount (table : FlowTable) : Nat := table.bindings.size

/-! ### Slots -/

def slot (table : FlowTable) (flow : FlowId) : Except Fault Slot :=
  match table.slots[flow]? with
  | some slot => .ok slot
  | none => .error (.outOfBounds table.capacity flow)

def setRecord (table : FlowTable) (flow : FlowId) (record : Option FlowRecord) : FlowTable :=
  { table with slots := table.slots.modify flow fun slot => { slot with record } }

def setHeld (table : FlowTable) (flow : FlowId) (held : Bool) : FlowTable :=
  { table with slots := table.slots.modify flow fun slot => { slot with held } }

end FlowTable

end FlowTracker
