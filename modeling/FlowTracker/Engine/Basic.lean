import FlowTracker.FlowTable
import FlowTracker.Queue.Transfer
import FlowTracker.Queue.Walk

/-!
# The state that workers and manager share

An engine is a flow table, the four lifecycle queues over one arena, the packet clock and the running
totals.  Every slot is a member of exactly one queue, except while a worker or the manager has it in
hand: the spare queue holds the free slots, and each lifecycle state has a queue of its own.

The engine also keeps what leaves it: the wake-up request for the manager, the exported flows and the
log.
-/

namespace FlowTracker

/-! ### Totals -/

/-- Running totals.  They are counted modulo 2^64. -/
structure Totals where
  packets : UInt64
  bytes : UInt64
  maxPacketLength : UInt64
  undecodable : UInt64
  tableFullDrops : UInt64
  flowsCreated : UInt64
  flowsTimedOut : UInt64
  flowsFlushed : UInt64
  deriving DecidableEq, Repr, Inhabited

namespace Totals

def zero : Totals := ⟨0, 0, 0, 0, 0, 0, 0, 0⟩

def countPacket (totals : Totals) (size : UInt64) : Totals :=
  { totals with
    packets := totals.packets + 1
    bytes := totals.bytes + size
    maxPacketLength := max totals.maxPacketLength size }

/-- The mean packet length, rounded down; zero before the first packet. -/
def meanPacketLength (totals : Totals) : UInt64 :=
  if totals.packets = 0 then 0 else totals.bytes / totals.packets

def countReleased (totals : Totals) : ReleaseReason → Totals
  | .timeout => { totals with flowsTimedOut := totals.flowsTimedOut + 1 }
  | .shutdown => { totals with flowsFlushed := totals.flowsFlushed + 1 }

end Totals

/-! ### The packet clock -/

/-- The newest packet time in microseconds. -/
abbrev PacketClock := UInt64

namespace PacketClock

/-- The clock after a packet: it never goes back. -/
def advance (clock : PacketClock) (time : Timestamp) : Except Fault PacketClock :=
  return max clock (← time.toMicros)

def now (clock : PacketClock) : Timestamp := Timestamp.ofMicros clock

end PacketClock

/-! ### The engine -/

/-- A lifecycle queue or the queue of free slots. -/
abbrev QueueIndex := Fin 4

def spareQueue : QueueIndex := 3

def FlowState.queue : FlowState → QueueIndex
  | .new => 0
  | .established => 1
  | .closed => 2

/-- The lifecycle states in the order in which the manager visits their queues. -/
def FlowState.all : List FlowState := [.new, .established, .closed]

/-- The arena that all four queues share. -/
def flowArena : Fin 1 := 0

/-- All that workers and manager share. -/
structure Engine where
  table : FlowTable
  queues : QueueStore 1 4
  clock : PacketClock
  totals : Totals
  /-- Whether a worker has asked the manager for a sweep. -/
  wakeRequested : Bool
  /-- The flows that were exported, the newest last. -/
  exported : Array ReleasedFlow
  log : Array Event

abbrev EngineM := EStateM Fault Engine

namespace Engine

def onQueues {α : Type} (program : QueueM 1 4 α) : EngineM α := fun engine =>
  match program engine.queues with
  | .ok a queues => .ok a { engine with queues }
  | .error fault queues => .error fault { engine with queues }

def check {α : Type} (result : Except Fault α) : EngineM α :=
  match result with
  | .ok a => pure a
  | .error fault => throw fault

def modifyTable (change : FlowTable → FlowTable) : EngineM Unit :=
  modify fun engine => { engine with table := change engine.table }

/-- Binds a conversation to a slot; answers whether it was free. -/
def bind (key : FlowKey) (flow : FlowId) : EngineM Bool := do
  if ((← get).table.lookup key).isSome then return false
  modifyTable (·.insert key flow)
  return true

def modifyTotals (change : Totals → Totals) : EngineM Unit :=
  modify fun engine => { engine with totals := change engine.totals }

def report (event : Event) : EngineM Unit :=
  modify fun engine => { engine with log := engine.log.push event }

def slot (flow : FlowId) : EngineM Slot := do check ((← get).table.slot flow)

/-- Takes the payload lock of a flow.  A lock that somebody holds is not given back in the course of
one program, so waiting for it is a fault. -/
def lock (flow : FlowId) : EngineM Unit := do
  if (← slot flow).held then throw (.stalled flow)
  modifyTable (·.setHeld flow true)

/-- Runs a program under the payload lock of a flow; the lock is given back whatever happens. -/
def locked {α : Type} (flow : FlowId) (program : EngineM α) : EngineM α := do
  lock flow
  fun engine =>
    match program engine with
    | .ok a engine => .ok a { engine with table := engine.table.setHeld flow false }
    | .error fault engine =>
        .error fault { engine with table := engine.table.setHeld flow false }

def tracked (engine : Engine) : Nat :=
  FlowState.all.foldl (fun n state => n + (engine.queues.queue state.queue).length) 0

/-! ### A fresh engine -/

def freshQueues (capacity : Nat) : Except Fault (QueueStore 1 4) := do
  let arena ← QueueStore.empty.addArena capacity
  return (((arena.addQueue "new" 0).addQueue "established" 0).addQueue "closed" 0).addQueue "spare" 0

def fillSpare : List FlowId → QueueM 1 4 Unit
  | [] => pure ()
  | flow :: rest => do
    QueueM.enqueue spareQueue flow
    fillSpare rest

/-- An engine of empty slots, all of them spare. -/
def fresh (capacity : Nat) : Except Fault Engine := do
  let queues ← freshQueues capacity
  match fillSpare (queues.flows flowArena) queues with
  | .error fault _ => .error fault
  | .ok () queues =>
    return {
      table := .ofCapacity capacity
      queues
      clock := 0
      totals := .zero
      wakeRequested := false
      exported := #[]
      log := #[] }

/-- The events of tearing the engine's queues down: their statistics, then their ends. -/
def destroyEvents (engine : Engine) : List Event :=
  let all : List QueueIndex := [0, 1, 2, 3]
  (all.map fun q =>
    let queue := engine.queues.queue q
    .queueStats queue.name queue.length queue.maxLength)
    ++ all.flatMap engine.queues.destroyEvents

end Engine

end FlowTracker
