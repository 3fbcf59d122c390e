import FlowTracker.Engine.Basic

/-!
# Packet workers

A worker decodes packets and keeps the flow table and the lifecycle queues current.  The parts of its
work are named programs: `Worker.find` asks the table, `Worker.revisit` accounts a packet to a flow
that the table names, `Worker.takeSpare` takes a free slot, `Worker.adopt` starts a flow in it.  Between
any two of them other parties may move, so `revisit` and `adopt` check again what was found before and
answer `retry` where it no longer holds; then the worker asks the table again.
-/

namespace FlowTracker

structure Packet where
  time : Timestamp
  frame : Octets
  deriving DecidableEq, Repr, Inhabited

def Packet.size (packet : Packet) : UInt64 := UInt64.ofNat packet.frame.length

structure Worker where
  id : Nat
  deriving DecidableEq, Repr, Inhabited

/-- A decoded packet on its way into the flow table. -/
structure Arrival where
  headers : Headers
  time : Timestamp
  size : UInt64
  deriving DecidableEq, Repr, Inhabited

def Arrival.key (arrival : Arrival) : FlowKey := arrival.headers.tuple.key

inductive Pass where
  | done
  /-- What the pass had found was changed by another party before it was locked. -/
  | retry (flow : FlowId)
  /-- There is no free slot; the manager was asked for a sweep. -/
  | starved
  deriving DecidableEq, Repr, Inhabited

namespace Worker

open Engine

/-! ### A known conversation -/

def find (arrival : Arrival) : EngineM (Option FlowId) :=
  return (← get).table.lookup arrival.key

/-- Accounts the arrival in the record that a slot holds, and answers the states before and after. -/
def account (arrival : Arrival) (flow : FlowId) (record : FlowRecord) :
    EngineM (FlowState × FlowState) := fun engine =>
  match FlowRecord.update arrival.headers arrival.time arrival.size record with
  | .ok before after =>
      .ok (before, after.state) { engine with table := engine.table.setRecord flow (some after) }
  | .error fault after =>
      .error fault { engine with table := engine.table.setRecord flow (some after) }

/-- Accounts the arrival to a flow, if the flow's slot still holds its conversation.  A flow that
changes state changes queues. -/
def revisit (worker : Worker) (arrival : Arrival) (flow : FlowId) : EngineM Pass :=
  locked flow do
    match (← slot flow).record with
    | none => return .retry flow
    | some record =>
      if record.key ≠ arrival.key then return .retry flow
      let (before, after) ← account arrival flow record
      if before ≠ after then
        onQueues (QueueM.requeue flow (some before.queue) after.queue)
        report (.stateChanged worker.id flow before after)
      return .done

/-! ### An unknown conversation -/

/-- Asks the manager for a sweep.  A request that is still pending counts for this one too. -/
def requestSweep : EngineM Unit :=
  modify fun engine => { engine with wakeRequested := true }

/-- Takes a free slot at once, or asks for a sweep. -/
def takeSpare : EngineM (Option FlowId) := do
  match ← onQueues (QueueM.dequeue spareQueue) with
  | some flow => return some flow
  | none =>
    requestSweep
    return none

/-- Takes a free slot when the wait for one ends. -/
def awaitSpare : EngineM (Option FlowId) := onQueues (QueueM.dequeue spareQueue)

def giveBack (flow : FlowId) : EngineM Unit := onQueues (QueueM.enqueue spareQueue flow)

/-- Binds the arrival's conversation to a slot and starts its record there; answers whether nobody
bound the conversation before. -/
def settle (arrival : Arrival) (flow : FlowId) : EngineM Bool :=
  locked flow do
    if !(← Engine.bind arrival.key flow) then return false
    let record ← check (FlowRecord.start arrival.headers arrival.time arrival.size)
    modifyTable (·.setRecord flow (some record))
    onQueues (QueueM.enqueue record.state.queue flow)
    return true

/-- Starts a flow in a slot that was taken, or gives the slot back if another worker was first. -/
def adopt (worker : Worker) (arrival : Arrival) (flow : FlowId) : EngineM Pass := do
  if ← settle arrival flow then
    modifyTotals fun totals => { totals with flowsCreated := totals.flowsCreated + 1 }
    report (.flowCreated worker.id flow)
    return .done
  else
    giveBack flow
    return .retry flow

def drop (worker : Worker) (arrival : Arrival) : EngineM Unit := do
  modifyTotals fun totals => { totals with tableFullDrops := totals.tableFullDrops + 1 }
  report (.tableFull worker.id arrival.headers.tuple)

/-! ### Packets -/

/-- One pass: accounts the arrival to its flow, or starts the flow if there is a free slot. -/
def pass (worker : Worker) (arrival : Arrival) : EngineM Pass := do
  match ← find arrival with
  | some flow => worker.revisit arrival flow
  | none =>
    match ← takeSpare with
    | some flow => worker.adopt arrival flow
    | none => return .starved

/-- Goes on after the wait for a free slot: starts the flow, or drops the packet. -/
def resume (worker : Worker) (arrival : Arrival) : EngineM Pass := do
  match ← awaitSpare with
  | some flow => worker.adopt arrival flow
  | none =>
    worker.drop arrival
    return .done

/-- The end of a pass while nobody else moves.  Nothing changes between two passes then, so a pass
that has to be repeated would be repeated without end. -/
def conclude : Pass → EngineM Unit
  | .retry flow => throw (.stalled flow)
  | _ => return ()

/-- Tracks an arrival while nobody else moves, not even during the wait for a free slot. -/
def track (worker : Worker) (arrival : Arrival) : EngineM Unit := do
  match ← worker.pass arrival with
  | .starved => conclude (← worker.resume arrival)
  | pass => conclude pass

/-- Counts a packet, moves the clock and decodes the frame; `none` for a frame that cannot be read. -/
def decode (worker : Worker) (packet : Packet) : EngineM (Option Arrival) := do
  modifyTotals (·.countPacket packet.size)
  let clock ← check ((← get).clock.advance packet.time)
  modify fun engine => { engine with clock }
  match Frame.headers packet.frame with
  | .ok headers => return some ⟨headers, packet.time, packet.size⟩
  | .error error =>
    modifyTotals fun totals => { totals with undecodable := totals.undecodable + 1 }
    report (.undecodable worker.id error)
    return none

def process (worker : Worker) (packet : Packet) : EngineM Unit := do
  match ← worker.decode packet with
  | some arrival => worker.track arrival
  | none => return ()

def processAll (worker : Worker) : List Packet → EngineM Unit
  | [] => return ()
  | packet :: rest => do
    worker.process packet
    worker.processAll rest

end Worker

end FlowTracker
