import FlowTracker.Engine.Manager
import FlowTracker.Engine.Worker

/-!
# What other parties do in between

A worker looks something up, and before it acts on the answer other parties may move.  This module
holds the single moves of such parties, and three runs of one worker in which such moves fall exactly
between two of its steps: another worker starts the same flow first, a free slot turns up during the
wait, and the flow that was looked up is recycled before its slot is locked.
-/

namespace FlowTracker.Engine

/-! ### Single moves -/

/-- Takes the payload lock of a flow for a party that keeps it. -/
def hold (flow : FlowId) : EngineM Unit := do
  let _ ← slot flow
  modifyTable (·.setHeld flow true)

/-- Gives a payload lock back; answers whether it was held. -/
def unhold (flow : FlowId) : EngineM Bool := do
  let slot ← slot flow
  modifyTable (·.setHeld flow false)
  return slot.held

/-- Takes the request for a sweep; answers whether there was one. -/
def takeWakeUp : EngineM Bool := do
  let woken := (← get).wakeRequested
  modify fun engine => { engine with wakeRequested := false }
  return woken

/-- Empties a slot and leaves it in its queue; answers whether its conversation was unbound. -/
def evict (flow : FlowId) : EngineM Bool := do
  match (← slot flow).record with
  | none => return false
  | some record =>
    modifyTable (·.setRecord flow none)
    let bound := (← get).table.isBound record.key flow
    modifyTable (·.unbind record.key flow)
    return bound

/-- Overwrites the state of the record in a slot, and nothing else. -/
def overwriteState (flow : FlowId) (state : FlowState) : EngineM Unit := do
  let slot ← slot flow
  modifyTable (·.setRecord flow (slot.record.map fun record => { record with state }))

/-- Starts a flow for the arrival in a slot that was taken before, as another worker would, but
without counting it. -/
def startElsewhere (arrival : Arrival) (flow : FlowId) : EngineM Unit := do
  let _ ← Worker.settle arrival flow

/-- Empties the slot of a flow, moves it to the spare queue and unbinds its conversation. -/
def recycle (flow : FlowId) : EngineM Unit := do
  match (← slot flow).record with
  | none => return ()
  | some record =>
    modifyTable (·.setRecord flow none)
    onQueues (QueueM.requeue flow (some record.state.queue) spareQueue)
    modifyTable (·.unbind record.key flow)

/-! ### Runs with a move in between

The answer of such a run is whether the worker came to its end.  A fault in what the worker does ends
the worker; a fault in what another party does in between ends the run.
-/

/-- Runs a part of what a worker does; nothing if it ends in a fault. -/
def attempt {α : Type} (program : EngineM α) : EngineM (Option α) := fun engine =>
  match program engine with
  | .ok a engine => .ok (some a) engine
  | .error _ engine => .ok none engine

/-- Goes on with a slot that a worker waited for: starts the flow, or asks the table again if another
worker was first. -/
def settleIn (worker : Worker) (arrival : Arrival) : EngineM Unit := do
  match ← Worker.awaitSpare with
  | none => worker.drop arrival
  | some flow =>
    match ← worker.adopt arrival flow with
    | .retry _ => worker.track arrival
    | _ => return ()

/-- A worker waits for a slot.  Its request for a sweep is the cue for the others: another worker
starts the same flow in the slot `taken`, and `free` becomes spare.  The worker takes `free`, finds
the conversation bound, gives the slot back and accounts the packet to the other worker's flow. -/
def raceCreate (worker : Worker) (packet : Packet) (taken free : FlowId) : EngineM Bool := do
  let _ ← takeWakeUp
  let some arrival ← attempt (worker.decode packet) | return false
  let some arrival := arrival | return true
  let some _ ← attempt Worker.takeSpare | return false
  let _ ← takeWakeUp
  startElsewhere arrival taken
  Worker.giveBack free
  return (← attempt (settleIn worker arrival)).isSome

/-- A worker waits for a slot.  On its request for a sweep `free` becomes spare, and is used. -/
def raceWait (worker : Worker) (packet : Packet) (free : FlowId) : EngineM Bool := do
  let _ ← takeWakeUp
  let some arrival ← attempt (worker.decode packet) | return false
  let some arrival := arrival | return true
  let some _ ← attempt Worker.takeSpare | return false
  let _ ← takeWakeUp
  Worker.giveBack free
  return (← attempt (settleIn worker arrival)).isSome

/-- A worker looks a flow up; before it locks the slot the flow is recycled.  The worker finds the
slot empty and starts the flow anew. -/
def raceRecycle (worker : Worker) (packet : Packet) : EngineM Bool := do
  let some arrival ← attempt (worker.decode packet) | return false
  let some arrival := arrival | return true
  match ← Worker.find arrival with
  | none => return (← attempt (worker.track arrival)).isSome
  | some flow =>
    recycle flow
    let retried ← attempt do
      match ← worker.revisit arrival flow with
      | .retry _ => worker.track arrival
      | _ => return ()
    return retried.isSome

end FlowTracker.Engine
