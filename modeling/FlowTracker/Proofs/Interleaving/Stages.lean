import FlowTracker.Proofs.Engine.Consistency

/-!
# Workers and managers in steps

Between two steps of a worker or a manager others may move.  A `Stage` is what a party has in hand
between two of its steps, and `Stage.advance` is its next step, made of the same primitives as
`Worker.track` and `Manager.sweep`: whatever one queue lock or one table access covers is one step, and
taking and giving back a payload lock are steps of their own.  A party that runs alone goes through
`Worker.track` and `Manager.sweep` (`Stage.run_track`, `Stage.run_sweep` in the module on lone
parties).
-/

namespace FlowTracker

/-! ### Tours of a manager -/

structure Tour where
  manager : Manager
  reason : ReleaseReason
  /-- The clock at the start. -/
  clock : PacketClock
  /-- The queues that are not done; the first is the one that is being visited. -/
  states : List FlowState
  /-- How often that queue is still to be visited. -/
  visits : Nat
  harvest : Harvest

def Harvest.after (harvest : Harvest) : Visit → Harvest
  | .nothing => harvest
  | .busy => { harvest with examined := harvest.examined + 1, busy := harvest.busy + 1 }
  | .kept => { harvest with examined := harvest.examined + 1 }
  | .taken _ record =>
    { harvest with
      examined := harvest.examined + 1
      records := record.toList ++ harvest.records }

namespace Tour

def start (manager : Manager) (reason : ReleaseReason) (clock : PacketClock) : Tour :=
  ⟨manager, reason, clock, FlowState.all, 0, .empty⟩

def next (tour : Tour) : Tour := { tour with states := tour.states.tail, visits := 0 }

def after (tour : Tour) (visit : Visit) : Tour :=
  { tour with visits := tour.visits - 1, harvest := tour.harvest.after visit }

def released (tour : Tour) : List ReleasedFlow :=
  tour.harvest.records.reverse.map (ReleasedFlow.mk tour.reason)

end Tour

/-! ### Stages -/

/-- What a party has in hand between two of its steps. -/
inductive Stage where
  | idle
  /-- Is about to ask the table. -/
  | seeking (arrival : Arrival)
  /-- The table has named the slot; its payload is not locked yet. -/
  | found (arrival : Arrival) (flow : FlowId)
  /-- Has the payload lock and is about to look at the record. -/
  | holding (arrival : Arrival) (flow : FlowId)
  /-- Has changed the record's state and is about to take the flow out of the old queue. -/
  | moving (flow : FlowId) (before after : FlowState)
  /-- Is about to put the flow into the new queue. -/
  | placing (flow : FlowId) (before after : FlowState)
  /-- Is about to give the payload lock back and is done then. -/
  | leaving (flow : FlowId)
  /-- The slot has another conversation or none; the payload lock is to be given back. -/
  | missing (arrival : Arrival) (flow : FlowId)
  /-- Is about to take a spare slot. -/
  | needing (arrival : Arrival)
  /-- Has asked for a sweep and waits for a spare slot. -/
  | waiting (arrival : Arrival)
  | dropping (arrival : Arrival)
  /-- Has taken a spare slot; its payload is not locked yet. -/
  | taken (arrival : Arrival) (flow : FlowId)
  /-- Has the payload lock and is about to bind the conversation. -/
  | binding (arrival : Arrival) (flow : FlowId)
  /-- Is about to put a record into the slot. -/
  | storing (arrival : Arrival) (flow : FlowId)
  | publishing (flow : FlowId) (record : FlowRecord)
  /-- Has published the flow and is about to give the payload lock back. -/
  | created (flow : FlowId)
  | counting (flow : FlowId)
  /-- The conversation was bound before; the payload lock is to be given back. -/
  | refused (arrival : Arrival) (flow : FlowId)
  /-- Is about to give the slot back. -/
  | returning (arrival : Arrival) (flow : FlowId)
  /-- Is about to read how long the next queue is. -/
  | opening (tour : Tour)
  /-- Is about to visit the bottom of a queue. -/
  | visiting (tour : Tour)
  /-- Has emptied a slot and is about to put it into the spare queue. -/
  | aside (tour : Tour) (flow : FlowId)
  | unlocking (tour : Tour) (flow : FlowId)
  /-- Is about to hand flows over. -/
  | releasing (tour : Tour) (flows : List ReleasedFlow)

namespace Stage

/-- The slot that is in the party's hand and in no settled phase. -/
def hand : Stage → Option FlowId
  | moving flow _ _ | placing flow _ _ | taken _ flow | binding _ flow | storing _ flow
  | publishing flow _ | refused _ flow | returning _ flow | aside _ flow => some flow
  | _ => none

/-- The slot that is in the party's hand and in no queue. -/
def carried : Stage → Option FlowId
  | moving .. => none
  | stage => stage.hand

/-- The slot whose payload lock the party holds. -/
def lock : Stage → Option FlowId
  | holding _ flow | moving flow _ _ | placing flow _ _ | leaving flow | missing _ flow
  | binding _ flow | storing _ flow | publishing flow _ | created flow | refused _ flow
  | aside _ flow | unlocking _ flow => some flow
  | _ => none

/-- The slot whose payload lock the next step waits for. -/
def wants : Stage → Option FlowId
  | found _ flow | taken _ flow => some flow
  | _ => none

/-- The arrival that is neither accounted nor dropped yet. -/
def arrival : Stage → Option Arrival
  | seeking arrival | found arrival _ | holding arrival _ | missing arrival _ | needing arrival
  | waiting arrival | dropping arrival | taken arrival _ | binding arrival _ | storing arrival _
  | refused arrival _ | returning arrival _ => some arrival
  | _ => none

/-- The flows that were taken out and not handed over yet. -/
def pending : Stage → List ReleasedFlow
  | opening tour | visiting tour | aside tour _ | unlocking tour _ => tour.released
  | releasing _ flows => flows
  | _ => []

open Engine Worker

def unlock (flow : FlowId) : EngineM Unit := modifyTable (·.setHeld flow false)

def advance (worker : Worker) : Stage → EngineM Stage
  | idle => return idle
  | seeking arrival => do
    match ← find arrival with
    | some flow => return found arrival flow
    | none => return needing arrival
  | found arrival flow => do
    Engine.lock flow
    return holding arrival flow
  | holding arrival flow => do
    match (← slot flow).record with
    | none => return missing arrival flow
    | some record =>
      if record.key ≠ arrival.key then return missing arrival flow
      let (before, after) ← account arrival flow record
      return if before ≠ after then moving flow before after else leaving flow
  | moving flow before after => do
    onQueues (QueueM.detach before.queue flow)
    return placing flow before after
  | placing flow before after => do
    onQueues (QueueM.append after.queue flow)
    report (.stateChanged worker.id flow before after)
    return leaving flow
  | leaving flow => do
    unlock flow
    return idle
  | missing arrival flow => do
    unlock flow
    return seeking arrival
  | needing arrival => do
    match ← takeSpare with
    | some flow => return taken arrival flow
    | none => return waiting arrival
  | waiting arrival => do
    match ← awaitSpare with
    | some flow => return taken arrival flow
    | none => return dropping arrival
  | dropping arrival => do
    worker.drop arrival
    return idle
  | taken arrival flow => do
    Engine.lock flow
    return binding arrival flow
  | binding arrival flow => do
    if ← Engine.bind arrival.key flow then return storing arrival flow
    else return refused arrival flow
  | storing arrival flow => do
    let record ← check (FlowRecord.start arrival.headers arrival.time arrival.size)
    modifyTable (·.setRecord flow (some record))
    return publishing flow record
  | publishing flow record => do
    onQueues (QueueM.enqueue record.state.queue flow)
    return created flow
  | created flow => do
    unlock flow
    return counting flow
  | counting flow => do
    modifyTotals fun totals => { totals with flowsCreated := totals.flowsCreated + 1 }
    report (.flowCreated worker.id flow)
    return idle
  | refused arrival flow => do
    unlock flow
    return returning arrival flow
  | returning arrival flow => do
    giveBack flow
    return seeking arrival
  | opening tour =>
    match tour.states with
    | [] => return releasing tour tour.released
    | state :: _ => do
      let visits := (← onQueues (QueueM.queue state.queue)).length
      return visiting { tour with visits }
  | visiting tour =>
    match tour.states, tour.visits with
    | state :: _, _ + 1 => do
      match ← tour.manager.inspectBottom tour.reason tour.clock.now state with
      | .nothing => return opening tour.next
      | .taken flow record => return aside (tour.after (.taken flow record)) flow
      | visit => return visiting (tour.after visit)
    | _, _ => return opening tour.next
  | aside tour flow => do
    onQueues (QueueM.append spareQueue flow)
    return unlocking tour flow
  | unlocking tour flow => do
    unlock flow
    return visiting tour
  | releasing tour flows =>
    match flows with
    | [] => do
      report (.swept tour.reason tour.clock tour.harvest.examined tour.harvest.busy
        tour.released.length)
      return idle
    | flow :: rest => do
      tour.manager.release flow
      return releasing tour rest

/-- The answer of the table decides what comes next. -/
theorem run_seeking (worker : Worker) (arrival : Arrival) (engine : Engine) :
    ((seeking arrival).advance worker).run engine
      = .ok (match engine.table.lookup arrival.key with
        | some flow => found arrival flow
        | none => needing arrival) engine := by
  show (do
    match ← find arrival with
    | some flow => return found arrival flow
    | none => return needing arrival : EngineM Stage).run engine = _
  rw [EStateM.run_bind, run_find]
  cases engine.table.lookup arrival.key with
  | some flow => rfl
  | none => rfl

end Stage

end FlowTracker
