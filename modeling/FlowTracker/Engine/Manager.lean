import FlowTracker.Engine.Basic

/-!
# The flow manager

The manager ages out idle flows, exports them and returns their slots to the spare queue.  A sweep
visits each lifecycle queue once from the bottom.  While it looks at a flow it holds the queue, so it
only tries the payload lock: a flow that somebody works on, and a flow that stays, is rotated to the
top so that the next one can be reached.  A manager that is told to stop leaves no request for a sweep
unanswered: it sweeps for idle flows first, and then releases all that is left.
-/

namespace FlowTracker

/-- How long a flow of each state may stay without packets. -/
structure Timeouts where
  new : Span
  established : Span
  closed : Span
  deriving DecidableEq, Repr, Inhabited

def Timeouts.of (timeouts : Timeouts) : FlowState → Span
  | .new => timeouts.new
  | .established => timeouts.established
  | .closed => timeouts.closed

structure Exporter where
  /-- How many flows it takes before it gives up; `none` if it never does. -/
  limit : Option Nat
  /-- What it answers when it is told to shut down; `none` if it shuts down well. -/
  shutdownError : Option String
  deriving DecidableEq, Repr, Inhabited

/-- An exporter that takes every flow and shuts down well. -/
def Exporter.reliable : Exporter := ⟨none, none⟩

structure Manager where
  timeouts : Timeouts
  exporter : Exporter
  deriving DecidableEq, Repr, Inhabited

structure Sweep where
  examined : Nat
  /-- Flows that were passed over because their payload lock was held. -/
  busy : Nat
  released : Nat
  deriving DecidableEq, Repr, Inhabited

/-- What a sweep has met so far. -/
structure Harvest where
  examined : Nat
  busy : Nat
  /-- The records taken out of their slots, the newest first. -/
  records : List FlowRecord
  deriving DecidableEq, Repr, Inhabited

def Harvest.empty : Harvest := ⟨0, 0, []⟩

inductive Visit where
  /-- The queue has no bottom flow. -/
  | nothing
  | busy
  | kept
  /-- The flow is taken out of the queue; its slot held this record. -/
  | taken (flow : FlowId) (record : Option FlowRecord)
  deriving DecidableEq, Repr, Inhabited

namespace Manager

open Engine

/-! ### One flow -/

/-- Whether a sweep leaves a record in its place. -/
def keeps (manager : Manager) (reason : ReleaseReason) (now : Timestamp) (record : FlowRecord) :
    Except Fault Bool :=
  match reason with
  | .shutdown => .ok false
  | .timeout => return !(← record.isIdle now (manager.timeouts.of record.state))

/-- Empties a slot, unbinds its conversation and takes the flow out of its queue. -/
def takeOut (q : QueueIndex) (flow : FlowId) (record : Option FlowRecord) : EngineM Unit := do
  modifyTable (·.setRecord flow none)
  if let some record := record then
    modifyTable (·.unbind record.key flow)
  onQueues (QueueM.detach q flow)

/-- The part of a visit that holds the queue of `state`.  A flow that is taken out stays locked. -/
def inspectBottom (manager : Manager) (reason : ReleaseReason) (now : Timestamp)
    (state : FlowState) : EngineM Visit := do
  match (← onQueues (QueueM.queue state.queue)).bottom with
  | none => return .nothing
  | some flow =>
    let slot ← slot flow
    if slot.held then
      let _ ← onQueues (QueueM.rotate state.queue)
      return .busy
    if let some record := slot.record then
      if record.state ≠ state then throw (.wrongQueue flow)
      if ← check (manager.keeps reason now record) then
        let _ ← onQueues (QueueM.rotate state.queue)
        return .kept
    takeOut state.queue flow slot.record
    lock flow
    return .taken flow slot.record

/-- Returns a slot that was taken out to the spare queue and gives its payload lock back. -/
def putAside (flow : FlowId) : EngineM Unit := fun engine =>
  match onQueues (QueueM.append spareQueue flow) engine with
  | .ok () engine => .ok () { engine with table := engine.table.setHeld flow false }
  | .error fault engine =>
      .error fault { engine with table := engine.table.setHeld flow false }

def visit (manager : Manager) (reason : ReleaseReason) (now : Timestamp) (state : FlowState) :
    EngineM Visit := do
  let visit ← manager.inspectBottom reason now state
  if let .taken flow _ := visit then
    putAside flow
  return visit

/-! ### A sweep -/

/-- Visits the queue of `state` as often as `visits` says, or until it is empty. -/
def sweepQueue (manager : Manager) (reason : ReleaseReason) (now : Timestamp)
    (state : FlowState) : (visits : Nat) → Harvest → EngineM Harvest
  | 0, harvest => return harvest
  | visits + 1, harvest => do
    let harvest' := { harvest with examined := harvest.examined + 1 }
    match ← manager.visit reason now state with
    | .nothing => return harvest
    | .busy =>
      manager.sweepQueue reason now state visits { harvest' with busy := harvest'.busy + 1 }
    | .kept => manager.sweepQueue reason now state visits harvest'
    | .taken _ record =>
      manager.sweepQueue reason now state visits
        { harvest' with records := record.toList ++ harvest'.records }

/-- Visits every lifecycle queue as often as it is long. -/
def sweepQueues (manager : Manager) (reason : ReleaseReason) (now : Timestamp) :
    List FlowState → Harvest → EngineM Harvest
  | [], harvest => return harvest
  | state :: rest, harvest => do
    let visits := (← onQueues (QueueM.queue state.queue)).length
    manager.sweepQueues reason now rest
      (← manager.sweepQueue reason now state visits harvest)

def release (manager : Manager) (flow : ReleasedFlow) : EngineM Unit := do
  modifyTotals (·.countReleased flow.reason)
  match manager.exporter.limit with
  | none => modify fun engine => { engine with exported := engine.exported.push flow }
  | some limit =>
    if (← get).exported.size < limit then
      modify fun engine => { engine with exported := engine.exported.push flow }
    else throw .exporter

def releaseAll (manager : Manager) : List ReleasedFlow → EngineM Unit
  | [] => return ()
  | flow :: rest => do
    manager.release flow
    manager.releaseAll rest

/-- Visits every tracked flow once.  A timeout sweep releases the idle flows, a shutdown sweep all of
them; the released flows are exported when all queues have been visited. -/
def sweep (manager : Manager) (reason : ReleaseReason) : EngineM Sweep := do
  let clock := (← get).clock
  let harvest ← manager.sweepQueues reason clock.now FlowState.all .empty
  let released := harvest.records.reverse.map (ReleasedFlow.mk reason)
  manager.releaseAll released
  report (.swept reason clock harvest.examined harvest.busy released.length)
  return ⟨harvest.examined, harvest.busy, released.length⟩

/-- Sweeps if a worker has asked for it. -/
def answer (manager : Manager) : EngineM Unit := do
  if (← get).wakeRequested then
    modify fun engine => { engine with wakeRequested := false }
    let _ ← manager.sweep .timeout

/-- Releases every flow that is still tracked and shuts the exporter down. -/
def flush (manager : Manager) : EngineM Unit := do
  let sweep ← manager.sweep .shutdown
  let engine ← get
  if engine.tracked ≠ 0 ∨ engine.table.activeCount ≠ 0 then
    report (.flushIncomplete engine.tracked engine.table.activeCount)
  if let some error := manager.exporter.shutdownError then
    report (.exporterShutdownFailed error)
  report (.managerStopped sweep.released)

/-- Ends a manager that is told to stop.  A request for a sweep that is waiting by then is still
answered, before the rest is released. -/
def stop (manager : Manager) : EngineM Unit := do
  manager.answer
  manager.flush

def sweepRepeatedly (manager : Manager) : (times : Nat) → EngineM Unit
  | 0 => return ()
  | times + 1 => do
    let _ ← manager.sweep .timeout
    manager.sweepRepeatedly times

/-- A manager that is woken `times` times and then told to stop.  Nobody but its own caller wakes it:
what the workers have asked for stays asked for. -/
def run (manager : Manager) (times : Nat) : EngineM Unit := do
  manager.sweepRepeatedly times
  manager.flush

end Manager

end FlowTracker
