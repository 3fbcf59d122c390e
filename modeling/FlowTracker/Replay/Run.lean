import FlowTracker.Engine.Manager
import FlowTracker.Engine.Worker
import FlowTracker.Replay.Source

/-!
# Replays

A replay sends the packets of a source through a channel to the workers.  When the source ends or
fails the workers finish what the channel holds, then the manager releases every flow that is still
tracked, and only then are the queues torn down.  A failing source changes nothing of this order.

The schedule is the one in which the packets are handled in the order of the source, by the worker
of the lowest number that still runs, and the source is read as far ahead as the channel has room.
The manager sweeps only while a worker waits for a free slot, and at the end.
-/

namespace FlowTracker

structure ReplayPlan where
  workers : Nat
  /-- The packets that the channel between the source and the workers holds. -/
  channelCapacity : Nat
  maxFlows : Nat
  /-- How long a worker waits for a free slot. -/
  wait : Span
  manager : Manager
  deriving DecidableEq, Repr, Inhabited

inductive ReplayError where
  | source (error : CaptureError)
  | threadPanic (thread : String)
  deriving DecidableEq, Repr, Inhabited

def ReplayError.message : ReplayError → String
  | .source error => "packet source failed: " ++ error.message
  | .threadPanic thread => "thread " ++ thread ++ " panicked"

structure ReplayReport where
  sourcePackets : Nat
  sourceBytes : Nat
  totals : Totals
  deriving DecidableEq, Repr, Inhabited

structure Replay where
  source : Source
  engine : Engine
  /-- The workers that have stopped by a fault.  They stop in the order of their numbers. -/
  stopped : Nat
  /-- Whether the manager has not stopped by a fault. -/
  managed : Bool
  failure : Option CaptureError

namespace Replay

/-! ### Workers and manager -/

/-- Runs a program of the manager, unless a fault has stopped it before. -/
def onManager {α : Type} (program : EngineM α) (replay : Replay) : Replay :=
  if replay.managed then
    match program replay.engine with
    | .ok _ engine => { replay with engine }
    | .error _ engine => { replay with engine, managed := false }
  else replay

/-- Lets the manager sweep while a worker waits for a free slot. -/
def serve (plan : ReplayPlan) (replay : Replay) : Replay :=
  if plan.wait.isZero then replay else replay.onManager plan.manager.answer

/-- Runs a program of a worker; a fault stops the worker. -/
def onWorker {α : Type} (worker : Worker) (program : Worker → EngineM α) (replay : Replay) :
    Option α × Replay :=
  match program worker replay.engine with
  | .ok a engine => (some a, { replay with engine })
  | .error _ engine => (none, { replay with engine, stopped := replay.stopped + 1 })

/-- The part of a worker's program that comes before a wait for a free slot; the arrival is the one
that has to wait. -/
def begin (packet : Packet) (worker : Worker) : EngineM (Option Arrival) := do
  let some arrival ← worker.decode packet | return none
  match ← worker.pass arrival with
  | .starved => return some arrival
  | pass =>
    Worker.conclude pass
    return none

/-- The part of a worker's program that comes behind the wait. -/
def finish (arrival : Arrival) (worker : Worker) : EngineM Unit := do
  Worker.conclude (← worker.resume arrival)

def handle (plan : ReplayPlan) (worker : Worker) (replay : Replay) (packet : Packet) : Replay :=
  match replay.onWorker worker (begin packet) with
  | (some (some arrival), replay) => ((replay.serve plan).onWorker worker (finish arrival)).2
  | (_, replay) => replay

/-! ### The source -/

/-- Reads ahead when no worker is left.  The channel takes `room` more packets; the failure of the
source shows only if it comes before a packet that the channel has no room for. -/
def readAhead : (room : Nat) → Source → Option CaptureError
  | room, source =>
    match source.next with
    | .error error _ => some error
    | .ok none _ => none
    | .ok (some _) after =>
      match room with
      | 0 => none
      | room + 1 => readAhead room after

/-- Sends the packets of a source to the workers, until the source ends, fails, or no worker is
left. -/
def feed (plan : ReplayPlan) (source : Source) (replay : Replay) : Replay :=
  match _hnext : source.next with
  | .error error after => { replay with source := after, failure := some error }
  | .ok none after => { replay with source := after }
  | .ok (some packet) after =>
    if replay.stopped < plan.workers then
      let handled := replay.handle plan ⟨replay.stopped⟩ packet
      if handled.stopped < plan.workers then feed plan after handled
      else { handled with source := after, failure := readAhead plan.channelCapacity after }
    else { replay with source := after }
  termination_by source.size
  decreasing_by exact Source.size_next _hnext

/-! ### Shutdown -/

/-- Tells the manager to stop: it answers a request for a sweep that nobody waited for, and releases
what is left. -/
def stop (plan : ReplayPlan) (replay : Replay) : Replay := replay.onManager plan.manager.stop

/-- The outcome of a replay that is over: a failure of the source goes before a stopped worker, and
that before a stopped manager. -/
def outcome (replay : Replay) : Except ReplayError ReplayReport :=
  match replay.failure with
  | some error => .error (.source error)
  | none =>
    if 0 < replay.stopped then .error (.threadPanic "eddy-worker-0")
    else if !replay.managed then .error (.threadPanic "eddy-flow-manager")
    else .ok ⟨replay.source.packetCount, replay.source.byteCount, replay.engine.totals⟩

/-! ### Start -/

/-- The least room that a channel cannot have: its places are numbered by words, whose two highest
bits are taken. -/
def channelLimit : Nat := 0x4000000000000000

/-- The least number of octets that a store cannot have. -/
def storeLimit : Nat := 0x8000000000000000

/-- The octets that a packet takes in the channel, and a worker in the list of the workers. -/
def entrySize : Nat := 48

def checkRoom (plan : ReplayPlan) : Except Fault Unit := do
  if channelLimit ≤ plan.channelCapacity then throw .channelCapacity
  if storeLimit ≤ plan.channelCapacity * entrySize then throw .storeCapacity
  if storeLimit ≤ plan.workers * entrySize then throw .storeCapacity

def start (plan : ReplayPlan) (source : Source) : Except Fault Replay := do
  let engine ← Engine.fresh plan.maxFlows
  checkRoom plan
  return ⟨source, engine, 0, true, none⟩

def tearDown (replay : Replay) : Replay :=
  let engine := replay.engine
  { replay with engine := { engine with log := engine.log ++ engine.destroyEvents } }

def run (plan : ReplayPlan) (source : Source) : Except Fault Replay := do
  return ((feed plan source (← start plan source)).stop plan).tearDown

end Replay

end FlowTracker
