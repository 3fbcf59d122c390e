import FlowTracker.FlowRecord
import FlowTracker.Level

/-!
# Log events

What the engine reports while it runs.  An `Event` says what happened; `Event.name`, `Event.level`,
`Event.message` and `Event.fields` give it the form of a structured log line, in which every field is
text.
-/

namespace FlowTracker

inductive Event where
  | queueCreated (queue : String)
  | queueStats (queue : String) (length maxLength : Nat)
  | queueDestroyedNonEmpty (queue : String) (length : Nat)
  | queueDestroyed (queue : String) (maxLength : Nat)
  | undecodable (worker : Nat) (error : FrameError)
  | tableFull (worker : Nat) (tuple : FiveTuple)
  | flowCreated (worker : Nat) (flow : FlowId)
  | stateChanged (worker : Nat) (flow : FlowId) (before after : FlowState)
  | swept (reason : ReleaseReason) (now : UInt64) (examined busy released : Nat)
  | flushIncomplete (remaining bound : Nat)
  | exporterShutdownFailed (error : String)
  | managerStopped (flushed : Nat)
  | captureOpened (path : String)
  | captureEnded (path : String) (packets bytes skipped : Nat)
  | recordUnsupported (path : String) (type : UInt8)
  | recordFlagged (flags : UInt8)
  deriving DecidableEq, Repr

namespace Event

def name : Event → String
  | .queueCreated .. => "flow_queue.created"
  | .queueStats .. => "flow_queues.stats"
  | .queueDestroyedNonEmpty .. => "flow_queue.destroyed_non_empty"
  | .queueDestroyed .. => "flow_queue.destroyed"
  | .undecodable .. => "worker.packet_undecodable"
  | .tableFull .. => "worker.flow_table_full"
  | .flowCreated .. => "worker.flow_created"
  | .stateChanged .. => "worker.flow_state_changed"
  | .swept .. => "flow_manager.sweep"
  | .flushIncomplete .. => "flow_manager.flush_incomplete"
  | .exporterShutdownFailed .. => "flow_manager.exporter_shutdown_failed"
  | .managerStopped .. => "flow_manager.stopped"
  | .captureOpened .. => "source.erf.opened"
  | .captureEnded .. => "source.erf.end_of_file"
  | .recordUnsupported .. => "source.erf.unsupported_record"
  | .recordFlagged .. => "source.erf.record_error_flag"

def level : Event → Level
  | .queueCreated .. | .queueDestroyed .. | .undecodable .. | .flowCreated ..
  | .stateChanged .. => .trace
  | .queueStats .. | .tableFull .. | .swept .. | .recordFlagged .. => .debug
  | .managerStopped .. | .captureOpened .. | .captureEnded .. => .info
  | .queueDestroyedNonEmpty .. | .flushIncomplete .. | .exporterShutdownFailed ..
  | .recordUnsupported .. => .warn

def message : Event → String
  | .queueCreated .. => "flow queue created"
  | .queueStats .. => "flow queue stats"
  | .queueDestroyedNonEmpty .. => "flow queue destroyed while flows are still linked into it"
  | .queueDestroyed .. => "flow queue destroyed"
  | .undecodable .. => "skipping packet that could not be decoded"
  | .tableFull .. => "no spare flow slot, dropping packet"
  | .flowCreated .. => "new flow tracked"
  | .stateChanged .. => "flow changed lifecycle state"
  | .swept .. => "flow queues swept"
  | .flushIncomplete .. => "flows still tracked after the shutdown flush"
  | .exporterShutdownFailed .. => "flow exporter failed to shut down"
  | .managerStopped .. => "flow manager stopped"
  | .captureOpened .. => "processing erf file"
  | .captureEnded .. => "end of erf file reached"
  | .recordUnsupported .. => "erf record type not implemented, skipping record"
  | .recordFlagged .. => "erf record carries an error flag"

def fields : Event → List (String × String)
  | .queueCreated queue => [("queue.name", queue)]
  | .queueStats queue length maxLength =>
      [("queue.name", queue), ("queue.len", toString length),
        ("queue.max_len", toString maxLength)]
  | .queueDestroyedNonEmpty queue length =>
      [("queue.name", queue), ("queue.len", toString length)]
  | .queueDestroyed queue maxLength =>
      [("queue.name", queue), ("queue.max_len", toString maxLength)]
  | .undecodable worker error =>
      [("worker.id", toString worker), ("error", error.message)]
  | .tableFull worker tuple =>
      [("worker.id", toString worker), ("flow.tuple", tuple.inspect.inline)]
  | .flowCreated worker flow => [("worker.id", toString worker), ("flow.id", flow.label)]
  | .stateChanged worker flow before after =>
      [("worker.id", toString worker), ("flow.id", flow.label),
        ("flow.state.before", before.inspect.inline), ("flow.state.after", after.inspect.inline)]
  | .swept reason now examined busy released =>
      [("sweep.reason", reason.inspect.inline), ("sweep.now", toString now.toNat),
        ("sweep.examined", toString examined), ("sweep.busy", toString busy),
        ("sweep.released", toString released)]
  | .flushIncomplete remaining bound =>
      [("flows.remaining", toString remaining), ("flows.bound", toString bound)]
  | .exporterShutdownFailed error => [("error", error)]
  | .managerStopped flushed => [("flows.flushed", toString flushed)]
  | .captureOpened path => [("file.path", path)]
  | .captureEnded path packets bytes skipped =>
      [("file.path", path), ("packets", toString packets), ("bytes", toString bytes),
        ("skipped", toString skipped)]
  | .recordUnsupported path type =>
      [("file.path", path), ("erf.record_type", toString type.toNat)]
  | .recordFlagged flags => [("erf.flags", toString flags.toNat)]

end Event

end FlowTracker
