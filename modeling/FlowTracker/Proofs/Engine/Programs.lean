import FlowTracker.Proofs.Engine.Phases
import FlowTracker.Proofs.Engine.Records
import FlowTracker.Proofs.Engine.Times
import FlowTracker.Engine.Worker

/-!
# Running engine programs

What each primitive of an engine program answers and leaves, for the engine that it is run on.  With
these equations the programs of workers and of the manager are run step by step; none of them says
anything about which engines can be reached.
-/

namespace FlowTracker

/-- A program that comes to its end does so part by part. -/
theorem run_bind_eq_ok {ε σ α β : Type} {x : EStateM ε σ α} {f : α → EStateM ε σ β} {b : β}
    {s s'' : σ} (h : (x >>= f).run s = .ok b s'') :
    ∃ a s', x.run s = .ok a s' ∧ (f a).run s' = .ok b s'' := by
  rw [EStateM.run_bind] at h
  cases hx : x.run s with
  | ok a s' =>
    rw [hx] at h
    exact ⟨a, s', rfl, h⟩
  | error fault s' =>
    rw [hx] at h
    cases h

end FlowTracker

namespace FlowTracker.Engine

open EStateM

variable {α : Type} {engine engine' engine'' : Engine} {flow : FlowId} {fault : Fault}

def withTable (engine : Engine) (table : FlowTable) : Engine := { engine with table }

def withQueues (engine : Engine) (queues : QueueStore 1 4) : Engine := { engine with queues }

theorem table_withTable (engine : Engine) (table : FlowTable) :
    (engine.withTable table).table = table := rfl

theorem withTable_withTable (engine : Engine) (table table' : FlowTable) :
    (engine.withTable table).withTable table' = engine.withTable table' := rfl

theorem withQueues_self (engine : Engine) : engine.withQueues engine.queues = engine := rfl

theorem run_onQueues (engine : Engine) {program : QueueM 1 4 α} {a : α}
    {queues : QueueStore 1 4} (h : program.run engine.queues = .ok a queues) :
    (onQueues program).run engine = .ok a (engine.withQueues queues) := by
  unfold EStateM.run at h
  unfold EStateM.run onQueues
  rw [h]
  rfl

theorem run_onQueues_eq_ok {program : QueueM 1 4 α} {a : α}
    (h : (onQueues program).run engine = .ok a engine') :
    ∃ queues, program.run engine.queues = .ok a queues ∧ engine' = engine.withQueues queues := by
  unfold EStateM.run onQueues at h
  cases hrun : program engine.queues with
  | ok a' queues =>
    rw [hrun] at h
    obtain ⟨rfl, rfl⟩ := EStateM.Result.ok.inj h
    exact ⟨queues, hrun, rfl⟩
  | error fault queues =>
    rw [hrun] at h
    cases h

theorem run_check_ok {result : Except Fault α} {a : α} (h : result = .ok a) :
    (check result).run engine = .ok a engine := by
  rw [h]
  rfl

theorem run_check_error {result : Except Fault α} (h : result = .error fault) :
    (check result).run engine = .error fault engine := by
  rw [h]
  rfl

theorem run_modifyTable (change : FlowTable → FlowTable) :
    (modifyTable change).run engine = .ok () (engine.withTable (change engine.table)) := rfl

theorem run_modifyTotals (change : Totals → Totals) :
    (modifyTotals change).run engine = .ok () { engine with totals := change engine.totals } := rfl

theorem run_report (event : Event) :
    (report event).run engine = .ok () { engine with log := engine.log.push event } := rfl

theorem run_slot (hlt : flow < engine.table.capacity) :
    (slot flow).run engine
      = .ok ⟨engine.table.recordAt flow, engine.table.heldAt flow⟩ engine := by
  simp only [slot, run_bind, run_get, run_check_ok (FlowTable.slot_of_lt hlt)]

/-! ### Payload locks -/

def withHeld (engine : Engine) (flow : FlowId) (held : Bool) : Engine :=
  engine.withTable (engine.table.setHeld flow held)

theorem run_lock (hlt : flow < engine.table.capacity) (hfree : engine.table.heldAt flow = false) :
    (lock flow).run engine = .ok () (engine.withHeld flow true) := by
  simp only [lock, run_bind, run_slot hlt, hfree, Bool.false_eq_true, if_false, run_modifyTable]
  rfl

theorem run_lock_held (hlt : flow < engine.table.capacity)
    (hheld : engine.table.heldAt flow = true) :
    (lock flow).run engine = .error (.stalled flow) engine := by
  simp only [lock, run_bind, run_slot hlt, hheld, if_true, run_throw]

theorem run_locked_eq (flow : FlowId) (program : EngineM α) (engine : Engine) :
    (locked flow program).run engine = match (lock flow).run engine with
      | .ok () engine =>
        match program.run engine with
        | .ok a engine => .ok a (engine.withHeld flow false)
        | .error fault engine => .error fault (engine.withHeld flow false)
      | .error fault engine => .error fault engine := by
  unfold EStateM.run locked
  show EStateM.bind (lock flow) _ engine = _
  unfold EStateM.bind
  cases lock flow engine with
  | ok u engine =>
    show (match program engine with
      | .ok a engine => Result.ok a (engine.withHeld flow false)
      | .error fault engine => .error fault (engine.withHeld flow false)) = _
    rfl
  | error fault engine => rfl

/-- A payload lock is given back at the end. -/
theorem run_locked {program : EngineM α} {a : α} (hlock : (lock flow).run engine = .ok () engine')
    (hrun : program.run engine' = .ok a engine'') :
    (locked flow program).run engine = .ok a (engine''.withHeld flow false) := by
  rw [run_locked_eq, hlock]
  simp only [hrun]

/-- A payload lock is given back after a fault too. -/
theorem run_locked_error {program : EngineM α} (hlock : (lock flow).run engine = .ok () engine')
    (hrun : program.run engine' = .error fault engine'') :
    (locked flow program).run engine = .error fault (engine''.withHeld flow false) := by
  rw [run_locked_eq, hlock]
  simp only [hrun]

theorem run_locked_eq_ok {program : EngineM α} {a : α}
    (h : (locked flow program).run engine = .ok a engine') :
    ∃ engine₁ engine₂, (lock flow).run engine = .ok () engine₁
      ∧ program.run engine₁ = .ok a engine₂ ∧ engine' = engine₂.withHeld flow false := by
  rw [run_locked_eq] at h
  cases hlock : (lock flow).run engine with
  | error fault engine₁ =>
    rw [hlock] at h
    cases h
  | ok _ engine₁ =>
    rw [hlock] at h
    cases hrun : program.run engine₁ with
    | error fault engine₂ => simp only [hrun, reduceCtorEq] at h
    | ok a' engine₂ =>
      simp only [hrun, EStateM.Result.ok.injEq] at h
      obtain ⟨rfl, rfl⟩ := h
      exact ⟨engine₁, engine₂, rfl, hrun, rfl⟩

/-! ### Bindings -/

theorem run_bind_free (flow : FlowId) {key : FlowKey} (h : engine.table.lookup key = none) :
    (Engine.bind key flow).run engine
      = .ok true (engine.withTable (engine.table.insert key flow)) := by
  simp only [Engine.bind, EStateM.run_bind, run_get, h, Option.isSome_none, Bool.false_eq_true,
    if_false, run_modifyTable, run_pure]

theorem run_bind_bound {key : FlowKey} {holder : FlowId}
    (h : engine.table.lookup key = some holder) :
    (Engine.bind key flow).run engine = .ok false engine := by
  simp only [Engine.bind, EStateM.run_bind, run_get, h, Option.isSome_some, if_true, run_pure]

/-! ### Transfers within the one arena -/

theorem run_transfer {source target : QueueIndex} {queues queues' queues'' : QueueStore 1 4}
    (hdetach : (QueueM.detach source flow).run queues = .ok () queues')
    (happend : (QueueM.append target flow).run queues' = .ok () queues'') :
    (QueueM.transfer source target flow).run queues = .ok () queues'' := by
  have hsame : ((queues.queue source).arena == (queues.queue target).arena) = true := by
    rw [Subsingleton.elim (queues.queue source).arena (queues.queue target).arena]
    exact beq_self_eq_true _
  simp only [QueueM.transfer, EStateM.run_bind, QueueM.run_queue, QueueM.run_require, hsame,
    if_true, hdetach, happend]

end FlowTracker.Engine

namespace FlowTracker.Worker

open EStateM

variable {engine : Engine} {arrival : Arrival} {flow : FlowId} {record : FlowRecord}

theorem run_find : (find arrival).run engine = .ok (engine.table.lookup arrival.key) engine := rfl

theorem run_account (engine : Engine) (flow : FlowId)
    (hroom : (record.direction arrival.headers).HasRoom arrival.size) :
    (account arrival flow record).run engine
      = .ok (record.state, (record.counted arrival.headers arrival.time arrival.size).state)
          (engine.withTable (engine.table.setRecord flow
            (some (record.counted arrival.headers arrival.time arrival.size)))) := by
  have hrun := FlowRecord.update_of_hasRoom arrival.time hroom
  unfold EStateM.run at hrun
  unfold EStateM.run account
  rw [hrun]
  rfl

theorem run_account_full (engine : Engine) (flow : FlowId)
    (hfull : ¬ (record.direction arrival.headers).HasRoom arrival.size) :
    ∃ record', (account arrival flow record).run engine
        = .error .addOverflow (engine.withTable (engine.table.setRecord flow (some record')))
      ∧ (FlowRecord.update arrival.headers arrival.time arrival.size).run record
        = .error .addOverflow record'
      ∧ record'.state = record.state ∧ record'.tuple = record.tuple
      ∧ record'.lastSeen = record.lastSeen := by
  obtain ⟨record', hrun, hsame⟩ := FlowRecord.update_of_not_hasRoom arrival.time hfull
  refine ⟨record', ?_, hrun, hsame⟩
  unfold EStateM.run at hrun
  unfold EStateM.run account
  rw [hrun]
  rfl

end FlowTracker.Worker
