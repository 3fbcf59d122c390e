import FlowTracker.Engine.Interference
import FlowTracker.Proofs.Engine.Keeps
import FlowTracker.Proofs.Engine.Process
import FlowTracker.Proofs.Interleaving.Alone

/-!
# Races

`Engine.raceCreate`, `Engine.raceWait` and `Engine.raceRecycle` write one interleaving each out as a
program.  Each of them is a run of a `System`: what happens in between are steps of parties that have a
slot in hand, or visit the queue that the flow is in.  No step reads the request for a sweep, so that a
manager takes it is no move (`System.woken`).

Two workers that start one flow at the same time end with both packets in one record
(`System.run_rivals`).
-/

namespace FlowTracker

open Engine EStateM EngineM

namespace FlowTable

/-- A payload lock that is taken and given back. -/
theorem setHeld_setHeld (table : FlowTable) {flow : FlowId} (hfree : table.heldAt flow = false) :
    (table.setHeld flow true).setHeld flow false = table := by
  have hslots : ((table.setHeld flow true).setHeld flow false).slots = table.slots := by
    apply Array.ext_getElem?
    intro i
    simp only [setHeld, Array.getElem?_modify]
    by_cases hi : flow = i
    · subst hi
      cases hslot : table.slots[flow]? with
      | none => simp
      | some slot =>
        have hheld : slot.held = false := by simpa [heldAt, hslot] using hfree
        simp [← hheld]
    · simp [hi]
  exact congrArg (FlowTable.mk · table.bindings) hslots

end FlowTable

namespace Engine

variable {engine engine' : Engine}

theorem run_attempt_eq_ok {α : Type} {program : EngineM α} {a : α}
    (h : (attempt program).run engine = .ok (some a) engine') : program.run engine = .ok a engine' := by
  unfold EStateM.run attempt at h
  unfold EStateM.run
  cases hrun : program engine with
  | ok a' engine₁ =>
    rw [hrun] at h
    cases h
    rfl
  | error fault engine₁ =>
    rw [hrun] at h
    cases h

theorem run_attempt_ok {α : Type} {program : EngineM α} {a : α}
    (h : program.run engine = .ok a engine') : (attempt program).run engine = .ok (some a) engine' := by
  unfold EStateM.run at h
  unfold EStateM.run attempt
  rw [h]

/-- A run that ends well does so up to its last part. -/
theorem run_attempt_isSome {program : EngineM Unit}
    (h : (do return (← attempt program).isSome : EngineM Bool).run engine = .ok true engine') :
    program.run engine = .ok () engine' := by
  obtain ⟨ended, engine₁, hattempt, hrun⟩ := run_bind_eq_ok h
  obtain ⟨hsome, rfl⟩ := EStateM.Result.ok.inj hrun
  cases ended with
  | none => cases hsome
  | some _ => exact run_attempt_eq_ok hattempt

/-- The request for a sweep is taken. -/
def woken (engine : Engine) : Engine := { engine with wakeRequested := false }

section

variable {worker : Worker} {packet : Packet} {arrival : Arrival} {decoded : Engine}
  {taken free : FlowId}

theorem run_takeSpare_none (engine : Engine)
    (hempty : (QueueM.dequeue spareQueue).run engine.queues = .ok none engine.queues) :
    Worker.takeSpare.run engine = .ok none { engine with wakeRequested := true } := by
  have htake := run_onQueues engine hempty
  rw [withQueues_self] at htake
  simp only [Worker.takeSpare, run_bind, htake, Worker.requestSweep, run_modify, run_pure]

/-- A slot that was found never makes a worker wait. -/
theorem revisit_ne_starved {flow : FlowId} {pass : Pass}
    (h : (worker.revisit arrival flow).run engine = .ok pass engine') : pass ≠ .starved := by
  have hfree : TableFree fun _ => True := ⟨fun _ _ _ _ _ => trivial⟩
  have hkeeps : Keeps (worker.revisit arrival flow) (fun _ => True) (· ≠ .starved) :=
    hfree.keeps_revisit fun _ _ => Keeps.onQueues _ fun _ _ _ => trivial
  exact (hkeeps engine pass engine' trivial h).1

/-- While the worker waits, another one starts the flow, and a slot becomes spare. -/
theorem run_raceCreate_eq_ok
    (hdecode : (worker.decode packet).run engine.woken = .ok (some arrival) decoded)
    (hempty : (QueueM.dequeue spareQueue).run decoded.queues = .ok none decoded.queues)
    (h : (raceCreate worker packet taken free).run engine = .ok true engine') :
    ∃ bound engine₁ engine₂, (Worker.settle arrival taken).run decoded.woken = .ok bound engine₁
      ∧ (Worker.giveBack free).run engine₁ = .ok () engine₂
      ∧ (settleIn worker arrival).run engine₂ = .ok () engine' := by
  obtain ⟨woke, engine₁, hwoken, h⟩ := run_bind_eq_ok h
  cases hwoken
  obtain ⟨read, engine₂, hread, h⟩ := run_bind_eq_ok h
  cases (run_attempt_ok hdecode).symm.trans hread
  obtain ⟨spare, engine₃, hspare, h⟩ := run_bind_eq_ok h
  cases (run_attempt_ok (run_takeSpare_none _ hempty)).symm.trans hspare
  obtain ⟨woke', engine₄, hwoken, h⟩ := run_bind_eq_ok h
  cases hwoken
  obtain ⟨⟨⟩, engine₅, hstart, h⟩ := run_bind_eq_ok h
  obtain ⟨bound, engine₆, hsettle, hstart⟩ := run_bind_eq_ok hstart
  cases hstart
  obtain ⟨⟨⟩, engine₇, hback, h⟩ := run_bind_eq_ok h
  exact ⟨bound, engine₅, engine₇, hsettle, hback, run_attempt_isSome h⟩

/-- While the worker waits, a slot becomes spare. -/
theorem run_raceWait_eq_ok
    (hdecode : (worker.decode packet).run engine.woken = .ok (some arrival) decoded)
    (hempty : (QueueM.dequeue spareQueue).run decoded.queues = .ok none decoded.queues)
    (h : (raceWait worker packet free).run engine = .ok true engine') :
    ∃ engine₁, (Worker.giveBack free).run decoded.woken = .ok () engine₁
      ∧ (settleIn worker arrival).run engine₁ = .ok () engine' := by
  obtain ⟨woke, engine₁, hwoken, h⟩ := run_bind_eq_ok h
  cases hwoken
  obtain ⟨read, engine₂, hread, h⟩ := run_bind_eq_ok h
  cases (run_attempt_ok hdecode).symm.trans hread
  obtain ⟨spare, engine₃, hspare, h⟩ := run_bind_eq_ok h
  cases (run_attempt_ok (run_takeSpare_none _ hempty)).symm.trans hspare
  obtain ⟨woke', engine₄, hwoken, h⟩ := run_bind_eq_ok h
  cases hwoken
  obtain ⟨⟨⟩, engine₅, hback, h⟩ := run_bind_eq_ok h
  exact ⟨engine₅, hback, run_attempt_isSome h⟩

/-- Before the worker locks the slot that it has found, the slot is emptied. -/
theorem run_raceRecycle_eq_ok {flow : FlowId}
    (hdecode : (worker.decode packet).run engine = .ok (some arrival) decoded)
    (hlookup : decoded.table.lookup arrival.key = some flow)
    (h : (raceRecycle worker packet).run engine = .ok true engine') :
    ∃ pass engine₁ engine₂, (recycle flow).run decoded = .ok () engine₁
      ∧ (worker.revisit arrival flow).run engine₁ = .ok pass engine₂
      ∧ ((∃ flow, pass = .retry flow) ∧ (worker.track arrival).run engine₂ = .ok () engine'
        ∨ pass = .done ∧ engine' = engine₂) := by
  obtain ⟨read, engine₂, hread, h⟩ := run_bind_eq_ok h
  cases (run_attempt_ok hdecode).symm.trans hread
  obtain ⟨named, engine₃, hfind, h⟩ := run_bind_eq_ok h
  rw [Worker.run_find, hlookup] at hfind
  cases hfind
  obtain ⟨⟨⟩, engine₄, hrecycle, h⟩ := run_bind_eq_ok h
  obtain ⟨pass, engine₅, hrevisit, h⟩ := run_bind_eq_ok (run_attempt_isSome h)
  refine ⟨pass, engine₄, engine₅, hrecycle, hrevisit, ?_⟩
  cases pass with
  | done =>
    cases h
    exact Or.inr ⟨rfl, rfl⟩
  | retry flow => exact Or.inl ⟨⟨flow, rfl⟩, h⟩
  | starved => exact absurd rfl (revisit_ne_starved hrevisit)

end

end Engine

namespace Stage

variable {worker : Worker} {arrival : Arrival} {engine engine' : Engine} {flow : FlowId}

/-- What a worker does that has waited for a slot. -/
theorem alone_settleIn (h : (settleIn worker arrival).run engine = .ok () engine') :
    Alone worker (waiting arrival, engine) (idle, engine') := by
  obtain ⟨spare, engine₁, hawait, hrun⟩ := run_bind_eq_ok h
  cases spare with
  | none =>
    have hwaiting : ((waiting arrival).advance worker).run engine
        = .ok (dropping arrival) engine₁ := by
      simp only [advance, run_bind, hawait, run_pure]
    have hdropping : ((dropping arrival).advance worker).run engine₁ = .ok idle engine' := by
      simp only [advance, run_bind, hrun, run_pure]
    exact .step hwaiting (.step hdropping .done)
  | some flow =>
    have hwaiting : ((waiting arrival).advance worker).run engine
        = .ok (taken arrival flow) engine₁ := by
      simp only [advance, run_bind, hawait, run_pure]
    obtain ⟨pass, engine₂, hadopt, hrun⟩ := run_bind_eq_ok hrun
    refine .step hwaiting ((alone_adopt hadopt).trans ?_)
    cases pass with
    | done =>
      cases hrun
      exact .done
    | retry flow => exact run_track hrun
    | starved => exact absurd rfl (adopt_ne_starved hadopt)

/-- A slot that is recycled is the bottom of its queue for a manager who takes it. -/
theorem alone_recycle {tour : Tour} {states : List FlowState} {visits : Nat} {record : FlowRecord}
    (hstates : tour.states = record.state :: states) (hvisits : tour.visits = visits + 1)
    (hbottom : (engine.queues.queue record.state.queue).bottom = some flow)
    (hrecord : engine.table.recordAt flow = some record)
    (hfree : engine.table.heldAt flow = false)
    (hkeeps : tour.manager.keeps tour.reason tour.clock.now record = .ok false)
    (h : (recycle flow).run engine = .ok () engine') :
    Alone worker (visiting tour, engine)
      (visiting (tour.after (.taken flow (some record))), engine') := by
  have hlt := FlowTable.lt_capacity_of_recordAt hrecord
  obtain ⟨table, htable⟩ : ∃ table, (engine.table.setRecord flow none).unbind record.key flow
      = table := ⟨_, rfl⟩
  have hlt' : flow < table.capacity := by
    rwa [← htable, FlowTable.capacity_unbind, FlowTable.capacity_setRecord]
  have hfree' : table.heldAt flow = false := by
    rwa [← htable, FlowTable.heldAt_unbind, FlowTable.heldAt_setRecord]
  have hslot := run_slot hlt
  rw [hrecord, hfree] at hslot
  -- the slot is emptied, and the flow leaves its queue for the spare queue
  simp only [recycle, run_bind, hslot, run_modifyTable] at h
  obtain ⟨⟨⟩, engine₁, hrequeue, hrun⟩ : ∃ a engine₁,
      (onQueues (QueueM.requeue flow (some record.state.queue) spareQueue)).run
        (engine.withTable (engine.table.setRecord flow none)) = .ok a engine₁
      ∧ engine' = engine₁.withTable (engine₁.table.unbind record.key flow) := by
    split at h
    · rename_i hrequeue
      cases h
      exact ⟨_, _, hrequeue, rfl⟩
    · cases h
  obtain ⟨engine₂, hout, hin⟩ := run_requeue_eq_ok hrequeue
  obtain ⟨queues, hdetach, rfl⟩ := run_onQueues_eq_ok hout
  obtain ⟨queues', happend, rfl⟩ := run_onQueues_eq_ok hin
  obtain rfl : engine' = (engine.withTable table).withQueues queues' := by
    rw [hrun, ← htable]
    rfl
  -- a manager does the same with the payload lock in its hand
  have hqueue := run_onQueues engine (QueueM.run_queue record.state.queue)
  rw [withQueues_self] at hqueue
  have hmove := run_onQueues (engine.withTable table) hdetach
  have hlock : (Engine.lock flow).run ((engine.withTable table).withQueues queues)
      = .ok () (((engine.withTable table).withQueues queues).withHeld flow true) :=
    run_lock hlt' hfree'
  have hvisiting : ((visiting tour).advance worker).run engine
      = .ok (aside (tour.after (.taken flow (some record))) flow)
        (((engine.withTable table).withQueues queues).withHeld flow true) := by
    simp only [advance, hstates, hvisits, run_bind, Manager.inspectBottom, hqueue, hbottom, hslot,
      Bool.false_eq_true, if_false, ne_eq, not_true, run_check_ok hkeeps, Manager.takeOut,
      run_modifyTable, withTable_withTable, table_withTable, htable, hmove, hlock, run_pure]
  have haside : ((aside (tour.after (.taken flow (some record))) flow).advance worker).run
      (((engine.withTable table).withQueues queues).withHeld flow true)
        = .ok (unlocking (tour.after (.taken flow (some record))) flow)
          (((engine.withTable table).withQueues queues').withHeld flow true) := by
    have hput := run_onQueues (((engine.withTable table).withQueues queues).withHeld flow true) happend
    simp only [advance, run_bind, hput, run_pure]
    rfl
  have hunlocking : ((unlocking (tour.after (.taken flow (some record))) flow).advance worker).run
      (((engine.withTable table).withQueues queues').withHeld flow true)
        = .ok (visiting (tour.after (.taken flow (some record))))
          ((engine.withTable table).withQueues queues') := by
    simp only [advance, Stage.unlock, run_bind, run_modifyTable, run_pure]
    rw [show (((engine.withTable table).withQueues queues').withHeld flow true).table
      = table.setHeld flow true from rfl, FlowTable.setHeld_setHeld table hfree']
    rfl
  exact .step hvisiting (.step haside (.step hunlocking .done))

end Stage

namespace System

variable {n : Nat} {system next : System n} {move : Move n} {party : Fin n} {engine' : Engine}

/-! ### Questions -/

theorem run_two {first : System n} {move' : Move n} (h : first.step move = .ok system)
    (h' : system.step move' = .ok next) : first.run [move, move'] = .ok next := by
  rw [run_cons h, run_cons h']
  rfl

theorem step_of_stage {system : System n} {engine engine' : Engine} {stage next : Stage}
    (hstage : system.stage party = stage) (hengine : system.engine = engine)
    (h : (stage.advance ⟨party⟩).run engine = .ok next engine') :
    system.step (.work party) = .ok (system.become party engine' next) := by
  subst hstage hengine
  exact step_work h

/-- A party asks the table about a conversation. -/
theorem run_asking (system : System n) (hidle : system.stage party = .idle) {packet : Packet}
    {headers : Headers} {clock : PacketClock}
    (hclock : system.engine.clock.advance packet.time = .ok clock)
    (hheaders : Frame.headers packet.frame = .ok headers) :
    ∃ asked, system.run [.arrive party packet, .work party] = .ok asked
      ∧ asked.engine = AtRest.clocked system.engine packet clock
      ∧ asked.stage party = (match system.engine.table.lookup headers.tuple.key with
        | some flow => .found ⟨headers, packet.time, packet.size⟩ flow
        | none => .needing ⟨headers, packet.time, packet.size⟩)
      ∧ ∀ other, other ≠ party → asked.stage other = system.stage other := by
  have hdecode := AtRest.run_decode_ok system.engine ⟨party⟩ packet hclock hheaders
  have hseek := Stage.run_seeking ⟨party⟩ ⟨headers, packet.time, packet.size⟩
    (AtRest.clocked system.engine packet clock)
  let arrived : System n :=
    { system.become party (AtRest.clocked system.engine packet clock)
        (.seeking ⟨headers, packet.time, packet.size⟩) with
      arrived := ⟨headers, packet.time, packet.size⟩ ::ₘ system.arrived }
  have harrive : system.step (.arrive party packet) = .ok arrived := by
    simp only [step, hidle, hdecode]
    rfl
  have harrived : arrived.stage party = .seeking ⟨headers, packet.time, packet.size⟩ :=
    stage_become system party arrived.engine _
  refine ⟨arrived.become party arrived.engine _, ?_, rfl, stage_become .., ?_⟩
  · exact run_two harrive (step_of_stage harrived rfl hseek)
  · intro other hne
    rw [stage_become_of_ne _ _ _ hne]
    exact stage_become_of_ne system arrived.engine _ hne

/-! ### Races written out -/

/-- A party that knows of no flow waits for a slot if none is spare. -/
theorem run_waiting (system : System n) (hidle : system.stage party = .idle) {packet : Packet}
    {headers : Headers} {clock : PacketClock}
    (hclock : system.engine.clock.advance packet.time = .ok clock)
    (hheaders : Frame.headers packet.frame = .ok headers)
    (hunbound : system.engine.table.lookup headers.tuple.key = none)
    (hempty : (QueueM.dequeue spareQueue).run system.engine.queues = .ok none system.engine.queues) :
    ∃ waiting, system.run [.arrive party packet, .work party, .work party] = .ok waiting
      ∧ waiting.engine.woken = (AtRest.clocked system.engine packet clock).woken
      ∧ waiting.stage party = .waiting ⟨headers, packet.time, packet.size⟩
      ∧ ∀ other, other ≠ party → waiting.stage other = system.stage other := by
  obtain ⟨asked, hasking, hengine, hstage, hothers⟩ := run_asking system hidle hclock hheaders
  rw [hunbound] at hstage
  have htake := run_takeSpare_none asked.engine (by rw [hengine]; exact hempty)
  have hwait : ((Stage.needing ⟨headers, packet.time, packet.size⟩).advance ⟨party⟩).run asked.engine
      = .ok (.waiting ⟨headers, packet.time, packet.size⟩)
        { asked.engine with wakeRequested := true } := by
    simp only [Stage.advance, run_bind, htake, run_pure]
  refine ⟨asked.become party { asked.engine with wakeRequested := true } _, ?_, ?_, stage_become ..,
    fun other hne => ?_⟩
  · exact (run_append hasking [.work party]).trans (run_cons (step_of_stage hstage rfl hwait) [])
  · rw [← hengine]
    rfl
  · rw [stage_become_of_ne _ _ _ hne]
    exact hothers other hne

/-- The manager has taken the request for a sweep. -/
def woken (system : System n) : System n := { system with engine := system.engine.woken }

variable {worker rival keeper : Fin n} {packet : Packet} {headers : Headers} {clock : PacketClock}
  {other : Arrival} {taken free : FlowId}

/-- A party gives a slot back, and the worker that waits for one goes on alone. -/
theorem run_given (system : System n) {arrival : Arrival} {engine₁ : Engine} (hkeeper : keeper ≠ worker)
    (hreturning : system.stage keeper = .returning other free)
    (hwaiting : system.stage worker = .waiting arrival)
    (hback : (Worker.giveBack free).run system.engine = .ok () engine₁)
    (hsettle : (settleIn ⟨worker⟩ arrival).run engine₁ = .ok () engine') :
    ∃ times reached,
      system.run (.work keeper :: List.replicate times (.work worker)) = .ok reached
        ∧ reached.engine = engine' ∧ reached.stage worker = .idle := by
  have hreturn : ((Stage.returning other free).advance ⟨keeper⟩).run system.engine
      = .ok (.seeking other) engine₁ := by
    simp only [Stage.advance, run_bind, hback, run_pure]
  have hwaiting' : (system.become keeper engine₁ (.seeking other)).stage worker = .waiting arrival := by
    rw [stage_become_of_ne _ _ _ hkeeper.symm]
    exact hwaiting
  obtain ⟨times, hrun⟩ := run_of_alone _ (Stage.alone_settleIn hsettle) hwaiting' rfl
  exact ⟨times, _, (run_cons (step_of_stage hreturning rfl hreturn) _).trans hrun, rfl,
    stage_become ..⟩

/-- `Engine.raceWait` is a run in which a third party, that has `free` in hand, gives it back once the
worker waits. -/
theorem run_raceWait (hkeeper : keeper ≠ worker) (hidle : system.stage worker = .idle)
    (hreturning : system.stage keeper = .returning other free)
    (hclock : system.engine.clock.advance packet.time = .ok clock)
    (hheaders : Frame.headers packet.frame = .ok headers)
    (hunbound : system.engine.table.lookup headers.tuple.key = none)
    (hempty : (QueueM.dequeue spareQueue).run system.engine.queues = .ok none system.engine.queues)
    (h : (raceWait ⟨worker⟩ packet free).run system.engine = .ok true engine') :
    ∃ waiting times reached,
      system.woken.run [.arrive worker packet, .work worker, .work worker] = .ok waiting
      ∧ waiting.stage worker = .waiting ⟨headers, packet.time, packet.size⟩
      ∧ waiting.woken.run (.work keeper :: List.replicate times (.work worker)) = .ok reached
      ∧ reached.engine = engine' ∧ reached.stage worker = .idle := by
  obtain ⟨waiting, hwait, hengine, hwaiting, hothers⟩ :=
    run_waiting system.woken hidle hclock hheaders hunbound hempty
  obtain ⟨engine₁, hback, hsettle⟩ := run_raceWait_eq_ok
    (AtRest.run_decode_ok system.engine.woken ⟨worker⟩ packet hclock hheaders) hempty h
  rw [show (AtRest.clocked system.engine.woken packet clock).woken = waiting.engine.woken from
    hengine.symm] at hback
  obtain ⟨times, reached, hrun, hreached, hdone⟩ := run_given waiting.woken hkeeper
    ((hothers keeper hkeeper).trans hreturning) hwaiting hback hsettle
  exact ⟨waiting, times, reached, hwait, hwaiting, hrun, hreached, hdone⟩

/-- `Engine.raceCreate` is a run in which, once the worker waits, another worker starts the same flow in
the slot that it has taken, and a third party gives `free` back.  The other worker has not counted the
flow yet. -/
theorem run_raceCreate (hrival : rival ≠ worker) (hkeeper : keeper ≠ worker)
    (hapart : keeper ≠ rival) (hidle : system.stage worker = .idle)
    (htaken : system.stage rival = .taken ⟨headers, packet.time, packet.size⟩ taken)
    (hreturning : system.stage keeper = .returning other free)
    (hclock : system.engine.clock.advance packet.time = .ok clock)
    (hheaders : Frame.headers packet.frame = .ok headers)
    (hunbound : system.engine.table.lookup headers.tuple.key = none)
    (hempty : (QueueM.dequeue spareQueue).run system.engine.queues = .ok none system.engine.queues)
    (h : (raceCreate ⟨worker⟩ packet taken free).run system.engine = .ok true engine') :
    ∃ waiting times times' reached,
      system.woken.run [.arrive worker packet, .work worker, .work worker] = .ok waiting
      ∧ waiting.stage worker = .waiting ⟨headers, packet.time, packet.size⟩
      ∧ waiting.woken.run (List.replicate times (.work rival)
        ++ .work keeper :: List.replicate times' (.work worker)) = .ok reached
      ∧ reached.engine = engine' ∧ reached.stage worker = .idle := by
  obtain ⟨waiting, hwait, hengine, hwaiting, hothers⟩ :=
    run_waiting system.woken hidle hclock hheaders hunbound hempty
  obtain ⟨bound, engine₁, engine₂, hstart, hback, hsettle⟩ := run_raceCreate_eq_ok
    (AtRest.run_decode_ok system.engine.woken ⟨worker⟩ packet hclock hheaders) hempty h
  rw [show (AtRest.clocked system.engine.woken packet clock).woken = waiting.engine.woken from
    hengine.symm] at hstart
  have hstarting : Stage.Alone ⟨rival⟩ _ _ := Stage.alone_settle hstart
  -- where the other worker is then does not matter
  generalize (if bound then Stage.counting taken else .returning _ taken) = started at hstarting
  obtain ⟨times, hstarted⟩ := run_of_alone waiting.woken hstarting
    ((hothers rival hrival).trans htaken) rfl
  have hreturning' : (waiting.woken.become rival engine₁ started).stage keeper
      = .returning other free := by
    rw [stage_become_of_ne _ _ _ hapart]
    exact (hothers keeper hkeeper).trans hreturning
  obtain ⟨times', reached, hrun, hreached, hdone⟩ := run_given _ hkeeper hreturning'
    ((stage_become_of_ne _ _ _ hrival.symm).trans hwaiting) hback hsettle
  exact ⟨waiting, times, times', reached, hwait, hwaiting, (run_append hstarted _).trans hrun,
    hreached, hdone⟩

/-- `Engine.raceRecycle` is a run in which, once the worker has found its flow, a manager takes the flow
out of the queue that it visits. -/
theorem run_raceRecycle {sweeper : Fin n} {tour : Tour} {states : List FlowState} {visits : Nat}
    {flow : FlowId} {record : FlowRecord} (hsweeper : sweeper ≠ worker)
    (hidle : system.stage worker = .idle) (hvisiting : system.stage sweeper = .visiting tour)
    (hstates : tour.states = record.state :: states) (hvisits : tour.visits = visits + 1)
    (hkeeps : tour.manager.keeps tour.reason tour.clock.now record = .ok false)
    (hbottom : (system.engine.queues.queue record.state.queue).bottom = some flow)
    (hrecord : system.engine.table.recordAt flow = some record)
    (hfree : system.engine.table.heldAt flow = false)
    (hclock : system.engine.clock.advance packet.time = .ok clock)
    (hheaders : Frame.headers packet.frame = .ok headers)
    (hbound : system.engine.table.lookup headers.tuple.key = some flow)
    (h : (raceRecycle ⟨worker⟩ packet).run system.engine = .ok true engine') :
    ∃ times times' reached, system.run ([.arrive worker packet, .work worker]
        ++ (List.replicate times (.work sweeper) ++ List.replicate times' (.work worker)))
        = .ok reached
      ∧ reached.engine = engine' ∧ reached.stage worker = .idle := by
  obtain ⟨asked, hasking, hengine, hfound, hothers⟩ := run_asking system hidle hclock hheaders
  rw [hbound] at hfound
  obtain ⟨pass, engine₁, engine₂, hrecycle, hrevisit, hends⟩ := run_raceRecycle_eq_ok
    (AtRest.run_decode_ok system.engine ⟨worker⟩ packet hclock hheaders) hbound h
  rw [← hengine] at hrecycle
  have htaking : Stage.Alone ⟨sweeper⟩ (.visiting tour, asked.engine) _ :=
    Stage.alone_recycle hstates hvisits (by rw [hengine]; exact hbottom)
      (by rw [hengine]; exact hrecord) (by rw [hengine]; exact hfree) hkeeps hrecycle
  obtain ⟨times, htaken⟩ := run_of_alone asked htaking ((hothers sweeper hsweeper).trans hvisiting) rfl
  have hhandling : Stage.Alone ⟨worker⟩
      (.found ⟨headers, packet.time, packet.size⟩ flow, engine₁) (.idle, engine') := by
    refine (Stage.alone_revisit hrevisit).trans ?_
    rcases hends with ⟨⟨flow, rfl⟩, htrack⟩ | ⟨rfl, rfl⟩
    · exact Stage.run_track htrack
    · exact .done
  obtain ⟨times', hhandled⟩ := run_of_alone _ hhandling
    ((stage_become_of_ne _ _ _ hsweeper.symm).trans hfound) rfl
  exact ⟨times, times', _, (run_append hasking _).trans ((run_append htaken _).trans hhandled), rfl,
    stage_become ..⟩

/-! ### Two workers and one flow -/

/-- A party that knows of no flow takes a spare slot. -/
theorem run_taking (system : System n) (hidle : system.stage party = .idle)
    (hclock : system.engine.clock.advance packet.time = .ok clock)
    (hheaders : Frame.headers packet.frame = .ok headers)
    (hunbound : system.engine.table.lookup headers.tuple.key = none) {flow : FlowId}
    {queues : QueueStore 1 4}
    (hspare : (QueueM.dequeue spareQueue).run system.engine.queues = .ok (some flow) queues) :
    ∃ took, system.run [.arrive party packet, .work party, .work party] = .ok took
      ∧ took.engine = (AtRest.clocked system.engine packet clock).withQueues queues
      ∧ took.stage party = .taken ⟨headers, packet.time, packet.size⟩ flow
      ∧ ∀ other, other ≠ party → took.stage other = system.stage other := by
  obtain ⟨asked, hasking, hengine, hstage, hothers⟩ := run_asking system hidle hclock hheaders
  rw [hunbound] at hstage
  have hdequeue := run_onQueues (AtRest.clocked system.engine packet clock) hspare
  rw [← hengine] at hdequeue
  have htake : ((Stage.needing ⟨headers, packet.time, packet.size⟩).advance ⟨party⟩).run asked.engine
      = .ok (.taken ⟨headers, packet.time, packet.size⟩ flow) (asked.engine.withQueues queues) := by
    simp only [Stage.advance, run_bind, Worker.takeSpare, hdequeue, run_pure]
  refine ⟨asked.become party (asked.engine.withQueues queues) _, ?_, ?_, stage_become ..,
    fun other hne => ?_⟩
  · exact (run_append hasking [.work party]).trans (run_cons (step_of_stage hstage rfl htake) [])
  · rw [← hengine]
    rfl
  · rw [stage_become_of_ne _ _ _ hne]
    exact hothers other hne

theorem run_adopt_unbound {engine : Engine} {lineup : Lineup 1 4} {phase : FlowId → Phase}
    {arrival : Arrival} {flow : FlowId} (worker : Worker)
    (h : Agrees engine.table engine.queues lineup phase)
    (hfree : ∀ flow, engine.table.heldAt flow = false) (hphase : phase flow = .taken)
    (hunbound : engine.table.lookup arrival.key = none) :
    ∃ engine' lineup', (worker.adopt arrival flow).run engine = .ok .done engine'
      ∧ Agrees engine'.table engine'.queues lineup' (Function.update phase flow
        (.tracked (.first arrival.headers arrival.time arrival.size)))
      ∧ ∀ flow, engine'.table.heldAt flow = false := by
  obtain ⟨table, queues, lineup', hsettle, hagrees, hfree'⟩ :=
    AtRest.settle engine h hfree hphase hunbound
  refine ⟨{ engine with
      table
      queues
      totals := { engine.totals with flowsCreated := engine.totals.flowsCreated + 1 }
      log := engine.log.push (.flowCreated worker.id flow) }, lineup', ?_, hagrees, hfree'⟩
  simp only [Worker.adopt, EStateM.run_bind, hsettle, if_true, run_modifyTotals, run_report, run_pure]

/-- A slot whose conversation turns out to be bound is given back. -/
theorem run_adopt_bound {engine : Engine} {lineup : Lineup 1 4} {phase : FlowId → Phase}
    {arrival : Arrival} {flow holder : FlowId} (worker : Worker)
    (h : Agrees engine.table engine.queues lineup phase)
    (hfree : ∀ flow, engine.table.heldAt flow = false) (hphase : phase flow = .taken)
    (hbound : engine.table.lookup arrival.key = some holder) :
    ∃ queues lineup', (worker.adopt arrival flow).run engine
        = .ok (.retry flow) (engine.withQueues queues)
      ∧ Agrees engine.table queues lineup' (Function.update phase flow .spare) := by
  have hin : phase flow ≠ .outside := by simp [hphase]
  have hlock := run_lock (h.lt_size hin) (hfree flow)
  have hbind : (Engine.bind arrival.key flow).run (engine.withHeld flow true) = _ :=
    run_bind_bound hbound
  have hsettle : (Worker.settle arrival flow).run engine = .ok false engine := by
    have hsame : (engine.withHeld flow true).withHeld flow false = engine :=
      congrArg engine.withTable (FlowTable.setHeld_setHeld engine.table (hfree flow))
    have hrun : (Worker.settle arrival flow).run engine
        = .ok false ((engine.withHeld flow true).withHeld flow false) := by
      apply run_locked hlock
      simp only [EStateM.run_bind, hbind, Bool.not_false, if_true, run_pure]
    rwa [hsame] at hrun
  obtain ⟨queues, henqueue, hagrees⟩ := h.enqueue hphase .spare (by simp) rfl rfl rfl rfl
  have hback := run_onQueues engine henqueue
  refine ⟨queues, _, ?_, hagrees⟩
  simp only [Worker.adopt, EStateM.run_bind, hsettle, Bool.false_eq_true, if_false, Worker.giveBack,
    hback, run_pure]

/-- Two slots are in hand for one conversation: the first gets a record with both arrivals, and the
second is spare again. -/
theorem run_adopt_both {engine : Engine} {lineup : Lineup 1 4} {phase : FlowId → Phase}
    {flow flow' : FlowId} (worker worker' : Worker) (arrival arrival' : Arrival)
    (h : Agrees engine.table engine.queues lineup
      (Function.update (Function.update phase flow .taken) flow' .taken))
    (hfree : ∀ flow, engine.table.heldAt flow = false)
    (hsettled : ∀ flow, (phase flow).IsSettled)
    (hseen : ∀ flow record, (phase flow).record = some record → record.lastSeen.Fits)
    (hapart : flow ≠ flow') (hspare : phase flow' = .spare) (hfits : arrival.time.Fits)
    (hfits' : arrival'.time.Fits) (hkey : arrival.key = arrival'.key)
    (hunbound : engine.table.lookup arrival.key = none)
    (hsizes : arrival.size.toNat + arrival'.size.toNat < Word.count) :
    ∃ created returned last lineup', (worker.adopt arrival flow).run engine = .ok .done created
      ∧ (worker'.adopt arrival' flow').run created = .ok (.retry flow') returned
      ∧ (worker'.track arrival').run returned = .ok () last
      ∧ last.AtRest lineup' (Function.update phase flow (.tracked
        ((FlowRecord.first arrival.headers arrival.time arrival.size).counted arrival'.headers
          arrival'.time arrival'.size))) := by
  obtain ⟨created, lineup₁, hadopt, hcreated, hfree₁⟩ := run_adopt_unbound worker h hfree
    (by rw [Function.update_of_ne hapart, Function.update_self]) hunbound
  have hfirst := FlowRecord.key_first arrival.headers arrival.time arrival.size
  have hlastSeen : (FlowRecord.first arrival.headers arrival.time arrival.size).lastSeen.Fits :=
    FlowRecord.fits_counted hfits hfits
  have hroom : ((FlowRecord.first arrival.headers arrival.time arrival.size).direction
      arrival'.headers).HasRoom arrival'.size := by
    refine ((FlowRecord.AtMost.blank arrival.headers arrival.time).counted ..).hasRoom (by decide) ?_
    rwa [Nat.zero_add]
  generalize FlowRecord.first arrival.headers arrival.time arrival.size = record at *
  have hbound : created.table.lookup arrival'.key = some flow := by
    rw [hcreated.lookup_iff, Function.update_self]
    exact congrArg some (hfirst.trans hkey)
  obtain ⟨queues, lineup₂, hadopt', hback⟩ := run_adopt_bound worker' hcreated hfree₁
    (by rw [Function.update_of_ne hapart.symm, Function.update_self]) hbound
  -- only the first slot is in another phase than before
  have hphases : Function.update (Function.update (Function.update (Function.update phase flow .taken)
      flow' .taken) flow (.tracked record)) flow' .spare
        = Function.update phase flow (.tracked record) := by
    rw [Function.update_comm hapart, Function.update_idem, Function.update_comm hapart.symm,
      Function.update_idem, ← hspare, Function.update_comm hapart, Function.update_eq_self]
  rw [hphases] at hback
  have hrest : (created.withQueues queues).AtRest lineup₂
      (Function.update phase flow (.tracked record)) := by
    refine ⟨hback, ?_, fun flow _ => hfree₁ flow, ?_⟩
    · intro flow₁
      by_cases hflow : flow₁ = flow
      · rw [hflow, Function.update_self]
        trivial
      · rw [Function.update_of_ne hflow]
        exact hsettled flow₁
    · intro flow₁ record' hrecord'
      by_cases hflow : flow₁ = flow
      · rw [hflow, Function.update_self] at hrecord'
        rwa [← Option.some.inj hrecord']
      · rw [Function.update_of_ne hflow] at hrecord'
        exact hseen flow₁ record' hrecord'
  obtain ⟨last, lineup₃, htrack, hlast, -⟩ := hrest.track_known worker' (Function.update_self ..)
    (hfirst.trans hkey) hfits' hroom
  rw [Function.update_idem] at hlast
  exact ⟨created, _, last, lineup₃, hadopt, hadopt', htrack, hlast⟩

/-- `first` and `late` find no record of a flow and take a slot each.  Then `first` goes on to its end,
and then `late`. -/
def rivals (first late : Fin n) (packet packet' : Packet) (times times' : Nat) : List (Move n) :=
  [.arrive first packet, .work first, .work first] ++ ([.arrive late packet', .work late, .work late]
    ++ (List.replicate times (.work first) ++ List.replicate times' (.work late)))

/-- Two workers that both find no record of a flow make one: both packets are in the record of the
first, and the slot of the other is spare again. -/
theorem run_rivals (system : System n) {lineup : Lineup 1 4} {phase : FlowId → Phase}
    {slot slot' : FlowId} {rest : List FlowId} (h : system.engine.AtRest lineup phase)
    (hspare : lineup.flows spareQueue = slot :: slot' :: rest) {first late : Fin n}
    (hne : late ≠ first) (hfirst : system.stage first = .idle) (hlate : system.stage late = .idle)
    {packet packet' : Packet} {headers headers' : Headers} (hfits : packet.time.Fits)
    (hfits' : packet'.time.Fits) (hheaders : Frame.headers packet.frame = .ok headers)
    (hheaders' : Frame.headers packet'.frame = .ok headers')
    (hkey : headers.tuple.key = headers'.tuple.key)
    (hunbound : system.engine.table.lookup headers.tuple.key = none)
    (hsizes : packet.size.toNat + packet'.size.toNat < Word.count) :
    ∃ times times' reached lineup',
      system.run (rivals first late packet packet' times times') = .ok reached
      ∧ reached.stage = system.stage
      ∧ reached.engine.AtRest lineup' (Function.update phase slot (.tracked
        ((FlowRecord.first headers packet.time packet.size).counted headers' packet'.time
          packet'.size))) := by
  have hapart : slot ≠ slot' := by
    have hnodup := (h.agrees.represents.chain spareQueue).nodup
    rw [hspare] at hnodup
    exact fun heq => (List.nodup_cons.1 hnodup).1 (heq ▸ List.mem_cons_self)
  -- both take a slot
  obtain ⟨clock, hclock, -⟩ := PacketClock.advance_of_fits system.engine.clock hfits
  obtain ⟨hslot, queues, htake, hagrees⟩ := h.agrees.takeSpare hspare
  obtain ⟨took, htook, htaken, hstage, hothers⟩ :=
    run_taking system hfirst hclock hheaders hunbound htake
  obtain ⟨clock', hclock', -⟩ := PacketClock.advance_of_fits took.engine.clock hfits'
  obtain ⟨hslot', queues', htake', hagrees'⟩ := hagrees.takeSpare (Lineup.flows_place_self ..)
  rw [Function.update_of_ne hapart.symm] at hslot'
  obtain ⟨took', htook', htaken', hstage', hothers'⟩ := run_taking took
    ((hothers late hne).trans hlate) hclock' hheaders' (by rw [htaken, ← hkey]; exact hunbound)
    (by rw [htaken]; exact htake')
  have htable : took'.engine.table = system.engine.table := by
    rw [htaken']
    show took.engine.table = _
    rw [htaken]
    rfl
  have hqueues : took'.engine.queues = queues' := by
    rw [htaken']
    rfl
  rw [← htable, ← hqueues] at hagrees'
  rw [← htable] at hunbound
  -- one starts the flow, and the other one finds it
  obtain ⟨created, returned, last, lineup', hadopt, hadopt', htrack, hlast⟩ :=
    run_adopt_both ⟨first⟩ ⟨late⟩ ⟨headers, packet.time, packet.size⟩
      ⟨headers', packet'.time, packet'.size⟩ hagrees' (htable ▸ h.free) h.settled h.fits hapart
      hslot' hfits hfits' hkey hunbound hsizes
  obtain ⟨times, hstarted⟩ := run_of_alone took' (Stage.alone_adopt hadopt)
    ((hothers' first hne.symm).trans hstage) rfl
  obtain ⟨times', hfound⟩ := run_of_alone _
    ((Stage.alone_adopt hadopt').trans (Stage.run_track htrack))
    ((stage_become_of_ne _ _ _ hne).trans hstage') rfl
  refine ⟨times, times', _, lineup', (run_append htook _).trans ((run_append htook' _).trans
    ((run_append hstarted _).trans hfound)), ?_, hlast⟩
  funext party
  by_cases hparty' : party = late
  · rw [hparty', stage_become, hlate]
  rw [stage_become_of_ne _ _ _ hparty']
  by_cases hparty : party = first
  · rw [hparty, stage_become, hfirst]
    rfl
  · rw [stage_become_of_ne _ _ _ hparty, hothers' party hparty', hothers party hparty]

end System

end FlowTracker
