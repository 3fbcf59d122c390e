import FlowTracker.Proofs.Engine.Programs

/-!
# Workers on an engine at rest

An engine is at rest (`Engine.AtRest`) when every slot is spare or tracks a record and no payload lock is
held; `Engine.AmongHolders` is the same while others hold payload locks.  The lemmas say what a packet
does to such an engine, case by case: its time does not fit, its frame cannot be read, its conversation is
tracked, it starts a conversation, or there is no spare slot.  In every case, also where a counter is full,
the engine is at rest again, and at most one slot has changed its phase.
-/

namespace FlowTracker

/-- A slot that is in nobody's hand. -/
def Phase.IsSettled : Phase → Prop
  | .outside | .spare | .tracked _ => True
  | _ => False

theorem Phase.IsSettled.eq_tracked {phase : Phase} (h : phase.IsSettled) {record : FlowRecord}
    (hrecord : phase.record = some record) : phase = .tracked record := by
  cases phase with
  | tracked record' => rw [Option.some.inj hrecord]
  | outside => cases hrecord
  | spare => cases hrecord
  | _ => exact h.elim

theorem Phase.ne_taken_of_record {phase : Phase} {record : FlowRecord}
    (h : phase.record = some record) : phase ≠ .taken := by
  rintro rfl
  cases h

/-- A record whose times fit keeps them so. -/
theorem FlowRecord.fits_counted {record : FlowRecord} {arrival : Arrival}
    (h : record.lastSeen.Fits) (hfits : arrival.time.Fits) :
    (record.counted arrival.headers arrival.time arrival.size).lastSeen.Fits := by
  show (if arrival.time.isAfter record.lastSeen then arrival.time else record.lastSeen).Fits
  split
  · exact hfits
  · exact h

namespace Engine

open EStateM

/-- Every slot is spare or tracks a record whose times fit the clock, while others hold the payload
locks of the busy slots. -/
structure AmongHolders (engine : Engine) (busy : FlowId → Bool) (lineup : Lineup 1 4)
    (phase : FlowId → Phase) : Prop where
  agrees : Agrees engine.table engine.queues lineup phase
  settled : ∀ flow, (phase flow).IsSettled
  held : ∀ flow, phase flow ≠ .outside → engine.table.heldAt flow = busy flow
  fits : ∀ flow record, (phase flow).record = some record → record.lastSeen.Fits

/-- Every slot is spare or tracks a record, and no payload lock is held. -/
abbrev AtRest (engine : Engine) (lineup : Lineup 1 4) (phase : FlowId → Phase) : Prop :=
  engine.AmongHolders (fun _ => false) lineup phase

structure SameReports (engine engine' : Engine) : Prop where
  clock_eq : engine'.clock = engine.clock
  totals_eq : engine'.totals = engine.totals
  exported_eq : engine'.exported = engine.exported

theorem SameReports.trans {engine engine' engine'' : Engine} (h : engine.SameReports engine')
    (h' : engine'.SameReports engine'') : engine.SameReports engine'' :=
  ⟨h'.clock_eq.trans h.clock_eq, h'.totals_eq.trans h.totals_eq,
    h'.exported_eq.trans h.exported_eq⟩

theorem AmongHolders.update {engine engine' : Engine} {busy : FlowId → Bool}
    {lineup lineup' : Lineup 1 4} {phase : FlowId → Phase} {flow : FlowId}
    (h : engine.AmongHolders busy lineup phase) {new : Phase}
    (hagrees : Agrees engine'.table engine'.queues lineup' (Function.update phase flow new))
    (hsettled : new.IsSettled)
    (hheld : ∀ flow', Function.update phase flow new flow' ≠ .outside →
      engine'.table.heldAt flow' = busy flow')
    (hfits : ∀ record, new.record = some record → record.lastSeen.Fits) :
    engine'.AmongHolders busy lineup' (Function.update phase flow new) := by
  refine ⟨hagrees, ?_, hheld, ?_⟩
  · intro flow'
    by_cases hflow : flow' = flow
    · subst hflow
      rwa [Function.update_self]
    · rw [Function.update_of_ne hflow]
      exact h.settled flow'
  · intro flow' record hrecord
    by_cases hflow : flow' = flow
    · subst hflow
      rw [Function.update_self] at hrecord
      exact hfits record hrecord
    · rw [Function.update_of_ne hflow] at hrecord
      exact h.fits flow' record hrecord

/-- What is in neither table nor queues is no part of it. -/
theorem AmongHolders.congr {engine engine' : Engine} {busy : FlowId → Bool}
    {lineup : Lineup 1 4} {phase : FlowId → Phase} (h : engine.AmongHolders busy lineup phase)
    (htable : engine'.table = engine.table) (hqueues : engine'.queues = engine.queues) :
    engine'.AmongHolders busy lineup phase := by
  refine ⟨?_, h.settled, ?_, h.fits⟩
  · rw [htable, hqueues]
    exact h.agrees
  · rw [htable]
    exact h.held

/-- A conversation that is bound is tracked by the slot that it is bound to. -/
theorem AmongHolders.tracked_of_lookup {engine : Engine} {busy : FlowId → Bool}
    {lineup : Lineup 1 4} {phase : FlowId → Phase} {flow : FlowId}
    (h : engine.AmongHolders busy lineup phase) {key : FlowKey}
    (hlookup : engine.table.lookup key = some flow) :
    ∃ record, phase flow = .tracked record ∧ record.key = key := by
  have hkey := (h.agrees.lookup_iff key flow).1 hlookup
  have hsettled := h.settled flow
  cases hphase : phase flow with
  | tracked record =>
    rw [hphase] at hkey
    exact ⟨record, rfl, Option.some.inj hkey⟩
  | outside => rw [hphase] at hkey; cases hkey
  | spare => rw [hphase] at hkey; cases hkey
  | _ => rw [hphase] at hsettled; exact hsettled.elim

namespace AtRest

variable {engine engine' : Engine} {lineup lineup' : Lineup 1 4} {phase : FlowId → Phase}
  {flow : FlowId} {record : FlowRecord} {arrival : Arrival}

theorem free (h : engine.AtRest lineup phase) (flow : FlowId) :
    engine.table.heldAt flow = false := by
  cases hheld : engine.table.heldAt flow with
  | false => rfl
  | true =>
    have hin := (h.agrees.inside_iff flow).2 (FlowTable.lt_capacity_of_heldAt hheld)
    rw [h.held flow hin] at hheld
    cases hheld

theorem update (h : engine.AtRest lineup phase) {new : Phase}
    (hagrees : Agrees engine'.table engine'.queues lineup' (Function.update phase flow new))
    (hsettled : new.IsSettled) (hfree : ∀ flow, engine'.table.heldAt flow = false)
    (hfits : ∀ record, new.record = some record → record.lastSeen.Fits) :
    engine'.AtRest lineup' (Function.update phase flow new) :=
  AmongHolders.update h hagrees hsettled (fun flow' _ => hfree flow') hfits

/-! ### A tracked conversation -/

/-- A record that has changed its state is moved to the queue of its new state. -/
theorem requeue (h : Agrees engine.table engine.queues lineup phase) {after : FlowRecord}
    (hphase : phase flow = .tracked record) (hkey : after.key = record.key) :
    ∃ queues lineup',
      (QueueM.requeue flow (some record.state.queue) after.state.queue).run engine.queues
        = .ok () queues
      ∧ Agrees (engine.table.setRecord flow (some after)) queues lineup'
        (Function.update phase flow (.tracked after)) := by
  have hmoved := h.setRecord hphase (.misplaced record.state after) (by simp) (by simp)
    (congrArg some hkey) rfl
  obtain ⟨queues, hdetach, houtside⟩ := hmoved.detach (Function.update_self ..) (.unqueued after)
    (by simp) rfl rfl rfl rfl
  rw [Function.update_idem] at houtside
  obtain ⟨queues', happend, hagrees⟩ := houtside.append (Function.update_self ..) (.tracked after)
    (by simp) rfl rfl rfl rfl
  rw [Function.update_idem] at hagrees
  exact ⟨queues', _, run_transfer hdetach happend, hagrees⟩

/-- Taking the first payload lock. -/
theorem enter (h : Agrees engine.table engine.queues lineup phase)
    (hfree : ∀ flow, engine.table.heldAt flow = false) (hin : phase flow ≠ .outside) :
    (lock flow).run engine = .ok () (engine.withHeld flow true)
      ∧ Agrees (engine.withHeld flow true).table (engine.withHeld flow true).queues lineup phase
      ∧ ∀ flow', (engine.withHeld flow true).table.heldAt flow' = decide (flow' = flow) := by
  have hlt := h.lt_size hin
  refine ⟨run_lock hlt (hfree flow), h.setHeld flow true, ?_⟩
  intro flow'
  show (engine.table.setHeld flow true).heldAt flow' = _
  rw [engine.table.heldAt_setHeld hlt]
  by_cases hflow : flow' = flow
  · simp [hflow]
  · simp [hflow, hfree]

/-- Giving the only payload lock back. -/
theorem heldAt_release (table : FlowTable) (hlt : flow < table.capacity)
    (hheld : ∀ flow', table.heldAt flow' = decide (flow' = flow)) (flow' : FlowId) :
    (table.setHeld flow false).heldAt flow' = false := by
  rw [table.heldAt_setHeld hlt]
  by_cases hflow : flow' = flow
  · rw [if_pos hflow]
  · rw [if_neg hflow, hheld]
    exact decide_eq_false hflow

/-- A packet of a tracked conversation is accounted in its record, and nothing else changes. -/
theorem revisit (h : engine.AtRest lineup phase) (worker : Worker)
    (hphase : phase flow = .tracked record) (hkey : record.key = arrival.key)
    (hfits : arrival.time.Fits)
    (hroom : (record.direction arrival.headers).HasRoom arrival.size) :
    ∃ engine' lineup', (worker.revisit arrival flow).run engine = .ok .done engine'
      ∧ engine'.AtRest lineup' (Function.update phase flow
        (.tracked (record.counted arrival.headers arrival.time arrival.size)))
      ∧ engine.SameReports engine' := by
  have hin : phase flow ≠ .outside := by simp [hphase]
  obtain ⟨hlock, hagrees, hheld⟩ := enter h.agrees h.free hin
  have hlt := hagrees.lt_size hin
  have hslot := run_slot hlt
  rw [hagrees.record_eq, hphase, Phase.record] at hslot
  have hcounted := record.key_counted arrival.headers arrival.time arrival.size
  have hafter : (record.counted arrival.headers arrival.time arrival.size).lastSeen.Fits :=
    FlowRecord.fits_counted (h.fits flow record (by rw [hphase]; rfl)) hfits
  have haccount := Worker.run_account (engine.withHeld flow true) flow hroom
  generalize record.counted arrival.headers arrival.time arrival.size = after at *
  obtain ⟨queues, log, lineup', hrun, hagrees'⟩ : ∃ queues log lineup',
      (worker.revisit arrival flow).run engine = .ok .done (Engine.withHeld
        { engine with
          table := (engine.withHeld flow true).table.setRecord flow (some after), queues, log }
        flow false)
      ∧ Agrees ((engine.withHeld flow true).table.setRecord flow (some after)) queues lineup'
        (Function.update phase flow (.tracked after)) := by
    by_cases hstate : record.state = after.state
    · refine ⟨_, engine.log, lineup, run_locked hlock ?_, hagrees.setRecord hphase (.tracked after)
        (by simp) (by simp) (congrArg some hcounted)
        (congrArg (fun state => some (FlowState.queue state)) hstate.symm)⟩
      simp only [run_bind, hslot, hkey, ne_eq, not_true, if_false, haccount, hstate, run_pure]
      rfl
    · obtain ⟨queues, lineup', hrequeue, hmoved⟩ := requeue hagrees hphase hcounted
      have hmove := run_onQueues ((engine.withHeld flow true).withTable
        ((engine.withHeld flow true).table.setRecord flow (some after))) hrequeue
      refine ⟨queues, engine.log.push (.stateChanged worker.id flow record.state after.state),
        lineup', run_locked hlock ?_, hmoved⟩
      simp only [run_bind, hslot, hkey, ne_eq, not_true, if_false, haccount, hstate,
        not_false_eq_true, if_true, hmove, run_report, run_pure]
      rfl
  have hfree := heldAt_release ((engine.withHeld flow true).table.setRecord flow (some after))
    (by rwa [FlowTable.capacity_setRecord])
    (fun flow' => by rw [FlowTable.heldAt_setRecord, hheld])
  refine ⟨_, lineup', hrun, h.update (hagrees'.setHeld flow false) trivial hfree ?_, rfl, rfl, rfl⟩
  intro record' hrecord'
  rwa [← Option.some.inj hrecord']

/-- Where a counter is full the packet stops in the record, and the lock is given back. -/
theorem revisit_full (h : engine.AtRest lineup phase) (worker : Worker)
    (hphase : phase flow = .tracked record) (hkey : record.key = arrival.key)
    (hfull : ¬ (record.direction arrival.headers).HasRoom arrival.size) :
    ∃ engine' record', (worker.revisit arrival flow).run engine = .error .addOverflow engine'
      ∧ engine'.AtRest lineup (Function.update phase flow (.tracked record'))
      ∧ engine.SameReports engine'
      ∧ (FlowRecord.update arrival.headers arrival.time arrival.size).run record
        = .error .addOverflow record' := by
  have hin : phase flow ≠ .outside := by simp [hphase]
  obtain ⟨hlock, hagrees, hheld⟩ := enter h.agrees h.free hin
  have hlt := hagrees.lt_size hin
  have hslot := run_slot hlt
  rw [hagrees.record_eq, hphase, Phase.record] at hslot
  obtain ⟨after, haccount, hupdate, hstate, htuple, hlast⟩ :=
    Worker.run_account_full (engine.withHeld flow true) flow hfull
  have hafter : after.key = record.key := by rw [FlowRecord.key, htuple]; rfl
  have hset := hagrees.setRecord hphase (.tracked after) (by simp) (by simp) (congrArg some hafter)
    (congrArg (fun state => some (FlowState.queue state)) hstate)
  have hrun : (worker.revisit arrival flow).run engine = .error .addOverflow
      (Engine.withHeld ((engine.withHeld flow true).withTable
        ((engine.withHeld flow true).table.setRecord flow (some after))) flow false) := by
    apply run_locked_error hlock
    simp only [run_bind, hslot, hkey, ne_eq, not_true, if_false, haccount]
  have hfree := heldAt_release ((engine.withHeld flow true).table.setRecord flow (some after))
    (by rwa [FlowTable.capacity_setRecord])
    (fun flow' => by rw [FlowTable.heldAt_setRecord, hheld])
  refine ⟨_, after, hrun, h.update (hset.setHeld flow false) trivial hfree ?_, ⟨rfl, rfl, rfl⟩,
    hupdate⟩
  intro record' hrecord'
  rw [← Option.some.inj hrecord', hlast]
  exact h.fits flow record (by rw [hphase]; rfl)

/-! ### An unknown conversation -/

/-- A conversation is started in a slot that was taken. -/
theorem settle (engine : Engine) (h : Agrees engine.table engine.queues lineup phase)
    (hfree : ∀ flow, engine.table.heldAt flow = false) (hphase : phase flow = .taken)
    (hunbound : engine.table.lookup arrival.key = none) :
    ∃ table queues lineup',
      (Worker.settle arrival flow).run engine = .ok true { engine with table, queues }
      ∧ Agrees table queues lineup' (Function.update phase flow
        (.tracked (FlowRecord.first arrival.headers arrival.time arrival.size)))
      ∧ ∀ flow, table.heldAt flow = false := by
  have hin : phase flow ≠ .outside := by simp [hphase]
  obtain ⟨hlock, hagrees, hheld⟩ := enter h hfree hin
  have hbind : (Engine.bind arrival.key flow).run (engine.withHeld flow true) = _ :=
    run_bind_free flow hunbound
  have hpromised := hagrees.insert hphase hunbound
  have hstart := FlowRecord.start_eq arrival.headers arrival.time arrival.size
  have hkey := FlowRecord.key_first arrival.headers arrival.time arrival.size
  generalize hfirst : FlowRecord.first arrival.headers arrival.time arrival.size = record at *
  have hstored := hpromised.setRecord (Function.update_self ..) (.unqueued record) (by simp)
    (by simp) (congrArg some hkey) rfl
  rw [Function.update_idem] at hstored
  obtain ⟨queues, henqueue, htracked⟩ := hstored.enqueue (Function.update_self ..)
    (.tracked record) (by simp) rfl rfl rfl rfl
  rw [Function.update_idem] at htracked
  have hfill := run_onQueues ((engine.withHeld flow true).withTable
    (((engine.withHeld flow true).table.insert arrival.key flow).setRecord flow (some record)))
    henqueue
  have hrun : (Worker.settle arrival flow).run engine = .ok true (Engine.withHeld
      { engine with
        table := ((engine.withHeld flow true).table.insert arrival.key flow).setRecord flow
          (some record)
        queues } flow false) := by
    apply run_locked hlock
    simp only [run_bind, hbind, run_check_ok hstart, run_modifyTable, Bool.not_true,
      Bool.false_eq_true, if_false]
    simp only [table_withTable, withTable_withTable, hfill, run_pure]
    rfl
  refine ⟨_, queues, _, hrun, htracked.setHeld flow false, heldAt_release _ ?_ ?_⟩
  · rw [FlowTable.capacity_setRecord, FlowTable.capacity_insert]
    exact hagrees.lt_size hin
  · intro flow'
    rw [FlowTable.heldAt_setRecord, FlowTable.heldAt_insert, hheld]

/-! ### Arrivals -/

/-- An arrival of a tracked conversation. -/
theorem track_known (h : engine.AtRest lineup phase) (worker : Worker)
    (hphase : phase flow = .tracked record) (hkey : record.key = arrival.key)
    (hfits : arrival.time.Fits)
    (hroom : (record.direction arrival.headers).HasRoom arrival.size) :
    ∃ engine' lineup', (worker.track arrival).run engine = .ok () engine'
      ∧ engine'.AtRest lineup' (Function.update phase flow
        (.tracked (record.counted arrival.headers arrival.time arrival.size)))
      ∧ engine.SameReports engine' := by
  have hlookup : engine.table.lookup arrival.key = some flow := by
    rw [h.agrees.lookup_iff, hphase, ← hkey]
    rfl
  obtain ⟨engine', lineup', hrun, hrest⟩ := h.revisit worker hphase hkey hfits hroom
  refine ⟨engine', lineup', ?_, hrest⟩
  simp only [Worker.track, Worker.pass, run_bind, Worker.run_find, hlookup, hrun,
    Worker.conclude, run_pure]

/-- An arrival of a tracked conversation whose counter is full. -/
theorem track_full (h : engine.AtRest lineup phase) (worker : Worker)
    (hphase : phase flow = .tracked record) (hkey : record.key = arrival.key)
    (hfull : ¬ (record.direction arrival.headers).HasRoom arrival.size) :
    ∃ engine' record', (worker.track arrival).run engine = .error .addOverflow engine'
      ∧ engine'.AtRest lineup (Function.update phase flow (.tracked record'))
      ∧ engine.SameReports engine'
      ∧ (FlowRecord.update arrival.headers arrival.time arrival.size).run record
        = .error .addOverflow record' := by
  have hlookup : engine.table.lookup arrival.key = some flow := by
    rw [h.agrees.lookup_iff, hphase, ← hkey]
    rfl
  obtain ⟨engine', record', hrun, hrest⟩ := h.revisit_full worker hphase hkey hfull
  refine ⟨engine', record', ?_, hrest⟩
  simp only [Worker.track, Worker.pass, run_bind, Worker.run_find, hlookup, hrun]

/-- The first arrival of a conversation takes the bottom of the spare queue. -/
theorem track_new (h : engine.AtRest lineup phase) (worker : Worker)
    (hunbound : engine.table.lookup arrival.key = none) (hfits : arrival.time.Fits)
    {rest : List FlowId} (hcons : lineup.flows spareQueue = flow :: rest) :
    ∃ engine' lineup', (worker.track arrival).run engine = .ok () engine'
      ∧ phase flow = .spare
      ∧ engine'.AtRest lineup' (Function.update phase flow
        (.tracked (FlowRecord.first arrival.headers arrival.time arrival.size)))
      ∧ engine'.clock = engine.clock ∧ engine'.exported = engine.exported
      ∧ engine'.totals
        = { engine.totals with flowsCreated := engine.totals.flowsCreated + 1 } := by
  obtain ⟨hspare, queues, hdequeue, htaken⟩ := h.agrees.takeSpare hcons
  have htake := run_onQueues engine hdequeue
  obtain ⟨table, queues', lineup', hsettle, hagrees, hfree⟩ :=
    settle (engine.withQueues queues) htaken h.free (Function.update_self ..) hunbound
  rw [Function.update_idem] at hagrees
  refine ⟨{ engine with
      table
      queues := queues'
      totals := { engine.totals with flowsCreated := engine.totals.flowsCreated + 1 }
      log := engine.log.push (.flowCreated worker.id flow) },
    lineup', ?_, hspare, h.update hagrees trivial hfree ?_, rfl, rfl, rfl⟩
  · simp only [Worker.track, Worker.pass, run_bind, Worker.run_find, hunbound, Worker.takeSpare,
      htake, run_pure, Worker.adopt, hsettle, if_true, run_modifyTotals, run_report,
      Worker.conclude]
    rfl
  · intro record hrecord
    rw [← Option.some.inj hrecord]
    exact FlowRecord.fits_counted hfits hfits

/-- The first arrival of a conversation is dropped where no slot is spare. -/
theorem track_drop (h : engine.AtRest lineup phase) (worker : Worker)
    (hunbound : engine.table.lookup arrival.key = none)
    (hnil : lineup.flows spareQueue = []) :
    ∃ engine', (worker.track arrival).run engine = .ok () engine'
      ∧ engine'.AtRest lineup phase
      ∧ engine'.clock = engine.clock ∧ engine'.exported = engine.exported
      ∧ engine'.totals
        = { engine.totals with tableFullDrops := engine.totals.tableFullDrops + 1 } := by
  have htake := run_onQueues engine (h.agrees.represents.dequeue_nil hnil)
  have hwait := run_onQueues { engine with wakeRequested := true }
    (h.agrees.represents.dequeue_nil hnil)
  rw [withQueues_self] at htake
  refine ⟨{ engine with
      wakeRequested := true
      totals := { engine.totals with tableFullDrops := engine.totals.tableFullDrops + 1 }
      log := engine.log.push (.tableFull worker.id arrival.headers.tuple) },
    ?_, h.congr rfl rfl, rfl, rfl, rfl⟩
  simp only [Worker.track, Worker.pass, run_bind, Worker.run_find, hunbound, Worker.takeSpare,
    htake, Worker.requestSweep, run_modify, run_pure, Worker.resume, Worker.awaitSpare, hwait,
    Worker.drop, run_modifyTotals, run_report, Worker.conclude]
  rfl

/-! ### Packets -/

def counted (engine : Engine) (packet : Packet) : Engine :=
  { engine with totals := engine.totals.countPacket packet.size }

/-- A packet whose time does not fit is counted and nothing else. -/
theorem process_unfit (engine : Engine) (worker : Worker) (packet : Packet)
    (hunfit : ¬ packet.time.Fits) :
    ∃ fault, (worker.process packet).run engine = .error fault (counted engine packet) := by
  obtain ⟨fault, hfault⟩ := PacketClock.advance_of_not_fits engine.clock hunfit
  refine ⟨fault, ?_⟩
  simp only [Worker.process, Worker.decode, run_bind, run_modifyTotals, run_get,
    run_check_error hfault]
  rfl

def clocked (engine : Engine) (packet : Packet) (clock : PacketClock) : Engine :=
  { counted engine packet with clock }

/-- A frame that cannot be read is counted and moves the clock. -/
theorem run_decode_error (engine : Engine) (worker : Worker) (packet : Packet)
    {clock : PacketClock} (hclock : engine.clock.advance packet.time = .ok clock)
    {error : FrameError} (herror : Frame.headers packet.frame = .error error) :
    (worker.decode packet).run engine = .ok none { engine with
      clock
      totals := { engine.totals.countPacket packet.size with
        undecodable := (engine.totals.countPacket packet.size).undecodable + 1 }
      log := engine.log.push (.undecodable worker.id error) } := by
  simp only [Worker.decode, run_bind, run_modifyTotals, run_get, run_check_ok hclock, run_modify,
    herror, run_report, run_pure]

/-- A frame that can be read is counted, moves the clock and is to be tracked. -/
theorem run_decode_ok (engine : Engine) (worker : Worker) (packet : Packet)
    {clock : PacketClock} (hclock : engine.clock.advance packet.time = .ok clock)
    {headers : Headers} (hheaders : Frame.headers packet.frame = .ok headers) :
    (worker.decode packet).run engine
      = .ok (some ⟨headers, packet.time, packet.size⟩) (clocked engine packet clock) := by
  simp only [Worker.decode, run_bind, run_modifyTotals, run_get, run_check_ok hclock, run_modify,
    hheaders, run_pure]
  rfl

theorem process_undecodable (engine : Engine) (worker : Worker) (packet : Packet)
    {clock : PacketClock} (hclock : engine.clock.advance packet.time = .ok clock)
    {error : FrameError} (herror : Frame.headers packet.frame = .error error) :
    ∃ engine', (worker.process packet).run engine = .ok () engine'
      ∧ engine'.table = engine.table ∧ engine'.queues = engine.queues
      ∧ engine'.clock = clock ∧ engine'.exported = engine.exported
      ∧ engine'.totals = { engine.totals.countPacket packet.size with
          undecodable := (engine.totals.countPacket packet.size).undecodable + 1 } := by
  refine ⟨{ engine with
      clock
      totals := { engine.totals.countPacket packet.size with
        undecodable := (engine.totals.countPacket packet.size).undecodable + 1 }
      log := engine.log.push (.undecodable worker.id error) }, ?_, rfl, rfl, rfl, rfl, rfl⟩
  simp only [Worker.process, run_bind, run_decode_error engine worker packet hclock herror, run_pure]

/-- A packet that can be read is tracked at the new clock. -/
theorem process_decodable (engine : Engine) (worker : Worker) (packet : Packet)
    {clock : PacketClock} (hclock : engine.clock.advance packet.time = .ok clock)
    {headers : Headers} (hheaders : Frame.headers packet.frame = .ok headers) :
    (worker.process packet).run engine
      = (worker.track ⟨headers, packet.time, packet.size⟩).run (clocked engine packet clock) := by
  simp only [Worker.process, run_bind, run_decode_ok engine worker packet hclock hheaders]

end AtRest

end Engine

end FlowTracker
