import FlowTracker.Proofs.Engine.Keeps
import FlowTracker.Proofs.Engine.Tallies
import FlowTracker.Proofs.Queue.Locality

/-!
# The retry loop ends in its first turn

A worker repeats its pass over the flow table as long as other parties interfere (`Worker.trackWithin`).
While nobody else moves there is nothing to repeat: a slot that the table names holds a record of the
conversation, and a conversation that the table does not name can be bound to any slot.  Both follow from
the engine being at rest (`AtRest.handlesAtOnce`), so no packet after any run needs a second turn
(`Engine.packets_need_one_turn`), and no slot is taken that is given back.
-/

namespace FlowTracker

open EStateM EngineM

/-! ### The retry loop -/

namespace Worker

open Engine

/-- One turn of the retry loop: a pass, and the wait for a free slot if there is none. -/
def turn (worker : Worker) (arrival : Arrival) : EngineM Pass := do
  match ← worker.pass arrival with
  | .starved => worker.resume arrival
  | pass => return pass

/-- The retry loop, cut off after `turns` turns; answers whether it has come to its end by then. -/
def trackWithin (worker : Worker) (arrival : Arrival) : (turns : Nat) → EngineM Bool
  | 0 => return false
  | turns + 1 => do
    match ← worker.turn arrival with
    | .retry _ => worker.trackWithin arrival turns
    | _ => return true

def processWithin (worker : Worker) (packet : Packet) (turns : Nat) : EngineM Bool := do
  match ← worker.decode packet with
  | some arrival => worker.trackWithin arrival turns
  | none => return true

variable {worker : Worker} {arrival : Arrival} {engine engine' : Engine} {fault : Fault}

theorem track_eq (worker : Worker) (arrival : Arrival) :
    worker.track arrival = (do conclude (← worker.turn arrival)) := by
  unfold track turn
  rw [bind_assoc]
  refine bind_congr fun pass => ?_
  cases pass <;> simp only [pure_bind]

theorem run_track_done (h : (worker.turn arrival).run engine = .ok .done engine') :
    (worker.track arrival).run engine = .ok () engine' := by
  rw [track_eq, run_bind, h]
  rfl

theorem run_track_error (h : (worker.turn arrival).run engine = .error fault engine') :
    (worker.track arrival).run engine = .error fault engine' := by
  rw [track_eq, run_bind, h]

theorem run_trackWithin_done (h : (worker.turn arrival).run engine = .ok .done engine')
    (turns : Nat) : (worker.trackWithin arrival (turns + 1)).run engine = .ok true engine' := by
  rw [trackWithin, run_bind, h]
  rfl

theorem run_trackWithin_error (h : (worker.turn arrival).run engine = .error fault engine')
    (turns : Nat) : (worker.trackWithin arrival (turns + 1)).run engine = .error fault engine' := by
  rw [trackWithin, run_bind, h]

end Worker

/-! ### Spare slots -/

/-- All queues are lists, and `spare` is that of the free slots. -/
def Engine.HasSpare (spare : List FlowId) (engine : Engine) : Prop :=
  ∃ lineup : Lineup 1 4, engine.queues.Represents lineup ∧ lineup.flows spareQueue = spare

namespace Engine.HasSpare

variable {engine engine' : Engine} {spare : List FlowId} {worker : Worker} {arrival : Arrival}
  {flow : FlowId}

theorem toList_eq (h : HasSpare spare engine) : engine.queues.toList spareQueue = .ok spare := by
  obtain ⟨lineup, hrepresents, rfl⟩ := h
  exact hrepresents.toList_eq spareQueue

theorem queue_ne_spare (state : FlowState) : spareQueue ≠ state.queue := by
  cases state <;> decide

/-- A call on the queues of lifecycle states leaves the spare queue alone. -/
theorem keeps_onQueues {program : QueueM 1 4 Unit} (call : QueueCall 4)
    (hcall : call.program = (do program; return none)) (hother : spareQueue ∉ call.queues) :
    Keeps (onQueues program) (HasSpare spare) fun _ => True := by
  rintro engine a engine' ⟨lineup, hrepresents, hspare⟩ hrun
  obtain ⟨queues, hprogram, rfl⟩ := run_onQueues_eq_ok hrun
  have hperform : engine.queues.perform call = queues := by
    simp only [QueueStore.perform, hcall, QueueStore.Represents.run_then_none hprogram]
  refine ⟨trivial, lineup.perform call, hperform ▸ hrepresents.perform call, ?_⟩
  rw [Lineup.flows_perform_of_unnamed hother, hspare]

theorem tableFree (spare : List FlowId) : TableFree (HasSpare spare) := by
  constructor
  rintro engine engine' ⟨lineup, hrepresents, hspare⟩ hsame _
  exact ⟨lineup, hsame ▸ hrepresents, hspare⟩

theorem keeps_revisit : Keeps (worker.revisit arrival flow) (HasSpare spare) (· ≠ .starved) := by
  apply (tableFree spare).keeps_revisit
  intro before after
  exact keeps_onQueues (.requeue flow (some before.queue) after.queue) rfl
    (by simp [QueueCall.queues, queue_ne_spare])

theorem keeps_settle : Keeps (Worker.settle arrival flow) (HasSpare spare) fun _ => True := by
  apply (tableFree spare).keeps_settle
  intro state
  exact keeps_onQueues (.enqueue state.queue flow) rfl
    (by simp [QueueCall.queues, queue_ne_spare])

end Engine.HasSpare

/-! ### One arrival -/

namespace Engine

def IsFullFor (engine : Engine) (arrival : Arrival) : Prop :=
  ∃ flow record, engine.table.lookup arrival.key = some flow
    ∧ engine.table.recordAt flow = some record
    ∧ ¬ (record.direction arrival.headers).HasRoom arrival.size

/-- From `engine` to `engine'` a conversation that was not bound has taken the bottom flow of `spare`,
and nothing else has been taken or given back. -/
structure Takes (engine engine' : Engine) (key : FlowKey) (spare : List FlowId) : Prop where
  lookup_eq : engine'.table.lookup key = (engine.table.lookup key).or spare.head?
  spare_eq : engine'.queues.toList spareQueue
    = .ok (if (engine.table.lookup key).isSome then spare else spare.tail)

theorem takes_of_hit {engine engine' : Engine} {key : FlowKey} {spare : List FlowId} {flow : FlowId}
    (hlookup : engine.table.lookup key = some flow)
    (hbound : engine'.table.lookup key = some flow) (hspare : HasSpare spare engine') :
    engine.Takes engine' key spare := by
  refine ⟨?_, ?_⟩
  · rw [hbound, hlookup]
    rfl
  · rw [hspare.toList_eq, hlookup]
    rfl

theorem takes_of_miss {engine engine' : Engine} {key : FlowKey} {spare : List FlowId}
    (hlookup : engine.table.lookup key = none)
    (hbound : engine'.table.lookup key = spare.head?) (hspare : HasSpare spare.tail engine') :
    engine.Takes engine' key spare := by
  refine ⟨?_, ?_⟩
  · rw [hbound, hlookup]
    rfl
  · rw [hspare.toList_eq, hlookup]
    rfl

/-- Whatever the table says about the arrival holds when it is checked, so that the first turn is the
last one. -/
structure HandlesAtOnce (engine : Engine) (worker : Worker) (arrival : Arrival) : Prop where
  /-- The slot that the table names holds the conversation. -/
  hit : ∀ flow, engine.table.lookup arrival.key = some flow →
    ∃ record, engine.table.recordAt flow = some record ∧ record.key = arrival.key
  /-- A slot that is taken for a new conversation is bound to it. -/
  miss : engine.table.lookup arrival.key = none → ∀ flow taken,
    Worker.takeSpare.run engine = .ok (some flow) taken →
    ∃ engine', (Worker.settle arrival flow).run taken = .ok true engine'
  /-- The turn is not repeated; it takes what it needs from the spare queue and gives nothing back. -/
  turn : ∃ spare engine', engine.queues.toList spareQueue = .ok spare
    ∧ engine.Takes engine' arrival.key spare
    ∧ (¬ engine.IsFullFor arrival ∧ (worker.turn arrival).run engine = .ok .done engine'
      ∨ engine.IsFullFor arrival
        ∧ (worker.turn arrival).run engine = .error .addOverflow engine')

namespace AtRest

variable {engine : Engine} {lineup : Lineup 1 4} {phase : FlowId → Phase} {flow : FlowId}
  {arrival : Arrival}

theorem hasSpare (h : engine.AtRest lineup phase) :
    HasSpare (lineup.flows spareQueue) engine := ⟨lineup, h.agrees.represents, rfl⟩

theorem lookup_of_phase (h : engine.AtRest lineup phase) {record : FlowRecord}
    (hphase : phase flow = .tracked record) : engine.table.lookup record.key = some flow := by
  rw [h.agrees.lookup_iff, hphase]
  rfl

theorem recordAt_of_phase (h : engine.AtRest lineup phase) {record : FlowRecord}
    (hphase : phase flow = .tracked record) : engine.table.recordAt flow = some record := by
  rw [h.agrees.record_eq, hphase]
  rfl

/-- A conversation that the table names is accounted in the first turn, or met by a full counter. -/
theorem turn_known (h : engine.AtRest lineup phase) (worker : Worker)
    (hlookup : engine.table.lookup arrival.key = some flow) (hfits : arrival.time.Fits) :
    ∃ engine', engine.Takes engine' arrival.key (lineup.flows spareQueue)
      ∧ (¬ engine.IsFullFor arrival ∧ (worker.turn arrival).run engine = .ok .done engine'
        ∨ engine.IsFullFor arrival
          ∧ (worker.turn arrival).run engine = .error .addOverflow engine') := by
  obtain ⟨record, hphase, hkey⟩ := h.tracked_of_lookup hlookup
  have hrecord := h.recordAt_of_phase hphase
  by_cases hroom : (record.direction arrival.headers).HasRoom arrival.size
  · obtain ⟨engine', lineup', hrun, h', -⟩ := h.revisit worker hphase hkey hfits hroom
    have hbound := h'.lookup_of_phase (Function.update_self ..)
    rw [FlowRecord.key_counted, hkey] at hbound
    have hspare := (HasSpare.keeps_revisit engine _ engine' h.hasSpare hrun).2
    refine ⟨engine', takes_of_hit hlookup hbound hspare, Or.inl ⟨?_, ?_⟩⟩
    · rintro ⟨flow', record', hlookup', hrecord', hfull⟩
      obtain rfl := Option.some.inj (hlookup.symm.trans hlookup')
      obtain rfl := Option.some.inj (hrecord.symm.trans hrecord')
      exact hfull hroom
    · simp only [Worker.turn, Worker.pass, run_bind, Worker.run_find, hlookup, hrun, run_pure]
  · obtain ⟨engine', record', hrun, h', -, hupdate⟩ := h.revisit_full worker hphase hkey hroom
    have hkey' : record'.key = record.key := by
      rw [FlowRecord.key, (FlowRecord.same_of_update_error hupdate).1]
      rfl
    have hbound := h'.lookup_of_phase (Function.update_self ..)
    rw [hkey', hkey] at hbound
    refine ⟨engine', takes_of_hit hlookup hbound h'.hasSpare,
      Or.inr ⟨⟨flow, record, hlookup, hrecord, hroom⟩, ?_⟩⟩
    simp only [Worker.turn, Worker.pass, run_bind, Worker.run_find, hlookup, hrun]

/-- A conversation that the table does not name is bound to the slot that is taken for it. -/
theorem settle_taken (h : engine.AtRest lineup phase)
    (hlookup : engine.table.lookup arrival.key = none) {rest : List FlowId}
    (hcons : lineup.flows spareQueue = flow :: rest) :
    ∃ taken engine', Worker.takeSpare.run engine = .ok (some flow) taken
      ∧ (Worker.settle arrival flow).run taken = .ok true engine'
      ∧ HasSpare rest engine' ∧ engine'.table.lookup arrival.key = some flow := by
  obtain ⟨hspare, queues, hdequeue, htaken⟩ := h.agrees.takeSpare hcons
  obtain ⟨table, queues', lineup', hsettle, hagrees, -⟩ :=
    settle (engine.withQueues queues) htaken h.free (Function.update_self ..) hlookup
  refine ⟨_, _, ?_, hsettle, ?_, ?_⟩
  · simp only [Worker.takeSpare, run_bind, run_onQueues engine hdequeue, run_pure]
  · refine (HasSpare.keeps_settle _ _ _ ⟨_, htaken.represents, ?_⟩ hsettle).2
    rw [Lineup.flows_place_self]
  · show table.lookup arrival.key = some flow
    rw [hagrees.lookup_iff, Function.update_self]
    exact congrArg some (FlowRecord.key_first ..)

/-- A conversation that the table does not name takes a spare slot, or is dropped if there is none. -/
theorem turn_unknown (h : engine.AtRest lineup phase) (worker : Worker)
    (hlookup : engine.table.lookup arrival.key = none) :
    ∃ engine', engine.Takes engine' arrival.key (lineup.flows spareQueue)
      ∧ (worker.turn arrival).run engine = .ok .done engine' := by
  cases hspare : lineup.flows spareQueue with
  | nil =>
    have hnil := h.agrees.represents.dequeue_nil hspare
    have htake := run_onQueues engine hnil
    have hwait := run_onQueues { engine with wakeRequested := true } hnil
    rw [withQueues_self] at htake
    refine ⟨{ engine with
        wakeRequested := true
        totals := { engine.totals with tableFullDrops := engine.totals.tableFullDrops + 1 }
        log := engine.log.push (.tableFull worker.id arrival.headers.tuple) },
      takes_of_miss hlookup hlookup ⟨lineup, h.agrees.represents, hspare⟩, ?_⟩
    simp only [Worker.turn, Worker.pass, run_bind, Worker.run_find, hlookup, Worker.takeSpare,
      htake, Worker.requestSweep, run_modify, run_pure, Worker.resume, Worker.awaitSpare, hwait,
      Worker.drop, run_modifyTotals, run_report]
    rfl
  | cons flow rest =>
    obtain ⟨taken, settled, htake, hsettle, hrest, hbound⟩ := h.settle_taken hlookup hspare
    refine ⟨{ settled with
        totals := { settled.totals with flowsCreated := settled.totals.flowsCreated + 1 }
        log := settled.log.push (.flowCreated worker.id flow) },
      takes_of_miss hlookup hbound hrest, ?_⟩
    simp only [Worker.turn, Worker.pass, run_bind, Worker.run_find, hlookup, htake, Worker.adopt,
      hsettle, if_true, run_modifyTotals, run_report, run_pure]

theorem handlesAtOnce (h : engine.AtRest lineup phase) (worker : Worker)
    (hfits : arrival.time.Fits) : engine.HandlesAtOnce worker arrival := by
  refine ⟨?_, ?_, lineup.flows spareQueue, ?_⟩
  · intro flow hlookup
    obtain ⟨record, hphase, hkey⟩ := h.tracked_of_lookup hlookup
    exact ⟨record, h.recordAt_of_phase hphase, hkey⟩
  · intro hlookup flow taken htake
    cases hspare : lineup.flows spareQueue with
    | nil =>
      -- no slot can have been taken
      have hnil := run_onQueues engine (h.agrees.represents.dequeue_nil hspare)
      simp only [Worker.takeSpare, run_bind, hnil, Worker.requestSweep, run_modify, run_pure]
        at htake
      cases htake
    | cons flow' rest =>
      obtain ⟨taken', engine', htake', hsettle, -⟩ := h.settle_taken hlookup hspare
      obtain ⟨hflow, rfl⟩ := Result.ok.inj (htake.symm.trans htake')
      obtain rfl := Option.some.inj hflow
      exact ⟨engine', hsettle⟩
  · cases hlookup : engine.table.lookup arrival.key with
    | some flow =>
      obtain ⟨engine', hturn⟩ := h.turn_known worker hlookup hfits
      exact ⟨engine', h.hasSpare.toList_eq, hturn⟩
    | none =>
      obtain ⟨engine', htakes, hturn⟩ := h.turn_unknown worker hlookup
      refine ⟨engine', h.hasSpare.toList_eq, htakes, Or.inl ⟨?_, hturn⟩⟩
      rintro ⟨flow, record, hbound, -⟩
      rw [hlookup] at hbound
      cases hbound

end AtRest

/-! ### Packets -/

/-- The packet's time does not fit, or a counter of its conversation is full. -/
def Overflows (engine : Engine) (packet : Packet) : Prop :=
  ¬ packet.time.Fits ∨ ∃ arrival, packet.arrival? = some arrival ∧ engine.IsFullFor arrival

/-- The packet is handled in one turn, however many the retry loop may take: it comes to its end, unless
an addition or a multiplication overflows. -/
def EndsAtOnce (engine : Engine) (worker : Worker) (packet : Packet) : Prop :=
  (¬ engine.Overflows packet ∧ ∃ engine', (worker.process packet).run engine = .ok () engine'
    ∧ ∀ turns, (worker.processWithin packet (turns + 1)).run engine = .ok true engine') ∨
  (engine.Overflows packet ∧ ∃ fault engine', (fault = .addOverflow ∨ fault = .mulOverflow)
    ∧ (worker.process packet).run engine = .error fault engine'
    ∧ ∀ turns, (worker.processWithin packet (turns + 1)).run engine = .error fault engine')

namespace AtRest

variable {engine : Engine} {lineup : Lineup 1 4} {phase : FlowId → Phase}

theorem run_decode_unfit (engine : Engine) (worker : Worker) (packet : Packet)
    (hunfit : ¬ packet.time.Fits) :
    ∃ fault, (fault = .addOverflow ∨ fault = .mulOverflow)
      ∧ (worker.decode packet).run engine = .error fault (counted engine packet) := by
  obtain ⟨fault, hfault⟩ := PacketClock.advance_of_not_fits engine.clock hunfit
  refine ⟨fault, PacketClock.overflow_of_advance hfault, ?_⟩
  simp only [Worker.decode, run_bind, run_modifyTotals, run_get, run_check_error hfault]
  rfl

theorem decoded_handlesAtOnce (h : engine.AtRest lineup phase) {worker : Worker} {packet : Packet}
    {arrival : Arrival} {decoded : Engine}
    (hdecode : (worker.decode packet).run engine = .ok (some arrival) decoded) :
    decoded.HandlesAtOnce worker arrival := by
  by_cases hfits : packet.time.Fits
  · obtain ⟨clock, hclock, -⟩ := PacketClock.advance_of_fits engine.clock hfits
    cases hheaders : Frame.headers packet.frame with
    | error error =>
      rw [run_decode_error engine worker packet hclock hheaders] at hdecode
      cases hdecode
    | ok headers =>
      rw [run_decode_ok engine worker packet hclock hheaders] at hdecode
      cases hdecode
      have h' : (clocked engine packet clock).AtRest lineup phase := h.congr rfl rfl
      exact h'.handlesAtOnce worker hfits
  · obtain ⟨fault, -, hfault⟩ := run_decode_unfit engine worker packet hfits
    rw [hfault] at hdecode
    cases hdecode

theorem endsAtOnce (h : engine.AtRest lineup phase) (worker : Worker) (packet : Packet) :
    engine.EndsAtOnce worker packet := by
  by_cases hfits : packet.time.Fits
  · obtain ⟨clock, hclock, -⟩ := PacketClock.advance_of_fits engine.clock hfits
    cases hheaders : Frame.headers packet.frame with
    | error error =>
      obtain ⟨engine', hdecode⟩ :
          ∃ engine', (worker.decode packet).run engine = .ok none engine' :=
        ⟨_, run_decode_error engine worker packet hclock hheaders⟩
      refine Or.inl ⟨?_, engine', ?_, ?_⟩
      · rintro (hunfit | ⟨arrival, harrival, -⟩)
        · exact hunfit hfits
        · simp only [Packet.arrival?, hheaders, reduceCtorEq] at harrival
      · simp only [Worker.process, run_bind, hdecode, run_pure]
      · intro turns
        simp only [Worker.processWithin, run_bind, hdecode, run_pure]
    | ok headers =>
      have hdecode := run_decode_ok engine worker packet hclock hheaders
      have harrival : packet.arrival? = some ⟨headers, packet.time, packet.size⟩ := by
        simp only [Packet.arrival?, hheaders]
      obtain ⟨spare, engine', -, -, hturn⟩ := (h.decoded_handlesAtOnce hdecode).turn
      have hprocess := process_decodable engine worker packet hclock hheaders
      have hwithin (turns : Nat) : (worker.processWithin packet turns).run engine
          = (worker.trackWithin ⟨headers, packet.time, packet.size⟩ turns).run
              (clocked engine packet clock) := by
        simp only [Worker.processWithin, run_bind, hdecode]
      rcases hturn with ⟨hroom, hrun⟩ | ⟨hfull, hrun⟩
      · refine Or.inl ⟨?_, engine', hprocess.trans (Worker.run_track_done hrun), ?_⟩
        · rintro (hunfit | ⟨arrival, harrival', hfull⟩)
          · exact hunfit hfits
          · obtain rfl := Option.some.inj (harrival.symm.trans harrival')
            exact hroom hfull
        · exact fun turns => (hwithin _).trans (Worker.run_trackWithin_done hrun turns)
      · refine Or.inr ⟨Or.inr ⟨_, harrival, hfull⟩, _, engine', Or.inl rfl,
          hprocess.trans (Worker.run_track_error hrun), ?_⟩
        exact fun turns => (hwithin _).trans (Worker.run_trackWithin_error hrun turns)
  · obtain ⟨fault, hoverflow, hdecode⟩ := run_decode_unfit engine worker packet hfits
    refine Or.inr ⟨Or.inl hfits, fault, counted engine packet, hoverflow, ?_, ?_⟩
    · simp only [Worker.process, run_bind, hdecode]
    · intro turns
      simp only [Worker.processWithin, run_bind, hdecode]

end AtRest

/-- Whatever packets, sweeps and flushes a fresh engine has seen, a packet is handled in the first turn of
the retry loop: a slot that the table names holds the packet's conversation, a conversation that the table
does not name can be bound to the slot that is taken for it, and no slot is given back.  So the loop ends
at once, however often it may be repeated, and the packet with it. -/
theorem packets_need_one_turn {capacity : Nat} (h : capacity < QueueStore.handleLimit)
    (calls : List EngineCall) :
    ∃ engine, fresh capacity = .ok engine ∧
      let reached := engine.performAll calls
      ∀ (worker : Worker) (packet : Packet),
        (∀ arrival decoded, (worker.decode packet).run reached = .ok (some arrival) decoded →
          decoded.HandlesAtOnce worker arrival) ∧
        reached.EndsAtOnce worker packet := by
  obtain ⟨engine, lineup, hfresh, hrest, -⟩ := fresh_atRest h
  obtain ⟨lineup', phase', h', -⟩ := AmongHolders.performAll hrest calls
  refine ⟨engine, hfresh, ?_⟩
  intro reached worker packet
  exact ⟨fun _ _ hdecode => h'.decoded_handlesAtOnce hdecode, h'.endsAtOnce worker packet⟩

/-- The second packet of a conversation that fills the only slot. -/
theorem packets_need_one_turn_of_second :
    ∃ engine, fresh 1 = .ok engine ∧
      let reached := engine.performAll [.process ⟨0⟩ (.bareAt 1)]
      reached.EndsAtOnce ⟨0⟩ (.bareAt 2) ∧
      ∃ arrival decoded, (Worker.decode ⟨0⟩ (.bareAt 2)).run reached = .ok (some arrival) decoded
        ∧ decoded.HandlesAtOnce ⟨0⟩ arrival := by
  obtain ⟨engine, hfresh, hturn⟩ :=
    packets_need_one_turn (by decide : 1 < QueueStore.handleLimit) [.process ⟨0⟩ (.bareAt 1)]
  obtain ⟨hhandles, hends⟩ := hturn ⟨0⟩ (.bareAt 2)
  obtain ⟨clock, hclock, -⟩ := PacketClock.advance_of_fits
    (engine.performAll [.process ⟨0⟩ (.bareAt 1)]).clock
    (by decide : (Packet.bareAt 2).time.Fits)
  obtain ⟨headers, hheaders⟩ : ∃ headers, Frame.headers (Packet.bareAt 2).frame = .ok headers :=
    ⟨_, rfl⟩
  have hdecode := AtRest.run_decode_ok _ ⟨0⟩ (.bareAt 2) hclock hheaders
  exact ⟨engine, hfresh, hends, _, _, hdecode, hhandles _ _ hdecode⟩

end Engine

end FlowTracker
