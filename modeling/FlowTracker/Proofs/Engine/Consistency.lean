import FlowTracker.Proofs.Engine.Census
import FlowTracker.Proofs.Engine.Fresh

/-!
# Runs keep an engine consistent

An `EngineCall` is a packet, a sweep or a flush, and during the last two others may hold any payload
locks.  `Phase.Moves` lists what a call can do to the slots, and `perform_moves` says that it does nothing
else.  Whatever the calls are and however they end, they lead from a fresh engine to engines at rest
only; `performAll_consistent` spells out what that means for queues, slots and bindings, and that a sweep
or a flush never stops of its own.
-/

namespace FlowTracker

/-! ### Holders of payload locks -/

/-- The table while exactly the payload locks of the busy slots are held. -/
def FlowTable.withHolders (table : FlowTable) (busy : FlowId → Bool) : FlowTable :=
  { table with slots := table.slots.mapIdx fun flow slot => { slot with held := busy flow } }

namespace FlowTable

variable (table : FlowTable) (busy : FlowId → Bool)

theorem capacity_withHolders : (table.withHolders busy).capacity = table.capacity :=
  Array.size_mapIdx

theorem recordAt_withHolders (flow : FlowId) :
    (table.withHolders busy).recordAt flow = table.recordAt flow := by
  unfold recordAt withHolders
  simp only [Array.getElem?_mapIdx]
  cases table.slots[flow]? <;> rfl

theorem heldAt_withHolders {flow : FlowId} (hlt : flow < table.capacity) :
    (table.withHolders busy).heldAt flow = busy flow := by
  unfold heldAt withHolders
  simp only [Array.getElem?_mapIdx, Array.getElem?_eq_getElem hlt]
  rfl

end FlowTable

namespace Engine

def withHolders (engine : Engine) (busy : FlowId → Bool) : Engine :=
  engine.withTable (engine.table.withHolders busy)

variable {engine : Engine} {busy : FlowId → Bool} {lineup : Lineup 1 4} {phase : FlowId → Phase}

theorem AmongHolders.withHolders (h : engine.AmongHolders busy lineup phase)
    (busy' : FlowId → Bool) : (engine.withHolders busy').AmongHolders busy' lineup phase := by
  refine ⟨⟨h.agrees.represents, ?_, ?_, h.agrees.mem_iff, ?_, h.agrees.lookup_iff⟩, h.settled, ?_,
    h.fits⟩
  · exact h.agrees.capacity_eq.trans (FlowTable.capacity_withHolders ..).symm
  · intro flow
    rw [h.agrees.inside_iff]
    exact iff_of_eq (congrArg (flow < ·) (FlowTable.capacity_withHolders ..).symm)
  · intro flow
    exact (FlowTable.recordAt_withHolders ..).trans (h.agrees.record_eq flow)
  · intro flow hin
    exact FlowTable.heldAt_withHolders _ _ (h.agrees.lt_size hin)

end Engine

/-! ### Calls -/

/-- A packet from 10.0.0.1 to 10.0.0.2 with nothing behind its internet header. -/
def Packet.bareAt (second : UInt64) : Packet where
  time := ⟨second, 0⟩
  frame := List.replicate 12 0 ++ [8, 0, 0x45] ++ List.replicate 8 0
    ++ [253, 0, 0, 10, 0, 0, 1, 10, 0, 0, 2]

def Packet.arrival? (packet : Packet) : Option Arrival :=
  match Frame.headers packet.frame with
  | .ok headers => some ⟨headers, packet.time, packet.size⟩
  | .error _ => none

inductive EngineCall where
  | process (worker : Worker) (packet : Packet)
  /-- A sweep while others hold the payload locks of the busy slots. -/
  | sweep (manager : Manager) (reason : ReleaseReason) (busy : FlowId → Bool)
  /-- A flush while others hold the payload locks of the busy slots. -/
  | flush (manager : Manager) (busy : FlowId → Bool)

namespace EngineCall

def program : EngineCall → EngineM Unit
  | process worker packet => worker.process packet
  | sweep manager reason _ => do let _ ← manager.sweep reason
  | flush manager _ => manager.flush

/-- The slots whose payload locks others hold during a call. -/
def busy : EngineCall → FlowId → Bool
  | process .. => fun _ => false
  | sweep _ _ busy | flush _ busy => busy

/-- What a call makes of a clock of `micros` microseconds: a packet whose time fits advances it. -/
def clockFrom (micros : Nat) : EngineCall → Nat
  | process _ packet => if packet.time.Fits then max micros packet.time.micros else micros
  | sweep .. | flush .. => micros

end EngineCall

namespace Engine

/-- The engine that a call leaves when the others have given their locks back, also if the call has
stopped with a fault. -/
def perform (engine : Engine) (call : EngineCall) : Engine :=
  match call.program.run (engine.withHolders call.busy) with
  | .ok () engine => engine.withHolders fun _ => false
  | .error _ engine => engine.withHolders fun _ => false

def performAll (engine : Engine) (calls : List EngineCall) : Engine := calls.foldl perform engine

/-- The arrival that a call has accounted or dropped, if it has come to its end. -/
def accounted (engine : Engine) (call : EngineCall) : Option Arrival :=
  match call, call.program.run (engine.withHolders call.busy) with
  | .process _ packet, .ok () _ => packet.arrival?
  | _, _ => none

end Engine

/-! ### One call -/

def Phase.SameSlots (phase phase' : FlowId → Phase) : Prop :=
  ∀ flow, phase' flow = .outside ↔ phase flow = .outside

namespace Phase.SameSlots

variable {phase phase' phase'' : FlowId → Phase} {flow : FlowId} {new : Phase}

theorem refl (phase : FlowId → Phase) : SameSlots phase phase := fun _ => Iff.rfl

theorem trans (h : SameSlots phase phase') (h' : SameSlots phase' phase'') :
    SameSlots phase phase'' := fun flow => (h' flow).trans (h flow)

theorem update (hin : phase flow ≠ .outside) (hnew : new ≠ .outside) :
    SameSlots phase (Function.update phase flow new) := by
  intro flow'
  by_cases hflow : flow' = flow
  · subst hflow
    simp [hin, hnew]
  · rw [Function.update_of_ne hflow]

theorem spared {flows : List FlowId} (hin : ∀ flow ∈ flows, phase flow ≠ .outside) :
    SameSlots phase (Phase.spared phase flows) := by
  intro flow
  unfold Phase.spared
  by_cases hmem : flow ∈ flows
  · simp [hmem, hin flow hmem]
  · simp [hmem]

end Phase.SameSlots

/-- What a call does to the slots with the arrival that it has accounted or dropped. -/
inductive Phase.Moves (phase : FlowId → Phase) : Option Arrival → (FlowId → Phase) → Prop where
  | stay : Moves phase none phase
  | leave {flows : List FlowId} (hin : ∀ flow ∈ flows, phase flow ≠ .outside) :
      Moves phase none (Phase.spared phase flows)
  | drop {arrival : Arrival}
      (hnew : ∀ flow record, phase flow = .tracked record → record.key ≠ arrival.key) :
      Moves phase (some arrival) phase
  | start {arrival : Arrival} {flow : FlowId}
      (hnew : ∀ flow record, phase flow = .tracked record → record.key ≠ arrival.key)
      (hspare : phase flow = .spare) :
      Moves phase (some arrival) (Function.update phase flow
        (.tracked (.first arrival.headers arrival.time arrival.size)))
  | account {arrival : Arrival} {flow : FlowId} {record after : FlowRecord} {before : FlowState}
      (hphase : phase flow = .tracked record) (hkey : record.key = arrival.key)
      (hupdate : (FlowRecord.update arrival.headers arrival.time arrival.size).run record
        = .ok before after) :
      Moves phase (some arrival) (Function.update phase flow (.tracked after))
  /-- The arrival has come to a counter that is full. -/
  | stop {arrival : Arrival} {flow : FlowId} {record after : FlowRecord} {fault : Fault}
      (hphase : phase flow = .tracked record)
      (hupdate : (FlowRecord.update arrival.headers arrival.time arrival.size).run record
        = .error fault after) :
      Moves phase none (Function.update phase flow (.tracked after))

theorem Phase.Moves.sameSlots {phase phase' : FlowId → Phase} {arrival : Option Arrival}
    (h : Phase.Moves phase arrival phase') : Phase.SameSlots phase phase' := by
  cases h with
  | stay => exact .refl phase
  | leave hin => exact .spared hin
  | drop hnew => exact .refl phase
  | start hnew hspare => exact .update (by simp [hspare]) (by simp)
  | account hphase hkey hupdate => exact .update (by simp [hphase]) (by simp)
  | stop hphase hupdate => exact .update (by simp [hphase]) (by simp)

/-- Where the same slots exist, the table has the same capacity. -/
theorem Agrees.capacity_congr {table table' : FlowTable} {queues queues' : QueueStore 1 4}
    {lineup lineup' : Lineup 1 4} {phase phase' : FlowId → Phase}
    (h : Agrees table queues lineup phase) (h' : Agrees table' queues' lineup' phase')
    (hsame : Phase.SameSlots phase phase') : table'.capacity = table.capacity := by
  have hslots : ∀ flow, flow < table'.capacity ↔ flow < table.capacity := by
    intro flow
    rw [← h'.inside_iff, ← h.inside_iff]
    exact not_congr (hsame flow)
  exact Nat.le_antisymm (Nat.not_lt.1 fun hlt => Nat.lt_irrefl _ ((hslots _).1 hlt))
    (Nat.not_lt.1 fun hlt => Nat.lt_irrefl _ ((hslots _).2 hlt))

namespace Engine.AmongHolders

open EStateM

variable {engine : Engine} {busy : FlowId → Bool} {lineup : Lineup 1 4} {phase : FlowId → Phase}

theorem track (h : engine.AtRest lineup phase) (worker : Worker) (arrival : Arrival)
    (hfits : arrival.time.Fits) :
    ∃ engine' lineup' phase', engine'.AtRest lineup' phase' ∧ engine'.clock = engine.clock
      ∧ ((worker.track arrival).run engine = .ok () engine' ∧ Phase.Moves phase (some arrival) phase'
        ∨ (∃ fault, (worker.track arrival).run engine = .error fault engine')
          ∧ Phase.Moves phase none phase') := by
  cases hlookup : engine.table.lookup arrival.key with
  | some flow =>
    obtain ⟨record, hphase, hkey⟩ := h.tracked_of_lookup hlookup
    by_cases hroom : (record.direction arrival.headers).HasRoom arrival.size
    · obtain ⟨engine', lineup', hrun, h', hsame⟩ :=
        AtRest.track_known h worker hphase hkey hfits hroom
      exact ⟨engine', lineup', _, h', hsame.clock_eq,
        Or.inl ⟨hrun, .account hphase hkey (FlowRecord.update_of_hasRoom arrival.time hroom)⟩⟩
    · obtain ⟨engine', record', hrun, h', hsame, hupdate⟩ :=
        AtRest.track_full h worker hphase hkey hroom
      exact ⟨engine', lineup, _, h', hsame.clock_eq, Or.inr ⟨⟨_, hrun⟩, .stop hphase hupdate⟩⟩
  | none =>
    have hnew : ∀ flow record, phase flow = .tracked record → record.key ≠ arrival.key := by
      intro flow record hphase hkey
      have hbound : engine.table.lookup arrival.key = some flow := by
        rw [h.agrees.lookup_iff, hphase, ← hkey]
        rfl
      rw [hlookup] at hbound
      cases hbound
    cases hspare : lineup.flows spareQueue with
    | nil =>
      obtain ⟨engine', hrun, h', hclock, -⟩ := AtRest.track_drop h worker hlookup hspare
      exact ⟨engine', lineup, phase, h', hclock, Or.inl ⟨hrun, .drop hnew⟩⟩
    | cons flow rest =>
      obtain ⟨engine', lineup', hrun, hphase, h', hclock, -⟩ :=
        AtRest.track_new h worker hlookup hfits hspare
      exact ⟨engine', lineup', _, h', hclock, Or.inl ⟨hrun, .start hnew hphase⟩⟩

/-- A packet leaves an engine at rest, however it ends. -/
theorem process (h : engine.AtRest lineup phase) (worker : Worker) (packet : Packet) :
    ∃ engine' lineup' phase', engine'.AtRest lineup' phase'
      ∧ engine'.clock.toNat = (EngineCall.process worker packet).clockFrom engine.clock.toNat
      ∧ ((worker.process packet).run engine = .ok () engine'
          ∧ Phase.Moves phase packet.arrival? phase'
        ∨ (∃ fault, (worker.process packet).run engine = .error fault engine')
          ∧ Phase.Moves phase none phase') := by
  have hfrom : (EngineCall.process worker packet).clockFrom engine.clock.toNat
      = if packet.time.Fits then max engine.clock.toNat packet.time.micros
        else engine.clock.toNat := rfl
  by_cases hfits : packet.time.Fits
  · obtain ⟨clock, hclock, hmicros⟩ := PacketClock.advance_of_fits engine.clock hfits
    rw [hfrom, if_pos hfits, ← hmicros]
    unfold Packet.arrival?
    cases hheaders : Frame.headers packet.frame with
    | error error =>
      obtain ⟨engine', hrun, htable, hqueues, hclock', -⟩ :=
        AtRest.process_undecodable engine worker packet hclock hheaders
      exact ⟨engine', lineup, phase, h.congr htable hqueues, congrArg UInt64.toNat hclock',
        Or.inl ⟨hrun, .stay⟩⟩
    | ok headers =>
      have hrun := AtRest.process_decodable engine worker packet hclock hheaders
      rw [hrun]
      have h' : (AtRest.clocked engine packet clock).AtRest lineup phase := h.congr rfl rfl
      obtain ⟨engine', lineup', phase', hrest, hclock', hmoves⟩ :=
        h'.track worker ⟨headers, packet.time, packet.size⟩ hfits
      exact ⟨engine', lineup', phase', hrest, congrArg UInt64.toNat hclock', hmoves⟩
  · obtain ⟨fault, hrun⟩ := AtRest.process_unfit engine worker packet hfits
    rw [hfrom, if_neg hfits]
    exact ⟨AtRest.counted engine packet, lineup, phase, h.congr rfl rfl, rfl,
      Or.inr ⟨⟨fault, hrun⟩, .stay⟩⟩

theorem swept_moves (h : engine.AmongHolders busy lineup phase) {manager : Manager}
    {reason : ReleaseReason} {clock : PacketClock} :
    Phase.Moves phase none
      (Phase.spared phase (swept manager reason clock busy lineup phase)) := by
  apply Phase.Moves.leave
  intro flow hmem
  obtain ⟨record, hphase⟩ := h.mem_members_iff.1 (List.mem_of_mem_filter hmem)
  simp [hphase]

theorem swept_inside (h : engine.AmongHolders busy lineup phase) {manager : Manager}
    {reason : ReleaseReason} {clock : PacketClock} :
    Phase.SameSlots phase (Phase.spared phase (swept manager reason clock busy lineup phase)) :=
  h.swept_moves.sameSlots

/-- A sweep or a flush leaves an engine at rest, and stops only where the exporter does. -/
theorem run_sweeping (h : engine.AmongHolders busy lineup phase) (manager : Manager)
    (reason : ReleaseReason) {program : EngineM Unit}
    (hprogram : program = (do let _ ← manager.sweep reason)
      ∨ reason = .shutdown ∧ program = manager.flush) :
    ∃ engine' lineup' phase', engine'.AmongHolders busy lineup' phase'
      ∧ (phase' = Phase.spared phase (swept manager reason engine.clock busy lineup phase)
        ∧ engine'.clock = engine.clock)
      ∧ (program.run engine = .ok () engine'
        ∨ program.run engine = .error .exporter engine' ∧ manager.exporter.limit ≠ none) := by
  obtain ⟨engine', lineup', h', hclock, ⟨result, hrun⟩ | ⟨hrun, hlimit⟩⟩ := h.sweep manager reason
  · rcases hprogram with rfl | ⟨rfl, rfl⟩
    · refine ⟨engine', lineup', _, h', ⟨rfl, hclock⟩, Or.inl ?_⟩
      simp only [run_bind, hrun, run_pure]
    · obtain ⟨log, hflush⟩ := run_flush hrun
      exact ⟨{ engine' with log }, lineup', _, h'.congr rfl rfl, ⟨rfl, hclock⟩, Or.inl hflush⟩
  · rcases hprogram with rfl | ⟨rfl, rfl⟩
    · refine ⟨engine', lineup', _, h', ⟨rfl, hclock⟩, Or.inr ⟨?_, hlimit⟩⟩
      simp only [run_bind, hrun]
    · exact ⟨engine', lineup', _, h', ⟨rfl, hclock⟩, Or.inr ⟨run_flush_error hrun, hlimit⟩⟩

theorem perform_eq {engine engine' : Engine} {call : EngineCall}
    (hrun : call.program.run (engine.withHolders call.busy) = .ok () engine'
      ∨ ∃ fault, call.program.run (engine.withHolders call.busy) = .error fault engine') :
    engine.perform call = engine'.withHolders fun _ => false := by
  unfold Engine.perform
  obtain hrun | ⟨fault, hrun⟩ := hrun <;> rw [hrun]

/-- A call leads from an engine at rest to an engine at rest, and this is all it does to the slots and
to the clock. -/
theorem perform_moves (h : engine.AtRest lineup phase) (call : EngineCall) :
    ∃ lineup' phase', (engine.perform call).AtRest lineup' phase'
      ∧ Phase.Moves phase (engine.accounted call) phase'
      ∧ (engine.perform call).clock.toNat = call.clockFrom engine.clock.toNat := by
  have hbusy := h.withHolders call.busy
  obtain ⟨engine', lineup', phase', h', hmoves, hclock, hrun⟩ :
      ∃ engine' lineup' phase', engine'.AmongHolders call.busy lineup' phase'
        ∧ Phase.Moves phase (engine.accounted call) phase'
        ∧ engine'.clock.toNat = call.clockFrom engine.clock.toNat
        ∧ (call.program.run (engine.withHolders call.busy) = .ok () engine'
          ∨ ∃ fault, call.program.run (engine.withHolders call.busy) = .error fault engine') := by
    cases call with
    | process worker packet =>
      obtain ⟨engine', lineup', phase', h', hclock, hend⟩ := process hbusy worker packet
      unfold accounted EngineCall.program
      rcases hend with ⟨hrun, hmoves⟩ | ⟨⟨fault, hrun⟩, hmoves⟩
      · exact ⟨engine', lineup', phase', h', by rw [hrun]; exact hmoves, hclock, Or.inl hrun⟩
      · exact ⟨engine', lineup', phase', h', by rw [hrun]; exact hmoves, hclock,
          Or.inr ⟨fault, hrun⟩⟩
    | sweep manager reason busy =>
      obtain ⟨engine', lineup', phase', h', ⟨rfl, hclock⟩, hrun⟩ :=
        hbusy.run_sweeping manager reason (Or.inl rfl)
      exact ⟨engine', lineup', _, h', hbusy.swept_moves, congrArg UInt64.toNat hclock,
        hrun.imp_right fun hstop => ⟨_, hstop.1⟩⟩
    | flush manager busy =>
      obtain ⟨engine', lineup', phase', h', ⟨rfl, hclock⟩, hrun⟩ :=
        hbusy.run_sweeping manager .shutdown (Or.inr ⟨rfl, rfl⟩)
      exact ⟨engine', lineup', _, h', hbusy.swept_moves, congrArg UInt64.toNat hclock,
        hrun.imp_right fun hstop => ⟨_, hstop.1⟩⟩
  rw [perform_eq hrun]
  exact ⟨lineup', phase', h'.withHolders _, hmoves, hclock⟩

theorem performAll (h : engine.AtRest lineup phase) (calls : List EngineCall) :
    ∃ lineup' phase', (engine.performAll calls).AtRest lineup' phase'
      ∧ Phase.SameSlots phase phase' := by
  induction calls generalizing engine lineup phase with
  | nil => exact ⟨lineup, phase, h, .refl phase⟩
  | cons call calls ih =>
    obtain ⟨lineup', phase', h', hmoves, -⟩ := h.perform_moves call
    obtain ⟨lineup'', phase'', h'', hsame⟩ := ih h'
    exact ⟨lineup'', phase'', h'', hmoves.sameSlots.trans hsame⟩

end Engine.AmongHolders

/-! ### Consistency -/

/-- Each of `capacity` slots is in exactly one queue, and queues, payloads and bindings say the same of
it.  The members of each queue, bottom first, are `flows`. -/
structure Engine.Consistent (engine : Engine) (capacity : Nat)
    (flows : QueueIndex → List FlowId) : Prop where
  reads : ∀ q, engine.queues.ReadsAs q (flows q)
  capacity_eq : engine.table.capacity = capacity
  one_queue : ∀ flow, flow < capacity → ∃! q, flow ∈ flows q
  slots_only : ∀ q, ∀ flow ∈ flows q, flow < capacity
  spare_iff : ∀ flow, flow < capacity →
    (flow ∈ flows spareQueue ↔ engine.table.recordAt flow = none)
  queued : ∀ flow record, engine.table.recordAt flow = some record →
    flow ∈ flows record.state.queue
  lookup_iff : ∀ key flow, engine.table.lookup key = some flow ↔
    ∃ record, engine.table.recordAt flow = some record ∧ record.key = key
  tracked_eq : engine.tracked = engine.table.activeCount
  spare_eq : engine.tracked = capacity - (engine.queues.queue spareQueue).length

namespace Engine

open EStateM

variable {engine : Engine} {lineup : Lineup 1 4} {phase : FlowId → Phase}

theorem AmongHolders.consistent {busy : FlowId → Bool} {capacity : Nat}
    (h : engine.AmongHolders busy lineup phase) (hcapacity : engine.table.capacity = capacity) :
    engine.Consistent capacity lineup.flows := by
  subst hcapacity
  have hinside : ∀ flow, flow < engine.table.capacity →
      phase flow = .spare ∨ ∃ record, phase flow = .tracked record := by
    intro flow hlt
    have hin := (h.agrees.inside_iff flow).2 hlt
    have hsettled := h.settled flow
    cases hphase : phase flow <;> rw [hphase] at hsettled hin <;> simp_all [Phase.IsSettled]
  refine ⟨fun q => (h.agrees.represents.chain q).readsAs, rfl, ?_, ?_, ?_, ?_, ?_, ?_, ?_⟩
  · intro flow hlt
    simp only [h.agrees.mem_iff]
    obtain hphase | ⟨record, hphase⟩ := hinside flow hlt <;> rw [hphase]
    · exact ⟨spareQueue, rfl, fun q hq => (Option.some.inj hq).symm⟩
    · exact ⟨record.state.queue, rfl, fun q hq => (Option.some.inj hq).symm⟩
  · intro q flow hmem
    exact h.agrees.lt_size (Phase.ne_outside_of_queue ((h.agrees.mem_iff ..).1 hmem))
  · intro flow hlt
    rw [h.mem_spare_iff, h.agrees.record_eq]
    obtain hphase | ⟨record, hphase⟩ := hinside flow hlt <;> simp [hphase, Phase.record]
  · intro flow record hrecord
    have hlt := FlowTable.lt_capacity_of_recordAt hrecord
    rw [h.agrees.record_eq] at hrecord
    rw [h.agrees.mem_iff]
    obtain hphase | ⟨record', hphase⟩ := hinside flow hlt <;> rw [hphase] at hrecord ⊢
    · cases hrecord
    · rw [← Option.some.inj hrecord]
      rfl
  · intro key flow
    rw [h.agrees.record_eq]
    constructor
    · intro hlookup
      obtain ⟨record, hphase, hkey⟩ := h.tracked_of_lookup hlookup
      exact ⟨record, by rw [hphase]; rfl, hkey⟩
    · rintro ⟨record, hrecord, rfl⟩
      exact (h.agrees.lookup_iff ..).2 (Phase.key_of_record hrecord)
  · rw [h.tracked_eq, h.activeCount_eq]
  · rw [h.tracked_eq, (h.agrees.represents.chain spareQueue).length_eq, ← h.length_spare_add]
    omega

/-- Whatever packets, sweeps and flushes a fresh engine has seen, each of its slots is in exactly one
queue, and queues, payloads and bindings say the same of it.  The next sweep or flush, whichever payload
locks others hold meanwhile, comes to its end or is stopped by the exporter. -/
theorem performAll_consistent {capacity : Nat} (h : capacity < QueueStore.handleLimit)
    (calls : List EngineCall) :
    ∃ engine, fresh capacity = .ok engine ∧
      let reached := engine.performAll calls
      (∃ flows, reached.Consistent capacity flows) ∧
      (∀ manager reason busy,
        (∃ result engine', (Manager.sweep manager reason).run (reached.withHolders busy)
          = .ok result engine') ∨
        manager.exporter.limit ≠ none ∧ ∃ engine',
          (manager.sweep reason).run (reached.withHolders busy) = .error .exporter engine') ∧
      (∀ manager busy,
        (∃ engine', (Manager.flush manager).run (reached.withHolders busy) = .ok () engine') ∨
        manager.exporter.limit ≠ none ∧ ∃ engine',
          manager.flush.run (reached.withHolders busy) = .error .exporter engine') := by
  obtain ⟨engine, lineup, hfresh, hrest, hcapacity, -⟩ := fresh_atRest h
  obtain ⟨lineup', phase', h', hsame⟩ := hrest.performAll calls
  have hreached : (engine.performAll calls).table.capacity = capacity :=
    (hrest.agrees.capacity_congr h'.agrees hsame).trans hcapacity
  refine ⟨engine, hfresh, ⟨_, h'.consistent hreached⟩, ?_, ?_⟩
  · intro manager reason busy
    obtain ⟨reached, -, -, -, ⟨result, hrun⟩ | ⟨hrun, hlimit⟩⟩ :=
      (h'.withHolders busy).sweep manager reason
    · exact Or.inl ⟨result, reached, hrun⟩
    · exact Or.inr ⟨hlimit, reached, hrun⟩
  · intro manager busy
    obtain ⟨reached, -, -, -, -, hrun | ⟨hrun, hlimit⟩⟩ :=
      (h'.withHolders busy).run_sweeping manager .shutdown (Or.inr ⟨rfl, rfl⟩)
    · exact Or.inl ⟨reached, hrun⟩
    · exact Or.inr ⟨hlimit, reached, hrun⟩

/-- Two slots after a packet that starts a flow, a packet whose time does not fit and a flush while the
slot of the flow is held. -/
theorem performAll_consistent_of_two :
    ∃ engine, fresh 2 = .ok engine ∧ ∃ flows, (engine.performAll
      [.process ⟨0⟩ (.bareAt 1), .process ⟨0⟩ (.bareAt 0xffffffffffffffff),
        .flush ⟨⟨⟨0, 0⟩, ⟨0, 0⟩, ⟨0, 0⟩⟩, .reliable⟩ fun flow => flow == 0]).Consistent 2 flows := by
  obtain ⟨engine, hfresh, hconsistent, -⟩ := performAll_consistent (by decide : 2 < _)
    [.process ⟨0⟩ (.bareAt 1), .process ⟨0⟩ (.bareAt 0xffffffffffffffff),
      .flush ⟨⟨⟨0, 0⟩, ⟨0, 0⟩, ⟨0, 0⟩⟩, .reliable⟩ fun flow => flow == 0]
  exact ⟨engine, hfresh, hconsistent⟩

end Engine

end FlowTracker
