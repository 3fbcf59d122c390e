import FlowTracker.Proofs.Checked.Captures
import FlowTracker.Proofs.Checked.Frames
import FlowTracker.Proofs.Map.Simulation

/-!
# No capture stops an engine

`Capture.drive` reads a capture, hands every packet to a worker and sweeps as a schedule says, with every
check of the reader and of the frames in place.  Below 2^48 octets it is the run of the engine's own calls
(`drive_eq`): packets and octets are bounded by the octets of the capture, so that the run never stops.
-/

namespace FlowTracker

open Engine EStateM

namespace Worker

/-- `Worker.decode` with every access to the frame checked. -/
def checkedDecode (worker : Worker) (packet : Packet) : EngineM (Option Arrival) := do
  modifyTotals (·.countPacket packet.size)
  let clock ← check ((← get).clock.advance packet.time)
  modify fun engine => { engine with clock }
  match ← check (Frame.checkedHeaders packet.frame).run with
  | .ok headers => return some ⟨headers, packet.time, packet.size⟩
  | .error error =>
    modifyTotals fun totals => { totals with undecodable := totals.undecodable + 1 }
    report (.undecodable worker.id error)
    return none

def checkedProcess (worker : Worker) (packet : Packet) : EngineM Unit := do
  match ← worker.checkedDecode packet with
  | some arrival => worker.track arrival
  | none => return ()

theorem checkedProcess_eq (worker : Worker) (packet : Packet) :
    worker.checkedProcess packet = worker.process packet := by
  have hdecode : worker.checkedDecode packet = worker.decode packet := by
    unfold checkedDecode decode
    rw [Frame.checkedHeaders_eq]
    rfl
  rw [checkedProcess, hdecode]
  rfl

end Worker

/-! ### The calls of a schedule -/

namespace EngineCall

variable (workers : Nat → Worker) (manager : Manager) (sweeps : Nat → Nat)

def scheduled (n : Nat) : List (Timestamp × Octets) → List EngineCall
  | [] => [.flush manager fun _ => false]
  | packet :: packets =>
    .process (workers n) ⟨packet.1, packet.2⟩
      :: (List.replicate (sweeps n) (.sweep manager .timeout fun _ => false)
        ++ scheduled (n + 1) packets)

theorem runAll_append (calls calls' : List EngineCall) :
    runAll (calls ++ calls') = (do runAll calls; runAll calls') := by
  induction calls with
  | nil => rfl
  | cons call calls ih =>
    rw [List.cons_append, runAll, ih, runAll, bind_assoc]

theorem runAll_replicate_sweep (times : Nat) :
    runAll (List.replicate times (.sweep manager .timeout fun _ => false))
      = manager.sweepRepeatedly times := by
  induction times with
  | zero => rfl
  | succ times ih =>
    rw [List.replicate_succ, runAll, ih, Manager.sweepRepeatedly, program, bind_assoc]
    rfl

theorem packets_replicate_sweep (times : Nat) :
    packets (List.replicate times (.sweep manager .timeout fun _ => false)) = [] := by
  induction times with
  | zero => rfl
  | succ times ih => rw [List.replicate_succ, packets_cons, ih]; rfl

theorem packets_scheduled (n : Nat) (found : List (Timestamp × Octets)) :
    packets (scheduled workers manager sweeps n found)
      = found.map fun packet => ⟨packet.1, packet.2⟩ := by
  induction found generalizing n with
  | nil => rfl
  | cons packet found ih =>
    have hsplit (calls calls' : List EngineCall) :
        packets (calls ++ calls') = packets calls ++ packets calls' := List.filterMap_append
    rw [scheduled, packets_cons, hsplit, packets_replicate_sweep, ih]
    rfl

theorem isReady_scheduled (hlimit : manager.exporter.limit = none) (n : Nat)
    {found : List (Timestamp × Octets)} (hfits : ∀ packet ∈ found, packet.1.Fits) :
    ∀ call ∈ scheduled workers manager sweeps n found, call.IsReady := by
  induction found generalizing n with
  | nil =>
    intro call hmem
    rw [List.mem_singleton.1 hmem]
    exact hlimit
  | cons packet found ih =>
    intro call hmem
    rcases List.mem_cons.1 hmem with rfl | hmem
    · exact hfits packet List.mem_cons_self
    rcases List.mem_append.1 hmem with hmem | hmem
    · rw [List.eq_of_mem_replicate hmem]
      exact hlimit
    · exact ih (n + 1) (fun packet' hmem' => hfits packet' (List.mem_cons_of_mem _ hmem')) call hmem

end EngineCall

/-! ### Driving an engine -/

namespace Capture

/-- Reads a capture: packet number `n` goes to the worker `workers n`, and behind it the manager sweeps
`sweeps n` times.  Where the reading ends or fails, everything is flushed. -/
def drive (workers : Nat → Worker) (manager : Manager) (sweeps : Nat → Nat) (n : Nat)
    (capture : Capture) : EngineM Unit :=
  match _hnext : capture.checkedNext with
  | .error fault => throw fault
  | .ok (.error _ _) => manager.flush
  | .ok (.ok none _) => manager.flush
  | .ok (.ok (some packet) after) => do
    (workers n).checkedProcess ⟨packet.1, packet.2⟩
    manager.sweepRepeatedly (sweeps n)
    after.drive workers manager sweeps (n + 1)
  termination_by capture.delivery.size
  decreasing_by exact size_next (checkedNext_eq_ok _hnext)

variable {capture : Capture} {limit : Nat} {workers : Nat → Worker} {manager : Manager}
  {sweeps : Nat → Nat}

theorem drive_of_ok (n : Nat) (answer : CaptureResult (Option (Timestamp × Octets))) :
    capture.checkedNext = .ok answer → capture.drive workers manager sweeps n = match answer with
      | .error _ _ => manager.flush
      | .ok none _ => manager.flush
      | .ok (some packet) after => (do
        (workers n).checkedProcess ⟨packet.1, packet.2⟩
        manager.sweepRepeatedly (sweeps n)
        after.drive workers manager sweeps (n + 1)) := by
  intro h
  rw [drive]
  split <;> rename_i hnext <;> rw [h] at hnext <;> cases hnext <;> rfl

/-- Below 2^48 octets the drive is the run of the scheduled calls. -/
theorem drive_eq (h : capture.IsWithin limit) (hlimit : limit < 2 ^ 48) (n : Nat) :
    capture.drive workers manager sweeps n = EngineCall.runAll
      (EngineCall.scheduled workers manager sweeps n capture.readAll.packets) := by
  have hflush : manager.flush = EngineCall.runAll [.flush manager fun _ => false] :=
    (bind_pure manager.flush).symm
  induction capture using readAll.induct generalizing n with
  | case1 capture error last hnext =>
    have hstop : capture.next = stop (some error) last := hnext
    rw [drive_of_ok n _ (checkedNext_eq h hlimit), hnext, readAll_of_stop hstop]
    exact hflush
  | case2 capture last hnext =>
    have hstop : capture.next = stop none last := hnext
    rw [drive_of_ok n _ (checkedNext_eq h hlimit), hnext, readAll_of_stop hstop]
    exact hflush
  | case3 capture packet after hnext ih =>
    have hafter := (next_pays h hnext).within
    rw [drive_of_ok n _ (checkedNext_eq h hlimit), hnext, readAll_of_packet hnext]
    simp only
    rw [ih hafter (n + 1), Worker.checkedProcess_eq, EngineCall.scheduled, EngineCall.runAll,
      EngineCall.runAll_append, EngineCall.runAll_replicate_sweep]
    rfl

/-- Every packet of a capture, and every octet of a packet, is paid for with an octet of the capture. -/
theorem IsWithin.scheduled_le (h : capture.IsWithin limit) (workers : Nat → Worker)
    (manager : Manager) (sweeps : Nat → Nat) (n : Nat) :
    (EngineCall.packets
        (EngineCall.scheduled workers manager sweeps n capture.readAll.packets)).length
      + Packet.octets (EngineCall.packets
        (EngineCall.scheduled workers manager sweeps n capture.readAll.packets)) ≤ limit := by
  have hframe : (fun packet : Packet => packet.frame.length)
      ∘ (fun found : Timestamp × Octets => (⟨found.1, found.2⟩ : Packet))
      = fun found => found.2.length := rfl
  obtain ⟨-, hroom⟩ := readAll_within h
  rw [EngineCall.packets_scheduled, List.length_map, Packet.octets, List.map_map, hframe]
  omega

/-- A capture of fewer than 2^48 octets, however they arrive, is read, processed, swept and flushed
without a fault: no octet is looked up outside of its frame, no time, offset or counter leaves its
range, and no queue, slot or lifecycle check fails.  The engine that is reached is the one that the
unchecked calls reach. -/
theorem drive_never_faults {capacity : Nat} (hcapacity : capacity < QueueStore.handleLimit)
    {delivery : Delivery} (hoctets : delivery.octets.length < 2 ^ 48) (label : String)
    (workers : Nat → Worker) (timeouts : Timeouts) (shutdownError : Option String)
    (sweeps : Nat → Nat) :
    ∃ engine, fresh capacity = .ok engine ∧ ∃ reached,
      ((ofDelivery label delivery).drive workers ⟨timeouts, none, shutdownError⟩ sweeps 0).run engine
        = .ok () reached
      ∧ (EngineCall.runAll (EngineCall.scheduled workers ⟨timeouts, none, shutdownError⟩ sweeps 0
          (ofDelivery label delivery).readAll.packets)).run engine = .ok () reached := by
  rw [Delivery.length_octets] at hoctets
  have hwithin := isWithin_ofDelivery label delivery
  have hready := EngineCall.isReady_scheduled workers ⟨timeouts, none, shutdownError⟩ sweeps rfl 0
    (readAll_within hwithin).1
  have hcounted := hwithin.scheduled_le workers ⟨timeouts, none, shutdownError⟩ sweeps 0
  have hstart : (FlowMap.fresh capacity).counters.packets = 0
      ∧ (FlowMap.fresh capacity).counters.bytes = 0 := ⟨rfl, rfl⟩
  obtain ⟨engine, lineup, hfresh, hsimulates⟩ := fresh_simulates hcapacity
  obtain ⟨reached, lineup', phase', hrun, -⟩ := hsimulates.runAll (FlowMap.isSound_fresh capacity)
    hready (by unfold Word.count; omega) (by unfold Word.count; omega)
  refine ⟨engine, hfresh, reached, ?_, hrun⟩
  rw [drive_eq hwithin hoctets, hrun]

/-- One record in two pieces, and two sweeps behind its packet. -/
theorem drive_never_faults_of_one :
    ∃ engine, fresh 1 = .ok engine ∧ ∃ reached,
      ((ofDelivery "capture" [.data (List.replicate 8 0 ++ [2, 0, 0, 20, 0, 0]), .interrupted,
          .data [0, 6, 0, 0, 7, 8]]).drive (fun _ => ⟨0⟩)
        ⟨⟨⟨9, 0⟩, ⟨9, 0⟩, ⟨9, 0⟩⟩, none, some "gone"⟩ (fun _ => 2) 0).run engine = .ok () reached := by
  have hoctets : (Delivery.octets [.data (List.replicate 8 0 ++ [2, 0, 0, 20, 0, 0]), .interrupted,
      .data [0, 6, 0, 0, 7, 8]]).length < 2 ^ 48 := by decide
  obtain ⟨engine, hfresh, reached, hrun, -⟩ := drive_never_faults (by decide : 1 < _) hoctets
    "capture" (fun _ => ⟨0⟩) ⟨⟨9, 0⟩, ⟨9, 0⟩, ⟨9, 0⟩⟩ (some "gone") (fun _ => 2)
  exact ⟨engine, hfresh, reached, hrun⟩

end Capture

end FlowTracker
