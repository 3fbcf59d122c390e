import FlowTracker.Proofs.Checked.Captures
import FlowTracker.Proofs.Replay.Requests
import FlowTracker.Replay.Run

/-!
# Replays of a capture by one worker

The packets of a capture are those that it hands out until it ends or fails (`Reading.handed`).  One
worker with room for all their conversations never waits for a slot (`Worker.process_unasked`), so the
feeding is a run over all of them (`feed_capture`), and when the manager is told to
stop nobody has asked for a sweep.  What the capture ended in decides the outcome and nothing else.
-/

namespace FlowTracker

open Engine EStateM

def Packet.captured (packet : Timestamp × Octets) : Packet := ⟨packet.1, packet.2⟩

def Reading.handed (reading : Reading) : List Packet := reading.packets.map Packet.captured

theorem Reading.length_handed (reading : Reading) :
    reading.handed.length = reading.packets.length := List.length_map _

theorem Reading.octets_handed (reading : Reading) :
    Packet.octets reading.handed = (reading.packets.map fun packet => packet.2.length).sum := by
  rw [Packet.octets, handed, List.map_map]
  rfl

/-- Below 2^48 octets nothing of the packets overflows. -/
theorem Capture.handed_fits {capture : Capture} {limit : Nat} (h : capture.IsWithin limit)
    (hlimit : limit < 2 ^ 48) :
    (∀ packet ∈ capture.readAll.handed, packet.time.Fits)
      ∧ capture.readAll.handed.length < Word.count
      ∧ Packet.octets capture.readAll.handed < Word.count := by
  obtain ⟨hfits, hpaid⟩ := readAll_within h
  refine ⟨?_, ?_, ?_⟩
  · intro packet hmem
    obtain ⟨packet, hpacket, rfl⟩ := List.mem_map.1 hmem
    exact hfits packet hpacket
  · rw [Reading.length_handed]
    unfold Word.count
    omega
  · rw [Reading.octets_handed]
    unfold Word.count
    omega

/-! ### One packet -/

namespace Worker

variable {worker : Worker} {packet : Packet} {engine engine' : Engine} {lineup : Lineup 1 4}
  {phase : FlowId → Phase} {map : FlowMap} {done : List Packet}

/-- A packet that needs no wait is handled by the part of the program that comes before the wait. -/
theorem begin_of_process {arrival : Arrival} {between : Engine}
    (hdecode : (worker.decode packet).run engine = .ok (some arrival) between)
    (hpass : ∀ pass engine', (worker.pass arrival).run between = .ok pass engine' →
      pass ≠ .starved ∧ engine'.Unasked)
    (hrun : (worker.process packet).run engine = .ok () engine') :
    (Replay.begin packet worker).run engine = .ok none engine'
      ∧ engine'.Unasked := by
  simp only [Worker.process, track, run_bind, hdecode] at hrun
  cases hfirst : (worker.pass arrival).run between with
  | error fault after =>
    rw [hfirst] at hrun
    cases hrun
  | ok pass after =>
    obtain ⟨hnot, hunasked⟩ := hpass pass after hfirst
    rw [hfirst] at hrun
    cases pass with
    | starved => exact absurd rfl hnot
    | retry flow => cases hrun
    | done =>
      obtain rfl : after = engine' := by
        cases hrun
        rfl
      refine ⟨?_, hunasked⟩
      simp only [Replay.begin, run_bind, hdecode, hfirst]
      rfl

theorem process_unasked (worker : Worker) (h : engine.Simulates lineup phase map)
    (hunasked : engine.Unasked) (hsound : map.IsSound) (hmap : map.Collects done) (hfits : packet.time.Fits)
    (hpackets : (done ++ [packet]).length < Word.count)
    (hoctets : Packet.octets (done ++ [packet]) < Word.count)
    (hroom : (Packet.keys (done ++ [packet])).card ≤ map.capacity) :
    ∃ engine' lineup' phase', (worker.process packet).run engine = .ok () engine'
      ∧ (Replay.begin packet worker).run engine = .ok none engine'
      ∧ engine'.Unasked ∧ engine'.Simulates lineup' phase' (map.process packet) := by
  have hcount : map.counters.packets + 1 < Word.count := by
    rw [hmap.counters_eq]
    rwa [List.length_append] at hpackets
  have hsum : map.counters.bytes + packet.frame.length < Word.count := by
    rw [hmap.counters_eq]
    rwa [Packet.octets_append] at hoctets
  obtain ⟨engine', lineup', phase', hrun, h'⟩ := h.process hsound worker packet hfits hcount hsum
  obtain ⟨clock, hadvance, hclock⟩ := PacketClock.advance_of_fits engine.clock hfits
  refine ⟨engine', lineup', phase', hrun, ?_⟩
  cases hheaders : Frame.headers packet.frame with
  | error error =>
    have hdecode := AtRest.run_decode_error engine worker packet hadvance hheaders
    simp only [Worker.process, run_bind, hdecode, run_pure] at hrun
    cases hrun
    refine ⟨?_, hunasked, h'⟩
    simp only [Replay.begin, run_bind, hdecode, run_pure]
  | ok headers =>
    have harrival : packet.arrival? = some ⟨headers, packet.time, packet.size⟩ := by
      rw [Packet.arrival?, hheaders]
    have hcounted := h.count packet hclock hcount hsum
    obtain ⟨hbegin, hunasked'⟩ := begin_of_process
      (AtRest.run_decode_ok engine worker packet hadvance hheaders)
      (fun pass after => hcounted.pass_unasked hunasked (hmap.has_room harrival hroom)) hrun
    exact ⟨hbegin, hunasked', h'⟩

end Worker

/-! ### The packets of a capture -/

namespace Replay

variable {plan : ReplayPlan} {replay : Replay} {capture after : Capture}

theorem handle_of_begin {packet : Packet} {engine : Engine}
    (h : (begin packet ⟨replay.stopped⟩).run replay.engine = .ok none engine) :
    replay.handle plan ⟨replay.stopped⟩ packet = { replay with engine } := by
  unfold EStateM.run at h
  unfold handle onWorker
  rw [h]

/-- `feed` by what the source answers first. -/
theorem feed_of_next {source : Source} (answer : Source.Result) :
    source.next = answer → feed plan source replay = match answer with
      | .error error after => { replay with source := after, failure := some error }
      | .ok none after => { replay with source := after }
      | .ok (some packet) after =>
        if replay.stopped < plan.workers then
          let handled := replay.handle plan ⟨replay.stopped⟩ packet
          if handled.stopped < plan.workers then feed plan after handled
          else { handled with source := after, failure := readAhead plan.channelCapacity after }
        else { replay with source := after } := by
  intro h
  rw [feed]
  split <;> rename_i hnext <;> rw [h] at hnext <;> subst hnext <;> rfl

theorem feed_of_stop {error? : Option CaptureError} (h : capture.next = Capture.stop error? after)
    (hfailure : replay.failure = none) : feed plan (.capture capture) replay
      = { replay with source := .capture after, failure := error? } := by
  cases error? with
  | none =>
    have hnext : Source.next (.capture capture) = .ok none (.capture after) := by
      rw [Source.next, h]
      rfl
    rw [feed_of_next _ hnext, ← hfailure]
  | some error =>
    have hnext : Source.next (.capture capture) = .error error (.capture after) := by
      rw [Source.next, h]
      rfl
    exact feed_of_next _ hnext

theorem feed_of_packet {packet : Timestamp × Octets} {engine : Engine}
    (h : capture.next = .ok (some packet) after) (hworkers : replay.stopped < plan.workers)
    (hbegin : (begin (.captured packet) ⟨replay.stopped⟩).run replay.engine = .ok none engine) :
    feed plan (.capture capture) replay
      = feed plan (.capture after) { replay with engine } := by
  have hnext : Source.next (.capture capture)
      = .ok (some (.captured packet)) (.capture after) := by
    rw [Source.next, h]
    rfl
  rw [feed_of_next _ hnext]
  simp only [hworkers, if_true, handle_of_begin hbegin]

theorem handed_of_packet {packet : Timestamp × Octets}
    (h : capture.next = .ok (some packet) after) :
    capture.readAll.handed = .captured packet :: after.readAll.handed := by
  rw [Capture.readAll_of_packet h]
  rfl

/-- Feeding is a run over the packets of the capture, and what the capture ends in is kept. -/
theorem feed_capture (plan : ReplayPlan) (replay : Replay) {lineup : Lineup 1 4}
    {phase : FlowId → Phase} {map : FlowMap} {done : List Packet}
    (hworkers : replay.stopped < plan.workers)
    (hfailure : replay.failure = none) (h : replay.engine.Simulates lineup phase map)
    (hunasked : replay.engine.Unasked) (hsound : map.IsSound) (hmap : map.Collects done)
    (hfits : ∀ packet ∈ capture.readAll.handed, packet.time.Fits)
    (hpackets : (done ++ capture.readAll.handed).length < Word.count)
    (hoctets : Packet.octets (done ++ capture.readAll.handed) < Word.count)
    (hroom : (Packet.keys (done ++ capture.readAll.handed)).card ≤ map.capacity) :
    ∃ processed lineup' phase',
      ((⟨replay.stopped⟩ : Worker).processAll capture.readAll.handed).run replay.engine
        = .ok () processed
      ∧ processed.Unasked
      ∧ processed.Simulates lineup' phase' (capture.readAll.handed.foldl FlowMap.process map)
      ∧ feed plan (.capture capture) replay = { replay with
        source := .capture capture.readAll.last
        engine := processed
        failure := capture.readAll.ending } := by
  -- The induction is on the packets that are still to come; those in `done` are behind.
  induction capture using Capture.readAll.induct generalizing replay lineup phase map done with
  | case1 capture error last hnext =>
    have hstop : capture.next = Capture.stop (some error) last := hnext
    rw [Capture.readAll_of_stop hstop, feed_of_stop hstop hfailure]
    exact ⟨replay.engine, lineup, phase, rfl, hunasked, h, rfl⟩
  | case2 capture last hnext =>
    have hstop : capture.next = Capture.stop none last := hnext
    rw [Capture.readAll_of_stop hstop, feed_of_stop hstop hfailure]
    exact ⟨replay.engine, lineup, phase, rfl, hunasked, h, rfl⟩
  | case3 capture packet after hnext ih =>
    have hhanded := handed_of_packet hnext
    have hassoc : done ++ capture.readAll.handed
        = done ++ [.captured packet] ++ after.readAll.handed := by
      rw [hhanded, List.append_cons]
    rw [hassoc] at hpackets hoctets hroom
    rw [hhanded] at hfits
    have hnow := Nat.le_trans (Finset.card_le_card (Packet.keys_subset_append ..)) hroom
    have hcount : (done ++ [Packet.captured packet]).length < Word.count := by
      rw [List.length_append] at hpackets
      omega
    have hsum : Packet.octets (done ++ [.captured packet]) < Word.count := by
      rw [Packet.octets_append] at hoctets
      omega
    obtain ⟨engine', lineup', phase', hprocess, hbegin, hunasked', h'⟩ :=
      Worker.process_unasked ⟨replay.stopped⟩ h hunasked hsound hmap
        (hfits _ List.mem_cons_self) hcount hsum hnow
    obtain ⟨processed, lineup'', phase'', hrun, hunasked'', h'', hfeed⟩ :=
      @ih { replay with engine := engine' } lineup' phase' (map.process (.captured packet))
        (done ++ [.captured packet]) hworkers hfailure h' hunasked' (hsound.process _)
        (hmap.process _ hnow) (fun packet hmem => hfits packet (List.mem_cons_of_mem _ hmem))
        hpackets hoctets (by rwa [FlowMap.capacity_process])
    refine ⟨processed, lineup'', phase'', ?_, hunasked'', ?_, ?_⟩
    · simp only [hhanded, Worker.processAll, run_bind, hprocess, hrun]
    · rw [hhanded]
      exact h''
    · rw [feed_of_packet hnext hworkers hbegin, hfeed, Capture.readAll_of_packet hnext]

/-! ### Shutdown -/

/-- A manager that nobody has asked for a sweep flushes when it is told to stop. -/
theorem run_stop {manager : Manager} {engine : Engine} (h : engine.Unasked) :
    manager.stop.run engine = manager.flush.run engine := by
  unfold Engine.Unasked at h
  simp only [Manager.stop, Manager.answer, run_bind, run_get, h, Bool.false_eq_true, if_false,
    run_pure]

theorem stop_of_flush {flushed : Engine} (hmanaged : replay.managed = true)
    (hunasked : replay.engine.Unasked)
    (hflush : plan.manager.flush.run replay.engine = .ok () flushed) :
    replay.stop plan = { replay with engine := flushed } := by
  rw [← run_stop hunasked] at hflush
  unfold EStateM.run at hflush
  unfold stop onManager
  rw [hmanaged, if_pos rfl, hflush]

theorem unasked_of_fresh {capacity : Nat} {engine : Engine}
    (h : Engine.fresh capacity = .ok engine) : engine.Unasked := by
  unfold Engine.fresh at h
  cases hqueues : Engine.freshQueues capacity with
  | error fault =>
    rw [hqueues] at h
    cases h
  | ok queues =>
    rw [hqueues, bind_ok] at h
    split at h
    · cases h
    · cases h
      rfl

theorem start_of_fresh {engine : Engine} (hfresh : Engine.fresh plan.maxFlows = .ok engine)
    (hchannel : checkRoom plan = .ok ()) (source : Source) :
    start plan source = .ok ⟨source, engine, 0, true, none⟩ := by
  rw [start, hfresh, bind_ok, hchannel]
  rfl

/-- A replay after whose feeding nobody waits is over after a flush. -/
theorem run_of_flush {source : Source} {engine flushed : Engine} {fed : Replay}
    (hfresh : Engine.fresh plan.maxFlows = .ok engine) (hchannel : checkRoom plan = .ok ())
    (hfeed : feed plan source ⟨source, engine, 0, true, none⟩ = fed) (hmanaged : fed.managed = true)
    (hunasked : fed.engine.Unasked)
    (hflush : plan.manager.flush.run fed.engine = .ok () flushed) :
    Replay.run plan source = .ok { fed with
      engine := { flushed with log := flushed.log ++ flushed.destroyEvents } } := by
  rw [Replay.run, start_of_fresh hfresh hchannel, bind_ok, hfeed,
    stop_of_flush hmanaged hunasked hflush]
  rfl

/-! ### The outcome -/

/-- A failure of the source shows whatever else has stopped, and nothing else is taken for one. -/
theorem outcome_eq_source_iff {error : CaptureError} :
    replay.outcome = .error (.source error) ↔ replay.failure = some error := by
  unfold outcome
  cases replay.failure with
  | some error' => simp
  | none =>
    dsimp only
    split
    · simp
    · split <;> simp

theorem outcome_of_whole (hfailure : replay.failure = none) (hstopped : replay.stopped = 0)
    (hmanaged : replay.managed = true) : replay.outcome
      = .ok ⟨replay.source.packetCount, replay.source.byteCount, replay.engine.totals⟩ := by
  simp only [outcome, hfailure, hstopped, hmanaged, Nat.lt_irrefl, if_false, Bool.not_true,
    Bool.false_eq_true]

end Replay

theorem FlowMap.IsSound.processAll {map : FlowMap} (h : map.IsSound) (packets : List Packet) :
    (packets.foldl FlowMap.process map).IsSound := by
  induction packets generalizing map with
  | nil => exact h
  | cons packet packets ih => exact ih (h.process packet)

/-! ### What is reported -/

theorem Packet.octets_le (packets : List Packet) :
    Packet.octets packets ≤ packets.length
      * ((packets : Multiset Packet).map fun packet => packet.frame.length).sup := by
  have hle : ∀ length ∈ packets.map fun packet => packet.frame.length, length
      ≤ ((packets : Multiset Packet).map fun packet => packet.frame.length).sup := by
    intro length hmem
    exact Multiset.le_sup (Multiset.mem_coe.2 hmem)
  have hsum := List.sum_le_card_nsmul _ _ hle
  rwa [List.length_map, smul_eq_mul] at hsum

/-- An Ethernet record is handed out without its frame check sequence at least. -/
theorem IsErfRecord.length_packet_le (record : Octets) :
    (packet record).2.length ≤ (ErfHeader.ofOctets record).wireLength.toNat := by
  simp only [packet, List.length_take]
  omega

namespace Engine.Flushed

variable {engine : Engine} {packets : List Packet}

theorem size_exported (h : engine.Flushed packets) :
    engine.exported.size = (Packet.keys packets).card := by
  have hcard := congrArg Multiset.card h.keys_exported
  rwa [Multiset.coe_card, List.length_map, Array.length_toList] at hcard

theorem meanPacketLength_le (h : engine.Flushed packets) :
    engine.totals.meanPacketLength ≤ engine.totals.maxPacketLength := by
  have hmax : engine.totals.maxPacketLength.toNat
      = ((packets : Multiset Packet).map fun packet => packet.frame.length).sup :=
    congrArg Counters.maxPacketLength h.counters_eq
  rw [UInt64.le_iff_toNat_le, Totals.counters_mean, h.counters_eq, hmax]
  exact Nat.div_le_of_le_mul (Packet.octets_le packets)

end Engine.Flushed

/-- The report of a replay that has read all records of a capture. -/
structure ReplayReport.Accounts (report : ReplayReport) (octets : Octets) (packets : List Packet)
    (exported : Array ReleasedFlow) : Prop where
  sourcePackets_eq : report.sourcePackets = packets.length
  packets_eq : report.totals.packets.toNat = packets.length
  sourceBytes_eq : ∀ records rest, SplitsInto octets records rest →
    report.sourceBytes = ((records.filter IsErfRecord.isEthernet).map fun record =>
      (ErfHeader.ofOctets record).wireLength.toNat).sum
  bytes_le : report.totals.bytes.toNat ≤ report.sourceBytes
  flowsCreated_eq : report.totals.flowsCreated.toNat = exported.size
  flowsFlushed_eq : report.totals.flowsFlushed.toNat = exported.size
  flowsTimedOut_eq : report.totals.flowsTimedOut = 0
  mean_le : report.totals.meanPacketLength ≤ report.totals.maxPacketLength

theorem Engine.Flushed.accounts {engine : Engine} {capture : Capture} {octets : Octets}
    (h : engine.Flushed capture.readAll.handed) (hholds : capture.Holds octets)
    (hpackets : capture.packets = 0) (hbytes : capture.bytes = 0) :
    ReplayReport.Accounts
      ⟨capture.readAll.last.packets, capture.readAll.last.bytes, engine.totals⟩ octets
      capture.readAll.handed engine.exported := by
  obtain ⟨records, rest, hsplit⟩ := SplitsInto.exists_split octets
  obtain ⟨hread, -, hcounts⟩ := Capture.readAll_split hholds hsplit
  have hlength : capture.readAll.handed.length
      = (records.filter IsErfRecord.isEthernet).length := by
    rw [Reading.length_handed, hread, List.length_map]
  have hwire := hcounts.bytes_eq
  rw [hbytes, Nat.zero_add] at hwire
  refine ⟨?_, ?_, ?_, ?_, ?_, ?_, ?_, h.meanPacketLength_le⟩
  · rw [hlength, hcounts.packets_eq, hpackets, Nat.zero_add]
  · exact congrArg Counters.packets h.counters_eq
  · intro records' rest' hsplit'
    obtain ⟨rfl, -⟩ := hsplit'.unique hsplit
    exact hwire
  · have htotal : engine.totals.bytes.toNat = Packet.octets capture.readAll.handed :=
      congrArg Counters.bytes h.counters_eq
    rw [htotal, hwire, Reading.octets_handed, hread, List.map_map]
    exact List.sum_le_sum fun record _ => IsErfRecord.length_packet_le record
  · rw [h.size_exported]
    exact congrArg Counters.flowsCreated h.counters_eq
  · rw [h.size_exported]
    exact congrArg Counters.flowsFlushed h.counters_eq
  · exact UInt64.toNat_inj.1 (congrArg Counters.flowsTimedOut h.counters_eq)

namespace Replay

variable {plan : ReplayPlan}

/-- One worker with room for all conversations of a capture, however its octets arrive.  The flows
that are exported are those of the packets before the end or the failure, as if these had been
processed in their order and flushed; a failure is what the replay fails with, and without one the
report tells what was read and exported. -/
theorem run_capture (hworkers : plan.workers = 1) (hlimit : plan.manager.exporter.limit = none)
    (hcapacity : plan.maxFlows < QueueStore.handleLimit) (hchannel : checkRoom plan = .ok ())
    (label : String) {octets : Octets} (hsize : octets.length < 2 ^ 48) {delivery : Delivery}
    (hsound : delivery.IsSound) (hoctets : delivery.octets = octets)
    (hroom : (Packet.keys (Capture.ofDelivery label delivery).readAll.handed).card
      ≤ plan.maxFlows) :
    let reading := (Capture.ofDelivery label delivery).readAll
    ∃ replay engine processed flushed,
      Replay.run plan (.capture (Capture.ofDelivery label delivery)) = .ok replay
      ∧ Engine.fresh plan.maxFlows = .ok engine
      ∧ ((⟨0⟩ : Worker).processAll reading.handed).run engine = .ok () processed
      ∧ plan.manager.flush.run processed = .ok () flushed
      ∧ replay.engine.exported = flushed.exported
      ∧ (∀ flow ∈ replay.engine.exported, flow.reason = .shutdown)
      ∧ (replay.engine.exported.toList.map fun flow => flow.record.key : Multiset FlowKey)
        = (Packet.keys reading.handed).val
      ∧ (∀ error, replay.outcome = .error (.source error) ↔ reading.ending = some error)
      ∧ (reading.ending = none → ∃ report, replay.outcome = .ok report
        ∧ report.Accounts octets reading.handed replay.engine.exported) := by
  intro reading
  have hwithin : (Capture.ofDelivery label delivery).IsWithin delivery.size :=
    Capture.isWithin_ofDelivery label delivery
  rw [← hoctets, Delivery.length_octets] at hsize
  obtain ⟨hfits, hlength, htotal⟩ := Capture.handed_fits hwithin hsize
  obtain ⟨engine, lineup, hfresh, hsimulates⟩ := fresh_simulates hcapacity
  obtain ⟨processed, lineup', phase', hrun, hunasked, hprocessed, hfeed⟩ :=
    feed_capture plan ⟨.capture (Capture.ofDelivery label delivery), engine, 0, true, none⟩
      (hworkers.symm ▸ Nat.zero_lt_one) rfl hsimulates (unasked_of_fresh hfresh)
      (FlowMap.isSound_fresh _) (FlowMap.collects_fresh _) hfits hlength htotal hroom
  have hmap := (FlowMap.collects_fresh plan.maxFlows).processAll reading.handed hroom
  rw [List.nil_append] at hmap
  obtain ⟨flushed, lineup'', phase'', hflush, hreached⟩ := hprocessed.flush
    ((FlowMap.isSound_fresh _).processAll _) hlimit (by rw [hmap.counters_eq]; exact hlength)
  have hflushed := hreached.flushed hmap
  have hdone := run_of_flush hfresh hchannel hfeed rfl hunasked hflush
  have hholds : (Capture.ofDelivery label delivery).Holds octets := ⟨hsound, hoctets⟩
  have haccounts := hflushed.accounts hholds rfl rfl
  refine ⟨_, engine, processed, flushed, hdone, hfresh, hrun, hflush, rfl, ?_, ?_, ?_, ?_⟩
  · intro flow hmem
    exact (hflushed.mem_exported hmem).1
  · exact hflushed.keys_exported
  · intro error
    exact outcome_eq_source_iff
  · intro hending
    exact ⟨_, outcome_of_whole hending rfl rfl, haccounts⟩

/-- One record and an octet behind it: the flow of the record is exported, and the replay fails. -/
theorem run_capture_of_cut :
    let written : ErfRecord := ⟨⟨0x100000000, ErfHeader.ethernet, 0, 52, 0, 38⟩,
      [0, 0] ++ (Packet.bareAt 1).frame, by decide, by decide⟩
    let plan : ReplayPlan := ⟨1, 8, 1, ⟨1, 0⟩, ⟨⟨⟨9, 0⟩, ⟨9, 0⟩, ⟨9, 0⟩⟩, .reliable⟩⟩
    let capture := Capture.ofDelivery "capture" [.data (written.octets ++ [9])]
    (Packet.keys capture.readAll.handed).card = 1
      ∧ ∃ replay, Replay.run plan (.capture capture) = .ok replay
        ∧ replay.engine.exported.size = 1
        ∧ replay.outcome = .error (.source (.truncated 52)) := by
  intro written plan capture
  have hsound : Delivery.IsSound [.data (written.octets ++ [9])] := by simp [Delivery.IsSound]
  have hsplit : SplitsInto (written.octets ++ [9]) [written.octets] [9] := by
    refine ⟨rfl, ?_, ?_⟩
    · intro record hmem
      rw [List.mem_singleton.1 hmem]
      exact written.isErfRecord
    · intro record hrecord hpre
      exact absurd (Nat.le_trans hrecord.size_le hpre.length_le) (by decide)
  have hholds : capture.Holds (written.octets ++ [9]) := ⟨hsound, List.append_nil _⟩
  obtain ⟨hread, hending, -⟩ := Capture.readAll_split hholds hsplit
  have hhanded : capture.readAll.handed = [Packet.bareAt 1] := by
    rw [Reading.handed, hread]
    decide +kernel
  have hkeys : (Packet.keys capture.readAll.handed).card = 1 := by
    rw [hhanded]
    decide +kernel
  obtain ⟨replay, engine, processed, flushed, hrun, hfresh, hprocess, hflush, -, -, hexported,
    houtcome, -⟩ := run_capture (by rfl : plan.workers = 1) rfl (by decide) rfl "capture"
      (by decide +kernel) hsound (List.append_nil _) (Nat.le_of_eq hkeys)
  refine ⟨hkeys, replay, hrun, ?_, ?_⟩
  · have hcard := congrArg Multiset.card hexported
    rw [Multiset.coe_card, List.length_map, Array.length_toList] at hcard
    exact hcard.trans hkeys
  · apply (houtcome _).2
    rw [hending]
    decide +kernel

end Replay

end FlowTracker
