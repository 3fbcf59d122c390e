import FlowTracker.Proofs.Map.Collecting
import FlowTracker.Proofs.Map.Simulation

/-!
# Packets in another order

An engine with room for all conversations processes packets and is flushed.  What it counts, its clock
and the conversations that it exports depend on the packets only, not on their order; the record of a
conversation depends on the order only in which packet of the conversation came first
(`FlowRecord.Alike`).
-/

namespace FlowTracker

open EStateM

theorem Totals.counters_injective {totals totals' : Totals} (h : totals.counters = totals'.counters) :
    totals = totals' := by
  obtain ⟨packets, bytes, maxPacketLength, undecodable, drops, created, timedOut, flushed⟩ := totals
  obtain ⟨packets', bytes', maxPacketLength', undecodable', drops', created', timedOut', flushed'⟩ :=
    totals'
  simp only [counters, Counters.mk.injEq, UInt64.toNat_inj] at h
  obtain ⟨rfl, rfl, rfl, rfl, rfl, rfl, rfl, rfl⟩ := h
  rfl

theorem EngineCall.runAll_process (worker : Worker) (packets : List Packet) :
    runAll (packets.map (.process worker)) = worker.processAll packets := by
  induction packets with
  | nil => rfl
  | cons packet packets ih =>
    rw [List.map_cons, runAll, ih]
    rfl

theorem EngineCall.packets_process (worker : Worker) (packets : List Packet) :
    EngineCall.packets (packets.map (.process worker)) = packets := by
  induction packets with
  | nil => rfl
  | cons packet packets ih =>
    rw [List.map_cons, packets_cons, ih]
    rfl

namespace Engine

/-- The engine has processed the packets, dropping none, and has exported every record then. -/
structure Flushed (engine : Engine) (packets : List Packet) : Prop where
  clock_eq : engine.clock.toNat
    = ((packets : Multiset Packet).map fun packet => packet.time.micros).sup
  counters_eq : engine.totals.counters
    = { Counters.ofPackets packets with flowsFlushed := (Packet.keys packets).card }
  exported_eq : ∃ flows : Finmap fun _ : FlowKey => FlowRecord,
    (∀ key, flows.lookup key = replay (Packet.arrivalsOf key packets))
      ∧ (engine.exported.toList : Multiset ReleasedFlow)
        = flows.entries.map fun entry => ⟨.shutdown, entry.2⟩

/-- What is the same after a run over other packets. -/
structure Matches (engine engine' : Engine) : Prop where
  totals_eq : engine.totals = engine'.totals
  clock_eq : engine.clock = engine'.clock
  keys_perm : (engine.exported.toList.map fun flow => flow.record.key).Perm
    (engine'.exported.toList.map fun flow => flow.record.key)
  keys_nodup : (engine.exported.toList.map fun flow => flow.record.key).Nodup
  alike : ∀ flow ∈ engine.exported, ∀ flow' ∈ engine'.exported,
    flow.record.key = flow'.record.key →
      flow.reason = flow'.reason ∧ flow.record.Alike flow'.record

theorem Simulates.flushed {engine : Engine} {lineup : Lineup 1 4} {phase : FlowId → Phase}
    {map : FlowMap} {packets : List Packet} {manager : Manager}
    (h : engine.Simulates lineup phase (map.sweep manager .shutdown)) (hmap : map.Collects packets) :
    engine.Flushed packets := by
  obtain ⟨hexported, hcounters⟩ := map.sweep_shutdown manager
  refine ⟨?_, ?_, map.flows, hmap.lookup_eq, ?_⟩
  · rw [h.clock_eq, ← hmap.clock_eq]
    rfl
  · rw [h.counters_eq, hcounters, hmap.counters_eq, hmap.keys_eq]
    simp only [Counters.ofPackets, Nat.zero_add]
  · rw [h.exported_eq, hexported, hmap.exported_eq, zero_add]

/-- Processing packets with room for all their conversations, and a flush. -/
theorem run_processAll_flush {capacity : Nat} (hcapacity : capacity < QueueStore.handleLimit)
    (worker : Worker) {manager : Manager} (hlimit : manager.exporter.limit = none)
    {packets : List Packet} (hfits : ∀ packet ∈ packets, packet.time.Fits)
    (hlength : packets.length < Word.count) (hoctets : Packet.octets packets < Word.count)
    (hroom : (Packet.keys packets).card ≤ capacity) :
    ∃ engine, fresh capacity = .ok engine ∧ ∃ processed reached,
      (worker.processAll packets).run engine = .ok () processed
      ∧ manager.flush.run processed = .ok () reached
      ∧ processed.totals.counters = .ofPackets packets ∧ processed.clock = reached.clock
      ∧ reached.Flushed packets := by
  obtain ⟨engine, lineup, hfresh, hsimulates⟩ := fresh_simulates hcapacity
  have hsound := FlowMap.isSound_fresh capacity
  have hpackets := EngineCall.packets_process worker packets
  have hready : ∀ call ∈ packets.map (EngineCall.process worker), call.IsReady := by
    intro call hmem
    obtain ⟨packet, hpacket, rfl⟩ := List.mem_map.1 hmem
    exact hfits packet hpacket
  have hstart : (FlowMap.fresh capacity).counters.packets = 0
      ∧ (FlowMap.fresh capacity).counters.bytes = 0 := ⟨rfl, rfl⟩
  have hmap : ((FlowMap.fresh capacity).performAll (packets.map (.process worker))).Collects packets := by
    rw [FlowMap.performAll, List.foldl_map]
    exact (FlowMap.collects_fresh capacity).processAll packets hroom
  obtain ⟨processed, lineup', phase', hrun, hprocessed⟩ := hsimulates.runAll hsound hready
    (by rw [hpackets]; omega) (by rw [hpackets]; omega)
  obtain ⟨reached, lineup'', phase'', hflush, hreached⟩ := hprocessed.flush (hsound.performAll _) hlimit
    (by rw [hmap.counters_eq]; exact hlength)
  rw [EngineCall.runAll_process] at hrun
  have hflushed := hreached.flushed hmap
  refine ⟨engine, hfresh, processed, reached, hrun, hflush, ?_, ?_, hflushed⟩
  · rw [hprocessed.counters_eq, hmap.counters_eq]
  · apply UInt64.toNat_inj.1
    rw [hprocessed.clock_eq, hmap.clock_eq, hflushed.clock_eq]

namespace Flushed

variable {engine engine' : Engine} {packets packets' : List Packet}

theorem mem_exported (h : engine.Flushed packets) {flow : ReleasedFlow} (hmem : flow ∈ engine.exported) :
    flow.reason = .shutdown
      ∧ replay (Packet.arrivalsOf flow.record.key packets) = some flow.record := by
  obtain ⟨flows, hlookup, hexported⟩ := h.exported_eq
  have hflow : flow ∈ (engine.exported.toList : Multiset ReleasedFlow) :=
    Multiset.mem_coe.2 (Array.mem_toList_iff.2 hmem)
  rw [hexported] at hflow
  obtain ⟨⟨key, record⟩, hentry, rfl⟩ := Multiset.mem_map.1 hflow
  have hreplay := (hlookup key).symm.trans (Finmap.lookup_eq_some_iff.2 hentry)
  have hkey := Packet.key_of_replay hreplay
  refine ⟨rfl, ?_⟩
  simp only at hkey ⊢
  rw [hkey, hreplay]

/-- Every conversation is exported once. -/
theorem keys_exported (h : engine.Flushed packets) :
    (engine.exported.toList.map fun flow => flow.record.key : Multiset FlowKey)
      = (Packet.keys packets).val := by
  obtain ⟨flows, hlookup, hexported⟩ := h.exported_eq
  rw [← Multiset.map_coe, hexported, Multiset.map_map, ← Packet.keys_of_lookup hlookup]
  apply Multiset.map_congr rfl
  intro entry hentry
  exact Packet.key_of_replay ((hlookup entry.1).symm.trans (Finmap.lookup_eq_some_iff.2 hentry))

theorem matches_perm (h : engine.Flushed packets) (h' : engine'.Flushed packets')
    (hperm : packets.Perm packets') : engine.Matches engine' := by
  have hkeys := Packet.keys_perm hperm
  refine ⟨?_, ?_, ?_, ?_, ?_⟩
  · apply Totals.counters_injective
    rw [h.counters_eq, h'.counters_eq, Counters.ofPackets_perm hperm, hkeys]
  · apply UInt64.toNat_inj.1
    rw [h.clock_eq, h'.clock_eq, Multiset.coe_eq_coe.2 hperm]
  · apply Multiset.coe_eq_coe.1
    rw [h.keys_exported, h'.keys_exported, hkeys]
  · apply Multiset.coe_nodup.1
    rw [h.keys_exported]
    exact (Packet.keys packets).nodup
  · intro flow hflow flow' hflow' hkey
    obtain ⟨hreason, hreplay⟩ := h.mem_exported hflow
    obtain ⟨hreason', hreplay'⟩ := h'.mem_exported hflow'
    rw [← hkey] at hreplay'
    exact ⟨hreason.trans hreason'.symm, Packet.replay_alike hperm hreplay hreplay'⟩

/-- If no conversation starts with another packet, the exported flows are the same. -/
theorem exported_perm (h : engine.Flushed packets) (h' : engine'.Flushed packets')
    (hperm : packets.Perm packets') (hfirst : ∀ key, (Packet.arrivalsOf key packets).head?
      = (Packet.arrivalsOf key packets').head?) :
    engine.exported.toList.Perm engine'.exported.toList := by
  obtain ⟨flows, hlookup, hexported⟩ := h.exported_eq
  obtain ⟨flows', hlookup', hexported'⟩ := h'.exported_eq
  have hsame : flows = flows' := by
    apply Finmap.ext_lookup
    intro key
    rw [hlookup, hlookup', Packet.replay_eq hperm (hfirst key)]
  apply Multiset.coe_eq_coe.1
  rw [hexported, hexported', hsame]

end Flushed

/-- Packets in another order give the same counters and the same clock, before the flush and after it,
and export the same conversations, each of them once.  The two records of a conversation tell the same but
for the first packet; if no conversation starts with another packet, the exported flows are the same. -/
theorem processAll_flush_perm {capacity : Nat} (hcapacity : capacity < QueueStore.handleLimit)
    (worker worker' : Worker) {manager manager' : Manager} (hlimit : manager.exporter.limit = none)
    (hlimit' : manager'.exporter.limit = none) {packets packets' : List Packet}
    (hperm : packets.Perm packets') (hfits : ∀ packet ∈ packets, packet.time.Fits)
    (hlength : packets.length < Word.count) (hoctets : Packet.octets packets < Word.count)
    (hroom : (Packet.keys packets).card ≤ capacity) :
    ∃ engine, fresh capacity = .ok engine ∧ ∃ processed processed' reached reached',
      (worker.processAll packets).run engine = .ok () processed
      ∧ (worker'.processAll packets').run engine = .ok () processed'
      ∧ processed.totals = processed'.totals ∧ processed.clock = processed'.clock
      ∧ manager.flush.run processed = .ok () reached
      ∧ manager'.flush.run processed' = .ok () reached'
      ∧ reached.Matches reached'
      ∧ ((∀ key, (Packet.arrivalsOf key packets).head? = (Packet.arrivalsOf key packets').head?) →
        reached.exported.toList.Perm reached'.exported.toList) := by
  have hoctets' : Packet.octets packets' < Word.count := by
    rw [Packet.octets, ← (hperm.map _).sum_eq]
    exact hoctets
  obtain ⟨engine, hfresh, processed, reached, hrun, hflush, htotals, hclock, hflushed⟩ :=
    run_processAll_flush hcapacity worker hlimit hfits hlength hoctets hroom
  obtain ⟨engine', hfresh', processed', reached', hrun', hflush', htotals', hclock', hflushed'⟩ :=
    run_processAll_flush hcapacity worker' hlimit'
      (fun packet hmem => hfits packet (hperm.mem_iff.2 hmem)) (hperm.length_eq ▸ hlength) hoctets'
      (Packet.keys_perm hperm ▸ hroom)
  obtain rfl : engine = engine' := Except.ok.inj (hfresh.symm.trans hfresh')
  have hmatches := hflushed.matches_perm hflushed' hperm
  refine ⟨engine, hfresh, processed, processed', reached, reached', hrun, hrun', ?_, ?_, hflush, hflush',
    hmatches, hflushed.exported_perm hflushed' hperm⟩
  · apply Totals.counters_injective
    rw [htotals, htotals', Counters.ofPackets_perm hperm]
  · rw [hclock, hclock', hmatches.clock_eq]

/-- A packet, its answer and a packet that cannot be read, and the same from behind. -/
theorem processAll_flush_perm_of_three :
    let answer : Packet := ⟨⟨5, 0⟩, List.replicate 12 0 ++ [8, 0, 0x45] ++ List.replicate 8 0
      ++ [253, 0, 0, 10, 0, 0, 2, 10, 0, 0, 1]⟩
    let manager : Manager := ⟨⟨⟨9, 0⟩, ⟨9, 0⟩, ⟨9, 0⟩⟩, .reliable⟩
    ∃ engine, fresh 1 = .ok engine ∧ ∃ processed processed' reached reached',
      ((⟨0⟩ : Worker).processAll [.bareAt 1, answer, ⟨⟨3, 0⟩, []⟩]).run engine = .ok () processed
      ∧ ((⟨0⟩ : Worker).processAll [⟨⟨3, 0⟩, []⟩, answer, .bareAt 1]).run engine = .ok () processed'
      ∧ manager.flush.run processed = .ok () reached
      ∧ manager.flush.run processed' = .ok () reached'
      ∧ reached.Matches reached' := by
  intro answer manager
  have hperm : [Packet.bareAt 1, answer, ⟨⟨3, 0⟩, []⟩].Perm [⟨⟨3, 0⟩, []⟩, answer, .bareAt 1] :=
    (List.reverse_perm _).symm
  obtain ⟨engine, hfresh, processed, processed', reached, reached', hrun, hrun', -, -, hflush, hflush',
    hmatches, -⟩ := processAll_flush_perm (by decide : 1 < _) ⟨0⟩ ⟨0⟩ (rfl : manager.exporter.limit = none)
      (rfl : manager.exporter.limit = none) hperm (by decide +kernel) (by decide) (by decide +kernel)
      (by decide +kernel)
  exact ⟨engine, hfresh, processed, processed', reached, reached', hrun, hrun', hflush, hflush', hmatches⟩

end Engine

end FlowTracker
