import FlowTracker.Proofs.Engine.Contents
import FlowTracker.Proofs.Map.Simulation

/-!
# Nothing is lost or counted twice

Every packet that an engine has handled could not be read, was dropped, or is counted in exactly one
record, and that record is still in its slot or was exported (`Engine.Conserves`).  What becomes of a
packet is decided by the engine that it comes to (`Engine.fate`), before anything is counted; so the
counters of an engine are compared with the packets themselves.

A step lemma for each kind of call, and by induction a lemma on runs, carry the balance through starts,
updates, drops and sweeps in any order, whoever holds payload locks during the sweeps.
-/

namespace FlowTracker

open Multiset

/-! ### What records have counted -/

namespace FlowRecord

def packets (record : FlowRecord) : Nat :=
  record.toServer.packets.toNat + record.toClient.packets.toNat

def bytes (record : FlowRecord) : Nat :=
  record.toServer.bytes.toNat + record.toClient.bytes.toNat

variable {record : FlowRecord} {headers : Headers} {size : UInt64}

theorem atMost_self (record : FlowRecord) : record.AtMost record.packets record.bytes :=
  ⟨⟨Nat.le_add_right .., Nat.le_add_right ..⟩, ⟨Nat.le_add_left .., Nat.le_add_left ..⟩⟩

theorem counted_eq (time : Timestamp) (h : (record.direction headers).HasRoom size) :
    (record.counted headers time size).packets = record.packets + 1
      ∧ (record.counted headers time size).bytes = record.bytes + size.toNat := by
  have hpackets := Word.toNat_add (b := 1) h.1
  have hbytes := Word.toNat_add h.2
  cases hserver : record.isToServer headers with
  | true =>
    simp only [direction, hserver, if_true] at hpackets hbytes
    simp only [counted, advanced, withDirection, direction, hserver, if_true, Direction.counted,
      packets, bytes, hpackets, hbytes]
    exact ⟨Nat.add_right_comm .., Nat.add_right_comm ..⟩
  | false =>
    simp only [direction, hserver, Bool.false_eq_true, if_false] at hpackets hbytes
    simp only [counted, advanced, withDirection, direction, hserver, Bool.false_eq_true, if_false,
      Direction.counted, packets, bytes, hpackets, hbytes]
    exact ⟨rfl, (Nat.add_assoc ..).symm⟩

theorem first_eq (headers : Headers) (time : Timestamp) (size : UInt64) :
    (first headers time size).packets = 1 ∧ (first headers time size).bytes = size.toNat := by
  obtain ⟨hpackets, hbytes⟩ := counted_eq time (hasRoom_blank headers time size)
  exact ⟨hpackets, hbytes.trans (Nat.zero_add _)⟩

end FlowRecord

/-! ### The fate of a packet -/

inductive Fate where
  /-- Its frame cannot be read. -/
  | unreadable
  /-- It would start a flow, and no slot is spare. -/
  | dropped
  | accounted
  deriving DecidableEq

namespace Engine

def fate (engine : Engine) (packet : Packet) : Fate :=
  match Frame.headers packet.frame with
  | .error _ => .unreadable
  | .ok headers =>
    if engine.table.lookup headers.tuple.key = none
        ∧ (engine.queues.queue spareQueue).length = 0 then .dropped
    else .accounted

theorem fate_unreadable {engine : Engine} {packet : Packet} {error : FrameError}
    (herror : Frame.headers packet.frame = .error error) : engine.fate packet = .unreadable := by
  unfold fate
  rw [herror]

theorem fate_dropped {engine : Engine} {packet : Packet} {headers : Headers}
    (hheaders : Frame.headers packet.frame = .ok headers)
    (hlookup : engine.table.lookup headers.tuple.key = none)
    (hfull : (engine.queues.queue spareQueue).length = 0) : engine.fate packet = .dropped := by
  unfold fate
  rw [hheaders]
  exact if_pos ⟨hlookup, hfull⟩

theorem fate_accounted {engine : Engine} {packet : Packet} {headers : Headers}
    (hheaders : Frame.headers packet.frame = .ok headers)
    (hplace : engine.table.lookup headers.tuple.key = none →
      (engine.queues.queue spareQueue).length ≠ 0) : engine.fate packet = .accounted := by
  unfold fate
  rw [hheaders]
  exact if_neg fun h => hplace h.1 h.2

def packetsOf (fate : Fate) : Engine → List EngineCall → List Packet
  | _, [] => []
  | engine, call :: calls =>
    (EngineCall.packets [call]).filter (fun packet => engine.fate packet = fate)
      ++ packetsOf fate (engine.perform call) calls

def records (engine : Engine) : Multiset FlowRecord :=
  (engine.exported.toList.map ReleasedFlow.record : Multiset FlowRecord) + engine.table.records

/-- The totals of an engine are accounted for by the packets that it has handled and by its records. -/
structure Conserves (engine : Engine) (handled unreadable dropped : List Packet) : Prop where
  handled_eq : engine.totals.packets.toNat = handled.length
  octets_eq : engine.totals.bytes.toNat = Packet.octets handled
  unreadable_eq : engine.totals.undecodable.toNat = unreadable.length
  dropped_eq : engine.totals.tableFullDrops.toNat = dropped.length
  packets_eq : engine.totals.packets.toNat
    = engine.totals.undecodable.toNat + engine.totals.tableFullDrops.toNat
      + (engine.records.map FlowRecord.packets).sum
  bytes_eq : engine.totals.bytes.toNat
    = Packet.octets unreadable + Packet.octets dropped + (engine.records.map FlowRecord.bytes).sum
  created_eq : engine.totals.flowsCreated.toNat
    = engine.totals.flowsTimedOut.toNat + engine.totals.flowsFlushed.toNat + engine.tracked
  exported_eq : engine.exported.size
    = engine.totals.flowsTimedOut.toNat + engine.totals.flowsFlushed.toNat
  created_le : engine.totals.flowsCreated.toNat ≤ engine.totals.packets.toNat

namespace Conserves

variable {engine engine' : Engine} {handled unreadable dropped unreadable' dropped' : List Packet}
  {packet : Packet}

/-- No record has counted more than the engine. -/
theorem atMost (h : engine.Conserves handled unreadable dropped) {record : FlowRecord}
    (hmem : record ∈ engine.table.records) :
    record.AtMost engine.totals.packets.toNat engine.totals.bytes.toNat := by
  have hmem' : record ∈ engine.records := Multiset.mem_add.2 (Or.inr hmem)
  apply record.atMost_self.mono
  · rw [h.packets_eq]
    exact Nat.le_trans (Multiset.le_sum_of_mem (Multiset.mem_map_of_mem _ hmem'))
      (Nat.le_add_left ..)
  · rw [h.bytes_eq]
    exact Nat.le_trans (Multiset.le_sum_of_mem (Multiset.mem_map_of_mem _ hmem'))
      (Nat.le_add_left ..)

/-! ### A packet -/

/-- One packet more on both sides of the balance. -/
theorem handle (h : engine.Conserves handled unreadable dropped)
    (hroom : handled.length + 1 < Word.count)
    (hfits : Packet.octets handled + packet.frame.length < Word.count)
    {undecodable tableFullDrops flowsCreated : UInt64}
    (htotals : engine'.totals = { engine.totals.countPacket packet.size with
      undecodable, tableFullDrops, flowsCreated })
    (hexported : engine'.exported = engine.exported)
    (hunreadable : undecodable.toNat = unreadable'.length)
    (hdropped : tableFullDrops.toNat = dropped'.length)
    (hcount : unreadable'.length + dropped'.length + (engine'.records.map FlowRecord.packets).sum
      = unreadable.length + dropped.length + (engine.records.map FlowRecord.packets).sum + 1)
    (hsize : Packet.octets unreadable' + Packet.octets dropped'
        + (engine'.records.map FlowRecord.bytes).sum
      = Packet.octets unreadable + Packet.octets dropped
        + (engine.records.map FlowRecord.bytes).sum + packet.frame.length)
    (started : Nat) (hstarted : started ≤ 1)
    (hcreated : flowsCreated.toNat = engine.totals.flowsCreated.toNat + started)
    (htracked : engine'.tracked = engine.tracked + started) :
    engine'.Conserves (handled ++ [packet]) unreadable' dropped' := by
  obtain ⟨hhandled, hoctets, hunread, hdrop, hbalance, hbalance', hstock, hgone, hle⟩ := h
  have hlength : packet.size.toNat = packet.frame.length :=
    UInt64.toNat_ofNat_of_lt' (Nat.lt_of_le_of_lt (Nat.le_add_left ..) hfits)
  have hone : (engine.totals.packets + 1).toNat = engine.totals.packets.toNat + 1 :=
    Word.toNat_add (by rwa [hhandled])
  have hsum : (engine.totals.bytes + packet.size).toNat
      = engine.totals.bytes.toNat + packet.frame.length := by
    rw [← hlength]
    exact Word.toNat_add (by rwa [hoctets, hlength])
  have hlast : Packet.octets (handled ++ [packet]) = Packet.octets handled + packet.frame.length :=
    Packet.octets_append ..
  refine ⟨?_, ?_, ?_, ?_, ?_, ?_, ?_, ?_, ?_⟩ <;>
    simp only [htotals, Totals.countPacket, hone, hsum, hlast, hexported, htracked, hcreated,
      List.length_append, List.length_singleton] <;> omega

theorem length_le (h : engine.Conserves handled unreadable dropped) :
    unreadable.length ≤ handled.length ∧ dropped.length ≤ handled.length := by
  obtain ⟨hhandled, -, hunread, hdrop, hbalance, -⟩ := h
  omega

/-- A packet that cannot be read. -/
theorem skip (h : engine.Conserves handled unreadable dropped)
    (hroom : handled.length + 1 < Word.count)
    (hfits : Packet.octets handled + packet.frame.length < Word.count)
    (htable : engine'.table = engine.table) (hqueues : engine'.queues = engine.queues)
    (hexported : engine'.exported = engine.exported)
    (htotals : engine'.totals = { engine.totals.countPacket packet.size with
      undecodable := (engine.totals.countPacket packet.size).undecodable + 1 }) :
    engine'.Conserves (handled ++ [packet]) (unreadable ++ [packet]) dropped := by
  have hrecords : engine'.records = engine.records := by
    unfold records
    rw [hexported, htable]
  have hone : (engine.totals.undecodable + 1).toNat = engine.totals.undecodable.toNat + 1 := by
    apply Word.toNat_add
    rw [h.unreadable_eq]
    exact Nat.lt_of_le_of_lt (Nat.succ_le_succ h.length_le.1) hroom
  apply h.handle hroom hfits htotals hexported _ h.dropped_eq _ _ 0 (Nat.zero_le 1) rfl
  · unfold tracked
    rw [hqueues]
    rfl
  · rw [List.length_append, List.length_singleton, ← h.unreadable_eq]
    exact hone
  · rw [hrecords, List.length_append, List.length_singleton]
    omega
  · have hlast : Packet.octets (unreadable ++ [packet])
        = Packet.octets unreadable + packet.frame.length := Packet.octets_append ..
    rw [hrecords, hlast]
    omega

/-- A packet that finds no slot. -/
theorem drop (h : engine.Conserves handled unreadable dropped)
    (hroom : handled.length + 1 < Word.count)
    (hfits : Packet.octets handled + packet.frame.length < Word.count)
    (hrecords : engine'.table.records = engine.table.records)
    (htracked : engine'.tracked = engine.tracked)
    (hexported : engine'.exported = engine.exported)
    (htotals : engine'.totals = { engine.totals.countPacket packet.size with
      tableFullDrops := (engine.totals.countPacket packet.size).tableFullDrops + 1 }) :
    engine'.Conserves (handled ++ [packet]) unreadable (dropped ++ [packet]) := by
  have hall : engine'.records = engine.records := by
    unfold records
    rw [hexported, hrecords]
  have hone : (engine.totals.tableFullDrops + 1).toNat
      = engine.totals.tableFullDrops.toNat + 1 := by
    apply Word.toNat_add
    rw [h.dropped_eq]
    exact Nat.lt_of_le_of_lt (Nat.succ_le_succ h.length_le.2) hroom
  apply h.handle hroom hfits htotals hexported h.unreadable_eq _ _ _ 0 (Nat.zero_le 1) rfl htracked
  · rw [List.length_append, List.length_singleton, ← h.dropped_eq]
    exact hone
  · rw [hall, List.length_append, List.length_singleton]
    omega
  · have hlast : Packet.octets (dropped ++ [packet])
        = Packet.octets dropped + packet.frame.length := Packet.octets_append ..
    rw [hall, hlast]
    omega

/-- A packet that is accounted: the record `old`, if there is one, makes place for `new`, which has
counted the packet too. -/
theorem account (h : engine.Conserves handled unreadable dropped)
    (hroom : handled.length + 1 < Word.count)
    (hfits : Packet.octets handled + packet.frame.length < Word.count)
    (old : Option FlowRecord) {new : FlowRecord}
    (hrecords : engine'.table.records + (old.toList : Multiset FlowRecord)
      = engine.table.records + {new})
    (hpackets : new.packets = (old.map FlowRecord.packets).getD 0 + 1)
    (hbytes : new.bytes = (old.map FlowRecord.bytes).getD 0 + packet.frame.length)
    (hexported : engine'.exported = engine.exported) {flowsCreated : UInt64}
    (htotals : engine'.totals = { engine.totals.countPacket packet.size with flowsCreated })
    (started : Nat) (hstarted : started ≤ 1)
    (hcreated : flowsCreated = engine.totals.flowsCreated + UInt64.ofNat started)
    (htracked : engine'.tracked = engine.tracked + started) :
    engine'.Conserves (handled ++ [packet]) unreadable dropped := by
  have hsum : ∀ weight : FlowRecord → Nat,
      (engine'.records.map weight).sum + (old.map weight).getD 0
        = (engine.records.map weight).sum + weight new := by
    intro weight
    have hexchange := congrArg (fun records => (Multiset.map weight records).sum) hrecords
    have hold : (Multiset.map weight (old.toList : Multiset FlowRecord)).sum
        = (old.map weight).getD 0 := by cases old <;> simp
    simp only [Multiset.map_add, Multiset.sum_add, hold, Multiset.map_singleton,
      Multiset.sum_singleton] at hexchange
    unfold records
    rw [hexported, Multiset.map_add, Multiset.map_add, Multiset.sum_add, Multiset.sum_add,
      Nat.add_assoc, hexchange, Nat.add_assoc]
  have hword : (UInt64.ofNat started).toNat = started :=
    UInt64.toNat_ofNat_of_lt' (Nat.lt_of_le_of_lt hstarted (by decide))
  have hle := h.created_le
  rw [h.handled_eq] at hle
  have hcounted := hsum FlowRecord.packets
  have hcarried := hsum FlowRecord.bytes
  apply h.handle hroom hfits htotals hexported h.unreadable_eq h.dropped_eq _ _ started hstarted _
    htracked
  · omega
  · omega
  · have hone := Word.toNat_add (a := engine.totals.flowsCreated) (b := UInt64.ofNat started)
      (by rw [hword]; exact Nat.lt_of_le_of_lt (Nat.add_le_add hle hstarted) hroom)
    rw [hcreated, hone, hword]

variable {lineup : Lineup 1 4} {phase : FlowId → Phase}

section Readable

variable {headers : Headers} {clock : PacketClock} (h : engine.Conserves handled unreadable dropped)
  (hrest : engine.AtRest lineup phase) (worker : Worker)
  (hroom : handled.length + 1 < Word.count)
  (hoctets : Packet.octets handled + packet.frame.length < Word.count)
  (hclock : engine.clock.advance packet.time = .ok clock)
  (hheaders : Frame.headers packet.frame = .ok headers)
include h hrest hroom hoctets hclock hheaders

/-- A packet of a tracked flow. -/
theorem process_known (hfits : packet.time.Fits) {flow : FlowId}
    (hlookup : engine.table.lookup headers.tuple.key = some flow) :
    ∃ engine' lineup' phase', (worker.process packet).run engine = .ok () engine'
      ∧ engine'.AtRest lineup' phase'
      ∧ engine'.Conserves (handled ++ [packet]) unreadable dropped := by
  have hrun := AtRest.process_decodable engine worker packet hclock hheaders
  have hclocked : (AtRest.clocked engine packet clock).AtRest lineup phase := hrest.congr rfl rfl
  have hlength : packet.size.toNat = packet.frame.length :=
    UInt64.toNat_ofNat_of_lt' (Nat.lt_of_le_of_lt (Nat.le_add_left ..) hoctets)
  obtain ⟨record, hphase, hkey⟩ := hrest.tracked_of_lookup hlookup
  have hrecord : (phase flow).record = some record := by rw [hphase]; rfl
  have hcount : (record.direction headers).HasRoom packet.size := by
    apply (h.atMost (hrest.mem_records hrecord)).hasRoom
    · rwa [h.handled_eq]
    · rwa [h.octets_eq, hlength]
  have hkey' : record.key = Arrival.key ⟨headers, packet.time, packet.size⟩ := hkey
  obtain ⟨engine', lineup', htrack, hrest', hsame⟩ :=
    hclocked.track_known worker hphase hkey' hfits hcount
  have hrecords := hclocked.records_update hrest' (by simp [hphase]) (by simp)
  have htracked := hclocked.tracked_update hrest' (by simp [hphase]) (by simp)
  obtain ⟨hpackets, hbytes⟩ := FlowRecord.counted_eq packet.time hcount
  rw [hrecord] at hrecords htracked
  refine ⟨engine', lineup', _, hrun.trans htrack, hrest', ?_⟩
  exact h.account hroom hoctets (some record) hrecords hpackets (hbytes.trans (by rw [hlength]; rfl))
    hsame.exported_eq hsame.totals_eq 0 (Nat.zero_le 1) (UInt64.add_zero _).symm
    (Nat.add_right_cancel htracked)

/-- A packet of a new flow, while no slot is spare. -/
theorem process_full (hlookup : engine.table.lookup headers.tuple.key = none)
    (hspare : lineup.flows spareQueue = []) :
    ∃ engine', (worker.process packet).run engine = .ok () engine' ∧ engine'.AtRest lineup phase
      ∧ engine'.Conserves (handled ++ [packet]) unreadable (dropped ++ [packet]) := by
  have hrun := AtRest.process_decodable engine worker packet hclock hheaders
  have hclocked : (AtRest.clocked engine packet clock).AtRest lineup phase := hrest.congr rfl rfl
  have hunbound : (AtRest.clocked engine packet clock).table.lookup
    (Arrival.key ⟨headers, packet.time, packet.size⟩) = none := hlookup
  obtain ⟨engine', htrack, hrest', -, hexported, htotals⟩ :=
    hclocked.track_drop worker hunbound hspare
  have hrecords : engine'.table.records = engine.table.records := by
    rw [hrest'.records_eq, hrest.records_eq,
      hrest.agrees.capacity_congr hrest'.agrees (.refl phase)]
  have htracked : engine'.tracked = engine.tracked := by
    rw [← hrest'.card_records, hrecords, hrest.card_records]
  exact ⟨engine', hrun.trans htrack, hrest', h.drop hroom hoctets hrecords htracked hexported htotals⟩

/-- A packet of a new flow, for which a slot is spare. -/
theorem process_new (hfits : packet.time.Fits)
    (hlookup : engine.table.lookup headers.tuple.key = none) {flow : FlowId} {rest : List FlowId}
    (hspare : lineup.flows spareQueue = flow :: rest) :
    ∃ engine' lineup' phase', (worker.process packet).run engine = .ok () engine'
      ∧ engine'.AtRest lineup' phase'
      ∧ engine'.Conserves (handled ++ [packet]) unreadable dropped := by
  have hrun := AtRest.process_decodable engine worker packet hclock hheaders
  have hclocked : (AtRest.clocked engine packet clock).AtRest lineup phase := hrest.congr rfl rfl
  have hlength : packet.size.toNat = packet.frame.length :=
    UInt64.toNat_ofNat_of_lt' (Nat.lt_of_le_of_lt (Nat.le_add_left ..) hoctets)
  have hunbound : (AtRest.clocked engine packet clock).table.lookup
    (Arrival.key ⟨headers, packet.time, packet.size⟩) = none := hlookup
  obtain ⟨engine', lineup', htrack, hphase, hrest', -, hexported, htotals⟩ :=
    hclocked.track_new worker hunbound hfits hspare
  have hrecords := hclocked.records_update hrest' (by simp [hphase]) (by simp)
  have htracked := hclocked.tracked_update hrest' (by simp [hphase]) (by simp)
  obtain ⟨hpackets, hbytes⟩ := FlowRecord.first_eq headers packet.time packet.size
  rw [hphase] at hrecords htracked
  refine ⟨engine', lineup', _, hrun.trans htrack, hrest', ?_⟩
  exact h.account hroom hoctets none hrecords (hpackets.trans (Nat.zero_add 1).symm)
    (hbytes.trans (by rw [hlength]; simp)) hexported htotals 1 (Nat.le_refl 1) rfl htracked

end Readable

/-- A packet is handled, and its fate says which list it joins. -/
theorem process (h : engine.Conserves handled unreadable dropped)
    (hrest : engine.AtRest lineup phase) (worker : Worker) (hfits : packet.time.Fits)
    (hroom : handled.length + 1 < Word.count)
    (hoctets : Packet.octets handled + packet.frame.length < Word.count) :
    ∃ engine' lineup' phase', (worker.process packet).run engine = .ok () engine'
      ∧ engine'.AtRest lineup' phase'
      ∧ engine'.Conserves (handled ++ [packet])
        (unreadable ++ [packet].filter (fun packet => engine.fate packet = .unreadable))
        (dropped ++ [packet].filter (fun packet => engine.fate packet = .dropped)) := by
  obtain ⟨clock, hclock, -⟩ := PacketClock.advance_of_fits engine.clock hfits
  cases hheaders : Frame.headers packet.frame with
  | error error =>
    obtain ⟨engine', hrun, htable, hqueues, -, hexported, htotals⟩ :=
      AtRest.process_undecodable engine worker packet hclock hheaders
    refine ⟨engine', lineup, phase, hrun, hrest.congr htable hqueues, ?_⟩
    simpa [fate_unreadable hheaders] using h.skip hroom hoctets htable hqueues hexported htotals
  | ok headers =>
    have hspare := (hrest.agrees.represents.chain spareQueue).length_eq
    cases hlookup : engine.table.lookup headers.tuple.key with
    | some flow =>
      have hfate : engine.fate packet = .accounted :=
        fate_accounted hheaders fun hnone => by rw [hnone] at hlookup; cases hlookup
      simpa [hfate] using h.process_known hrest worker hroom hoctets hclock hheaders hfits hlookup
    | none =>
      cases hcons : lineup.flows spareQueue with
      | nil =>
        have hfate : engine.fate packet = .dropped :=
          fate_dropped hheaders hlookup (by rw [hspare, hcons]; rfl)
        obtain ⟨engine', hrun, hrest', h'⟩ :=
          h.process_full hrest worker hroom hoctets hclock hheaders hlookup hcons
        exact ⟨engine', lineup, phase, hrun, hrest', by simpa [hfate] using h'⟩
      | cons flow rest =>
        have hfate : engine.fate packet = .accounted :=
          fate_accounted hheaders fun _ => by rw [hspare, hcons]; simp
        simpa [hfate] using
          h.process_new hrest worker hroom hoctets hclock hheaders hfits hlookup hcons

/-! ### A sweep -/

theorem sweep (h : engine.Conserves handled unreadable dropped) {busy : FlowId → Bool}
    (hrest : engine.AmongHolders busy lineup phase) {manager : Manager}
    (hlimit : manager.exporter.limit = none) (reason : ReleaseReason)
    (hroom : handled.length < Word.count) :
    ∃ engine' lineup' phase' result, (manager.sweep reason).run engine = .ok result engine'
      ∧ engine'.AmongHolders busy lineup' phase'
      ∧ engine'.Conserves handled unreadable dropped := by
  obtain ⟨engine', lineup', result, hrest', -, htotals, hexported, hrun⟩ :=
    hrest.sweep_unlimited hlimit reason
  refine ⟨engine', lineup', _, result, hrun, hrest', ?_⟩
  have hmoved := hrest.records_swept hrest'
  unfold AmongHolders.released at htotals hexported
  generalize AmongHolders.recordsOf phase
    (AmongHolders.swept manager reason engine.clock busy lineup phase) = records at *
  -- What leaves the slots joins the exported flows.
  have hrecords : engine'.records = engine.records := by
    unfold Engine.records
    rw [hexported, ← hmoved]
    simp only [Array.toList_append, List.map_append, List.map_map, ← Multiset.coe_add]
    rw [add_assoc, add_comm engine'.table.records]
    exact congrArg (fun moved : List FlowRecord => (_ : Multiset FlowRecord) + (moved + _))
      (List.map_id records)
  have hcard := congrArg Multiset.card hmoved
  rw [Multiset.card_add, Multiset.coe_card, hrest'.card_records, hrest.card_records] at hcard
  have hsize : engine'.exported.size = engine.exported.size + records.length := by
    rw [hexported]
    simp
  obtain ⟨hhandled, hoctets, hunread, hdrop, hbalance, hbalance', hstock, hgone, hle⟩ := h
  have hcounters : engine'.totals.counters
      = engine.totals.counters.countReleased records.length reason := by
    rw [htotals]
    exact Totals.counters_countReleased reason records engine.totals (by omega) (by omega)
  rw [← hrecords] at hbalance hbalance'
  cases reason with
  | timeout =>
    simp only [Totals.counters, Counters.countReleased, Counters.mk.injEq] at hcounters
    constructor <;> omega
  | shutdown =>
    simp only [Totals.counters, Counters.countReleased, Counters.mk.injEq] at hcounters
    constructor <;> omega

/-! ### Runs -/

theorem withHolders (h : engine.Conserves handled unreadable dropped) (busy : FlowId → Bool) :
    (engine.withHolders busy).Conserves handled unreadable dropped := by
  have hrecords : (engine.withHolders busy).records = engine.records := by
    unfold records
    rw [AmongHolders.records_withHolders]
    rfl
  obtain ⟨hhandled, hoctets, hunread, hdrop, hbalance, hbalance', hstock, hgone, hle⟩ := h
  rw [← hrecords] at hbalance hbalance'
  exact ⟨hhandled, hoctets, hunread, hdrop, hbalance, hbalance', hstock, hgone, hle⟩

/-- A call ends well and keeps the balance. -/
theorem perform (h : engine.Conserves handled unreadable dropped)
    (hrest : engine.AtRest lineup phase) {call : EngineCall} (hready : call.IsReady)
    (hroom : handled.length + (EngineCall.packets [call]).length < Word.count)
    (hoctets : Packet.octets handled + Packet.octets (EngineCall.packets [call]) < Word.count) :
    ∃ lineup' phase', (engine.perform call).AtRest lineup' phase'
      ∧ (engine.perform call).Conserves (handled ++ EngineCall.packets [call])
        (unreadable ++ engine.packetsOf .unreadable [call])
        (dropped ++ engine.packetsOf .dropped [call]) := by
  have hbusy := hrest.withHolders call.busy
  have hheld := h.withHolders call.busy
  obtain ⟨engine', lineup', phase', hrun, hrest', h'⟩ : ∃ engine' lineup' phase',
      call.program.run (engine.withHolders call.busy) = .ok () engine'
        ∧ engine'.AmongHolders call.busy lineup' phase'
        ∧ engine'.Conserves (handled ++ EngineCall.packets [call])
          (unreadable ++ engine.packetsOf .unreadable [call])
          (dropped ++ engine.packetsOf .dropped [call]) := by
    cases call with
    | process worker packet =>
      simp only [packetsOf, List.append_nil]
      exact hheld.process hbusy worker hready hroom hoctets
    | sweep manager reason busy =>
      obtain ⟨engine', lineup', phase', result, hrun, hrest', h'⟩ :=
        hheld.sweep hbusy hready reason hroom
      refine ⟨engine', lineup', phase', ?_, hrest', by simpa [packetsOf, EngineCall.packets] using h'⟩
      simp only [EngineCall.program, EStateM.run_bind, hrun, EStateM.run_pure]
    | flush manager busy =>
      obtain ⟨engine', lineup', phase', result, hrun, hrest', h'⟩ :=
        hheld.sweep hbusy hready .shutdown hroom
      obtain ⟨log, hflush⟩ := run_flush hrun
      refine ⟨{ engine' with log }, lineup', phase', hflush, hrest'.congr rfl rfl, ?_⟩
      obtain ⟨hhandled, hoctets, hunread, hdrop, hbalance, hbalance', hstock, hgone, hle⟩ := h'
      simpa [packetsOf, EngineCall.packets] using (⟨hhandled, hoctets, hunread, hdrop, hbalance,
        hbalance', hstock, hgone, hle⟩ : Conserves { engine' with log } _ _ _)
  rw [AmongHolders.perform_eq (Or.inl hrun)]
  exact ⟨lineup', phase', hrest'.withHolders _, h'.withHolders _⟩

/-- Calls keep the balance. -/
theorem performAll (h : engine.Conserves handled unreadable dropped)
    (hrest : engine.AtRest lineup phase) {calls : List EngineCall}
    (hready : ∀ call ∈ calls, call.IsReady)
    (hroom : handled.length + (EngineCall.packets calls).length < Word.count)
    (hoctets : Packet.octets handled + Packet.octets (EngineCall.packets calls) < Word.count) :
    (engine.performAll calls).Conserves (handled ++ EngineCall.packets calls)
      (unreadable ++ engine.packetsOf .unreadable calls)
      (dropped ++ engine.packetsOf .dropped calls) := by
  induction calls generalizing engine lineup phase handled unreadable dropped with
  | nil =>
    simp only [packetsOf, List.append_nil]
    exact (List.append_nil handled).symm ▸ h
  | cons call calls ih =>
    rw [EngineCall.packets_cons, List.length_append] at hroom
    rw [EngineCall.packets_cons, Packet.octets_append] at hoctets
    obtain ⟨lineup', phase', hrest', h'⟩ := h.perform hrest (hready call List.mem_cons_self)
      (by omega) (by omega)
    have h'' := ih h' hrest' (fun call' hmem => hready call' (List.mem_cons_of_mem _ hmem))
      (by rw [List.length_append]; omega) (by rw [Packet.octets_append]; omega)
    rw [EngineCall.packets_cons]
    show ((engine.perform call).performAll calls).Conserves _ _ _
    simpa only [packetsOf, List.append_nil, List.append_assoc] using h''

end Conserves

/-- Whatever packets, sweeps and flushes a fresh engine has seen, its packets and octets are those of
the packets that could not be read, of those that were dropped, and of all records exported or in a slot;
the flows that it started were released or are tracked, and the released ones were exported. -/
theorem performAll_conserves {capacity : Nat} (h : capacity < QueueStore.handleLimit)
    (calls : List EngineCall) (hready : ∀ call ∈ calls, call.IsReady)
    (hpackets : (EngineCall.packets calls).length < Word.count)
    (hbytes : Packet.octets (EngineCall.packets calls) < Word.count) :
    ∃ engine, fresh capacity = .ok engine ∧ (engine.performAll calls).Conserves
      (EngineCall.packets calls) (engine.packetsOf .unreadable calls)
      (engine.packetsOf .dropped calls) := by
  obtain ⟨engine, lineup, hfresh, hrest, -, -, htotals, hexported⟩ := fresh_atRest h
  refine ⟨engine, hfresh, ?_⟩
  have hrecords : engine.table.records = 0 := by
    rw [hrest.records_eq]
    apply Finset.sum_eq_zero
    intro flow _
    rw [record_freshPhase]
    rfl
  have htracked : engine.tracked = 0 := by
    rw [← hrest.card_records, hrecords, Multiset.card_zero]
  have hstart : engine.Conserves [] [] [] := by
    constructor <;> simp [htotals, records, hexported, hrecords, htracked, Totals.zero,
      Packet.octets]
  exact hstart.performAll hrest hready (by simpa using hpackets) (by simpa [Packet.octets] using hbytes)

/-- One slot: a flow, a packet of another flow that finds no slot, one that cannot be read, a sweep
while the slot is held and a flush. -/
theorem performAll_conserves_of_one :
    let manager : Manager := ⟨⟨⟨5, 0⟩, ⟨5, 0⟩, ⟨5, 0⟩⟩, .reliable⟩
    let calls : List EngineCall := [.process ⟨0⟩ (.bareAt 1),
      .process ⟨0⟩ ⟨⟨2, 0⟩, (Packet.bareAt 2).frame.dropLast ++ [3]⟩,
      .process ⟨0⟩ ⟨⟨9, 0⟩, [0]⟩, .sweep manager .timeout fun flow => flow == 0,
      .flush manager fun _ => false]
    ∃ engine, fresh 1 = .ok engine ∧ (engine.performAll calls).Conserves (EngineCall.packets calls)
      (engine.packetsOf .unreadable calls) (engine.packetsOf .dropped calls) := by
  intro manager calls
  exact performAll_conserves (by decide) calls (by decide) (by decide) (by decide)

end Engine

end FlowTracker
