import FlowTracker.Proofs.Map.Machine

/-!
# An engine is a bounded map

`Engine.Simulates` ties an engine at rest to a `FlowMap`: the map has the tracked records under their
conversations, and clock, counters and exports are the same.  Each call keeps the two together as long
as times and totals fit 64 bits, so a run of an engine and the same run of a map report the same all the
way.
-/

namespace FlowTracker

/-! ### Totals as counters -/

def Totals.counters (totals : Totals) : Counters where
  packets := totals.packets.toNat
  bytes := totals.bytes.toNat
  maxPacketLength := totals.maxPacketLength.toNat
  undecodable := totals.undecodable.toNat
  tableFullDrops := totals.tableFullDrops.toNat
  flowsCreated := totals.flowsCreated.toNat
  flowsTimedOut := totals.flowsTimedOut.toNat
  flowsFlushed := totals.flowsFlushed.toNat

namespace Totals

theorem counters_countPacket {totals : Totals} {size : UInt64}
    (hpackets : totals.packets.toNat + 1 < Word.count)
    (hbytes : totals.bytes.toNat + size.toNat < Word.count) :
    (totals.countPacket size).counters = totals.counters.countPacket size.toNat := by
  have hone : (totals.packets + 1).toNat = totals.packets.toNat + 1 := Word.toNat_add hpackets
  have hsum : (totals.bytes + size).toNat = totals.bytes.toNat + size.toNat :=
    Word.toNat_add hbytes
  simp only [countPacket, counters, Counters.countPacket, hone, hsum, Word.toNat_max]

theorem counters_countReleased (reason : ReleaseReason) (records : List FlowRecord)
    (totals : Totals)
    (htimedOut : totals.flowsTimedOut.toNat + records.length < Word.count)
    (hflushed : totals.flowsFlushed.toNat + records.length < Word.count) :
    ((records.map (ReleasedFlow.mk reason)).foldl
        (fun totals flow => totals.countReleased flow.reason) totals).counters
      = totals.counters.countReleased records.length reason := by
  induction records generalizing totals with
  | nil => cases reason <;> rfl
  | cons record records ih =>
    rw [List.length_cons] at htimedOut hflushed
    rw [List.map_cons, List.foldl_cons]
    cases reason with
    | timeout =>
      have hone : (totals.flowsTimedOut + 1).toNat = totals.flowsTimedOut.toNat + 1 :=
        Word.toNat_add (show _ + 1 < _ by omega)
      rw [ih]
      · simp only [countReleased, counters, Counters.countReleased, hone, List.length_cons]
        rw [Nat.add_assoc, Nat.add_comm 1]
      · simp only [countReleased, hone]
        omega
      · simp only [countReleased]
        omega
    | shutdown =>
      have hone : (totals.flowsFlushed + 1).toNat = totals.flowsFlushed.toNat + 1 :=
        Word.toNat_add (show _ + 1 < _ by omega)
      rw [ih]
      · simp only [countReleased, counters, Counters.countReleased, hone, List.length_cons]
        rw [Nat.add_assoc, Nat.add_comm 1]
      · simp only [countReleased]
        omega
      · simp only [countReleased, hone]
        omega

theorem counters_mean (totals : Totals) :
    totals.meanPacketLength.toNat = totals.counters.meanPacketLength := by
  unfold meanPacketLength Counters.meanPacketLength counters
  split
  · rename_i hzero
    simp [hzero]
  · exact UInt64.toNat_div ..

end Totals

/-! ### The relation -/

namespace Engine

open EStateM AmongHolders

/-- The engine is at rest and has what the map has. -/
structure Simulates (engine : Engine) (lineup : Lineup 1 4) (phase : FlowId → Phase)
    (map : FlowMap) : Prop where
  rest : engine.AtRest lineup phase
  capacity_eq : engine.table.capacity = map.capacity
  lookup_iff : ∀ key record, map.flows.lookup key = some record
    ↔ record.key = key ∧ ∃ flow, phase flow = .tracked record
  clock_eq : engine.clock.toNat = map.clock
  counters_eq : engine.totals.counters = map.counters
  exported_eq : (engine.exported.toList : Multiset ReleasedFlow) = map.exported

namespace Simulates

variable {engine engine' : Engine} {lineup lineup' : Lineup 1 4} {phase : FlowId → Phase}
  {map : FlowMap} {flow : FlowId} {record : FlowRecord}

/-- The records of the map are those of the tracked slots, each of them once. -/
theorem records_eq (h : engine.Simulates lineup phase map) :
    map.flows.entries.map Sigma.snd = (recordsOf phase (members lineup FlowState.all) :) := by
  have hentry : ∀ entry ∈ map.flows.entries, entry.2.key = entry.1
      ∧ ∃ flow, phase flow = .tracked entry.2 :=
    fun entry hmem => (h.lookup_iff _ _).1 (Finmap.lookup_eq_some_iff.2 hmem)
  apply (Multiset.Nodup.ext ?_ ?_).2
  · intro record
    rw [Multiset.mem_map, Multiset.mem_coe, recordsOf, List.mem_filterMap]
    constructor
    · rintro ⟨entry, hmem, rfl⟩
      obtain ⟨-, flow, hphase⟩ := hentry entry hmem
      exact ⟨flow, h.rest.mem_members_iff.2 ⟨_, hphase⟩, by rw [hphase]; rfl⟩
    · rintro ⟨flow, hmem, hrecord⟩
      obtain ⟨record', hphase⟩ := h.rest.mem_members_iff.1 hmem
      rw [hphase] at hrecord
      obtain rfl := Option.some.inj hrecord
      exact ⟨⟨record'.key, record'⟩,
        Finmap.lookup_eq_some_iff.1 ((h.lookup_iff _ _).2 ⟨rfl, flow, hphase⟩), rfl⟩
  · apply Multiset.Nodup.map_on _ map.flows.nodup_entries
    rintro ⟨key, record⟩ hmem ⟨key', record'⟩ hmem' rfl
    obtain rfl : record.key = key := (hentry _ hmem).1
    obtain rfl : record.key = key' := (hentry _ hmem').1
    rfl
  · apply Multiset.coe_nodup.2
    apply List.Nodup.filterMap _ h.rest.nodup_members
    intro flow flow' record hrecord hrecord'
    exact h.rest.agrees.eq_of_key (Phase.key_of_record hrecord) (Phase.key_of_record hrecord')

theorem card_eq (h : engine.Simulates lineup phase map) :
    map.flows.keys.card = (members lineup FlowState.all).length := by
  have hlength : (recordsOf phase (members lineup FlowState.all)).length
      = (members lineup FlowState.all).length := by
    apply List.filterMap_length_eq_length.2
    intro flow hmem
    obtain ⟨record, hphase⟩ := h.rest.mem_members_iff.1 hmem
    rw [hphase]
    rfl
  rw [FlowMap.card_keys, ← hlength, ← Multiset.coe_card, ← h.records_eq, Multiset.card_map]

/-- The map has room exactly if some slot is spare. -/
theorem card_lt_iff (h : engine.Simulates lineup phase map) :
    map.flows.keys.card < map.capacity ↔ lineup.flows spareQueue ≠ [] := by
  have hsum := h.rest.length_spare_add
  rw [h.card_eq, ← h.capacity_eq, ne_eq, ← List.length_eq_zero_iff]
  omega

/-- The map after the record of one slot has changed or was started. -/
theorem lookup_update (h : engine.Simulates lineup phase map)
    (hothers : ∀ flow' record', phase flow' = .tracked record' →
      (record'.key = record.key ↔ flow' = flow)) (key : FlowKey) (record' : FlowRecord) :
    (map.flows.insert record.key record).lookup key = some record'
      ↔ record'.key = key ∧ ∃ flow', Function.update phase flow (.tracked record) flow'
        = .tracked record' := by
  rw [FlowMap.lookup_insert_eq_some_iff]
  split
  · subst key
    constructor
    · rintro rfl
      exact ⟨rfl, flow, Function.update_self ..⟩
    · rintro ⟨hkey, flow', hphase⟩
      by_cases hflow : flow' = flow
      · rw [hflow, Function.update_self] at hphase
        exact Phase.tracked.inj hphase
      · rw [Function.update_of_ne hflow] at hphase
        exact absurd ((hothers flow' record' hphase).1 hkey) hflow
  · rename_i hne
    rw [h.lookup_iff]
    apply and_congr_right
    rintro rfl
    apply exists_congr
    intro flow'
    by_cases hflow : flow' = flow
    · subst hflow
      rw [Function.update_self]
      constructor
      · intro hphase
        exact absurd ((hothers flow' record' hphase).2 rfl) hne
      · intro hphase
        rw [Phase.tracked.inj hphase] at hne
        exact absurd rfl hne
    · rw [Function.update_of_ne hflow]

/-! ### Packets -/

theorem count (h : engine.Simulates lineup phase map) (packet : Packet) {clock : PacketClock}
    (hclock : clock.toNat = max engine.clock.toNat packet.time.micros)
    (hpackets : map.counters.packets + 1 < Word.count)
    (hbytes : map.counters.bytes + packet.frame.length < Word.count) :
    (AtRest.clocked engine packet clock).Simulates lineup phase (map.count packet) := by
  have hsize : packet.size.toNat = packet.frame.length :=
    UInt64.toNat_ofNat_of_lt' (Nat.lt_of_le_of_lt (Nat.le_add_left ..) hbytes)
  refine ⟨h.rest.congr rfl rfl, h.capacity_eq, h.lookup_iff, ?_, ?_, h.exported_eq⟩
  · show clock.toNat = max map.clock packet.time.micros
    rw [hclock, h.clock_eq]
  · show (engine.totals.countPacket packet.size).counters
      = map.counters.countPacket packet.frame.length
    rw [← h.counters_eq] at hpackets hbytes ⊢
    rw [← hsize] at hbytes ⊢
    exact Totals.counters_countPacket hpackets hbytes

/-- An arrival does the same to the engine as to the map. -/
theorem track (h : engine.Simulates lineup phase map) (worker : Worker) (arrival : Arrival)
    (hfits : arrival.time.Fits)
    (hroom : ∀ record, map.flows.lookup arrival.key = some record →
      (record.direction arrival.headers).HasRoom arrival.size)
    (hcreated : map.counters.flowsCreated + 1 < Word.count)
    (hdrops : map.counters.tableFullDrops + 1 < Word.count) :
    ∃ engine' lineup' phase', (worker.track arrival).run engine = .ok () engine'
      ∧ engine'.Simulates lineup' phase' (map.track arrival) := by
  cases hlookup : map.flows.lookup arrival.key with
  | some record =>
    obtain ⟨hkey, flow, hphase⟩ := (h.lookup_iff _ _).1 hlookup
    obtain ⟨engine', lineup', hrun, hrest, hsame⟩ :=
      h.rest.track_known worker hphase hkey hfits (hroom record hlookup)
    have hcounted := (record.key_counted arrival.headers arrival.time arrival.size).trans hkey
    refine ⟨engine', lineup', _, hrun, hrest, ?_, ?_, ?_, ?_, ?_⟩
    · rw [FlowMap.track_known hlookup, h.rest.agrees.capacity_congr hrest.agrees
        (.update (by simp [hphase]) (by simp)), h.capacity_eq]
    · rw [FlowMap.track_known hlookup, ← hcounted]
      apply h.lookup_update
      intro flow' record' hphase'
      rw [hcounted]
      constructor
      · intro hkey'
        have hleft : (phase flow').key = some arrival.key := by
          rw [hphase']
          exact congrArg some hkey'
        have hright : (phase flow).key = some arrival.key := by
          rw [hphase]
          exact congrArg some hkey
        exact h.rest.agrees.eq_of_key hleft hright
      · rintro rfl
        rw [hphase] at hphase'
        rw [← Phase.tracked.inj hphase', hkey]
    · rw [FlowMap.track_known hlookup, hsame.clock_eq, h.clock_eq]
    · rw [FlowMap.track_known hlookup, hsame.totals_eq, h.counters_eq]
    · rw [FlowMap.track_known hlookup, hsame.exported_eq, h.exported_eq]
  | none =>
    have hunbound : engine.table.lookup arrival.key = none := by
      cases hbound : engine.table.lookup arrival.key with
      | none => rfl
      | some flow =>
        obtain ⟨record, hphase, hkey⟩ := h.rest.tracked_of_lookup hbound
        rw [(h.lookup_iff _ _).2 ⟨hkey, flow, hphase⟩] at hlookup
        cases hlookup
    cases hspare : lineup.flows spareQueue with
    | cons flow rest =>
      obtain ⟨engine', lineup', hrun, hphase, hrest, hclock, hexported, htotals⟩ :=
        h.rest.track_new worker hunbound hfits hspare
      have hlt := h.card_lt_iff.2 (by simp [hspare])
      have hfirst := FlowRecord.key_first arrival.headers arrival.time arrival.size
      refine ⟨engine', lineup', _, hrun, hrest, ?_, ?_, ?_, ?_, ?_⟩
      · rw [FlowMap.track_new hlookup hlt, h.rest.agrees.capacity_congr hrest.agrees
          (.update (by simp [hphase]) (by simp)), h.capacity_eq]
      · rw [FlowMap.track_new hlookup hlt]
        show ∀ key record, (map.flows.insert arrival.headers.tuple.key _).lookup key = some record
          ↔ _
        rw [← hfirst]
        apply h.lookup_update
        intro flow' record' hphase'
        constructor
        · intro hkey'
          rw [(h.lookup_iff arrival.key record').2 ⟨hkey'.trans hfirst, flow', hphase'⟩] at hlookup
          cases hlookup
        · rintro rfl
          rw [hphase] at hphase'
          cases hphase'
      · rw [FlowMap.track_new hlookup hlt, hclock, h.clock_eq]
      · rw [FlowMap.track_new hlookup hlt, htotals]
        rw [← h.counters_eq] at hcreated ⊢
        have hone : (engine.totals.flowsCreated + 1).toNat = engine.totals.flowsCreated.toNat + 1 :=
          Word.toNat_add hcreated
        simp only [Totals.counters, hone]
      · rw [FlowMap.track_new hlookup hlt, hexported, h.exported_eq]
    | nil =>
      obtain ⟨engine', hrun, hrest, hclock, hexported, htotals⟩ :=
        h.rest.track_drop worker hunbound hspare
      have hfull : ¬ map.flows.keys.card < map.capacity :=
        fun hlt => h.card_lt_iff.1 hlt hspare
      rw [FlowMap.track_drop hlookup hfull]
      refine ⟨engine', lineup, phase, hrun, hrest, ?_, h.lookup_iff, ?_, ?_, ?_⟩
      · rw [h.rest.agrees.capacity_congr hrest.agrees (.refl phase), h.capacity_eq]
      · rw [hclock, h.clock_eq]
      · rw [htotals]
        rw [← h.counters_eq] at hdrops ⊢
        have hone : (engine.totals.tableFullDrops + 1).toNat
            = engine.totals.tableFullDrops.toNat + 1 := Word.toNat_add hdrops
        simp only [Totals.counters, hone]
      · rw [hexported, h.exported_eq]

/-- A packet does the same to the engine as to the map. -/
theorem process (h : engine.Simulates lineup phase map) (hsound : map.IsSound) (worker : Worker)
    (packet : Packet) (hfits : packet.time.Fits)
    (hpackets : map.counters.packets + 1 < Word.count)
    (hbytes : map.counters.bytes + packet.frame.length < Word.count) :
    ∃ engine' lineup' phase', (worker.process packet).run engine = .ok () engine'
      ∧ engine'.Simulates lineup' phase' (map.process packet) := by
  obtain ⟨clock, hadvance, hclock⟩ := PacketClock.advance_of_fits engine.clock hfits
  have hcounted := h.count packet hclock hpackets hbytes
  have hundecodable := hsound.undecodable_le
  have hcreated := hsound.flowsCreated_le
  have hdrops := hsound.tableFullDrops_le
  cases hheaders : Frame.headers packet.frame with
  | error error =>
    obtain ⟨engine', hrun, htable, hqueues, hclock', hexported, htotals⟩ :=
      AtRest.process_undecodable engine worker packet hadvance hheaders
    rw [FlowMap.process_undecodable hheaders]
    refine ⟨engine', lineup, phase, hrun, h.rest.congr htable hqueues, ?_, h.lookup_iff, ?_, ?_, ?_⟩
    · rw [htable]
      exact h.capacity_eq
    · rw [hclock']
      exact hcounted.clock_eq
    · have hsame := hcounted.counters_eq
      have heq : engine.totals.undecodable.toNat = map.counters.undecodable :=
        congrArg Counters.undecodable h.counters_eq
      have hlt : engine.totals.undecodable.toNat + 1 < Word.count := by
        rw [heq]
        exact Nat.lt_of_le_of_lt (Nat.succ_le_succ hundecodable) hpackets
      have hone : ((engine.totals.countPacket packet.size).undecodable + 1).toNat
          = (engine.totals.countPacket packet.size).undecodable.toNat + 1 := Word.toNat_add hlt
      rw [htotals, ← hsame]
      simp only [Totals.counters, hone]
      rfl
    · rw [hexported]
      exact h.exported_eq
  | ok headers =>
    rw [FlowMap.process_decodable hheaders,
      AtRest.process_decodable engine worker packet hadvance hheaders]
    apply hcounted.track worker ⟨headers, packet.time, packet.size⟩ hfits
    · intro record hlookup
      exact (hsound.carried _ record hlookup).hasRoom hpackets
        (Nat.lt_of_le_of_lt (Nat.add_le_add_left packet.size_le _) hbytes)
    · exact Nat.lt_of_le_of_lt (Nat.succ_le_succ hcreated) hpackets
    · exact Nat.lt_of_le_of_lt (Nat.succ_le_succ hdrops) hpackets

/-! ### Sweeps -/

/-- The records that a sweep releases. -/
theorem recordsOf_swept (manager : Manager) (reason : ReleaseReason) (clock : PacketClock) :
    recordsOf phase (swept manager reason clock (fun _ => false) lineup phase)
      = (recordsOf phase (members lineup FlowState.all)).filter
        (manager.releases reason clock.toNat) := by
  unfold recordsOf swept
  rw [List.filterMap_filter, List.filter_filterMap]
  apply List.filterMap_congr
  intro flow _
  unfold Manager.takes
  cases (phase flow).record with
  | none => simp
  | some record => cases hreleases : manager.releases reason clock.toNat record <;> simp [Option.filter, hreleases]

theorem mem_swept_iff (h : engine.Simulates lineup phase map) (manager : Manager)
    (reason : ReleaseReason) (clock : PacketClock) (hphase : phase flow = .tracked record) :
    flow ∈ swept manager reason clock (fun _ => false) lineup phase
      ↔ manager.releases reason clock.toNat record = true := by
  unfold swept
  rw [List.mem_filter, h.rest.mem_members_iff]
  simp [Manager.takes, hphase, Phase.record]

theorem restrict_entries (h : engine.Simulates lineup phase map) (p : FlowRecord → Bool) :
    (FlowMap.restrict map.flows p).entries.map Sigma.snd
      = ((recordsOf phase (members lineup FlowState.all)).filter p :) := by
  show (map.flows.entries.filter fun entry => p entry.2 = true).map Sigma.snd = _
  have hcoe : ((recordsOf phase (members lineup FlowState.all)).filter p : Multiset FlowRecord)
      = (recordsOf phase (members lineup FlowState.all) : Multiset FlowRecord).filter
        fun record => p record = true := by
    rw [Multiset.filter_coe]
    simp
  rw [hcoe, ← h.records_eq, Multiset.filter_map]
  rfl

/-- A sweep does the same to the engine as to the map. -/
theorem sweep (h : engine.Simulates lineup phase map) (hsound : map.IsSound) {manager : Manager}
    (hlimit : manager.exporter.limit = none) (reason : ReleaseReason)
    (hpackets : map.counters.packets < Word.count) :
    ∃ engine' lineup' phase' result, (manager.sweep reason).run engine = .ok result engine'
      ∧ engine'.Simulates lineup' phase' (map.sweep manager reason) := by
  obtain ⟨engine', lineup', result, hrest, hclock, htotals, hexported, hrun⟩ :=
    h.rest.sweep_unlimited hlimit reason
  have hleaving := h.restrict_entries (manager.releases reason map.clock)
  rw [released, recordsOf_swept, h.clock_eq] at htotals hexported
  generalize hrecords : (recordsOf phase (members lineup FlowState.all)).filter
    (manager.releases reason map.clock) = records at hleaving htotals hexported
  have hcard : (FlowMap.restrict map.flows (manager.releases reason map.clock)).keys.card
      = records.length := by
    rw [FlowMap.card_keys, ← Multiset.coe_card, ← hleaving, Multiset.card_map]
  refine ⟨engine', lineup', _, result, hrun, hrest, ?_, ?_, ?_, ?_, ?_⟩
  · exact (h.rest.agrees.capacity_congr hrest.agrees h.rest.swept_inside).trans h.capacity_eq
  · intro key record
    rw [FlowMap.sweep, FlowMap.lookup_restrict, h.lookup_iff, and_assoc]
    apply and_congr_right
    intro
    rw [← exists_and_right]
    apply exists_congr
    intro flow
    unfold Phase.spared
    constructor
    · rintro ⟨hphase, hkept⟩
      rw [if_neg, hphase]
      rw [h.mem_swept_iff manager reason _ hphase, h.clock_eq]
      simpa using hkept
    · intro hphase
      split at hphase
      · cases hphase
      · rename_i hnot
        rw [h.mem_swept_iff manager reason _ hphase, h.clock_eq] at hnot
        exact ⟨hphase, by simpa using hnot⟩
  · rw [hclock, h.clock_eq]
    rfl
  · have hcreated := hsound.flowsCreated_le
    have hsum := hsound.flowsCreated_eq
    have hadd := FlowMap.card_restrict_add map.flows (manager.releases reason map.clock)
    rw [htotals, FlowMap.sweep, hcard, ← h.counters_eq]
    rw [hcard] at hadd
    rw [← h.counters_eq] at hcreated hsum hpackets
    simp only [Totals.counters] at hcreated hsum hpackets
    exact Totals.counters_countReleased reason records engine.totals (by omega) (by omega)
  · rw [hexported, Array.toList_append, List.toList_toArray, ← Multiset.coe_add, h.exported_eq]
    show map.exported + _ = map.exported + _
    rw [← Multiset.map_coe, ← hleaving, Multiset.map_map]
    rfl

theorem flush (h : engine.Simulates lineup phase map) (hsound : map.IsSound) {manager : Manager}
    (hlimit : manager.exporter.limit = none) (hpackets : map.counters.packets < Word.count) :
    ∃ engine' lineup' phase', manager.flush.run engine = .ok () engine'
      ∧ engine'.Simulates lineup' phase' (map.sweep manager .shutdown) := by
  obtain ⟨engine', lineup', phase', result, hrun, h'⟩ := h.sweep hsound hlimit .shutdown hpackets
  obtain ⟨log, hflush⟩ := run_flush hrun
  exact ⟨{ engine' with log }, lineup', phase', hflush, h'.rest.congr rfl rfl, h'.capacity_eq,
    h'.lookup_iff, h'.clock_eq, h'.counters_eq, h'.exported_eq⟩

end Simulates

end Engine

/-! ### Runs -/

namespace EngineCall

/-- A packet whose time fits, or a sweep or flush whose exporter takes every flow. -/
def IsReady : EngineCall → Prop
  | process _ packet => packet.time.Fits
  | sweep manager _ _ | flush manager _ => manager.exporter.limit = none

instance (call : EngineCall) : Decidable call.IsReady :=
  match call with
  | process _ packet => inferInstanceAs (Decidable packet.time.Fits)
  | sweep manager _ _ | flush manager _ => inferInstanceAs (Decidable (manager.exporter.limit = none))

def runAll : List EngineCall → EngineM Unit
  | [] => pure ()
  | call :: calls => do
    call.program
    runAll calls

end EngineCall

theorem Packet.octets_append (packets packets' : List Packet) :
    Packet.octets (packets ++ packets') = Packet.octets packets + Packet.octets packets' := by
  rw [octets, List.map_append, List.sum_append]
  rfl

namespace Engine

open EStateM

/-- What can be read of the engine from outside is what the map has. -/
structure Shows (engine : Engine) (map : FlowMap) : Prop where
  exported_eq : (engine.exported.toList : Multiset ReleasedFlow) = map.exported
  counters_eq : engine.totals.counters = map.counters
  mean_eq : engine.totals.meanPacketLength.toNat = map.counters.meanPacketLength
  clock_eq : engine.clock.now.micros = map.clock
  record_eq : ∀ key, (engine.table.lookup key).bind engine.table.recordAt = map.flows.lookup key

namespace Simulates

variable {engine : Engine} {lineup : Lineup 1 4} {phase : FlowId → Phase} {map : FlowMap}

theorem shows (h : engine.Simulates lineup phase map) : engine.Shows map := by
  refine ⟨h.exported_eq, h.counters_eq, ?_, ?_, ?_⟩
  · rw [Totals.counters_mean, h.counters_eq]
  · rw [PacketClock.now, Timestamp.micros_ofMicros, h.clock_eq]
  · intro key
    apply Option.ext
    intro record
    rw [Option.bind_eq_some_iff, h.lookup_iff]
    constructor
    · rintro ⟨flow, hlookup, hrecord⟩
      obtain ⟨record', hphase, hkey⟩ := h.rest.tracked_of_lookup hlookup
      rw [h.rest.agrees.record_eq, hphase] at hrecord
      obtain rfl := Option.some.inj hrecord
      exact ⟨hkey, flow, hphase⟩
    · rintro ⟨rfl, flow, hphase⟩
      refine ⟨flow, ?_, ?_⟩
      · rw [h.rest.agrees.lookup_iff, hphase]
        rfl
      · rw [h.rest.agrees.record_eq, hphase]
        rfl

/-- A call does the same to the engine as to the map. -/
theorem perform (h : engine.Simulates lineup phase map) (hsound : map.IsSound) {call : EngineCall}
    (hready : call.IsReady)
    (hpackets : map.counters.packets + (EngineCall.packets [call]).length < Word.count)
    (hbytes : map.counters.bytes + Packet.octets (EngineCall.packets [call]) < Word.count) :
    ∃ engine' lineup' phase', call.program.run engine = .ok () engine'
      ∧ engine'.Simulates lineup' phase' (map.perform call) := by
  cases call with
  | process worker packet => exact h.process hsound worker packet hready hpackets hbytes
  | sweep manager reason busy =>
    obtain ⟨engine', lineup', phase', result, hrun, h'⟩ := h.sweep hsound hready reason hpackets
    refine ⟨engine', lineup', phase', ?_, h'⟩
    simp only [EngineCall.program, run_bind, hrun, run_pure]
  | flush manager busy => exact h.flush hsound hready hpackets

theorem runAll (h : engine.Simulates lineup phase map) (hsound : map.IsSound)
    {calls : List EngineCall} (hready : ∀ call ∈ calls, call.IsReady)
    (hpackets : map.counters.packets + (EngineCall.packets calls).length < Word.count)
    (hbytes : map.counters.bytes + Packet.octets (EngineCall.packets calls) < Word.count) :
    ∃ engine' lineup' phase', (EngineCall.runAll calls).run engine = .ok () engine'
      ∧ engine'.Simulates lineup' phase' (map.performAll calls) := by
  induction calls generalizing engine lineup phase map with
  | nil => exact ⟨engine, lineup, phase, rfl, h⟩
  | cons call calls ih =>
    obtain ⟨hcountedPackets, hcountedBytes⟩ := map.counted_perform call
    rw [EngineCall.packets_cons, List.length_append] at hpackets
    rw [EngineCall.packets_cons, Packet.octets_append] at hbytes
    obtain ⟨engine', lineup', phase', hrun, h'⟩ := h.perform hsound
      (hready call List.mem_cons_self) (by omega) (by omega)
    obtain ⟨engine'', lineup'', phase'', hrun', h''⟩ := ih h' (hsound.perform call)
      (fun call' hmem => hready call' (List.mem_cons_of_mem _ hmem)) (by omega) (by omega)
    refine ⟨engine'', lineup'', phase'', ?_, h''⟩
    simp only [EngineCall.runAll, run_bind, hrun, hrun']

end Simulates

theorem fresh_simulates {capacity : Nat} (h : capacity < QueueStore.handleLimit) :
    ∃ engine lineup, fresh capacity = .ok engine
      ∧ engine.Simulates lineup (freshPhase capacity) (.fresh capacity) := by
  obtain ⟨engine, lineup, hfresh, hrest, hcapacity, hclock, htotals, hexported⟩ := fresh_atRest h
  refine ⟨engine, lineup, hfresh, hrest, hcapacity, ?_, ?_, ?_, ?_⟩
  · intro key record
    rw [FlowMap.fresh, Finmap.lookup_empty]
    constructor
    · intro hlookup
      cases hlookup
    · rintro ⟨-, flow, hphase⟩
      exact (freshPhase_ne_tracked _ _ _ hphase).elim
  · rw [hclock]
    rfl
  · rw [htotals]
    rfl
  · rw [hexported]
    rfl

/-- An engine that processes packets, sweeps and flushes does, call by call, what the bounded map
does: no call stops, and exports, report, clock and records are those of the map. -/
theorem runAll_shows_map {capacity : Nat} (h : capacity < QueueStore.handleLimit)
    (calls : List EngineCall) (hready : ∀ call ∈ calls, call.IsReady)
    (hpackets : (EngineCall.packets calls).length < Word.count)
    (hbytes : Packet.octets (EngineCall.packets calls) < Word.count) :
    ∃ engine, fresh capacity = .ok engine ∧ ∀ earlier, earlier <+: calls →
      ∃ reached, (EngineCall.runAll earlier).run engine = .ok () reached
        ∧ reached.Shows ((FlowMap.fresh capacity).performAll earlier) := by
  obtain ⟨engine, lineup, hfresh, hsimulates⟩ := fresh_simulates h
  refine ⟨engine, hfresh, ?_⟩
  rintro earlier ⟨later, rfl⟩
  have hsplit : EngineCall.packets (earlier ++ later)
      = EngineCall.packets earlier ++ EngineCall.packets later := List.filterMap_append
  rw [hsplit, List.length_append] at hpackets
  rw [hsplit, Packet.octets_append] at hbytes
  have hzero : (FlowMap.fresh capacity).counters.packets = 0
      ∧ (FlowMap.fresh capacity).counters.bytes = 0 := ⟨rfl, rfl⟩
  obtain ⟨reached, lineup', phase', hrun, hreached⟩ := hsimulates.runAll
    (FlowMap.isSound_fresh capacity) (fun call hmem => hready call (List.mem_append_left _ hmem))
    (by omega) (by omega)
  exact ⟨reached, hrun, hreached.shows⟩

/-- A flow of two packets, a packet that cannot be read, and a flush. -/
theorem runAll_shows_map_of_one :
    ∃ engine, fresh 1 = .ok engine ∧ ∃ reached, (EngineCall.runAll [
        .process ⟨0⟩ (.bareAt 1), .sweep ⟨⟨⟨9, 0⟩, ⟨9, 0⟩, ⟨9, 0⟩⟩, .reliable⟩ .timeout fun _ => false,
        .process ⟨0⟩ (.bareAt 5), .process ⟨0⟩ ⟨⟨4, 0⟩, [0]⟩,
        .flush ⟨⟨⟨9, 0⟩, ⟨9, 0⟩, ⟨9, 0⟩⟩, .reliable⟩ fun _ => false]).run engine = .ok () reached
      ∧ reached.totals.counters = ⟨3, 69, 34, 1, 0, 1, 0, 1⟩
      ∧ reached.clock.now.micros = 5000000 := by
  obtain ⟨engine, hfresh, hrun⟩ := runAll_shows_map (by decide : 1 < _) [
    .process ⟨0⟩ (.bareAt 1), .sweep ⟨⟨⟨9, 0⟩, ⟨9, 0⟩, ⟨9, 0⟩⟩, .reliable⟩ .timeout fun _ => false,
    .process ⟨0⟩ (.bareAt 5), .process ⟨0⟩ ⟨⟨4, 0⟩, [0]⟩,
    .flush ⟨⟨⟨9, 0⟩, ⟨9, 0⟩, ⟨9, 0⟩⟩, .reliable⟩ fun _ => false]
    (by decide) (by decide) (by decide)
  obtain ⟨reached, hreached, hshows⟩ := hrun _ List.prefix_rfl
  refine ⟨engine, hfresh, reached, hreached, ?_, ?_⟩
  · rw [hshows.counters_eq]
    decide +kernel
  · rw [hshows.clock_eq]
    decide +kernel

end Engine

end FlowTracker
