import FlowTracker.Proofs.Map.Machine
import FlowTracker.Proofs.Records.Summary

/-!
# A map with room for every conversation

While a map has room for every conversation, it drops nothing, and what it has is read off the packets
that it has processed (`FlowMap.Collects`): the counters and the clock are sums and maxima, and the record
of a conversation is the one that the arrivals of this conversation make.
-/

namespace FlowTracker

/-! ### Packets and their conversations -/

namespace Packet

def arrivals (packets : List Packet) : List Arrival := packets.filterMap arrival?

def arrivalsOf (key : FlowKey) (packets : List Packet) : List Arrival :=
  (arrivals packets).filter fun arrival => arrival.key = key

def keys (packets : List Packet) : Finset FlowKey := ((arrivals packets).map Arrival.key).toFinset

variable {packets packets' : List Packet} {packet : Packet} {key : FlowKey} {arrival : Arrival}

theorem arrivals_concat (packets : List Packet) (packet : Packet) :
    arrivals (packets ++ [packet]) = arrivals packets ++ packet.arrival?.toList := by
  rw [arrivals, List.filterMap_append]
  cases h : packet.arrival? with
  | none => rw [List.filterMap_cons_none h]; rfl
  | some arrival => rw [List.filterMap_cons_some h]; rfl

theorem mem_keys : key ∈ keys packets ↔ ∃ arrival ∈ arrivals packets, arrival.key = key := by
  rw [keys, List.mem_toFinset, List.mem_map]

theorem arrivalsOf_concat (key : FlowKey) (packets : List Packet) (packet : Packet) :
    arrivalsOf key (packets ++ [packet])
      = arrivalsOf key packets ++ packet.arrival?.toList.filter fun arrival => arrival.key = key := by
  rw [arrivalsOf, arrivals_concat, List.filter_append]
  rfl

theorem arrivalsOf_concat_self (packets : List Packet) (h : packet.arrival? = some arrival) :
    arrivalsOf arrival.key (packets ++ [packet]) = arrivalsOf arrival.key packets ++ [arrival] := by
  rw [arrivalsOf_concat, h]
  simp

theorem arrivalsOf_concat_of_ne (packets : List Packet) (h : packet.arrival? = some arrival)
    (hne : arrival.key ≠ key) : arrivalsOf key (packets ++ [packet]) = arrivalsOf key packets := by
  rw [arrivalsOf_concat, h]
  simp [hne]

theorem keys_concat (packets : List Packet) (packet : Packet) :
    keys (packets ++ [packet]) = keys packets ∪ (packet.arrival?.map Arrival.key).toFinset := by
  rw [keys, arrivals_concat, List.map_append, List.toFinset_append]
  cases packet.arrival? <;> rfl

theorem keys_subset_append (packets packets' : List Packet) :
    keys packets ⊆ keys (packets ++ packets') := by
  intro key hmem
  obtain ⟨arrival, harrival, hkey⟩ := mem_keys.1 hmem
  refine mem_keys.2 ⟨arrival, ?_, hkey⟩
  rw [arrivals, List.filterMap_append]
  exact List.mem_append_left _ harrival

theorem sup_concat (measure : Packet → Nat) (packets : List Packet) (packet : Packet) :
    (((packets ++ [packet] : List Packet) : Multiset Packet).map measure).sup
      = max ((packets : Multiset Packet).map measure).sup (measure packet) := by
  rw [← Multiset.coe_add, Multiset.map_add, Multiset.sup_add, Multiset.coe_singleton,
    Multiset.map_singleton, Multiset.sup_singleton]

theorem arrivalsOf_eq_nil_iff : arrivalsOf key packets = [] ↔ key ∉ keys packets := by
  rw [mem_keys, arrivalsOf, List.filter_eq_nil_iff]
  simp

theorem key_of_mem_arrivalsOf (h : arrival ∈ arrivalsOf key packets) : arrival.key = key := by
  simpa using (List.mem_filter.1 h).2

theorem keys_perm (h : packets.Perm packets') : keys packets = keys packets' :=
  List.toFinset_eq_of_perm _ _ ((h.filterMap _).map _)

theorem arrivalsOf_perm (h : packets.Perm packets') (key : FlowKey) :
    (arrivalsOf key packets).Perm (arrivalsOf key packets') :=
  (h.filterMap _).filter _

end Packet

theorem replay_concat (arrivals : List Arrival) (arrival : Arrival) :
    replay (arrivals ++ [arrival]) = some (match replay arrivals with
      | none => .first arrival.headers arrival.time arrival.size
      | some record => record.counted arrival.headers arrival.time arrival.size) := by
  cases arrivals with
  | nil => rfl
  | cons first arrivals =>
    rw [List.cons_append, replay, List.foldl_append]
    rfl

namespace Packet

variable {packets packets' : List Packet} {key : FlowKey} {record record' : FlowRecord}

theorem key_of_replay (h : replay (arrivalsOf key packets) = some record) : record.key = key := by
  cases hof : arrivalsOf key packets with
  | nil =>
    rw [hof] at h
    cases h
  | cons first rest =>
    rw [hof, FlowRecord.replay_cons] at h
    obtain rfl := Option.some.inj h
    rw [FlowRecord.summary_eq]
    exact key_of_mem_arrivalsOf (hof ▸ List.mem_cons_self)

/-- In another order the arrivals of a conversation make a record that tells the same. -/
theorem replay_alike (hperm : packets.Perm packets')
    (h : replay (arrivalsOf key packets) = some record)
    (h' : replay (arrivalsOf key packets') = some record') : record.Alike record' := by
  have hof := arrivalsOf_perm hperm key
  have hkey : ∀ arrival ∈ arrivalsOf key packets, arrival.key = key :=
    fun arrival hmem => key_of_mem_arrivalsOf hmem
  generalize arrivalsOf key packets = arrivals at h hof hkey
  generalize arrivalsOf key packets' = arrivals' at h' hof
  cases arrivals with
  | nil => cases h
  | cons first rest =>
    cases arrivals' with
    | nil => cases h'
    | cons first' rest' =>
      have hfirst' : first' ∈ first :: rest := hof.mem_iff.2 List.mem_cons_self
      rw [FlowRecord.replay_cons] at h h'
      obtain rfl := Option.some.inj h
      obtain rfl := Option.some.inj h'
      rw [← FlowRecord.summary_perm hof hfirst']
      exact FlowRecord.summary_alike hkey List.mem_cons_self hfirst'

/-- If the first arrival stays the first, they make the same record. -/
theorem replay_eq (hperm : packets.Perm packets')
    (hfirst : (arrivalsOf key packets).head? = (arrivalsOf key packets').head?) :
    replay (arrivalsOf key packets) = replay (arrivalsOf key packets') := by
  have hof := arrivalsOf_perm hperm key
  generalize arrivalsOf key packets = arrivals at hof hfirst
  generalize arrivalsOf key packets' = arrivals' at hof hfirst
  cases arrivals with
  | nil => rw [hof.nil_eq]
  | cons first rest =>
    cases arrivals' with
    | nil => cases hfirst
    | cons first' rest' =>
      obtain rfl := Option.some.inj hfirst
      rw [FlowRecord.replay_cons, FlowRecord.replay_cons,
        FlowRecord.summary_perm hof List.mem_cons_self]

theorem keys_of_lookup {flows : Finmap fun _ : FlowKey => FlowRecord}
    (h : ∀ key, flows.lookup key = replay (arrivalsOf key packets)) : flows.keys = keys packets := by
  ext key
  rw [Finmap.mem_keys, ← Finmap.lookup_isSome, h, ← not_iff_not, ← arrivalsOf_eq_nil_iff]
  cases arrivalsOf key packets with
  | nil => simp [replay]
  | cons first rest => simp [replay]

end Packet

/-! ### What packets are counted as -/

/-- The counters of packets that are all accounted or cannot be read. -/
def Counters.ofPackets (packets : List Packet) : Counters where
  packets := packets.length
  bytes := Packet.octets packets
  maxPacketLength := ((packets : Multiset Packet).map fun packet => packet.frame.length).sup
  undecodable := packets.countP fun packet => packet.arrival?.isNone
  tableFullDrops := 0
  flowsCreated := (Packet.keys packets).card
  flowsTimedOut := 0
  flowsFlushed := 0

theorem Counters.ofPackets_concat (packets : List Packet) (packet : Packet) :
    ofPackets (packets ++ [packet]) = {
      (ofPackets packets).countPacket packet.frame.length with
      undecodable := (ofPackets packets).undecodable + if packet.arrival?.isNone then 1 else 0
      flowsCreated := (Packet.keys (packets ++ [packet])).card } := by
  have hlength : (packets ++ [packet]).length = packets.length + 1 := List.length_append
  have hoctets : Packet.octets (packets ++ [packet]) = Packet.octets packets + packet.frame.length := by
    unfold Packet.octets
    rw [List.map_append, List.sum_append]
    rfl
  unfold ofPackets
  rw [hlength, hoctets, Packet.sup_concat, List.countP_append, List.countP_singleton]
  rfl

theorem Counters.ofPackets_perm {packets packets' : List Packet} (h : packets.Perm packets') :
    ofPackets packets = ofPackets packets' := by
  unfold ofPackets Packet.octets
  rw [h.length_eq, (h.map _).sum_eq, Multiset.coe_eq_coe.2 h, h.countP_eq, Packet.keys_perm h]

namespace FlowMap

variable {map : FlowMap} {packet : Packet} {arrival : Arrival}

theorem process_of_none (h : packet.arrival? = none) :
    map.process packet = { map.count packet with
      counters := { (map.count packet).counters with
        undecodable := (map.count packet).counters.undecodable + 1 } } := by
  unfold Packet.arrival? at h
  split at h
  · cases h
  · exact process_undecodable ‹_›

theorem process_of_some (h : packet.arrival? = some arrival) :
    map.process packet = (map.count packet).track arrival := by
  unfold Packet.arrival? at h
  split at h
  · cases h
    exact process_decodable ‹_›
  · cases h

theorem capacity_process (map : FlowMap) (packet : Packet) :
    (map.process packet).capacity = map.capacity := by
  cases harrival : packet.arrival? with
  | none => rw [process_of_none harrival]; rfl
  | some arrival =>
    rw [process_of_some harrival]
    unfold track
    split
    · rfl
    · split <;> rfl

/-- The map has what it collects from packets if none is dropped, swept or flushed. -/
structure Collects (map : FlowMap) (packets : List Packet) : Prop where
  clock_eq : map.clock = ((packets : Multiset Packet).map fun packet => packet.time.micros).sup
  counters_eq : map.counters = .ofPackets packets
  lookup_eq : ∀ key, map.flows.lookup key = replay (Packet.arrivalsOf key packets)
  exported_eq : map.exported = 0

theorem collects_fresh (capacity : Nat) : (fresh capacity).Collects [] := by
  refine ⟨rfl, rfl, ?_, rfl⟩
  intro key
  exact Finmap.lookup_empty key

namespace Collects

variable {packets : List Packet}

theorem keys_eq (h : map.Collects packets) : map.flows.keys = Packet.keys packets :=
  Packet.keys_of_lookup h.lookup_eq

theorem clock_count (h : map.Collects packets) (packet : Packet) :
    (map.count packet).clock
      = (((packets ++ [packet] : List Packet) : Multiset Packet).map
        fun packet => packet.time.micros).sup := by
  rw [Packet.sup_concat, ← h.clock_eq]
  rfl

theorem skip (h : map.Collects packets) (hnone : packet.arrival? = none) :
    (map.process packet).Collects (packets ++ [packet]) := by
  have hkeys : Packet.keys (packets ++ [packet]) = Packet.keys packets := by
    rw [Packet.keys_concat, hnone]
    exact Finset.union_empty _
  rw [process_of_none hnone]
  refine ⟨h.clock_count packet, ?_, ?_, h.exported_eq⟩
  · rw [Counters.ofPackets_concat, hnone, hkeys, ← h.counters_eq]
    simp only [count, h.counters_eq]
    rfl
  · intro key
    rw [Packet.arrivalsOf_concat, hnone]
    exact (h.lookup_eq key).trans (congrArg replay (List.append_nil _).symm)

/-- The record of a conversation, replaced by what its arrivals and one more make. -/
theorem lookup_account (h : map.Collects packets) (hsome : packet.arrival? = some arrival)
    {record : FlowRecord}
    (hrecord : replay (Packet.arrivalsOf arrival.key packets ++ [arrival]) = some record)
    (key : FlowKey) :
    (map.flows.insert arrival.key record).lookup key
      = replay (Packet.arrivalsOf key (packets ++ [packet])) := by
  by_cases hkey : key = arrival.key
  · rw [hkey, Finmap.lookup_insert, Packet.arrivalsOf_concat_self packets hsome, hrecord]
  · rw [Finmap.lookup_insert_of_ne _ hkey,
      Packet.arrivalsOf_concat_of_ne packets hsome (Ne.symm hkey), h.lookup_eq]

theorem account (h : map.Collects packets) (hsome : packet.arrival? = some arrival)
    (hroom : (Packet.keys (packets ++ [packet])).card ≤ map.capacity) :
    (map.process packet).Collects (packets ++ [packet]) := by
  have hkeys : Packet.keys (packets ++ [packet]) = insert arrival.key (Packet.keys packets) := by
    rw [Packet.keys_concat, hsome, Finset.union_comm]
    rfl
  have hold : (map.count packet).flows.lookup arrival.key
      = replay (Packet.arrivalsOf arrival.key packets) := h.lookup_eq arrival.key
  rw [process_of_some hsome]
  cases hknown : (map.count packet).flows.lookup arrival.key with
  | some record =>
    rw [track_known hknown]
    rw [hold] at hknown
    refine ⟨h.clock_count packet, ?_, h.lookup_account hsome ?_, h.exported_eq⟩
    · have hmem : arrival.key ∈ Packet.keys packets := by
        by_contra hnot
        rw [Packet.arrivalsOf_eq_nil_iff.2 hnot] at hknown
        cases hknown
      rw [Counters.ofPackets_concat, hsome, hkeys, Finset.insert_eq_of_mem hmem, ← h.counters_eq]
      simp only [count, h.counters_eq]
      rfl
    · rw [replay_concat, hknown]
  | none =>
    have hnew : arrival.key ∉ Packet.keys packets := by
      rw [← h.keys_eq]
      exact not_mem_keys_of_lookup hknown
    rw [hkeys, Finset.card_insert_of_notMem hnew, ← h.keys_eq] at hroom
    rw [track_new hknown (Nat.lt_of_succ_le hroom)]
    rw [hold] at hknown
    refine ⟨h.clock_count packet, ?_, h.lookup_account hsome ?_, h.exported_eq⟩
    · rw [Counters.ofPackets_concat, hsome, hkeys, Finset.card_insert_of_notMem hnew]
      simp only [count, h.counters_eq]
      rfl
    · rw [replay_concat, hknown]

theorem process (h : map.Collects packets) (packet : Packet)
    (hroom : (Packet.keys (packets ++ [packet])).card ≤ map.capacity) :
    (map.process packet).Collects (packets ++ [packet]) := by
  cases harrival : packet.arrival? with
  | none => exact h.skip harrival
  | some arrival => exact h.account harrival hroom

/-- Packets that have room for all their conversations, one after the other. -/
theorem processAll {done : List Packet} (h : map.Collects done) (packets : List Packet)
    (hroom : (Packet.keys (done ++ packets)).card ≤ map.capacity) :
    (packets.foldl FlowMap.process map).Collects (done ++ packets) := by
  induction packets generalizing map done with
  | nil =>
    rw [List.append_nil]
    exact h
  | cons packet packets ih =>
    have hassoc : done ++ packet :: packets = done ++ [packet] ++ packets := List.append_cons ..
    rw [hassoc] at hroom ⊢
    refine ih (h.process packet ?_) ?_
    · exact Nat.le_trans (Finset.card_le_card (Packet.keys_subset_append ..)) hroom
    · rw [capacity_process]
      exact hroom

end Collects

/-- A flush exports every record and counts it. -/
theorem sweep_shutdown (map : FlowMap) (manager : Manager) :
    (map.sweep manager .shutdown).exported
        = map.exported + map.flows.entries.map (fun entry => ⟨.shutdown, entry.2⟩)
      ∧ (map.sweep manager .shutdown).counters
        = { map.counters with flowsFlushed := map.counters.flowsFlushed + map.flows.keys.card } := by
  have hall : restrict map.flows (manager.releases .shutdown map.clock) = map.flows :=
    Finmap.ext (Multiset.filter_eq_self.2 fun _ _ => rfl)
  unfold sweep
  constructor
  · simp only [hall]
  · simp only [hall]
    rfl

end FlowMap

end FlowTracker
