import FlowTracker.Proofs.Engine.Consistency
import Mathlib.Algebra.Ring.Nat
import Mathlib.Data.Finmap

/-!
# A bounded map of conversations

What an engine does, without slots, queues and bindings: a `FlowMap` is a finite map from conversations
to records of at most `capacity` entries, the newest packet time in microseconds, counters without an
upper bound and the flows that were exported.  `FlowMap.IsSound` says how the counters bound one another
and what the records carry; every call keeps it.
-/

namespace FlowTracker

/-! ### Counters -/

structure Counters where
  packets : Nat
  bytes : Nat
  maxPacketLength : Nat
  undecodable : Nat
  tableFullDrops : Nat
  flowsCreated : Nat
  flowsTimedOut : Nat
  flowsFlushed : Nat
  deriving DecidableEq

namespace Counters

def zero : Counters := ⟨0, 0, 0, 0, 0, 0, 0, 0⟩

def countPacket (counters : Counters) (size : Nat) : Counters :=
  { counters with
    packets := counters.packets + 1
    bytes := counters.bytes + size
    maxPacketLength := max counters.maxPacketLength size }

def countReleased (counters : Counters) (released : Nat) : ReleaseReason → Counters
  | .timeout => { counters with flowsTimedOut := counters.flowsTimedOut + released }
  | .shutdown => { counters with flowsFlushed := counters.flowsFlushed + released }

def meanPacketLength (counters : Counters) : Nat := counters.bytes / counters.packets

end Counters

/-! ### The map -/

/-- A map from conversations to records with what its calls have counted and exported. -/
structure FlowMap where
  capacity : Nat
  flows : Finmap fun _ : FlowKey => FlowRecord
  /-- The newest packet time in microseconds. -/
  clock : Nat
  counters : Counters
  exported : Multiset ReleasedFlow

namespace FlowMap

def fresh (capacity : Nat) : FlowMap := ⟨capacity, ∅, 0, .zero, 0⟩

/-- Updates the record of the arrival's conversation, or starts one if there is room. -/
def track (map : FlowMap) (arrival : Arrival) : FlowMap :=
  match map.flows.lookup arrival.key with
  | some record =>
    { map with
      flows := map.flows.insert arrival.key
        (record.counted arrival.headers arrival.time arrival.size) }
  | none =>
    if map.flows.keys.card < map.capacity then
      { map with
        flows := map.flows.insert arrival.key
          (.first arrival.headers arrival.time arrival.size)
        counters := { map.counters with flowsCreated := map.counters.flowsCreated + 1 } }
    else
      { map with
        counters := { map.counters with tableFullDrops := map.counters.tableFullDrops + 1 } }

def count (map : FlowMap) (packet : Packet) : FlowMap :=
  { map with
    clock := max map.clock packet.time.micros
    counters := map.counters.countPacket packet.frame.length }

def process (map : FlowMap) (packet : Packet) : FlowMap :=
  match Frame.headers packet.frame with
  | .ok headers => (map.count packet).track ⟨headers, packet.time, packet.size⟩
  | .error _ =>
    { map.count packet with
      counters := { (map.count packet).counters with
        undecodable := (map.count packet).counters.undecodable + 1 } }

def restrict (flows : Finmap fun _ : FlowKey => FlowRecord) (p : FlowRecord → Bool) :
    Finmap fun _ : FlowKey => FlowRecord where
  entries := flows.entries.filter fun entry => p entry.2
  nodupKeys := Multiset.nodup_keys.1
    (Multiset.nodup_of_le (Multiset.map_le_map (Multiset.filter_le ..)) flows.nodupKeys.nodup_keys)

/-- Exports and removes the idle records, or all of them on a shutdown. -/
def sweep (map : FlowMap) (manager : Manager) (reason : ReleaseReason) : FlowMap :=
  let leaving := restrict map.flows (manager.releases reason map.clock)
  { map with
    flows := restrict map.flows fun record => !manager.releases reason map.clock record
    counters := map.counters.countReleased leaving.keys.card reason
    exported := map.exported + leaving.entries.map fun entry => ⟨reason, entry.2⟩ }

/-- What a call does to the map, while nobody holds a payload lock. -/
def perform (map : FlowMap) : EngineCall → FlowMap
  | .process _ packet => map.process packet
  | .sweep manager reason _ => map.sweep manager reason
  | .flush manager _ => map.sweep manager .shutdown

def performAll (map : FlowMap) (calls : List EngineCall) : FlowMap := calls.foldl perform map

end FlowMap

def EngineCall.packets (calls : List EngineCall) : List Packet :=
  calls.filterMap fun
    | .process _ packet => some packet
    | _ => none

theorem EngineCall.packets_cons (call : EngineCall) (calls : List EngineCall) :
    packets (call :: calls) = packets [call] ++ packets calls := by
  rw [← List.singleton_append, packets, List.filterMap_append]
  rfl

def Packet.octets (packets : List Packet) : Nat :=
  (packets.map fun packet => packet.frame.length).sum

theorem Packet.size_le (packet : Packet) : packet.size.toNat ≤ packet.frame.length :=
  Nat.mod_le ..

namespace FlowMap

/-! ### Arrivals -/

section Track

variable {map : FlowMap} {arrival : Arrival} {record : FlowRecord}

theorem track_known (hlookup : map.flows.lookup arrival.key = some record) :
    map.track arrival = { map with
      flows := map.flows.insert arrival.key
        (record.counted arrival.headers arrival.time arrival.size) } := by
  unfold track
  rw [hlookup]

theorem track_new (hlookup : map.flows.lookup arrival.key = none)
    (hroom : map.flows.keys.card < map.capacity) :
    map.track arrival = { map with
      flows := map.flows.insert arrival.key
        (.first arrival.headers arrival.time arrival.size)
      counters := { map.counters with flowsCreated := map.counters.flowsCreated + 1 } } := by
  unfold track
  rw [hlookup]
  exact if_pos hroom

theorem track_drop (hlookup : map.flows.lookup arrival.key = none)
    (hfull : ¬ map.flows.keys.card < map.capacity) :
    map.track arrival = { map with
      counters := { map.counters with
        tableFullDrops := map.counters.tableFullDrops + 1 } } := by
  unfold track
  rw [hlookup]
  exact if_neg hfull

theorem process_decodable {packet : Packet} {headers : Headers}
    (hheaders : Frame.headers packet.frame = .ok headers) :
    map.process packet = (map.count packet).track ⟨headers, packet.time, packet.size⟩ := by
  unfold process
  rw [hheaders]

theorem process_undecodable {packet : Packet} {error : FrameError}
    (hheaders : Frame.headers packet.frame = .error error) :
    map.process packet = { map.count packet with
      counters := { (map.count packet).counters with
        undecodable := (map.count packet).counters.undecodable + 1 } } := by
  unfold process
  rw [hheaders]

/-- An arrival is counted nowhere but as a flow or as a drop. -/
theorem counted_track (map : FlowMap) (arrival : Arrival) :
    (map.track arrival).counters.packets = map.counters.packets
      ∧ (map.track arrival).counters.bytes = map.counters.bytes := by
  unfold track
  split
  · exact ⟨rfl, rfl⟩
  · split <;> exact ⟨rfl, rfl⟩

theorem counted_perform (map : FlowMap) (call : EngineCall) :
    (map.perform call).counters.packets
        = map.counters.packets + (EngineCall.packets [call]).length
      ∧ (map.perform call).counters.bytes
        = map.counters.bytes + Packet.octets (EngineCall.packets [call]) := by
  cases call with
  | process worker packet =>
    show (map.process packet).counters.packets = map.counters.packets + 1
      ∧ (map.process packet).counters.bytes = map.counters.bytes + packet.frame.length
    unfold process
    split
    · exact counted_track ..
    · exact ⟨rfl, rfl⟩
  | sweep manager reason busy => cases reason <;> exact ⟨rfl, rfl⟩
  | flush manager busy => exact ⟨rfl, rfl⟩

end Track

/-! ### Restrictions -/

section Restrict

variable {flows : Finmap fun _ : FlowKey => FlowRecord} {p : FlowRecord → Bool} {key : FlowKey}
  {record : FlowRecord}

theorem lookup_restrict :
    (restrict flows p).lookup key = some record
      ↔ flows.lookup key = some record ∧ p record = true := by
  rw [Finmap.lookup_eq_some_iff, Finmap.lookup_eq_some_iff]
  exact Multiset.mem_filter

theorem card_keys (flows : Finmap fun _ : FlowKey => FlowRecord) :
    flows.keys.card = flows.entries.card := Multiset.card_map ..

theorem card_restrict_add (flows : Finmap fun _ : FlowKey => FlowRecord) (p : FlowRecord → Bool) :
    (restrict flows p).keys.card + (restrict flows fun record => !p record).keys.card
      = flows.keys.card := by
  rw [card_keys, card_keys, card_keys, ← Multiset.card_add]
  apply congrArg
  show flows.entries.filter (fun entry => p entry.2 = true)
    + flows.entries.filter (fun entry => (!p entry.2) = true) = _
  simpa using Multiset.filter_add_not (fun entry => p entry.2 = true) flows.entries

end Restrict

/-! ### Insertions -/

section Insert

variable {flows : Finmap fun _ : FlowKey => FlowRecord} {key key' : FlowKey}
  {record record' : FlowRecord}

theorem lookup_insert_eq_some_iff :
    (flows.insert key record).lookup key' = some record'
      ↔ if key' = key then record = record' else flows.lookup key' = some record' := by
  split
  · subst key'
    rw [Finmap.lookup_insert, Option.some_inj]
  · rename_i hne
    rw [Finmap.lookup_insert_of_ne _ hne]

theorem keys_insert (flows : Finmap fun _ : FlowKey => FlowRecord) (key : FlowKey)
    (record : FlowRecord) : (flows.insert key record).keys = insert key flows.keys := by
  ext key'
  rw [Finmap.mem_keys, Finmap.mem_insert, Finset.mem_insert, Finmap.mem_keys]

theorem mem_keys_of_lookup (h : flows.lookup key = some record) : key ∈ flows.keys :=
  Finmap.mem_keys.2 (Finmap.mem_of_lookup_eq_some h)

theorem not_mem_keys_of_lookup (h : flows.lookup key = none) : key ∉ flows.keys := by
  rwa [Finmap.mem_keys, ← Finmap.lookup_eq_none]

end Insert

end FlowMap

/-! ### Soundness -/

namespace FlowMap

/-- The records belong to their conversations and carry no more than was counted, and no counter is
above the one that bounds it. -/
structure IsSound (map : FlowMap) : Prop where
  key_eq : ∀ key record, map.flows.lookup key = some record → record.key = key
  carried : ∀ key record, map.flows.lookup key = some record →
    record.AtMost map.counters.packets map.counters.bytes
  maxPacketLength_le : map.counters.maxPacketLength ≤ map.counters.bytes
  undecodable_le : map.counters.undecodable ≤ map.counters.packets
  tableFullDrops_le : map.counters.tableFullDrops ≤ map.counters.packets
  flowsCreated_le : map.counters.flowsCreated ≤ map.counters.packets
  flowsCreated_eq : map.counters.flowsCreated
    = map.counters.flowsTimedOut + map.counters.flowsFlushed + map.flows.keys.card

theorem isSound_fresh (capacity : Nat) : (fresh capacity).IsSound := by
  refine ⟨?_, ?_, Nat.le_refl 0, Nat.le_refl 0, Nat.le_refl 0, Nat.le_refl 0, rfl⟩
  · intro key record hlookup
    rw [fresh, Finmap.lookup_empty] at hlookup
    cases hlookup
  · intro key record hlookup
    rw [fresh, Finmap.lookup_empty] at hlookup
    cases hlookup

namespace IsSound

variable {map : FlowMap}

/-- The records of conversations carry no more than was counted, also after one of them is updated or
started with the packet that is counted. -/
theorem carried_insert (h : map.IsSound) (packet : Packet) (headers : Headers)
    {record : FlowRecord} (hrecord : record.AtMost map.counters.packets map.counters.bytes)
    {key key' : FlowKey} {record' : FlowRecord}
    (hlookup : (map.flows.insert key (record.counted headers packet.time packet.size)).lookup key'
      = some record') :
    record'.AtMost (map.counters.packets + 1) (map.counters.bytes + packet.frame.length) := by
  rw [lookup_insert_eq_some_iff] at hlookup
  split at hlookup
  · rw [← hlookup]
    exact (hrecord.counted headers packet.time packet.size).mono (Nat.le_refl _)
      (Nat.add_le_add_left packet.size_le _)
  · exact (h.carried key' record' hlookup).mono (Nat.le_add_right ..) (Nat.le_add_right ..)

theorem key_insert (h : map.IsSound) {key key' : FlowKey} {record record' : FlowRecord}
    (hkey : record.key = key)
    (hlookup : (map.flows.insert key record).lookup key' = some record') :
    record'.key = key' := by
  rw [lookup_insert_eq_some_iff] at hlookup
  split at hlookup
  · rename_i heq
    rw [← hlookup, heq, hkey]
  · exact h.key_eq key' record' hlookup

theorem maxPacketLength_count (h : map.IsSound) (packet : Packet) :
    (map.count packet).counters.maxPacketLength ≤ (map.count packet).counters.bytes := by
  have hmax := h.maxPacketLength_le
  show max map.counters.maxPacketLength packet.frame.length
    ≤ map.counters.bytes + packet.frame.length
  omega

theorem process (h : map.IsSound) (packet : Packet) : (map.process packet).IsSound := by
  have hmax := h.maxPacketLength_count packet
  have hundecodable := h.undecodable_le
  have hdrops := h.tableFullDrops_le
  have hcreated := h.flowsCreated_le
  have hcarried : ∀ key record, map.flows.lookup key = some record →
      record.AtMost (map.counters.packets + 1) (map.counters.bytes + packet.frame.length) :=
    fun key record hlookup => (h.carried key record hlookup).mono (Nat.le_add_right ..)
      (Nat.le_add_right ..)
  cases hheaders : Frame.headers packet.frame with
  | error error =>
    rw [process_undecodable hheaders]
    exact ⟨h.key_eq, hcarried, hmax, Nat.succ_le_succ hundecodable, Nat.le_succ_of_le hdrops,
      Nat.le_succ_of_le hcreated, h.flowsCreated_eq⟩
  | ok headers =>
    rw [process_decodable hheaders]
    have hsame : (map.count packet).flows.lookup
        (Arrival.key ⟨headers, packet.time, packet.size⟩) = map.flows.lookup headers.tuple.key := rfl
    have hcard := fun record => congrArg Finset.card
      (keys_insert map.flows headers.tuple.key record)
    cases hlookup : map.flows.lookup headers.tuple.key with
    | some record =>
      rw [track_known (hsame.trans hlookup)]
      rw [Finset.insert_eq_of_mem (mem_keys_of_lookup hlookup)] at hcard
      refine ⟨fun key' record' => h.key_insert ?_, fun key' record' => h.carried_insert packet
        headers (h.carried _ record hlookup), hmax, Nat.le_succ_of_le hundecodable,
        Nat.le_succ_of_le hdrops, Nat.le_succ_of_le hcreated, ?_⟩
      · exact (record.key_counted ..).trans (h.key_eq _ record hlookup)
      · exact h.flowsCreated_eq.trans (congrArg _ (hcard _).symm)
    | none =>
      rw [Finset.card_insert_of_notMem (not_mem_keys_of_lookup hlookup)] at hcard
      by_cases hroom : map.flows.keys.card < map.capacity
      · rw [track_new (hsame.trans hlookup) hroom]
        have hblank := (FlowRecord.AtMost.blank headers packet.time).mono
          (Nat.zero_le map.counters.packets) (Nat.zero_le map.counters.bytes)
        refine ⟨fun key' record' => h.key_insert (FlowRecord.key_first ..), fun key' record' =>
          h.carried_insert packet headers hblank, hmax, Nat.le_succ_of_le hundecodable,
          Nat.le_succ_of_le hdrops, Nat.succ_le_succ hcreated, ?_⟩
        exact (congrArg Nat.succ h.flowsCreated_eq).trans (congrArg
          (map.counters.flowsTimedOut + map.counters.flowsFlushed + ·) (hcard _).symm)
      · rw [track_drop (hsame.trans hlookup) hroom]
        exact ⟨h.key_eq, hcarried, hmax, Nat.le_succ_of_le hundecodable,
          Nat.succ_le_succ hdrops, Nat.le_succ_of_le hcreated, h.flowsCreated_eq⟩

theorem sweep (h : map.IsSound) (manager : Manager) (reason : ReleaseReason) :
    (map.sweep manager reason).IsSound := by
  have hcard := card_restrict_add map.flows (manager.releases reason map.clock)
  have hcreated := h.flowsCreated_eq
  have hkey : ∀ key record, (map.sweep manager reason).flows.lookup key = some record →
      map.flows.lookup key = some record :=
    fun key record hlookup => (lookup_restrict.1 hlookup).1
  cases reason with
  | timeout =>
    refine ⟨fun key record hlookup => h.key_eq _ _ (hkey _ _ hlookup), fun key record hlookup =>
      h.carried _ _ (hkey _ _ hlookup), h.maxPacketLength_le, h.undecodable_le,
      h.tableFullDrops_le, h.flowsCreated_le, ?_⟩
    simp only [FlowMap.sweep, Counters.countReleased]
    omega
  | shutdown =>
    refine ⟨fun key record hlookup => h.key_eq _ _ (hkey _ _ hlookup), fun key record hlookup =>
      h.carried _ _ (hkey _ _ hlookup), h.maxPacketLength_le, h.undecodable_le,
      h.tableFullDrops_le, h.flowsCreated_le, ?_⟩
    simp only [FlowMap.sweep, Counters.countReleased]
    omega

theorem perform (h : map.IsSound) (call : EngineCall) : (map.perform call).IsSound := by
  cases call with
  | process worker packet => exact h.process packet
  | sweep manager reason busy => exact h.sweep manager reason
  | flush manager busy => exact h.sweep manager .shutdown

theorem performAll (h : map.IsSound) (calls : List EngineCall) : (map.performAll calls).IsSound := by
  induction calls generalizing map with
  | nil => exact h
  | cons call calls ih => exact ih (h.perform call)

end IsSound

end FlowMap

end FlowTracker
