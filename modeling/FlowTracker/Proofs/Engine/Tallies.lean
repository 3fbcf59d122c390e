import FlowTracker.Proofs.Map.Machine
import FlowTracker.Proofs.Records.Summary

/-!
# Which arrivals a record counts

A record counts the arrival that it was started with and every one that it was updated with since
(`FlowRecord.Counts`).  Along a run of an engine these are the arrivals of the conversation since it is
tracked (`Engine.tally`): a conversation that is released, and comes back later, begins again.  While all
times are normal, the newest time of a record is the latest of the arrivals that it counts, and the clock
of the engine is the latest time of all its packets, whether they can be read or not.
-/

namespace FlowTracker

/-! ### The latest of some times -/

namespace Timestamp

def latest (times : List Timestamp) : Nat := (times.map micros).foldl max 0

variable {time time' : Timestamp}

theorem latest_concat (times : List Timestamp) (time : Timestamp) :
    latest (times ++ [time]) = max (latest times) time.micros := by
  rw [latest, List.map_append, List.foldl_append]
  rfl

theorem latest_singleton (time : Timestamp) : latest [time] = time.micros := by
  rw [latest, List.map_singleton, List.foldl_cons, List.foldl_nil, Nat.zero_max]

/-- The order of normal times is the order of their microseconds. -/
theorem rank_lt_rank_iff (h : time.IsNormal) (h' : time'.IsNormal) :
    time.rank < time'.rank ↔ time.micros < time'.micros := by
  rw [isNormal_iff] at h h'
  unfold rank micros
  omega

theorem isNormal_later (h : time.IsNormal) (h' : time'.IsNormal) : (later time time').IsNormal := by
  unfold later
  split
  · exact h'
  · exact h

theorem micros_later (h : time.IsNormal) (h' : time'.IsNormal) :
    (later time time').micros = max time.micros time'.micros := by
  unfold later
  split
  · rename_i hafter
    rw [isAfter_iff, rank_lt_rank_iff h h'] at hafter
    exact (Nat.max_eq_right (Nat.le_of_lt hafter)).symm
  · rename_i hafter
    rw [isAfter_iff, rank_lt_rank_iff h h', Nat.not_lt] at hafter
    exact (Nat.max_eq_left hafter).symm

end Timestamp

/-! ### What a record counts -/

namespace FlowRecord

/-- The record was started with the first of the arrivals and has accounted the others since.  An arrival
that has come to a full counter is none of them. -/
inductive Counts : FlowRecord → List Arrival → Prop where
  | start {arrival : Arrival} {record : FlowRecord}
      (hstart : start arrival.headers arrival.time arrival.size = .ok record) :
      Counts record [arrival]
  | account {record after : FlowRecord} {arrivals : List Arrival} {arrival : Arrival}
      {before : FlowState} (h : Counts record arrivals)
      (hupdate : (update arrival.headers arrival.time arrival.size).run record = .ok before after) :
      Counts after (arrivals ++ [arrival])
  | stop {record after : FlowRecord} {arrivals : List Arrival} {arrival : Arrival} {fault : Fault}
      (h : Counts record arrivals)
      (hupdate : (update arrival.headers arrival.time arrival.size).run record
        = .error fault after) :
      Counts after arrivals

variable {record after : FlowRecord} {headers : Headers} {time : Timestamp} {size : UInt64}

theorem lastSeen_counted (record : FlowRecord) (headers : Headers) (time : Timestamp)
    (size : UInt64) :
    (record.counted headers time size).lastSeen = Timestamp.later record.lastSeen time := rfl

theorem lastSeen_first (headers : Headers) (time : Timestamp) (size : UInt64) :
    (first headers time size).lastSeen = Timestamp.later time time := lastSeen_counted ..

theorem eq_counted_of_update {before : FlowState}
    (h : (update headers time size).run record = .ok before after) :
    after = record.counted headers time size := by
  by_cases hroom : (record.direction headers).HasRoom size
  · rw [update_of_hasRoom time hroom] at h
    cases h
    rfl
  · obtain ⟨record', hrun, -⟩ := update_of_not_hasRoom time hroom
    rw [hrun] at h
    cases h

theorem same_of_update_error {fault : Fault}
    (h : (update headers time size).run record = .error fault after) :
    after.tuple = record.tuple ∧ after.lastSeen = record.lastSeen := by
  by_cases hroom : (record.direction headers).HasRoom size
  · rw [update_of_hasRoom time hroom] at h
    cases h
  · obtain ⟨record', hrun, -, htuple, hlast⟩ := update_of_not_hasRoom time hroom
    rw [hrun] at h
    cases h
    exact ⟨htuple, hlast⟩

/-- The newest time of a record is the latest of the arrivals that it counts. -/
theorem Counts.lastSeen_eq {arrivals : List Arrival} (h : record.Counts arrivals)
    (hnormal : ∀ arrival ∈ arrivals, arrival.time.IsNormal) :
    record.lastSeen.IsNormal
      ∧ record.lastSeen.micros = Timestamp.latest (arrivals.map Arrival.time) := by
  induction h with
  | @start arrival record hstart =>
    rw [start_eq] at hstart
    have htime := hnormal arrival List.mem_cons_self
    rw [← Except.ok.inj hstart, lastSeen_first, List.map_singleton, Timestamp.latest_singleton]
    constructor
    · exact Timestamp.isNormal_later htime htime
    · rw [Timestamp.micros_later htime htime, Nat.max_self]
  | @account record after arrivals arrival before h hupdate ih =>
    obtain ⟨hlast, hmicros⟩ := ih fun arrival hmem => hnormal arrival (List.mem_append_left _ hmem)
    have htime := hnormal arrival (List.mem_append_right _ List.mem_cons_self)
    rw [eq_counted_of_update hupdate, lastSeen_counted, List.map_append, List.map_singleton,
      Timestamp.latest_concat, ← hmicros]
    constructor
    · exact Timestamp.isNormal_later hlast htime
    · exact Timestamp.micros_later hlast htime
  | stop h hupdate ih =>
    rw [(same_of_update_error hupdate).2]
    exact ih hnormal

end FlowRecord

theorem Packet.time_of_arrival {packet : Packet} {arrival : Arrival}
    (h : packet.arrival? = some arrival) : arrival.time = packet.time := by
  unfold arrival? at h
  split at h
  · cases h
    rfl
  · cases h

/-! ### One move -/

namespace Arrival

theorem filter_key_self (arrival : Arrival) :
    (some arrival).toList.filter (fun arrival' => arrival'.key = arrival.key) = [arrival] := by
  simp

theorem filter_key_of_ne {arrival : Arrival} {key : FlowKey} (h : key ≠ arrival.key) :
    (some arrival).toList.filter (fun arrival' => arrival'.key = key) = [] := by
  simpa using h.symm

end Arrival

namespace Phase.Moves

variable {phase phase' : FlowId → Phase} {arrival? : Option Arrival}

/-- After a move each record counts what it has counted before, and the arrival of the move if that
belongs to its conversation. -/
theorem counts (hmoves : Phase.Moves phase arrival? phase') {counted : FlowKey → List Arrival}
    (hapart : ∀ flow flow' record record', phase flow = .tracked record →
      phase flow' = .tracked record' → record.key = record'.key → flow = flow')
    (hcounts : ∀ flow record, phase flow = .tracked record → record.Counts (counted record.key))
    (hnone : ∀ key, (∀ flow record, phase flow = .tracked record → record.key ≠ key) →
      counted key = []) :
    ∀ flow record, phase' flow = .tracked record → record.Counts (counted record.key
      ++ arrival?.toList.filter fun arrival => arrival.key = record.key) := by
  intro flow record hphase
  cases hmoves with
  | stay =>
    rw [Option.toList_none, List.filter_nil, List.append_nil]
    exact hcounts flow record hphase
  | leave hin =>
    unfold Phase.spared at hphase
    split at hphase
    · cases hphase
    · rw [Option.toList_none, List.filter_nil, List.append_nil]
      exact hcounts flow record hphase
  | drop hnew =>
    rw [Arrival.filter_key_of_ne (hnew flow record hphase), List.append_nil]
    exact hcounts flow record hphase
  | @start arrival flow' hnew hspare =>
    by_cases hflow : flow = flow'
    · rw [hflow, Function.update_self] at hphase
      cases hphase
      have hkey : (FlowRecord.first arrival.headers arrival.time arrival.size).key = arrival.key :=
        FlowRecord.key_first ..
      -- Nothing was counted of a conversation that is not tracked.
      rw [hkey, Arrival.filter_key_self, hnone arrival.key hnew, List.nil_append]
      exact .start (FlowRecord.start_eq ..)
    · rw [Function.update_of_ne hflow] at hphase
      rw [Arrival.filter_key_of_ne (hnew flow record hphase), List.append_nil]
      exact hcounts flow record hphase
  | @account arrival flow' record' after before hphase' hkey hupdate =>
    by_cases hflow : flow = flow'
    · rw [hflow, Function.update_self] at hphase
      cases hphase
      have hafter : record.key = record'.key := by
        rw [FlowRecord.eq_counted_of_update hupdate, FlowRecord.key_counted]
      rw [hafter, hkey, Arrival.filter_key_self, ← hkey]
      exact (hcounts flow' record' hphase').account hupdate
    · rw [Function.update_of_ne hflow] at hphase
      have hne : record.key ≠ arrival.key := by
        intro heq
        exact hflow (hapart flow flow' record record' hphase hphase' (heq.trans hkey.symm))
      rw [Arrival.filter_key_of_ne hne, List.append_nil]
      exact hcounts flow record hphase
  | @stop arrival flow' record' after fault hphase' hupdate =>
    rw [Option.toList_none, List.filter_nil, List.append_nil]
    by_cases hflow : flow = flow'
    · rw [hflow, Function.update_self] at hphase
      cases hphase
      have hafter : record.key = record'.key := by
        rw [FlowRecord.key, (FlowRecord.same_of_update_error hupdate).1]
        rfl
      rw [hafter]
      exact (hcounts flow' record' hphase').stop hupdate
    · rw [Function.update_of_ne hflow] at hphase
      exact hcounts flow record hphase

end Phase.Moves

/-! ### Runs -/

namespace Engine

/-- What is counted of a conversation after a call: nothing unless it is tracked then, otherwise what was
counted before and the arrival of the call. -/
def tallied (engine : Engine) (call : EngineCall) (key : FlowKey) (counted : List Arrival) :
    List Arrival :=
  if (engine.perform call).table.lookup key = none then []
  else counted ++ (engine.accounted call).toList.filter fun arrival => arrival.key = key

def tally (key : FlowKey) : Engine → List EngineCall → List Arrival → List Arrival
  | _, [], counted => counted
  | engine, call :: calls, counted =>
    tally key (engine.perform call) calls (engine.tallied call key counted)

/-- The clock is the latest time of the packets that were handled, and the records count arrivals of
these. -/
structure Tallies (engine : Engine) (phase : FlowId → Phase) (handled : List Packet)
    (counted : FlowKey → List Arrival) : Prop where
  clock_eq : engine.clock.toNat = Timestamp.latest (handled.map Packet.time)
  counts : ∀ flow record, phase flow = .tracked record → record.Counts (counted record.key)
  unbound : ∀ key, engine.table.lookup key = none → counted key = []
  handled_of_mem : ∀ key, ∀ arrival ∈ counted key, ∃ packet ∈ handled,
    packet.arrival? = some arrival

variable {engine : Engine} {lineup : Lineup 1 4} {phase : FlowId → Phase} {handled : List Packet}
  {counted : FlowKey → List Arrival} {call : EngineCall}

theorem handled_of_accounted {arrival : Arrival} (h : engine.accounted call = some arrival) :
    ∃ packet ∈ EngineCall.packets [call], packet.arrival? = some arrival := by
  cases call with
  | process worker packet =>
    refine ⟨packet, List.mem_cons_self, ?_⟩
    unfold accounted at h
    split at h
    · rename_i heq _
      cases heq
      exact h
    · cases h
  | sweep manager reason busy => cases h
  | flush manager busy => cases h

theorem clockFrom_eq (hfits : ∀ packet ∈ EngineCall.packets [call], packet.time.Fits) :
    call.clockFrom (Timestamp.latest (handled.map Packet.time))
      = Timestamp.latest ((handled ++ EngineCall.packets [call]).map Packet.time) := by
  rw [List.map_append]
  cases call with
  | process worker packet =>
    exact (if_pos (hfits packet List.mem_cons_self)).trans (Timestamp.latest_concat ..).symm
  | sweep manager reason busy =>
    change _ = Timestamp.latest (_ ++ [])
    rw [List.append_nil]
    rfl
  | flush manager busy =>
    change _ = Timestamp.latest (_ ++ [])
    rw [List.append_nil]
    rfl

namespace Tallies

theorem perform (h : engine.Tallies phase handled counted) (hrest : engine.AtRest lineup phase)
    (hfits : ∀ packet ∈ EngineCall.packets [call], packet.time.Fits) :
    ∃ lineup' phase', (engine.perform call).AtRest lineup' phase'
      ∧ Phase.SameSlots phase phase'
      ∧ (engine.perform call).Tallies phase' (handled ++ EngineCall.packets [call])
        fun key => engine.tallied call key (counted key) := by
  obtain ⟨lineup', phase', hrest', hmoves, hclock⟩ := hrest.perform_moves call
  refine ⟨lineup', phase', hrest', hmoves.sameSlots, ?_, ?_, ?_, ?_⟩
  · rw [hclock, h.clock_eq, clockFrom_eq hfits]
  · intro flow record hphase
    have hlookup : (engine.perform call).table.lookup record.key = some flow := by
      rw [hrest'.agrees.lookup_iff, hphase]
      rfl
    unfold tallied
    rw [if_neg (by simp [hlookup])]
    -- No two slots track one conversation, and what is tracked is bound.
    apply hmoves.counts _ h.counts _ flow record hphase
    · intro flow flow' record record' hflow hflow' hkey
      have hin : (phase flow).key = some record.key := by rw [hflow]; rfl
      have hin' : (phase flow').key = some record.key := by rw [hflow', hkey]; rfl
      exact hrest.agrees.eq_of_key hin hin'
    · intro key hnew
      apply h.unbound
      cases hbound : engine.table.lookup key with
      | none => rfl
      | some flow =>
        obtain ⟨record, hphase, hkey⟩ := hrest.tracked_of_lookup hbound
        exact absurd hkey (hnew flow record hphase)
  · intro key hlookup
    exact if_pos hlookup
  · intro key arrival hmem
    unfold tallied at hmem
    split at hmem
    · cases hmem
    · rcases List.mem_append.1 hmem with hmem | hmem
      · obtain ⟨packet, hpacket, harrival⟩ := h.handled_of_mem key arrival hmem
        exact ⟨packet, List.mem_append_left _ hpacket, harrival⟩
      · have haccounted := Option.mem_toList.1 (List.mem_of_mem_filter hmem)
        obtain ⟨packet, hpacket, harrival⟩ := handled_of_accounted haccounted
        exact ⟨packet, List.mem_append_right _ hpacket, harrival⟩

theorem performAll (h : engine.Tallies phase handled counted) (hrest : engine.AtRest lineup phase)
    {calls : List EngineCall} (hfits : ∀ packet ∈ EngineCall.packets calls, packet.time.Fits) :
    ∃ lineup' phase', (engine.performAll calls).AtRest lineup' phase'
      ∧ Phase.SameSlots phase phase'
      ∧ (engine.performAll calls).Tallies phase' (handled ++ EngineCall.packets calls)
        fun key => tally key engine calls (counted key) := by
  induction calls generalizing engine lineup phase handled counted with
  | nil =>
    refine ⟨lineup, phase, hrest, .refl phase, ?_⟩
    rw [EngineCall.packets, List.filterMap_nil, List.append_nil]
    exact h
  | cons call calls ih =>
    rw [EngineCall.packets_cons] at hfits ⊢
    obtain ⟨lineup', phase', hrest', hsame, h'⟩ := h.perform hrest fun packet hmem =>
      hfits packet (List.mem_append_left _ hmem)
    obtain ⟨lineup'', phase'', hrest'', hsame', h''⟩ := ih h' hrest' fun packet hmem =>
      hfits packet (List.mem_append_right _ hmem)
    refine ⟨lineup'', phase'', hrest'', hsame.trans hsame', ?_⟩
    rw [← List.append_assoc]
    exact h''

theorem start (capacity : Nat) (hclock : engine.clock = 0) :
    engine.Tallies (freshPhase capacity) [] fun _ => [] := by
  constructor
  · rw [hclock]
    rfl
  · intro flow record hphase
    exact (freshPhase_ne_tracked _ _ _ hphase).elim
  · exact fun _ _ => rfl
  · intro key arrival hmem
    cases hmem

end Tallies

end Engine

end FlowTracker
