import FlowTracker.Proofs.Interleaving.System
import Mathlib.Algebra.BigOperators.Fin
import Mathlib.Algebra.Order.BigOperators.Group.Finset
import Mathlib.Algebra.Order.Group.Multiset
import Mathlib.Tactic.Abel

/-!
# Where arrivals end up

A record carries a list of arrivals if it is started with the first and updated with the others, one
after the other.  A `Ledger` assigns arrivals to the records that carry them and to the drops;
`System.Balanced` says that with the ones that are still on their way these are all that arrived, each of
them once.
-/

namespace FlowTracker

/-! ### Arrivals of a record -/

def replay : List Arrival → Option FlowRecord
  | [] => none
  | arrival :: arrivals =>
    some (arrivals.foldl
      (fun record arrival => record.counted arrival.headers arrival.time arrival.size)
      (.first arrival.headers arrival.time arrival.size))

def Arrival.octets (arrivals : Multiset Arrival) : Nat :=
  (arrivals.map fun arrival => arrival.size.toNat).sum

/-- The record was made by these arrivals, and they belong to its conversation. -/
structure FlowRecord.Carries (record : FlowRecord) (arrivals : List Arrival) : Prop where
  replay_eq : replay arrivals = some record
  key_eq : ∀ arrival ∈ arrivals, arrival.key = record.key

namespace FlowRecord

variable {record : FlowRecord} {arrivals : List Arrival} {arrival : Arrival}

theorem carries_first (arrival : Arrival) :
    (first arrival.headers arrival.time arrival.size).Carries [arrival] := by
  refine ⟨rfl, ?_⟩
  intro arrival' hmem
  rw [List.mem_singleton.1 hmem]
  exact (key_first ..).symm

theorem Carries.counted (h : record.Carries arrivals) (hkey : record.key = arrival.key) :
    (record.counted arrival.headers arrival.time arrival.size).Carries (arrivals ++ [arrival]) := by
  constructor
  · have hreplay := h.replay_eq
    cases arrivals with
    | nil => cases hreplay
    | cons oldest arrivals =>
      rw [replay, Option.some_inj] at hreplay
      rw [List.cons_append, replay, List.foldl_append, hreplay]
      rfl
  · intro arrival' hmem
    rw [key_counted]
    rcases List.mem_append.1 hmem with hmem | hmem
    · exact h.key_eq arrival' hmem
    · rw [List.mem_singleton.1 hmem, hkey]

/-- A record has carried no more than its arrivals have. -/
theorem Carries.atMost (h : record.Carries arrivals) :
    record.AtMost arrivals.length (Arrival.octets arrivals) := by
  have hreplay := h.replay_eq
  clear h
  induction arrivals using List.reverseRecOn generalizing record with
  | nil => cases hreplay
  | append_singleton arrivals arrival ih =>
    have hsum : Arrival.octets (arrivals ++ [arrival] : List Arrival)
        = Arrival.octets arrivals + arrival.size.toNat := by
      simp [Arrival.octets]
    rw [List.length_append, List.length_singleton, hsum]
    cases arrivals with
    | nil =>
      obtain rfl := Option.some.inj hreplay
      exact (AtMost.blank arrival.headers arrival.time).counted ..
    | cons oldest arrivals =>
      rw [List.cons_append, replay, List.foldl_append, Option.some_inj] at hreplay
      obtain rfl := hreplay
      exact (ih rfl).counted ..

end FlowRecord

/-! ### Ledgers -/

structure Ledger where
  /-- The arrivals of the record in a slot, the oldest first. -/
  history : FlowId → List Arrival
  /-- The flows that were taken out of their slots, with their arrivals. -/
  released : Multiset (ReleasedFlow × List Arrival)
  dropped : Multiset Arrival

theorem sum_update_add {ι M : Type} [DecidableEq ι] [AddCommMonoid M] {s : Finset ι} {i : ι}
    (hmem : i ∈ s) (f : ι → M) (value : M) :
    ∑ j ∈ s, Function.update f i value j + f i = ∑ j ∈ s, f j + value := by
  rw [Finset.sum_update_of_mem hmem, Finset.sdiff_singleton_eq_erase, ← Finset.add_sum_erase s f hmem]
  abel

namespace Ledger

open Multiset

def empty : Ledger := ⟨fun _ => [], 0, 0⟩

def account (ledger : Ledger) (flow : FlowId) (arrival : Arrival) : Ledger :=
  { ledger with
    history := Function.update ledger.history flow (ledger.history flow ++ [arrival]) }

def release (ledger : Ledger) (flow : FlowId) (released : ReleasedFlow) : Ledger :=
  { ledger with
    history := Function.update ledger.history flow []
    released := (released, ledger.history flow) ::ₘ ledger.released }

def drop (ledger : Ledger) (arrival : Arrival) : Ledger :=
  { ledger with dropped := arrival ::ₘ ledger.dropped }

/-- The arrivals that are accounted in the records of slots. -/
def inSlots (ledger : Ledger) (capacity : Nat) : Multiset Arrival :=
  ∑ flow ∈ Finset.range capacity, (ledger.history flow : Multiset Arrival)

def gone (ledger : Ledger) : Multiset Arrival :=
  (ledger.released.map fun entry => (entry.2 : Multiset Arrival)).sum

def total (ledger : Ledger) (capacity : Nat) : Multiset Arrival :=
  ledger.inSlots capacity + ledger.gone + ledger.dropped

variable (ledger : Ledger) {flow flow' : FlowId} {capacity : Nat}

theorem history_account_self (flow : FlowId) (arrival : Arrival) :
    (ledger.account flow arrival).history flow = ledger.history flow ++ [arrival] :=
  Function.update_self ..

theorem history_account_of_ne (hne : flow' ≠ flow) (arrival : Arrival) :
    (ledger.account flow arrival).history flow' = ledger.history flow' :=
  Function.update_of_ne hne ..

theorem history_release_self (flow : FlowId) (released : ReleasedFlow) :
    (ledger.release flow released).history flow = [] := Function.update_self ..

theorem history_release_of_ne (hne : flow' ≠ flow) (released : ReleasedFlow) :
    (ledger.release flow released).history flow' = ledger.history flow' :=
  Function.update_of_ne hne ..

theorem inSlots_update (hlt : flow < capacity) (arrivals : List Arrival) :
    ({ ledger with history := Function.update ledger.history flow arrivals } : Ledger).inSlots capacity
        + (ledger.history flow : Multiset Arrival)
      = ledger.inSlots capacity + (arrivals : Multiset Arrival) := by
  have happly : (fun flow' => (Function.update ledger.history flow arrivals flow' : Multiset Arrival))
      = Function.update (fun flow' => (ledger.history flow' : Multiset Arrival)) flow arrivals := by
    funext flow'
    exact Function.apply_update (fun _ (arrivals : List Arrival) => (arrivals : Multiset Arrival))
      ledger.history flow arrivals flow'
  unfold inSlots
  simp only [happly]
  exact sum_update_add (Finset.mem_range.2 hlt) _ _

theorem total_account (hlt : flow < capacity) (arrival : Arrival) :
    (ledger.account flow arrival).total capacity = ledger.total capacity + {arrival} := by
  have hslots := ledger.inSlots_update hlt (ledger.history flow ++ [arrival])
  rw [← coe_add, add_comm (ledger.history flow : Multiset Arrival), ← add_assoc] at hslots
  show _ + ledger.gone + ledger.dropped = _
  rw [total, show (ledger.account flow arrival).inSlots capacity = _ from add_right_cancel hslots,
    coe_singleton]
  abel

theorem total_release (hlt : flow < capacity) (released : ReleasedFlow) :
    (ledger.release flow released).total capacity = ledger.total capacity := by
  have hslots := ledger.inSlots_update hlt []
  rw [coe_nil, add_zero] at hslots
  have hgone : (ledger.release flow released).gone = (ledger.history flow : Multiset Arrival)
      + ledger.gone := by
    simp only [gone, release, map_cons, sum_cons]
  rw [total, total, hgone, ← hslots]
  show (ledger.release flow released).inSlots capacity + _ + ledger.dropped
    = (ledger.release flow released).inSlots capacity + _ + _ + _
  abel

theorem total_drop (arrival : Arrival) :
    (ledger.drop arrival).total capacity = ledger.total capacity + {arrival} := by
  show ledger.inSlots capacity + ledger.gone + (arrival ::ₘ ledger.dropped) = _
  rw [total, ← singleton_add]
  abel

theorem total_empty : empty.total capacity = 0 := by
  simp [total, inSlots, gone, empty]

end Ledger

/-! ### Counters of arrivals -/

namespace Totals

def intake (totals : Totals) : UInt64 × UInt64 × UInt64 :=
  (totals.packets, totals.undecodable, totals.tableFullDrops)

/-- The packets are counted that arrived or could not be read, and those that were dropped. -/
structure Count (totals : Totals) (arrived dropped : Multiset Arrival) : Prop where
  packets_eq : totals.packets.toNat = arrived.card + totals.undecodable.toNat
  dropped_eq : totals.tableFullDrops.toNat = dropped.card

namespace Count

variable {totals totals' : Totals} {arrived dropped : Multiset Arrival} {arrival : Arrival}
  {size : UInt64}

theorem congr (h : totals.Count arrived dropped) (hintake : totals'.intake = totals.intake) :
    totals'.Count arrived dropped := by
  obtain ⟨hpackets, hundecodable, hdrops⟩ :
      totals'.packets = totals.packets ∧ totals'.undecodable = totals.undecodable
        ∧ totals'.tableFullDrops = totals.tableFullDrops := by
    simpa [intake] using hintake
  constructor
  · rw [hpackets, hundecodable, h.packets_eq]
  · rw [hdrops, h.dropped_eq]

theorem card_le (h : totals.Count arrived dropped) : arrived.card ≤ totals.packets.toNat := by
  rw [h.packets_eq]
  exact Nat.le_add_right ..

theorem drop (h : totals.Count arrived dropped) (hroom : dropped.card + 1 < Word.count) :
    { totals with tableFullDrops := totals.tableFullDrops + 1 : Totals }.Count arrived
      (arrival ::ₘ dropped) := by
  refine ⟨h.packets_eq, ?_⟩
  rw [← h.dropped_eq] at hroom
  rw [Multiset.card_cons, ← h.dropped_eq]
  exact Word.toNat_add hroom

theorem arrive (h : totals.Count arrived dropped) (hroom : totals.packets.toNat + 1 < Word.count) :
    (totals.countPacket size).Count (arrival ::ₘ arrived) dropped := by
  refine ⟨?_, h.dropped_eq⟩
  show (totals.packets + 1).toNat = Multiset.card (arrival ::ₘ arrived) + totals.undecodable.toNat
  have hpackets : (totals.packets + 1).toNat = totals.packets.toNat + 1 := Word.toNat_add hroom
  rw [hpackets, Multiset.card_cons, h.packets_eq]
  omega

theorem skip (h : totals.Count arrived dropped) (hroom : totals.packets.toNat + 1 < Word.count) :
    { totals.countPacket size with
      undecodable := (totals.countPacket size).undecodable + 1 : Totals }.Count arrived dropped := by
  refine ⟨?_, h.dropped_eq⟩
  show (totals.packets + 1).toNat = arrived.card + (totals.undecodable + 1).toNat
  have hle : totals.undecodable.toNat ≤ totals.packets.toNat := by
    rw [h.packets_eq]
    exact Nat.le_add_left ..
  have hpackets : (totals.packets + 1).toNat = totals.packets.toNat + 1 := Word.toNat_add hroom
  have hundecodable : (totals.undecodable + 1).toNat = totals.undecodable.toNat + 1 :=
    Word.toNat_add (Nat.lt_of_le_of_lt (Nat.succ_le_succ hle) hroom)
  rw [hpackets, hundecodable, h.packets_eq]
  omega

end Count

end Totals

/-- The arrival of a stage that is neither accounted nor dropped yet. -/
def Stage.inFlight (stage : Stage) : Multiset Arrival := stage.arrival.toList

theorem Stage.inFlight_none {stage : Stage} (h : stage.arrival = none) : stage.inFlight = 0 := by
  rw [inFlight, h]
  rfl

theorem Stage.inFlight_some {stage : Stage} {arrival : Arrival} (h : stage.arrival = some arrival) :
    stage.inFlight = {arrival} := by
  rw [inFlight, h]
  rfl

theorem Stage.inFlight_congr {stage stage' : Stage} (h : stage'.arrival = stage.arrival) :
    stage'.inFlight = stage.inFlight := by
  rw [inFlight, h, inFlight]

namespace System

open Multiset

variable {n : Nat}

/-- All arrivals are accounted for: they are on their way, in the record of a slot, gone with a
released flow or dropped. -/
structure Balanced (system : System n) (phase : FlowId → Phase) (ledger : Ledger) : Prop where
  carries : ∀ flow record, (phase flow).record = some record →
    record.Carries (ledger.history flow)
  empty : ∀ flow, (phase flow).record = none → ledger.history flow = []
  released_carries : ∀ entry ∈ ledger.released, entry.1.record.Carries entry.2
  released_eq : ledger.released.map Prod.fst = (system.engine.exported.toList : Multiset ReleasedFlow)
    + ∑ party, ((system.stage party).pending : Multiset ReleasedFlow)
  arrived_eq : system.arrived = ∑ party, (system.stage party).inFlight
    + ledger.total system.engine.table.capacity
  count : system.engine.totals.Count system.arrived ledger.dropped

/-- What the parties have together after one of them has moved. -/
theorem sum_become {M : Type} [AddCommMonoid M] (system : System n) (party : Fin n)
    (engine : Engine) (next : Stage) (value : Stage → M) :
    ∑ party', value ((system.become party engine next).stage party') + value (system.stage party)
      = ∑ party', value (system.stage party') + value next := by
  have happly : (fun party' => value ((system.become party engine next).stage party'))
      = Function.update (fun party' => value (system.stage party')) party (value next) := by
    funext party'
    exact Function.apply_update (fun _ => value) system.stage party next party'
  rw [happly]
  exact sum_update_add (Finset.mem_univ party) _ _

/-! ### Kinds of steps -/

namespace Balanced

variable {system : System n} {phase phase' : FlowId → Phase} {ledger : Ledger} {party : Fin n}
  {engine' : Engine} {next : Stage} {flow : FlowId} {arrival : Arrival} {record : FlowRecord}

theorem pending_eq (h : system.Balanced phase ledger) (party : Fin n) (engine' : Engine)
    (next : Stage) :
    ledger.released.map Prod.fst + (next.pending : Multiset ReleasedFlow)
      = (system.engine.exported.toList : Multiset ReleasedFlow)
        + ∑ party', (((system.become party engine' next).stage party').pending
          : Multiset ReleasedFlow)
        + ((system.stage party).pending : Multiset ReleasedFlow) := by
  rw [h.released_eq, add_assoc, add_assoc]
  exact congrArg _ (sum_become system party engine' next
    fun stage => (stage.pending : Multiset ReleasedFlow)).symm

theorem released_of_same (h : system.Balanced phase ledger)
    (hexported : engine'.exported = system.engine.exported)
    (hpending : (next.pending : Multiset ReleasedFlow) = (system.stage party).pending) :
    ledger.released.map Prod.fst = (engine'.exported.toList : Multiset ReleasedFlow)
      + ∑ party', (((system.become party engine' next).stage party').pending
        : Multiset ReleasedFlow) := by
  have hsum := h.pending_eq party engine' next
  rw [hpending] at hsum
  rw [add_right_cancel hsum, hexported]

theorem inFlight_of_same (hsame : next.arrival = (system.stage party).arrival) :
    ∑ party', ((system.become party engine' next).stage party').inFlight
      = ∑ party', (system.stage party').inFlight := by
  have hsum := sum_become system party engine' next Stage.inFlight
  rw [Stage.inFlight_congr hsame] at hsum
  exact add_right_cancel hsum

/-- The party has an arrival no more. -/
theorem inFlight_of_done (harrival : (system.stage party).arrival = some arrival)
    (hnone : next.arrival = none) :
    ∑ party', (system.stage party').inFlight
      = ∑ party', ((system.become party engine' next).stage party').inFlight + {arrival} := by
  have hsum := sum_become system party engine' next Stage.inFlight
  rw [Stage.inFlight_some harrival, Stage.inFlight_none hnone, add_zero] at hsum
  exact hsum.symm

/-- A step in which the party keeps its arrival and its released flows. -/
theorem keep (h : system.Balanced phase ledger)
    (hrecord : ∀ flow, (phase' flow).record = (phase flow).record)
    (hcapacity : engine'.table.capacity = system.engine.table.capacity)
    (hexported : engine'.exported = system.engine.exported)
    (hintake : engine'.totals.intake = system.engine.totals.intake)
    (harrival : next.arrival = (system.stage party).arrival)
    (hpending : (next.pending : Multiset ReleasedFlow) = (system.stage party).pending) :
    (system.become party engine' next).Balanced phase' ledger := by
  refine ⟨?_, ?_, h.released_carries, h.released_of_same hexported hpending, ?_, ?_⟩
  · intro flow record hphase
    rw [hrecord] at hphase
    exact h.carries flow record hphase
  · intro flow hphase
    rw [hrecord] at hphase
    exact h.empty flow hphase
  · show system.arrived = _ + ledger.total engine'.table.capacity
    rw [inFlight_of_same harrival, hcapacity]
    exact h.arrived_eq
  · exact h.count.congr hintake

theorem account (h : system.Balanced phase ledger) (hlt : flow < system.engine.table.capacity)
    (hrecord : ∀ flow', flow' ≠ flow → (phase' flow').record = (phase flow').record)
    (hafter : (phase' flow).record = some record)
    (hcarries : record.Carries (ledger.history flow ++ [arrival]))
    (hcapacity : engine'.table.capacity = system.engine.table.capacity)
    (hexported : engine'.exported = system.engine.exported)
    (hintake : engine'.totals.intake = system.engine.totals.intake)
    (harrival : (system.stage party).arrival = some arrival) (hnone : next.arrival = none)
    (hpending : (next.pending : Multiset ReleasedFlow) = (system.stage party).pending) :
    (system.become party engine' next).Balanced phase' (ledger.account flow arrival) := by
  refine ⟨?_, ?_, h.released_carries, h.released_of_same hexported hpending, ?_, ?_⟩
  · intro flow' record' hphase
    by_cases hflow : flow' = flow
    · subst hflow
      rw [hafter] at hphase
      obtain rfl := Option.some.inj hphase
      rw [Ledger.history_account_self]
      exact hcarries
    · rw [hrecord flow' hflow] at hphase
      rw [Ledger.history_account_of_ne _ hflow]
      exact h.carries flow' record' hphase
  · intro flow' hphase
    by_cases hflow : flow' = flow
    · rw [hflow, hafter] at hphase
      cases hphase
    · rw [hrecord flow' hflow] at hphase
      rw [Ledger.history_account_of_ne _ hflow]
      exact h.empty flow' hphase
  · show system.arrived = _ + (ledger.account flow arrival).total engine'.table.capacity
    rw [hcapacity, ledger.total_account hlt, h.arrived_eq, inFlight_of_done harrival hnone]
    abel
  · exact h.count.congr hintake

theorem drop (h : system.Balanced phase ledger)
    (hcapacity : engine'.table.capacity = system.engine.table.capacity)
    (hexported : engine'.exported = system.engine.exported)
    (htotals : engine'.totals = { system.engine.totals with
      tableFullDrops := system.engine.totals.tableFullDrops + 1 })
    (hroom : ledger.dropped.card + 1 < Word.count)
    (harrival : (system.stage party).arrival = some arrival) (hnone : next.arrival = none)
    (hpending : (next.pending : Multiset ReleasedFlow) = (system.stage party).pending) :
    (system.become party engine' next).Balanced phase (ledger.drop arrival) := by
  refine ⟨h.carries, h.empty, h.released_carries, h.released_of_same hexported hpending, ?_, ?_⟩
  · show system.arrived = _ + (ledger.drop arrival).total engine'.table.capacity
    rw [hcapacity, ledger.total_drop, h.arrived_eq, inFlight_of_done harrival hnone]
    abel
  · show engine'.totals.Count system.arrived (arrival ::ₘ ledger.dropped)
    rw [htotals]
    exact h.count.drop hroom

theorem release (h : system.Balanced phase ledger) (reason : ReleaseReason)
    (hlt : flow < system.engine.table.capacity)
    (hrecord : ∀ flow', flow' ≠ flow → (phase' flow').record = (phase flow').record)
    (hbefore : (phase flow).record = some record) (hafter : (phase' flow).record = none)
    (hcapacity : engine'.table.capacity = system.engine.table.capacity)
    (hexported : engine'.exported = system.engine.exported)
    (hintake : engine'.totals.intake = system.engine.totals.intake)
    (harrival : next.arrival = (system.stage party).arrival)
    (hpending : (next.pending : Multiset ReleasedFlow)
      = ⟨reason, record⟩ ::ₘ ((system.stage party).pending : Multiset ReleasedFlow)) :
    (system.become party engine' next).Balanced phase' (ledger.release flow ⟨reason, record⟩) := by
  refine ⟨?_, ?_, ?_, ?_, ?_, ?_⟩
  · intro flow' record' hphase
    by_cases hflow : flow' = flow
    · rw [hflow, hafter] at hphase
      cases hphase
    · rw [hrecord flow' hflow] at hphase
      rw [Ledger.history_release_of_ne _ hflow]
      exact h.carries flow' record' hphase
  · intro flow' hphase
    by_cases hflow : flow' = flow
    · rw [hflow, Ledger.history_release_self]
    · rw [hrecord flow' hflow] at hphase
      rw [Ledger.history_release_of_ne _ hflow]
      exact h.empty flow' hphase
  · intro entry hmem
    rcases mem_cons.1 hmem with rfl | hmem
    · exact h.carries flow record hbefore
    · exact h.released_carries entry hmem
  · have hsum := h.pending_eq party engine' next
    rw [hpending, ← singleton_add, ← add_assoc] at hsum
    show map Prod.fst ((_, _) ::ₘ ledger.released)
      = (engine'.exported.toList : Multiset ReleasedFlow) + _
    rw [map_cons, ← singleton_add, add_comm, add_right_cancel hsum, hexported]
  · show system.arrived = _ + (ledger.release flow ⟨reason, record⟩).total engine'.table.capacity
    rw [inFlight_of_same harrival, hcapacity, ledger.total_release hlt]
    exact h.arrived_eq
  · exact h.count.congr hintake

/-- A step that hands a flow over. -/
theorem handOver (h : system.Balanced phase ledger) {exported : ReleasedFlow}
    (hcapacity : engine'.table.capacity = system.engine.table.capacity)
    (hexported : engine'.exported = system.engine.exported.push exported)
    (hintake : engine'.totals.intake = system.engine.totals.intake)
    (harrival : next.arrival = (system.stage party).arrival)
    (hpending : ((system.stage party).pending : Multiset ReleasedFlow)
      = exported ::ₘ (next.pending : Multiset ReleasedFlow)) :
    (system.become party engine' next).Balanced phase ledger := by
  refine ⟨h.carries, h.empty, h.released_carries, ?_, ?_, ?_⟩
  · have hsum := h.pending_eq party engine' next
    rw [hpending, ← singleton_add, ← add_assoc] at hsum
    show _ = (engine'.exported.toList : Multiset ReleasedFlow) + _
    rw [add_right_cancel hsum, hexported, Array.toList_push, ← coe_add, coe_singleton]
    abel
  · show system.arrived = _ + ledger.total engine'.table.capacity
    rw [inFlight_of_same harrival, hcapacity]
    exact h.arrived_eq
  · exact h.count.congr hintake

/-- A party takes a decoded packet up. -/
theorem arrive (h : system.Balanced phase ledger)
    (hcapacity : engine'.table.capacity = system.engine.table.capacity)
    (hexported : engine'.exported = system.engine.exported)
    {size : UInt64} (htotals : engine'.totals = system.engine.totals.countPacket size)
    (hroom : system.engine.totals.packets.toNat + 1 < Word.count)
    (hnone : (system.stage party).arrival = none) (harrival : next.arrival = some arrival)
    (hpending : (next.pending : Multiset ReleasedFlow) = (system.stage party).pending) :
    { system.become party engine' next with
      arrived := arrival ::ₘ system.arrived : System n }.Balanced phase ledger := by
  refine ⟨h.carries, h.empty, h.released_carries, h.released_of_same hexported hpending, ?_, ?_⟩
  · have hsum := sum_become system party engine' next Stage.inFlight
    rw [Stage.inFlight_none hnone, Stage.inFlight_some harrival, add_zero] at hsum
    show arrival ::ₘ system.arrived
      = ∑ party', ((system.become party engine' next).stage party').inFlight
        + ledger.total engine'.table.capacity
    rw [hcapacity, hsum, h.arrived_eq, ← singleton_add]
    abel
  · show engine'.totals.Count (arrival ::ₘ system.arrived) ledger.dropped
    rw [htotals]
    exact h.count.arrive hroom

/-- A party skips a packet that cannot be read. -/
theorem skip (h : system.Balanced phase ledger)
    (hcapacity : engine'.table.capacity = system.engine.table.capacity)
    (hexported : engine'.exported = system.engine.exported) {size : UInt64}
    (htotals : engine'.totals = { system.engine.totals.countPacket size with
      undecodable := (system.engine.totals.countPacket size).undecodable + 1 })
    (hroom : system.engine.totals.packets.toNat + 1 < Word.count)
    (harrival : next.arrival = (system.stage party).arrival)
    (hpending : (next.pending : Multiset ReleasedFlow) = (system.stage party).pending) :
    (system.become party engine' next).Balanced phase ledger := by
  refine ⟨h.carries, h.empty, h.released_carries, h.released_of_same hexported hpending, ?_, ?_⟩
  · show system.arrived = _ + ledger.total engine'.table.capacity
    rw [inFlight_of_same harrival, hcapacity]
    exact h.arrived_eq
  · show engine'.totals.Count system.arrived ledger.dropped
    rw [htotals]
    exact h.count.skip hroom

theorem le_inFlight (harrival : (system.stage party).arrival = some arrival) :
    {arrival} ≤ ∑ party, (system.stage party).inFlight := by
  rw [← Stage.inFlight_some harrival]
  exact Finset.single_le_sum (f := fun party => (system.stage party).inFlight)
    (fun party _ => Multiset.zero_le _) (Finset.mem_univ party)

/-- What was dropped and what is on its way are parts of what arrived. -/
theorem dropped_le_arrived (h : system.Balanced phase ledger)
    (harrival : (system.stage party).arrival = some arrival) :
    ledger.dropped + {arrival} ≤ system.arrived := by
  rw [h.arrived_eq, add_comm]
  exact add_le_add (le_inFlight harrival) (Multiset.le_add_left ..)

/-- What a slot's record carries and what is on its way are parts of what arrived. -/
theorem history_le_arrived (h : system.Balanced phase ledger)
    (hlt : flow < system.engine.table.capacity)
    (harrival : (system.stage party).arrival = some arrival) :
    (ledger.history flow : Multiset Arrival) + {arrival} ≤ system.arrived := by
  have hhistory : (ledger.history flow : Multiset Arrival)
      ≤ ledger.inSlots system.engine.table.capacity :=
    Finset.single_le_sum (f := fun flow => (ledger.history flow : Multiset Arrival))
      (fun flow _ => Multiset.zero_le _) (Finset.mem_range.2 hlt)
  have htotal : ledger.inSlots system.engine.table.capacity
      ≤ ledger.total system.engine.table.capacity :=
    (Multiset.le_add_right ..).trans (Multiset.le_add_right ..)
  rw [h.arrived_eq, add_comm]
  exact add_le_add (le_inFlight harrival) (hhistory.trans htotal)

end Balanced

end System

end FlowTracker
