import FlowTracker.Proofs.Engine.Consistency
import FlowTracker.Proofs.Interleaving.Ledger

/-!
# The records in the slots

The payloads of a table are a multiset of records (`FlowTable.records`).  On an engine at rest it is the
sum over the phases of the slots, so a slot that changes its phase exchanges one record, and a sweep moves
the records of the slots that it takes out to the released flows.  There are as many records as tracked
flows.
-/

namespace FlowTracker

open Multiset

def FlowTable.records (table : FlowTable) : Multiset FlowRecord :=
  table.slots.toList.filterMap Slot.record

theorem coe_filterMap_range {α : Type} (f : Nat → Option α) (n : Nat) :
    ((List.range n).filterMap f : Multiset α)
      = ∑ i ∈ Finset.range n, ((f i).toList : Multiset α) := by
  induction n with
  | zero => rfl
  | succ n ih =>
    rw [List.range_succ, List.filterMap_append, ← coe_add, ih, Finset.sum_range_succ]
    cases h : f n <;> simp [h]

theorem FlowTable.records_eq (table : FlowTable) :
    table.records = ∑ flow ∈ Finset.range table.capacity,
      ((table.recordAt flow).toList : Multiset FlowRecord) := by
  rw [← coe_filterMap_range]
  have hslots : table.slots.toList.map some
      = (List.range table.capacity).map fun flow => table.slots[flow]? := by
    apply List.ext_getElem
    · simp [capacity]
    · intro flow hlt hlt'
      simp only [List.length_map, Array.length_toList] at hlt
      simp [hlt]
  have hrecords : (table.slots.toList.map some).filterMap (Option.bind · Slot.record)
      = table.slots.toList.filterMap Slot.record := by
    rw [List.filterMap_map]
    rfl
  rw [records, ← hrecords, hslots, List.filterMap_map]
  rfl

namespace Engine.AmongHolders

variable {engine engine' : Engine} {busy busy' : FlowId → Bool} {lineup lineup' : Lineup 1 4}
  {phase : FlowId → Phase} {flow : FlowId} {new : Phase}

theorem records_eq (h : engine.AmongHolders busy lineup phase) :
    engine.table.records = ∑ flow ∈ Finset.range engine.table.capacity,
      ((phase flow).record.toList : Multiset FlowRecord) := by
  rw [FlowTable.records_eq]
  exact Finset.sum_congr rfl fun flow _ => by rw [h.agrees.record_eq]

theorem mem_records (h : engine.AmongHolders busy lineup phase) {record : FlowRecord}
    (hrecord : (phase flow).record = some record) : record ∈ engine.table.records := by
  have hin : phase flow ≠ .outside := by
    intro hout
    rw [hout] at hrecord
    cases hrecord
  rw [h.records_eq, mem_sum]
  exact ⟨flow, Finset.mem_range.2 (h.agrees.lt_size hin), by simp [hrecord]⟩

/-- A slot that changes its phase exchanges its record. -/
theorem records_update (h : engine.AmongHolders busy lineup phase)
    (h' : engine'.AmongHolders busy' lineup' (Function.update phase flow new))
    (hin : phase flow ≠ .outside) (hnew : new ≠ .outside) :
    engine'.table.records + ((phase flow).record.toList : Multiset FlowRecord)
      = engine.table.records + (new.record.toList : Multiset FlowRecord) := by
  have happly : (fun flow' => ((Function.update phase flow new flow').record.toList
        : Multiset FlowRecord))
      = Function.update (fun flow' => ((phase flow').record.toList : Multiset FlowRecord)) flow
        (new.record.toList : Multiset FlowRecord) := by
    funext flow'
    exact Function.apply_update
      (fun _ (phase : Phase) => (phase.record.toList : Multiset FlowRecord)) phase flow new flow'
  rw [h'.records_eq, h.records_eq, happly,
    h.agrees.capacity_congr h'.agrees (.update hin hnew)]
  exact sum_update_add (Finset.mem_range.2 (h.agrees.lt_size hin)) _ _

/-- Slots that become spare lose their records. -/
theorem sum_spared {capacity : Nat} {flows : List FlowId} (hnodup : flows.Nodup)
    (hlt : ∀ flow ∈ flows, flow < capacity) (phase : FlowId → Phase) :
    ∑ flow ∈ Finset.range capacity,
        ((Phase.spared phase flows flow).record.toList : Multiset FlowRecord)
        + (recordsOf phase flows : Multiset FlowRecord)
      = ∑ flow ∈ Finset.range capacity, ((phase flow).record.toList : Multiset FlowRecord) := by
  induction flows generalizing phase with
  | nil =>
    rw [Phase.spared_nil]
    exact add_zero _
  | cons flow flows ih =>
    obtain ⟨hnot, hnodup⟩ := List.nodup_cons.1 hnodup
    -- The slot that becomes spare first is none of the others, so their records are still there.
    have hapart : recordsOf (Function.update phase flow .spare) flows = recordsOf phase flows :=
      recordsOf_congr fun flow' hmem => Function.update_of_ne (ne_of_mem_of_not_mem hmem hnot) ..
    have hrest := ih hnodup (fun flow' hmem => hlt flow' (List.mem_cons_of_mem _ hmem))
      (Function.update phase flow .spare)
    have happly : (fun flow' => ((Function.update phase flow Phase.spare flow').record.toList
          : Multiset FlowRecord))
        = Function.update (fun flow' => ((phase flow').record.toList : Multiset FlowRecord)) flow
          0 := by
      funext flow'
      exact Function.apply_update
        (fun _ (phase : Phase) => (phase.record.toList : Multiset FlowRecord)) phase flow .spare flow'
    have hone := sum_update_add (Finset.mem_range.2 (hlt flow List.mem_cons_self))
      (fun flow' => ((phase flow').record.toList : Multiset FlowRecord)) 0
    have hcons : (recordsOf phase (flow :: flows) : Multiset FlowRecord)
        = ((phase flow).record.toList : Multiset FlowRecord) + recordsOf phase flows := by
      cases hrecord : (phase flow).record <;> simp [recordsOf, hrecord]
    rw [Phase.spared_update, hapart, happly] at hrest
    rw [hcons, add_left_comm, hrest, add_comm, hone, add_zero]

/-- A sweep leaves the records that it does not take. -/
theorem records_swept (h : engine.AmongHolders busy lineup phase) {manager : Manager}
    {reason : ReleaseReason} {clock : PacketClock}
    (h' : engine'.AmongHolders busy lineup'
      (Phase.spared phase (swept manager reason clock busy lineup phase))) :
    engine'.table.records
        + (recordsOf phase (swept manager reason clock busy lineup phase) : Multiset FlowRecord)
      = engine.table.records := by
  rw [h'.records_eq, h.records_eq, h.agrees.capacity_congr h'.agrees h.swept_inside]
  apply sum_spared (h.nodup_members.filter _)
  intro flow hmem
  obtain ⟨record, hphase⟩ := h.mem_members_iff.1 (List.mem_of_mem_filter hmem)
  exact h.agrees.lt_size (by simp [hphase])

/-- As many slots hold a record as are counted as tracked. -/
theorem card_records (h : engine.AmongHolders busy lineup phase) :
    engine.table.records.card = engine.tracked := by
  have hspare : recordsOf phase (lineup.flows spareQueue) = [] := by
    apply List.filterMap_eq_nil_iff.2
    intro flow hmem
    rw [h.mem_spare_iff.1 hmem]
    rfl
  have hmembers : (recordsOf phase (members lineup FlowState.all)).length
      = (members lineup FlowState.all).length := by
    apply List.filterMap_length_eq_length.2
    intro flow hmem
    obtain ⟨record, hphase⟩ := h.mem_members_iff.1 hmem
    rw [hphase]
    rfl
  have hperm := h.perm_range.filterMap fun flow => (phase flow).record
  rw [List.filterMap_append, show List.filterMap _ (lineup.flows spareQueue) = [] from hspare,
    List.nil_append] at hperm
  rw [h.records_eq, ← coe_filterMap_range, coe_card, ← hperm.length_eq, h.tracked_eq]
  exact hmembers

/-- A slot that changes its phase changes the number of tracked flows with its record. -/
theorem tracked_update (h : engine.AmongHolders busy lineup phase)
    (h' : engine'.AmongHolders busy' lineup' (Function.update phase flow new))
    (hin : phase flow ≠ .outside) (hnew : new ≠ .outside) :
    engine'.tracked + (phase flow).record.toList.length
      = engine.tracked + new.record.toList.length := by
  have hcard := congrArg card (h.records_update h' hin hnew)
  rwa [card_add, card_add, h'.card_records, h.card_records] at hcard

theorem records_withHolders (engine : Engine) (busy : FlowId → Bool) :
    (engine.withHolders busy).table.records = engine.table.records := by
  show (engine.table.withHolders busy).records = _
  rw [FlowTable.records_eq, FlowTable.records_eq, FlowTable.capacity_withHolders]
  exact Finset.sum_congr rfl fun flow _ => by rw [FlowTable.recordAt_withHolders]

end Engine.AmongHolders

end FlowTracker
