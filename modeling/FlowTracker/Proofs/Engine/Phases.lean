import FlowTracker.Proofs.Engine.Table
import FlowTracker.Proofs.Queue.Steps
import FlowTracker.Engine.Basic

/-!
# The phases of a slot

A slot is spare, or tracks a record in the queue of the record's state, or is in somebody's hand on the
way from one of the two to the other.  A `Phase` says which, and what the engine holds of the slot
follows from it: the payload, the conversation that is bound to it and the queue that has it.
`Agrees table queues lineup phase` says that table and queues hold exactly this of every slot.

So the state of an engine is one phase for each slot and an order in each queue, and everything that
workers and manager do to a slot is a change of its phase.  The `Agrees` lemmas are those changes: the
ones that a queue operation makes, and the ones that a change of the table makes.
-/

namespace FlowTracker

inductive Phase where
  /-- There is no such slot. -/
  | outside
  | spare
  | tracked (record : FlowRecord)
  /-- In hand and empty. -/
  | taken
  /-- In hand and empty, but a conversation is bound to it already. -/
  | promised (key : FlowKey)
  /-- In hand with its record. -/
  | unqueued (record : FlowRecord)
  /-- The record has left the state whose queue the slot is in. -/
  | misplaced (before : FlowState) (record : FlowRecord)
  deriving DecidableEq

namespace Phase

def record : Phase → Option FlowRecord
  | .tracked record | .unqueued record | .misplaced _ record => some record
  | _ => none

def key : Phase → Option FlowKey
  | .promised key => some key
  | phase => phase.record.map FlowRecord.key

def queue : Phase → Option QueueIndex
  | .spare => some spareQueue
  | .tracked record => some record.state.queue
  | .misplaced before _ => some before.queue
  | _ => none

theorem key_of_record {phase : Phase} {record : FlowRecord} (h : phase.record = some record) :
    phase.key = some record.key := by
  cases phase <;> simp_all [Phase.record, Phase.key]

/-- Nothing is known of a slot that does not exist. -/
theorem ne_outside_of_key {phase : Phase} {key : FlowKey} (h : phase.key = some key) :
    phase ≠ .outside := by
  rintro rfl
  cases h

theorem ne_outside_of_queue {phase : Phase} {q : QueueIndex} (h : phase.queue = some q) :
    phase ≠ .outside := by
  rintro rfl
  cases h

theorem queue_eq_spare_iff {phase : Phase} : phase.queue = some spareQueue ↔ phase = .spare := by
  cases phase with
  | tracked record => cases h : record.state <;> simp [queue, FlowState.queue, spareQueue, h]
  | misplaced before record => cases before <;> simp [queue, FlowState.queue, spareQueue]
  | _ => simp [queue]

end Phase

/-! ### Agreement -/

/-- Table and queues hold of every slot what its phase says. -/
structure Agrees (table : FlowTable) (queues : QueueStore 1 4) (lineup : Lineup 1 4)
    (phase : FlowId → Phase) : Prop where
  represents : queues.Represents lineup
  capacity_eq : lineup.capacity flowArena = table.capacity
  inside_iff : ∀ flow, phase flow ≠ .outside ↔ flow < table.capacity
  mem_iff : ∀ flow q, flow ∈ lineup.flows q ↔ (phase flow).queue = some q
  record_eq : ∀ flow, table.recordAt flow = (phase flow).record
  lookup_iff : ∀ key flow, table.lookup key = some flow ↔ (phase flow).key = some key

namespace Agrees

variable {table table' : FlowTable} {queues queues' : QueueStore 1 4}
  {lineup lineup' : Lineup 1 4} {phase : FlowId → Phase} {old : Phase} {flow flow' : FlowId}
  {q : QueueIndex}

theorem lt_capacity (h : Agrees table queues lineup phase) (hin : phase flow ≠ .outside)
    (arena : Fin 1) : flow < lineup.capacity arena := by
  rw [Subsingleton.elim arena flowArena, h.capacity_eq]
  exact (h.inside_iff flow).1 hin

theorem lt_size (h : Agrees table queues lineup phase) (hin : phase flow ≠ .outside) :
    flow < table.capacity := (h.inside_iff flow).1 hin

theorem isQueued_iff (h : Agrees table queues lineup phase) (arena : Fin 1) :
    lineup.IsQueued arena flow ↔ (phase flow).queue ≠ none := by
  unfold Lineup.IsQueued
  simp only [h.mem_iff]
  constructor
  · rintro ⟨q, -, hq⟩ hnone
    rw [hnone] at hq
    cases hq
  · intro hsome
    obtain ⟨q, hq⟩ := Option.ne_none_iff_exists'.1 hsome
    exact ⟨q, Subsingleton.elim .., hq⟩

/-- A conversation is bound to one slot only. -/
theorem eq_of_key (h : Agrees table queues lineup phase) {key : FlowKey}
    (hkey : (phase flow).key = some key) (hkey' : (phase flow').key = some key) :
    flow = flow' := by
  have hlookup := (h.lookup_iff key flow).2 hkey
  rw [(h.lookup_iff key flow').2 hkey'] at hlookup
  exact (Option.some.inj hlookup).symm

/-! ### Changes of one slot -/

theorem change_queues (h : Agrees table queues lineup phase) {new : Phase}
    (hin : phase flow ≠ .outside) (hnew : new ≠ .outside)
    (hrecord : new.record = (phase flow).record) (hkey : new.key = (phase flow).key)
    (hrepresents : queues'.Represents lineup') (hcapacity : lineup'.capacity = lineup.capacity)
    (hmem : ∀ flow' q, flow' ∈ lineup'.flows q
      ↔ if flow' = flow then new.queue = some q else flow' ∈ lineup.flows q) :
    Agrees table queues' lineup' (Function.update phase flow new) := by
  refine ⟨hrepresents, by rw [hcapacity, h.capacity_eq], ?_, ?_, ?_, ?_⟩
  · intro flow'
    by_cases hflow : flow' = flow
    · subst hflow
      rw [Function.update_self, ← h.inside_iff]
      exact ⟨fun _ => hin, fun _ => hnew⟩
    · rw [Function.update_of_ne hflow, h.inside_iff]
  · intro flow' q
    rw [hmem]
    by_cases hflow : flow' = flow
    · subst hflow
      rw [if_pos rfl, Function.update_self]
    · rw [if_neg hflow, Function.update_of_ne hflow, h.mem_iff]
  · intro flow'
    by_cases hflow : flow' = flow
    · subst hflow
      rw [Function.update_self, hrecord, h.record_eq]
    · rw [Function.update_of_ne hflow, h.record_eq]
  · intro key flow'
    by_cases hflow : flow' = flow
    · subst hflow
      rw [Function.update_self, hkey, h.lookup_iff]
    · rw [Function.update_of_ne hflow, h.lookup_iff]

theorem change_table (h : Agrees table queues lineup phase) {new : Phase}
    (hin : phase flow ≠ .outside) (hnew : new ≠ .outside)
    (hqueue : new.queue = (phase flow).queue) (hcapacity : table'.capacity = table.capacity)
    (hrecord : ∀ flow', table'.recordAt flow'
      = if flow' = flow then new.record else table.recordAt flow')
    (hlookup : ∀ key flow', table'.lookup key = some flow'
      ↔ if flow' = flow then new.key = some key else table.lookup key = some flow') :
    Agrees table' queues lineup (Function.update phase flow new) := by
  refine ⟨h.represents, by rw [hcapacity, h.capacity_eq], ?_, ?_, ?_, ?_⟩
  · intro flow'
    rw [hcapacity]
    by_cases hflow : flow' = flow
    · subst hflow
      rw [Function.update_self, ← h.inside_iff]
      exact ⟨fun _ => hin, fun _ => hnew⟩
    · rw [Function.update_of_ne hflow, h.inside_iff]
  · intro flow' q
    by_cases hflow : flow' = flow
    · subst hflow
      rw [Function.update_self, hqueue, h.mem_iff]
    · rw [Function.update_of_ne hflow, h.mem_iff]
  · intro flow'
    rw [hrecord]
    by_cases hflow : flow' = flow
    · subst hflow
      rw [if_pos rfl, Function.update_self]
    · rw [if_neg hflow, Function.update_of_ne hflow, h.record_eq]
  · intro key flow'
    rw [hlookup]
    by_cases hflow : flow' = flow
    · subst hflow
      rw [if_pos rfl, Function.update_self]
    · rw [if_neg hflow, Function.update_of_ne hflow, h.lookup_iff]

/-- Payload locks are no part of what a phase says. -/
theorem setHeld (h : Agrees table queues lineup phase) (flow : FlowId) (held : Bool) :
    Agrees (table.setHeld flow held) queues lineup phase := by
  refine ⟨h.represents, by rw [h.capacity_eq, FlowTable.capacity_setHeld], ?_, h.mem_iff, ?_,
    h.lookup_iff⟩
  · intro flow'
    rw [h.inside_iff, FlowTable.capacity_setHeld]
  · intro flow'
    rw [FlowTable.recordAt_setHeld, h.record_eq]

/-! ### Queue operations -/

theorem enqueue (h : Agrees table queues lineup phase) (hphase : phase flow = old) (new : Phase)
    (hin : old ≠ .outside) (hout : old.queue = none) (hrecord : new.record = old.record)
    (hkey : new.key = old.key) (hqueue : new.queue = some q) :
    ∃ queues', (QueueM.enqueue q flow).run queues = .ok () queues'
      ∧ Agrees table queues' (lineup.enqueue q flow) (Function.update phase flow new) := by
  subst hphase
  have hfree : ¬ lineup.IsQueued (lineup.arena q) flow := by
    rw [h.isQueued_iff, hout]
    exact not_not.2 rfl
  obtain ⟨queues', hrun, hrepresents⟩ := h.represents.enqueue (h.lt_capacity hin _) hfree
  refine ⟨queues', hrun, h.change_queues hin (Phase.ne_outside_of_queue hqueue) hrecord hkey
    hrepresents rfl ?_⟩
  intro flow' q'
  unfold Lineup.enqueue
  by_cases hq : q' = q
  · subst hq
    rw [Lineup.flows_place_self, List.mem_append, List.mem_singleton]
    by_cases hflow : flow' = flow
    · simp [hflow, hqueue]
    · simp [hflow]
  · rw [lineup.flows_place_of_ne hq]
    by_cases hflow : flow' = flow
    · subst hflow
      rw [if_pos rfl, h.mem_iff, hout, hqueue]
      simp [@eq_comm _ q, hq]
    · rw [if_neg hflow]

theorem append (h : Agrees table queues lineup phase) (hphase : phase flow = old) (new : Phase)
    (hin : old ≠ .outside) (hout : old.queue = none) (hrecord : new.record = old.record)
    (hkey : new.key = old.key) (hqueue : new.queue = some q) :
    ∃ queues', (QueueM.append q flow).run queues = .ok () queues'
      ∧ Agrees table queues' (lineup.append q flow) (Function.update phase flow new) := by
  subst hphase
  have hfree : ¬ lineup.IsQueued (lineup.arena q) flow := by
    rw [h.isQueued_iff, hout]
    exact not_not.2 rfl
  obtain ⟨queues', hrun, hrepresents⟩ := h.represents.append (h.lt_capacity hin _) hfree
  refine ⟨queues', hrun, h.change_queues hin (Phase.ne_outside_of_queue hqueue) hrecord hkey
    hrepresents rfl ?_⟩
  intro flow' q'
  unfold Lineup.append
  by_cases hq : q' = q
  · subst hq
    rw [Lineup.flows_place_self, List.mem_cons]
    by_cases hflow : flow' = flow
    · simp [hflow, hqueue]
    · simp [hflow]
  · rw [lineup.flows_place_of_ne hq]
    by_cases hflow : flow' = flow
    · subst hflow
      rw [if_pos rfl, h.mem_iff, hout, hqueue]
      simp [@eq_comm _ q, hq]
    · rw [if_neg hflow]

theorem detach (h : Agrees table queues lineup phase) (hphase : phase flow = old) (new : Phase)
    (hnew : new ≠ .outside) (hmember : old.queue = some q) (hrecord : new.record = old.record)
    (hkey : new.key = old.key) (hqueue : new.queue = none) :
    ∃ queues', (QueueM.detach q flow).run queues = .ok () queues'
      ∧ Agrees table queues' (lineup.detach q flow) (Function.update phase flow new) := by
  subst hphase
  have hmem := (h.mem_iff flow q).2 hmember
  obtain ⟨queues', hrun, hrepresents⟩ := h.represents.detach hmem
  refine ⟨queues', hrun, h.change_queues (Phase.ne_outside_of_queue hmember) hnew hrecord hkey
    hrepresents rfl ?_⟩
  have hnodup := (h.represents.chain q).nodup
  intro flow' q'
  unfold Lineup.detach
  by_cases hq : q' = q
  · subst hq
    rw [Lineup.flows_place_self, hnodup.mem_erase_iff]
    by_cases hflow : flow' = flow
    · simp [hflow, hqueue]
    · simp [hflow]
  · rw [lineup.flows_place_of_ne hq]
    by_cases hflow : flow' = flow
    · subst hflow
      rw [if_pos rfl, h.mem_iff, hmember, hqueue]
      simp [@eq_comm _ q, hq]
    · rw [if_neg hflow]

theorem takeSpare (h : Agrees table queues lineup phase) {rest : List FlowId}
    (hcons : lineup.flows spareQueue = flow :: rest) :
    phase flow = .spare ∧ ∃ queues',
      (QueueM.dequeue spareQueue).run queues = .ok (some flow) queues'
      ∧ Agrees table queues' (lineup.place spareQueue rest) (Function.update phase flow .taken) := by
  have hmem : flow ∈ lineup.flows spareQueue := by
    rw [hcons]
    exact List.mem_cons_self
  have hspare : phase flow = .spare := Phase.queue_eq_spare_iff.1 ((h.mem_iff ..).1 hmem)
  have hnodup := (h.represents.chain spareQueue).nodup
  rw [hcons] at hnodup
  obtain ⟨queues', hrun, hrepresents⟩ := h.represents.dequeue_cons hcons
  refine ⟨hspare, queues', hrun, h.change_queues (by simp [hspare]) (by simp)
    (by simp [hspare, Phase.record]) (by simp [hspare, Phase.key, Phase.record]) hrepresents rfl ?_⟩
  intro flow' q
  by_cases hq : q = spareQueue
  · subst hq
    rw [Lineup.flows_place_self, hcons, List.mem_cons]
    by_cases hflow : flow' = flow
    · simp [hflow, (List.nodup_cons.1 hnodup).1, Phase.queue]
    · simp [hflow]
  · rw [lineup.flows_place_of_ne hq]
    by_cases hflow : flow' = flow
    · subst hflow
      rw [if_pos rfl, h.mem_iff, hspare]
      simp [Phase.queue, @eq_comm _ spareQueue, hq]
    · rw [if_neg hflow]

/-- Rotating a queue leaves every slot in its phase. -/
theorem rotate (h : Agrees table queues lineup phase) {rest : List FlowId}
    (hcons : lineup.flows q = flow :: rest) :
    ∃ queues', (QueueM.rotate q).run queues = .ok (some flow) queues'
      ∧ Agrees table queues' (lineup.place q (rest ++ [flow])) phase := by
  obtain ⟨queues', hrun, hrepresents⟩ := h.represents.rotate_cons hcons
  refine ⟨queues', hrun, hrepresents, h.capacity_eq, h.inside_iff, ?_, h.record_eq, h.lookup_iff⟩
  intro flow' q'
  rw [← h.mem_iff]
  by_cases hq : q' = q
  · subst hq
    rw [Lineup.flows_place_self, hcons]
    simp [or_comm]
  · rw [lineup.flows_place_of_ne hq]

/-! ### Changes of the table -/

/-- Another payload for a slot that keeps its conversation and its queue. -/
theorem setRecord (h : Agrees table queues lineup phase) (hphase : phase flow = old) (new : Phase)
    (hin : old ≠ .outside) (hnew : new ≠ .outside) (hkey : new.key = old.key)
    (hqueue : new.queue = old.queue) :
    Agrees (table.setRecord flow new.record) queues lineup (Function.update phase flow new) := by
  subst hphase
  apply h.change_table hin hnew hqueue (FlowTable.capacity_setRecord ..)
  · exact table.recordAt_setRecord (h.lt_size hin) new.record
  · intro key flow'
    rw [FlowTable.lookup_setRecord]
    by_cases hflow : flow' = flow
    · subst hflow
      rw [if_pos rfl, hkey, h.lookup_iff]
    · rw [if_neg hflow]

/-- An unbound conversation is bound to a slot in hand. -/
theorem insert (h : Agrees table queues lineup phase) {key : FlowKey}
    (htaken : phase flow = .taken) (hfree : table.lookup key = none) :
    Agrees (table.insert key flow) queues lineup (Function.update phase flow (.promised key)) := by
  have hin : phase flow ≠ .outside := by simp [htaken]
  apply h.change_table hin (by simp) (by rw [htaken]; rfl) (table.capacity_insert key flow)
  · intro flow'
    by_cases hflow : flow' = flow
    · subst hflow
      rw [if_pos rfl, FlowTable.recordAt_insert, h.record_eq, htaken]
      rfl
    · rw [if_neg hflow, FlowTable.recordAt_insert]
  · intro key' flow'
    have hnot : table.lookup key' ≠ some flow := by
      rw [ne_eq, h.lookup_iff, htaken]
      exact fun hkey => nomatch hkey
    rw [FlowTable.lookup_insert]
    by_cases hkey : key' = key
    · subst hkey
      by_cases hflow : flow' = flow
      · simp [hflow, Phase.key]
      · simp [hflow, @eq_comm _ flow, hfree]
    · rw [if_neg hkey]
      by_cases hflow : flow' = flow
      · subst hflow
        simp [hnot, Phase.key, @eq_comm _ key, hkey]
      · rw [if_neg hflow]

/-- A slot in hand is emptied and its conversation unbound. -/
theorem clear (h : Agrees table queues lineup phase) {record : FlowRecord}
    (hphase : phase flow = .unqueued record) :
    Agrees ((table.setRecord flow none).unbind record.key flow) queues lineup
      (Function.update phase flow .taken) := by
  have hin : phase flow ≠ .outside := by simp [hphase]
  have hbound : (table.setRecord flow none).lookup record.key = some flow := by
    rw [FlowTable.lookup_setRecord, h.lookup_iff, hphase]
    rfl
  apply h.change_table hin (by simp) (by rw [hphase]; rfl) (by simp)
  · intro flow'
    rw [FlowTable.recordAt_unbind, table.recordAt_setRecord (h.lt_size hin)]
    rfl
  · intro key flow'
    rw [FlowTable.lookup_unbind _ hbound, FlowTable.lookup_setRecord]
    have hkey : ∀ flow', table.lookup record.key = some flow' ↔ flow = flow' := by
      intro flow'
      rw [FlowTable.lookup_setRecord] at hbound
      rw [hbound, Option.some_inj]
    by_cases hk : key = record.key
    · subst hk
      rw [if_pos rfl]
      by_cases hflow : flow' = flow
      · simp [hflow, Phase.key, Phase.record]
      · simp [hflow, hkey, @eq_comm _ flow]
    · rw [if_neg hk]
      by_cases hflow : flow' = flow
      · subst hflow
        rw [if_pos rfl, h.lookup_iff, hphase]
        simp [Phase.key, Phase.record, @eq_comm _ record.key, hk]
      · rw [if_neg hflow]

end Agrees

end FlowTracker
