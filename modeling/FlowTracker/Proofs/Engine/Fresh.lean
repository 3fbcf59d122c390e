import FlowTracker.Proofs.Engine.Process
import FlowTracker.Proofs.Queue.Behaviour

/-!
# A fresh engine is at rest

The four queues are built over one arena, and every slot is put into the spare queue.
-/

namespace FlowTracker.Engine

open EStateM

def freshPhase (capacity : Nat) (flow : FlowId) : Phase :=
  if flow < capacity then .spare else .outside

@[simp] theorem record_freshPhase (capacity : Nat) (flow : FlowId) :
    (freshPhase capacity flow).record = none := by
  unfold freshPhase
  split <;> rfl

theorem freshPhase_ne_tracked (capacity : Nat) (flow : FlowId) (record : FlowRecord) :
    freshPhase capacity flow ≠ .tracked record := by
  unfold freshPhase
  split <;> exact nofun

section

variable {engine : Engine} {lineup : Lineup 1 4} {capacity : Nat}

theorem AtRest.spare_perm (h : engine.AtRest lineup (freshPhase capacity)) :
    (lineup.flows spareQueue).Perm (List.range capacity) := by
  have hnodup := (h.agrees.represents.chain spareQueue).nodup
  rw [List.perm_ext_iff_of_nodup hnodup List.nodup_range]
  intro flow
  rw [h.agrees.mem_iff, Phase.queue_eq_spare_iff, List.mem_range, freshPhase]
  simp

theorem AtRest.lookup_fresh (h : engine.AtRest lineup (freshPhase capacity)) (key : FlowKey) :
    engine.table.lookup key = none := by
  rw [Option.eq_none_iff_forall_ne_some]
  intro flow hlookup
  have hkey := (h.agrees.lookup_iff ..).1 hlookup
  unfold freshPhase at hkey
  split at hkey <;> cases hkey

end

theorem fillSpare_run (flows : List FlowId) {queues : QueueStore 1 4} {lineup : Lineup 1 4}
    (h : queues.Represents lineup) (hnodup : flows.Nodup)
    (hlt : ∀ flow ∈ flows, flow < lineup.capacity flowArena)
    (hfree : ∀ flow ∈ flows, ∀ q, flow ∉ lineup.flows q) :
    ∃ queues' lineup', (fillSpare flows).run queues = .ok () queues'
      ∧ queues'.Represents lineup' ∧ lineup'.capacity = lineup.capacity
      ∧ lineup'.flows spareQueue = lineup.flows spareQueue ++ flows
      ∧ ∀ q, q ≠ spareQueue → lineup'.flows q = lineup.flows q := by
  induction flows generalizing queues lineup with
  | nil => exact ⟨queues, lineup, rfl, h, rfl, (List.append_nil _).symm, fun _ _ => rfl⟩
  | cons flow flows ih =>
    obtain ⟨hnot, hnodup⟩ := List.nodup_cons.1 hnodup
    have hout : ¬ lineup.IsQueued (lineup.arena spareQueue) flow := by
      rintro ⟨q, -, hmem⟩
      exact hfree flow List.mem_cons_self q hmem
    have harena : lineup.arena spareQueue = flowArena := Subsingleton.elim ..
    obtain ⟨queues', hrun, h'⟩ := h.enqueue
      (harena ▸ hlt flow List.mem_cons_self) hout
    obtain ⟨queues'', lineup'', hrun', h'', hcapacity, hspare, hother⟩ := ih h' hnodup
      (fun flow' hmem => hlt flow' (List.mem_cons_of_mem _ hmem)) (by
        intro flow' hmem q
        by_cases hq : q = spareQueue
        · subst hq
          rw [Lineup.enqueue, Lineup.flows_place_self, List.mem_append, List.mem_singleton]
          rintro (hmem' | rfl)
          · exact hfree flow' (List.mem_cons_of_mem _ hmem) _ hmem'
          · exact hnot hmem
        · rw [Lineup.enqueue, Lineup.flows_place_of_ne _ hq]
          exact hfree flow' (List.mem_cons_of_mem _ hmem) q)
    refine ⟨queues'', lineup'', ?_, h'', hcapacity, ?_, ?_⟩
    · simp only [fillSpare, run_bind, hrun, hrun']
    · rw [hspare, Lineup.enqueue, Lineup.flows_place_self, List.append_assoc, List.singleton_append]
    · intro q hq
      rw [hother q hq, Lineup.enqueue, Lineup.flows_place_of_ne _ hq]

theorem freshQueues_built {capacity : Nat} (h : capacity < QueueStore.handleLimit) :
    ∃ queues, freshQueues capacity = .ok queues ∧ queues.Built
      ∧ queues.capacity flowArena = capacity := by
  obtain ⟨arena, harena⟩ : ∃ arena, QueueStore.empty.addArena capacity = .ok arena :=
    ⟨_, if_pos h⟩
  have hbuilt := (((((QueueStore.Built.empty.addArena capacity harena).addQueue "new" 0).addQueue
    "established" 0).addQueue "closed" 0).addQueue "spare" 0)
  refine ⟨_, ?_, hbuilt, ?_⟩
  · unfold freshQueues
    rw [harena]
    rfl
  · unfold QueueStore.addArena at harena
    rw [if_pos h] at harena
    obtain rfl := Except.ok.inj harena
    show (#v[].push (Array.replicate capacity Links.unlinked))[0].size = capacity
    simp

/-- A fresh engine of any capacity that has handles is at rest, and every slot of it is spare. -/
theorem fresh_atRest {capacity : Nat} (h : capacity < QueueStore.handleLimit) :
    ∃ engine lineup, fresh capacity = .ok engine
      ∧ engine.AtRest lineup (freshPhase capacity) ∧ engine.table.capacity = capacity
      ∧ engine.clock = 0 ∧ engine.totals = .zero ∧ engine.exported = #[] := by
  obtain ⟨queues, hfresh, hbuilt, hcapacity⟩ := freshQueues_built h
  have hvacant := hbuilt.isVacant.represents
  obtain ⟨queues', lineup, hrun, hrepresents, hsame, hspare, hother⟩ :=
    fillSpare_run (List.range capacity) hvacant List.nodup_range
      (fun flow hmem => by
        show flow < queues.capacity flowArena
        rw [hcapacity]
        exact List.mem_range.1 hmem)
      (fun flow _ q => List.not_mem_nil)
  have hflows : queues.flows flowArena = List.range capacity := by
    rw [QueueStore.flows, hcapacity]
  have hmem : ∀ flow q, flow ∈ lineup.flows q ↔ flow < capacity ∧ q = spareQueue := by
    intro flow q
    by_cases hq : q = spareQueue
    · subst hq
      rw [hspare]
      show flow ∈ [] ++ List.range capacity ↔ _
      simp
    · rw [hother q hq]
      show flow ∈ [] ↔ _
      simp [hq]
  refine ⟨⟨.ofCapacity capacity, queues', 0, .zero, false, #[], #[]⟩, lineup, ?_, ?_, ?_, rfl, rfl,
    rfl⟩
  · unfold EStateM.run at hrun
    unfold fresh
    rw [hfresh, bind_ok, hflows, hrun]
    rfl
  · have hsize : (FlowTable.ofCapacity capacity).capacity = capacity := Array.size_replicate
    refine ⟨⟨hrepresents, ?_, ?_, ?_, ?_, ?_⟩, ?_, ?_, ?_⟩
    · rw [hsame, hsize]
      exact hcapacity
    · intro flow
      rw [hsize, freshPhase]
      by_cases hlt : flow < capacity <;> simp [hlt]
    · intro flow q
      rw [hmem, freshPhase]
      by_cases hlt : flow < capacity <;> simp [hlt, Phase.queue, @eq_comm _ q]
    · intro flow
      unfold FlowTable.recordAt FlowTable.ofCapacity freshPhase
      rw [Array.getElem?_replicate]
      split <;> rfl
    · intro key flow
      have hempty : (FlowTable.ofCapacity capacity).lookup key = none :=
        Std.HashMap.getElem?_empty
      rw [hempty, freshPhase]
      split <;> simp [Phase.key, Phase.record]
    · intro flow
      unfold freshPhase
      split <;> trivial
    · intro flow _
      unfold FlowTable.heldAt FlowTable.ofCapacity
      rw [Array.getElem?_replicate]
      split <;> rfl
    · intro flow record hrecord
      unfold freshPhase at hrecord
      split at hrecord <;> cases hrecord
  · exact Array.size_replicate

end FlowTracker.Engine
