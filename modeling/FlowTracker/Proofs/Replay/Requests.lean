import FlowTracker.Proofs.Engine.Keeps
import FlowTracker.Proofs.Map.Reordering

/-!
# Who asks for a sweep

A worker asks the manager for a sweep where it finds no spare slot, and nowhere else.  So a pass that has
a record or a spare slot for its arrival leaves an engine `Unasked`, and with room for all conversations
no packet makes a worker wait.
-/

namespace FlowTracker

open EStateM EngineM

/-- Nobody waits for an answer of the manager. -/
def Engine.Unasked (engine : Engine) : Prop := engine.wakeRequested = false

namespace Worker

open Engine

variable {worker : Worker} {arrival : Arrival} {flow : FlowId}

theorem tableFree_unasked : TableFree Unasked := by
  constructor
  intro engine engine' hunasked _ hsame
  exact hsame.trans hunasked

theorem keeps_onQueues {α : Type} (program : QueueM 1 4 α) :
    Keeps (onQueues program) Unasked fun _ => True :=
  Keeps.onQueues program fun _ _ hunasked => hunasked

theorem keeps_revisit : Keeps (worker.revisit arrival flow) Unasked (· ≠ .starved) :=
  tableFree_unasked.keeps_revisit fun _ _ => keeps_onQueues _

theorem keeps_settle : Keeps (settle arrival flow) Unasked fun _ => True :=
  tableFree_unasked.keeps_settle fun _ => keeps_onQueues _

theorem keeps_adopt : Keeps (worker.adopt arrival flow) Unasked (· ≠ .starved) := by
  refine keeps_settle.bind fun settled _ => ?_
  split
  · refine (Keeps.modify ?_).bind fun _ _ => (Keeps.modify ?_).then_pure (by simp)
    · exact fun _ hunasked => hunasked
    · exact fun _ hunasked => hunasked
  · exact (keeps_onQueues _).then_pure (by simp)

/-- A pass that starves has found neither a slot that the conversation is bound to nor a spare one. -/
theorem pass_unasked {engine engine' : Engine} {pass : Pass} (hunasked : engine.Unasked)
    (hrun : (worker.pass arrival).run engine = .ok pass engine')
    (hroom : engine.table.lookup arrival.key ≠ none
      ∨ ∃ flow queues, (QueueM.dequeue spareQueue).run engine.queues = .ok (some flow) queues) :
    pass ≠ .starved ∧ engine'.Unasked := by
  rw [Worker.pass, run_bind, run_find] at hrun
  cases hlookup : engine.table.lookup arrival.key with
  | some flow =>
    simp only [hlookup] at hrun
    exact keeps_revisit engine pass engine' hunasked hrun
  | none =>
    obtain ⟨flow, queues, hdequeue⟩ := hroom.resolve_left (not_not.2 hlookup)
    simp only [hlookup, takeSpare, run_bind, run_onQueues engine hdequeue, run_pure] at hrun
    exact keeps_adopt (engine.withQueues queues) pass engine' hunasked hrun

end Worker

/-! ### Room for all conversations -/

/-- A map that has room for the conversations of its packets and one more packet has a record or room
for this packet. -/
theorem FlowMap.Collects.has_room {map : FlowMap} {packets : List Packet} {packet : Packet}
    {arrival : Arrival} (h : map.Collects packets) (hsome : packet.arrival? = some arrival)
    (hroom : (Packet.keys (packets ++ [packet])).card ≤ map.capacity) :
    arrival.key ∈ map.flows.keys ∨ map.flows.keys.card < map.capacity := by
  by_cases hknown : arrival.key ∈ map.flows.keys
  · exact Or.inl hknown
  · right
    have hkeys : Packet.keys (packets ++ [packet]) = insert arrival.key (Packet.keys packets) := by
      rw [Packet.keys_concat, hsome, Finset.union_comm]
      rfl
    rw [h.keys_eq] at hknown ⊢
    rw [hkeys, Finset.card_insert_of_notMem hknown] at hroom
    exact hroom

namespace Engine.Simulates

variable {engine engine' : Engine} {lineup : Lineup 1 4} {phase : FlowId → Phase} {map : FlowMap}
  {worker : Worker} {arrival : Arrival} {pass : Pass}

/-- With a record or room for it an arrival asks for no sweep. -/
theorem pass_unasked (h : engine.Simulates lineup phase map) (hunasked : engine.Unasked)
    (hroom : arrival.key ∈ map.flows.keys ∨ map.flows.keys.card < map.capacity)
    (hrun : (worker.pass arrival).run engine = .ok pass engine') :
    pass ≠ .starved ∧ engine'.Unasked := by
  apply Worker.pass_unasked hunasked hrun
  rcases hroom with hknown | hless
  · left
    obtain ⟨record, hrecord⟩ := Finmap.mem_iff.1 (Finmap.mem_keys.1 hknown)
    obtain ⟨hkey, flow, hphase⟩ := (h.lookup_iff _ _).1 hrecord
    have hbound : engine.table.lookup arrival.key = some flow := by
      rw [h.rest.agrees.lookup_iff, hphase, ← hkey]
      rfl
    rw [hbound]
    exact Option.some_ne_none flow
  · right
    obtain ⟨flow, rest, hcons⟩ := List.exists_cons_of_ne_nil (h.card_lt_iff.1 hless)
    obtain ⟨-, queues, hdequeue, -⟩ := h.rest.agrees.takeSpare hcons
    exact ⟨flow, queues, hdequeue⟩

end Engine.Simulates

end FlowTracker
