import FlowTracker.Proofs.Engine.Sweep
import Mathlib.Data.List.Nodup
import Mathlib.Data.List.Perm.Basic
import Mathlib.Data.List.Range

/-!
# Counting slots

On an engine at rest the slots are the members of the four queues, each of them once, and the bound
conversations are those of the tracked slots.  So the number of tracked flows, the number of bindings
and the number of slots that are not spare are the same.
-/

namespace FlowTracker.Engine.AmongHolders

variable {engine : Engine} {busy : FlowId → Bool} {lineup : Lineup 1 4} {phase : FlowId → Phase}
  {flow : FlowId}

theorem mem_members_iff (h : engine.AmongHolders busy lineup phase) :
    flow ∈ members lineup FlowState.all ↔ ∃ record, phase flow = .tracked record := by
  constructor
  · intro hmem
    obtain ⟨state, -, hmem⟩ := List.mem_flatMap.1 hmem
    obtain ⟨record, hphase, -⟩ := h.tracked_of_mem hmem
    exact ⟨record, hphase⟩
  · rintro ⟨record, hphase⟩
    apply List.mem_flatMap.2
    refine ⟨record.state, by cases record.state <;> decide, ?_⟩
    rw [h.agrees.mem_iff, hphase]
    rfl

theorem mem_swept_iff (h : engine.AmongHolders busy lineup phase) {manager : Manager}
    {reason : ReleaseReason} {clock : PacketClock} :
    flow ∈ swept manager reason clock busy lineup phase
      ↔ manager.takes reason clock busy phase flow = true := by
  rw [swept, List.mem_filter]
  constructor
  · exact And.right
  · intro htakes
    refine ⟨?_, htakes⟩
    rw [Manager.takes, Bool.and_eq_true] at htakes
    obtain ⟨record, hrecord⟩ := Option.isSome_iff_exists.1 (Option.isSome_of_any htakes.2)
    exact h.mem_members_iff.2 ⟨record, (h.settled flow).eq_tracked hrecord⟩

theorem mem_spare_iff (h : engine.AmongHolders busy lineup phase) :
    flow ∈ lineup.flows spareQueue ↔ phase flow = .spare := by
  rw [h.agrees.mem_iff, Phase.queue_eq_spare_iff]

theorem nodup_members (h : engine.AmongHolders busy lineup phase) :
    (members lineup FlowState.all).Nodup := by
  apply List.nodup_flatMap.2
  refine ⟨fun state _ => (h.agrees.represents.chain state.queue).nodup, ?_⟩
  apply List.Pairwise.imp _ (by decide : FlowState.all.Pairwise (· ≠ ·))
  intro state state' hne flow hmem hmem'
  have hq := (h.agrees.mem_iff ..).1 hmem
  rw [(h.agrees.mem_iff ..).1 hmem'] at hq
  exact hne (FlowState.queue_injective (Option.some.inj hq).symm)

/-- Every slot is spare or a member of the queue of a state, and not both. -/
theorem perm_range (h : engine.AmongHolders busy lineup phase) :
    (lineup.flows spareQueue ++ members lineup FlowState.all).Perm
      (List.range engine.table.capacity) := by
  apply (List.perm_ext_iff_of_nodup _ List.nodup_range).2
  · intro flow
    rw [List.mem_append, h.mem_spare_iff, h.mem_members_iff, List.mem_range, ← h.agrees.inside_iff]
    have hsettled := h.settled flow
    cases hphase : phase flow <;> rw [hphase] at hsettled <;> simp_all [Phase.IsSettled]
  · apply List.nodup_append'.2
    refine ⟨(h.agrees.represents.chain spareQueue).nodup, h.nodup_members, ?_⟩
    intro flow hspare hmem
    obtain ⟨record, hphase⟩ := h.mem_members_iff.1 hmem
    rw [h.mem_spare_iff, hphase] at hspare
    cases hspare

theorem length_spare_add (h : engine.AmongHolders busy lineup phase) :
    (lineup.flows spareQueue).length + (members lineup FlowState.all).length
      = engine.table.capacity := by
  rw [← List.length_append, h.perm_range.length_eq, List.length_range]

theorem tracked_eq (h : engine.AmongHolders busy lineup phase) :
    engine.tracked = (members lineup FlowState.all).length := by
  have hlength : ∀ state : FlowState, (engine.queues.queue state.queue).length
      = (lineup.flows state.queue).length :=
    fun state => (h.agrees.represents.chain state.queue).length_eq
  simp [tracked, members, FlowState.all, hlength, Nat.add_assoc]

/-- The bound conversations are those of the tracked slots. -/
theorem activeCount_eq (h : engine.AmongHolders busy lineup phase) :
    engine.table.activeCount = (members lineup FlowState.all).length := by
  have hkeys : ∀ key ∈ engine.table.bindings.keys, ∃ flow,
      engine.table.lookup key = some flow := by
    intro key hmem
    rw [Std.HashMap.mem_keys, ← Std.HashMap.isSome_getElem?_iff_mem] at hmem
    exact Option.isSome_iff_exists.1 hmem
  have hperm : (engine.table.bindings.keys.map fun key => (engine.table.lookup key).getD 0).Perm
      (members lineup FlowState.all) := by
    apply (List.perm_ext_iff_of_nodup _ h.nodup_members).2
    · intro flow
      rw [h.mem_members_iff, List.mem_map]
      constructor
      · rintro ⟨key, hmem, hflow⟩
        obtain ⟨flow', hlookup⟩ := hkeys key hmem
        rw [hlookup, Option.getD_some] at hflow
        obtain ⟨record, hphase, -⟩ := h.tracked_of_lookup hlookup
        exact ⟨record, hflow ▸ hphase⟩
      · rintro ⟨record, hphase⟩
        have hlookup : engine.table.lookup record.key = some flow := by
          rw [h.agrees.lookup_iff, hphase]
          rfl
        refine ⟨record.key, ?_, by rw [hlookup, Option.getD_some]⟩
        rw [Std.HashMap.mem_keys, ← Std.HashMap.isSome_getElem?_iff_mem]
        exact Option.isSome_iff_exists.2 ⟨flow, hlookup⟩
    · apply List.Nodup.map_on
      · intro key hmem key' hmem' hsame
        obtain ⟨flow, hlookup⟩ := hkeys key hmem
        obtain ⟨flow', hlookup'⟩ := hkeys key' hmem'
        rw [hlookup, hlookup', Option.getD_some, Option.getD_some] at hsame
        have hkey := (h.agrees.lookup_iff ..).1 hlookup
        rw [hsame, (h.agrees.lookup_iff ..).1 hlookup'] at hkey
        exact (Option.some.inj hkey).symm
      · exact (Std.HashMap.distinct_keys).imp fun hne => by simpa using hne
  rw [← hperm.length_eq, List.length_map, Std.HashMap.length_keys]
  rfl

end FlowTracker.Engine.AmongHolders
