import FlowTracker.Proofs.Engine.Consistency

/-!
# What is left when the queues are torn down

A queue that still has flows when it is torn down is warned of.  After a flush among no holders every
slot is spare, so the three lifecycle queues are empty; but the spare queue has all the slots, and nobody
drains it.  So each run that ends with a flush warns of the spare queue, and of no other.
-/

namespace FlowTracker

/-- A warning for each of some queues that has flows. -/
def QueueStore.leftovers {m n : Nat} (store : QueueStore m n) (qs : List (Fin n)) : List Event :=
  (qs.filter fun q => (store.queue q).length ≠ 0).map fun q =>
    .queueDestroyedNonEmpty (store.queue q).name (store.queue q).length

theorem QueueStore.warnings_destroyEvents {m n : Nat} (store : QueueStore m n) (qs : List (Fin n)) :
    (qs.flatMap store.destroyEvents).filter (fun event => event.level = .warn)
      = store.leftovers qs := by
  induction qs with
  | nil => rfl
  | cons q qs ih =>
    rw [List.flatMap_cons, List.filter_append, ih]
    unfold destroyEvents leftovers
    by_cases hempty : (store.queue q).length = 0
    · simp [hempty, Event.level]
    · simp [hempty, Event.level]

namespace Engine

variable {engine : Engine} {busy : FlowId → Bool} {lineup : Lineup 1 4} {phase : FlowId → Phase}

theorem warnings_destroyEvents (engine : Engine) :
    engine.destroyEvents.filter (fun event => event.level = .warn)
      = engine.queues.leftovers (FlowState.all.map FlowState.queue ++ [spareQueue]) := by
  have hqueues : FlowState.all.map FlowState.queue ++ [spareQueue]
      = ([0, 1, 2, 3] : List QueueIndex) := by decide
  rw [destroyEvents, List.filter_append, engine.queues.warnings_destroyEvents, hqueues]
  simp [Event.level]

namespace AmongHolders

/-- Where no slot tracks a record, all of them are spare. -/
theorem all_spare (h : engine.AmongHolders busy lineup phase)
    (hnone : ∀ flow record, phase flow ≠ .tracked record) :
    (∀ state : FlowState, lineup.flows state.queue = [])
      ∧ (lineup.flows spareQueue).Perm (List.range engine.table.capacity) := by
  have hempty : ∀ state : FlowState, lineup.flows state.queue = [] := by
    intro state
    apply List.eq_nil_iff_forall_not_mem.2
    intro flow hmem
    obtain ⟨record, hphase, -⟩ := h.tracked_of_mem hmem
    exact hnone flow record hphase
  refine ⟨hempty, ?_⟩
  have hmembers : members lineup FlowState.all = [] :=
    List.flatMap_eq_nil_iff.2 fun state _ => hempty state
  have hperm := h.perm_range
  rwa [hmembers, List.append_nil] at hperm

/-- A flush among no holders leaves no record in a slot, whatever becomes of the exporter. -/
theorem flush_untracks (h : engine.AtRest lineup phase) (manager : Manager) :
    ∃ lineup' phase', (engine.perform (.flush manager fun _ => false)).AtRest lineup' phase'
      ∧ Phase.SameSlots phase phase' ∧ ∀ flow record, phase' flow ≠ .tracked record := by
  have hheld := h.withHolders fun _ => false
  obtain ⟨engine', lineup', phase', h', ⟨rfl, -⟩, hrun⟩ :=
    hheld.run_sweeping manager .shutdown (Or.inr ⟨rfl, rfl⟩)
  have hperform : engine.perform (.flush manager fun _ => false) = _ :=
    perform_eq (hrun.imp_right fun hstop => ⟨_, hstop.1⟩)
  rw [hperform]
  refine ⟨lineup', _, h'.withHolders _, hheld.swept_inside, ?_⟩
  intro flow record hphase
  unfold Phase.spared at hphase
  split at hphase
  · cases hphase
  · rename_i hnot
    -- A shutdown sweep takes every record that nobody holds.
    apply hnot
    rw [hheld.mem_swept_iff, Manager.takes, hphase]
    rfl

end AmongHolders

/-- Whatever packets, sweeps and flushes an engine has seen, after a flush among no holders its lifecycle
queues are empty and the spare queue has every slot; the teardown that follows warns of the spare queue
and of no other. -/
theorem flush_teardown {capacity : Nat} (hpos : 0 < capacity)
    (h : capacity < QueueStore.handleLimit) (calls : List EngineCall) (manager : Manager) :
    ∃ engine flows, fresh capacity = .ok engine ∧
      let ended := engine.performAll (calls ++ [.flush manager fun _ => false])
      ended.Consistent capacity flows ∧
      (∀ state : FlowState, flows state.queue = []) ∧
      (flows spareQueue).Perm (List.range capacity) ∧
      ended.destroyEvents.filter (fun event => event.level = .warn)
        = [.queueDestroyedNonEmpty (ended.queues.queue spareQueue).name capacity] := by
  obtain ⟨engine, lineup, hfresh, hrest, hcapacity, -⟩ := fresh_atRest h
  obtain ⟨lineup₁, phase₁, h₁, hsame₁⟩ := hrest.performAll calls
  obtain ⟨lineup₂, phase₂, h₂, hsame₂, hnone⟩ := h₁.flush_untracks manager
  have hended : engine.performAll (calls ++ [.flush manager fun _ => false])
      = (engine.performAll calls).perform (.flush manager fun _ => false) := List.foldl_append
  have hsize := (hrest.agrees.capacity_congr h₂.agrees (hsame₁.trans hsame₂)).trans hcapacity
  obtain ⟨hempty, hperm⟩ := h₂.all_spare hnone
  rw [hsize] at hperm
  refine ⟨engine, lineup₂.flows, hfresh, ?_⟩
  rw [hended]
  refine ⟨h₂.consistent hsize, hempty, hperm, ?_⟩
  generalize (engine.performAll calls).perform (.flush manager fun _ => false) = ended at h₂
  have hlength := fun q => (h₂.agrees.represents.chain q).length_eq
  have hspare : (ended.queues.queue spareQueue).length = capacity := by
    rw [hlength, hperm.length_eq, List.length_range]
  have hdrained : (FlowState.all.map FlowState.queue).filter
      (fun q => (ended.queues.queue q).length ≠ 0) = [] := by
    apply List.filter_eq_nil_iff.2
    intro q hmem
    obtain ⟨state, -, rfl⟩ := List.mem_map.1 hmem
    rw [hlength, hempty]
    decide
  rw [warnings_destroyEvents, QueueStore.leftovers, List.filter_append, hdrained, List.nil_append,
    List.filter_cons_of_pos, List.filter_nil, List.map_singleton, hspare]
  rw [hspare, decide_eq_true_iff]
  exact Nat.ne_of_gt hpos

/-- Three slots after two packets of a flow and a sweep that meets the flow held; the exporter gives up
at the first flow that it is handed. -/
theorem flush_teardown_of_three :
    let manager : Manager := ⟨⟨⟨5, 0⟩, ⟨5, 0⟩, ⟨5, 0⟩⟩, ⟨some 0, none⟩⟩
    let calls : List EngineCall := [.process ⟨0⟩ (.bareAt 1), .process ⟨0⟩ (.bareAt 9),
      .sweep manager .timeout fun flow => flow == 0]
    ∃ engine, ∃ flows : QueueIndex → List FlowId, fresh 3 = .ok engine ∧
      let ended := engine.performAll (calls ++ [.flush manager fun _ => false])
      (∀ state : FlowState, flows state.queue = []) ∧ (flows spareQueue).Perm [0, 1, 2] ∧
      ended.destroyEvents.filter (fun event => event.level = .warn)
        = [.queueDestroyedNonEmpty (ended.queues.queue spareQueue).name 3] := by
  intro manager calls
  obtain ⟨engine, flows, hfresh, -, hempty, hperm, hwarnings⟩ :=
    flush_teardown (by decide : 0 < 3) (by decide) calls manager
  exact ⟨engine, flows, hfresh, hempty, hperm, hwarnings⟩

/-- One slot and nothing but a flush. -/
theorem teardown_warns_of_spare :
    ∃ engine, fresh 1 = .ok engine ∧ .queueDestroyedNonEmpty "spare" 1 ∈ (engine.performAll
      [.flush ⟨⟨⟨5, 0⟩, ⟨5, 0⟩, ⟨5, 0⟩⟩, .reliable⟩ fun _ => false]).destroyEvents := by
  have hwarns : (fresh 1).toOption.any (fun engine => .queueDestroyedNonEmpty "spare" 1
      ∈ (engine.performAll
        [.flush ⟨⟨⟨5, 0⟩, ⟨5, 0⟩, ⟨5, 0⟩⟩, .reliable⟩ fun _ => false]).destroyEvents) = true := by
    decide +kernel
  cases hfresh : fresh 1 with
  | error fault =>
    rw [hfresh] at hwarns
    cases hwarns
  | ok engine =>
    rw [hfresh] at hwarns
    exact ⟨engine, rfl, of_decide_eq_true hwarns⟩

end Engine

end FlowTracker
