import FlowTracker.Proofs.Queue.Operations
import Mathlib.Data.Fintype.Basic
import Mathlib.Logic.Function.Basic

/-!
# A family of lists

A `Lineup` is what the queues of a store mean: for each queue the list of its members, bottom first,
and the greatest length that the list has had.  A store represents a lineup (`QueueStore.Represents`)
when each queue is the chain of its list and every cell that no list mentions is unlinked.

An operation that relinks one queue moves the store from one lineup to the next
(`Represents.of_relinks`), and each operation of the store has its counterpart on lists: the `run_`
lemmas say which lineup it leads to, and that it refuses whatever its contract excludes.
-/

namespace FlowTracker

variable {m n : Nat}

/-- Queues as lists of flows, bottom first. -/
structure Lineup (m n : Nat) where
  /-- The number of flows that each arena has handles for. -/
  capacity : Fin m → Nat
  arena : Fin n → Fin m
  name : Fin n → String
  flows : Fin n → List FlowId
  /-- The greatest length that each list has had. -/
  peak : Fin n → Nat

namespace Lineup

variable (lineup : Lineup m n)

def IsQueued (arena : Fin m) (flow : FlowId) : Prop :=
  ∃ q, lineup.arena q = arena ∧ flow ∈ lineup.flows q

instance (arena : Fin m) (flow : FlowId) : Decidable (lineup.IsQueued arena flow) :=
  inferInstanceAs (Decidable (∃ q, lineup.arena q = arena ∧ flow ∈ lineup.flows q))

def place (q : Fin n) (flows : List FlowId) : Lineup m n :=
  { lineup with
    flows := Function.update lineup.flows q flows
    peak := Function.update lineup.peak q (max (lineup.peak q) flows.length) }

@[simp] theorem capacity_place (q : Fin n) (flows : List FlowId) :
    (lineup.place q flows).capacity = lineup.capacity := rfl

@[simp] theorem arena_place (q : Fin n) (flows : List FlowId) :
    (lineup.place q flows).arena = lineup.arena := rfl

@[simp] theorem name_place (q : Fin n) (flows : List FlowId) :
    (lineup.place q flows).name = lineup.name := rfl

@[simp] theorem flows_place_self (q : Fin n) (flows : List FlowId) :
    (lineup.place q flows).flows q = flows := Function.update_self ..

theorem flows_place_of_ne {q q' : Fin n} (h : q' ≠ q) (flows : List FlowId) :
    (lineup.place q flows).flows q' = lineup.flows q' := Function.update_of_ne h ..

@[simp] theorem peak_place_self (q : Fin n) (flows : List FlowId) :
    (lineup.place q flows).peak q = max (lineup.peak q) flows.length := Function.update_self ..

theorem peak_place_of_ne {q q' : Fin n} (h : q' ≠ q) (flows : List FlowId) :
    (lineup.place q flows).peak q' = lineup.peak q' := Function.update_of_ne h ..

theorem isQueued_place {q : Fin n} {flows : List FlowId} {arena : Fin m} {flow : FlowId} :
    (lineup.place q flows).IsQueued arena flow
      ↔ (lineup.arena q = arena ∧ flow ∈ flows)
        ∨ ∃ q', q' ≠ q ∧ lineup.arena q' = arena ∧ flow ∈ lineup.flows q' := by
  constructor
  · rintro ⟨q', harena, hmem⟩
    by_cases hq : q' = q
    · subst hq
      rw [flows_place_self] at hmem
      exact Or.inl ⟨harena, hmem⟩
    · rw [lineup.flows_place_of_ne hq] at hmem
      exact Or.inr ⟨q', hq, harena, hmem⟩
  · rintro (⟨harena, hmem⟩ | ⟨q', hq, harena, hmem⟩)
    · exact ⟨q, harena, by rwa [flows_place_self]⟩
    · exact ⟨q', harena, by rwa [lineup.flows_place_of_ne hq]⟩

end Lineup

/-! ### Stores that represent a lineup -/

/-- The queues of the store are the lists of the lineup, and no other flow is linked. -/
structure QueueStore.Represents (store : QueueStore m n) (lineup : Lineup m n) : Prop where
  capacity_eq : ∀ arena, store.capacity arena = lineup.capacity arena
  arena_eq : ∀ q, (store.queue q).arena = lineup.arena q
  name_eq : ∀ q, (store.queue q).name = lineup.name q
  peak_eq : ∀ q, (store.queue q).maxLength = lineup.peak q
  length_le_peak : ∀ q, (lineup.flows q).length ≤ lineup.peak q
  chain : ∀ q, store.IsChain q (lineup.flows q)
  unlinked : ∀ arena flow, flow < lineup.capacity arena → ¬ lineup.IsQueued arena flow →
    store.cell? arena flow = some .unlinked

namespace QueueStore.Represents

variable {store store' : QueueStore m n} {lineup : Lineup m n} {q q' : Fin n} {flow : FlowId}

/-- A flow that a queue has is owned by that queue. -/
theorem cell_of_mem (h : store.Represents lineup) (hmem : flow ∈ lineup.flows q) :
    ∃ links, store.cell? (lineup.arena q) flow = some links ∧ links.owner = some q.val := by
  rw [← h.arena_eq]
  exact (h.chain q).exists_cell hmem

theorem lt_capacity_of_mem (h : store.Represents lineup) (hmem : flow ∈ lineup.flows q) :
    flow < lineup.capacity (lineup.arena q) := by
  obtain ⟨links, hcell, -⟩ := h.cell_of_mem hmem
  rw [← h.capacity_eq]
  exact lt_capacity_of_cell? hcell

/-- Over one arena, no flow is in two queues. -/
theorem eq_of_mem (h : store.Represents lineup) (harena : lineup.arena q = lineup.arena q')
    (hmem : flow ∈ lineup.flows q) (hmem' : flow ∈ lineup.flows q') : q = q' := by
  obtain ⟨links, hcell, howner⟩ := h.cell_of_mem hmem
  obtain ⟨links', hcell', howner'⟩ := h.cell_of_mem hmem'
  rw [harena, hcell'] at hcell
  obtain rfl := Option.some.inj hcell
  rw [howner'] at howner
  exact Fin.ext (Option.some.inj howner).symm

/-- The owner of a cell tells whether the flow is in a queue. -/
theorem owner_isNone (h : store.Represents lineup) {arena : Fin m} {links : Links}
    (hcell : store.cell? arena flow = some links) :
    links.owner = none ↔ ¬ lineup.IsQueued arena flow := by
  constructor
  · rintro hnone ⟨q, rfl, hmem⟩
    obtain ⟨links', hcell', howner⟩ := h.cell_of_mem hmem
    rw [hcell] at hcell'
    obtain rfl := Option.some.inj hcell'
    rw [hnone] at howner
    cases howner
  · intro hout
    have hlt := lt_capacity_of_cell? hcell
    rw [h.capacity_eq] at hlt
    rw [h.unlinked arena flow hlt hout] at hcell
    obtain rfl := Option.some.inj hcell
    rfl

theorem owner_eq_some (h : store.Represents lineup) {links : Links}
    (hcell : store.cell? (lineup.arena q) flow = some links) :
    links.owner = some q.val ↔ flow ∈ lineup.flows q := by
  constructor
  · intro howner
    by_cases hqueued : lineup.IsQueued (lineup.arena q) flow
    · obtain ⟨q', harena, hmem⟩ := hqueued
      obtain ⟨links', hcell', howner'⟩ := h.cell_of_mem hmem
      rw [harena, hcell] at hcell'
      obtain rfl := Option.some.inj hcell'
      rw [howner] at howner'
      obtain rfl : q = q' := Fin.ext (Option.some.inj howner')
      exact hmem
    · rw [(h.owner_isNone hcell).2 hqueued] at howner
      cases howner
  · intro hmem
    obtain ⟨links', hcell', howner⟩ := h.cell_of_mem hmem
    rw [hcell] at hcell'
    obtain rfl := Option.some.inj hcell'
    exact howner

/-- Relinking one queue with flows of its own, or of no queue, leads to the lineup with that queue's
new members. -/
theorem of_relinks (h : store.Represents lineup) {flows : List FlowId}
    (hrelinks : store.Relinks q (lineup.flows q) flows store')
    (hown : ∀ flow ∈ flows, flow ∈ lineup.flows q ∨ ¬ lineup.IsQueued (lineup.arena q) flow) :
    store'.Represents (lineup.place q flows) := by
  have harena : (store.queue q).arena = lineup.arena q := h.arena_eq q
  refine ⟨?_, ?_, ?_, ?_, ?_, ?_, ?_⟩
  · intro arena
    rw [hrelinks.capacity_eq, h.capacity_eq, Lineup.capacity_place]
  · intro q'
    by_cases hq : q' = q
    · subst hq
      rw [hrelinks.arena_eq, h.arena_eq, Lineup.arena_place]
    · rw [hrelinks.queue_other q' hq, h.arena_eq, Lineup.arena_place]
  · intro q'
    by_cases hq : q' = q
    · subst hq
      rw [hrelinks.name_eq, h.name_eq, Lineup.name_place]
    · rw [hrelinks.queue_other q' hq, h.name_eq, Lineup.name_place]
  · intro q'
    by_cases hq : q' = q
    · subst hq
      rw [hrelinks.peak_eq, h.peak_eq, Lineup.peak_place_self]
    · rw [hrelinks.queue_other q' hq, h.peak_eq, lineup.peak_place_of_ne hq]
  · intro q'
    by_cases hq : q' = q
    · subst hq
      rw [Lineup.flows_place_self, Lineup.peak_place_self]
      exact Nat.le_max_right ..
    · rw [lineup.flows_place_of_ne hq, lineup.peak_place_of_ne hq]
      exact h.length_le_peak q'
  · intro q'
    by_cases hq : q' = q
    · subst hq
      rw [Lineup.flows_place_self]
      exact hrelinks.chain
    · rw [lineup.flows_place_of_ne hq]
      apply (h.chain q').congr (hrelinks.queue_other q' hq)
      intro flow hmem
      apply hrelinks.cell_other
      -- a member of another queue is none of the flows that were relinked
      rintro ⟨hsame, hmem'⟩
      rw [h.arena_eq, harena] at hsame
      rcases hmem' with hmem' | hmem'
      · exact hq (h.eq_of_mem hsame hmem hmem')
      · rcases hown flow hmem' with hmem' | hout
        · exact hq (h.eq_of_mem hsame hmem hmem')
        · exact hout ⟨q', hsame, hmem⟩
  · intro arena flow hlt hout
    rw [Lineup.isQueued_place] at hout
    by_cases hmem : lineup.arena q = arena ∧ flow ∈ lineup.flows q
    · obtain ⟨rfl, hmem⟩ := hmem
      have hleft := hrelinks.cell_left flow hmem fun hmem' => hout (Or.inl ⟨rfl, hmem'⟩)
      rwa [harena] at hleft
    · rw [hrelinks.cell_other]
      · apply h.unlinked arena flow hlt
        rintro ⟨q', harena', hmem'⟩
        by_cases hq : q' = q
        · exact hmem ⟨hq ▸ harena', hq ▸ hmem'⟩
        · exact hout (Or.inr ⟨q', hq, harena', hmem'⟩)
      · rintro ⟨hsame, hmem'⟩
        rw [harena] at hsame
        rcases hmem' with hmem' | hmem'
        · exact hmem ⟨hsame.symm, hmem'⟩
        · exact hout (Or.inl ⟨hsame.symm, hmem'⟩)

end QueueStore.Represents

end FlowTracker
