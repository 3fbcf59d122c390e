import FlowTracker.Proofs.Queue.Lineup

/-!
# Operations on lists

Every operation of a queue store has a counterpart on lists, and on a store that represents a lineup it
does what the counterpart says.  The lemmas come in pairs: within its contract an operation comes to
its end in a store that represents the next lineup, outside of it the operation stops with the fault
that names the broken contract, in the store that it started from.
-/

namespace FlowTracker

variable {m n : Nat}

namespace Lineup

variable (lineup : Lineup m n)

/-! ### The counterparts -/

def enqueue (q : Fin n) (flow : FlowId) : Lineup m n := lineup.place q (lineup.flows q ++ [flow])

def append (q : Fin n) (flow : FlowId) : Lineup m n := lineup.place q (flow :: lineup.flows q)

def dequeue (q : Fin n) : Lineup m n := lineup.place q (lineup.flows q).tail

def detach (q : Fin n) (flow : FlowId) : Lineup m n := lineup.place q ((lineup.flows q).erase flow)

def rotate (q : Fin n) : Lineup m n :=
  lineup.place q ((lineup.flows q).tail ++ (lineup.flows q).head?.toList)

/-- Removes a flow from one list and adds it to another as the first element. -/
def transfer (source target : Fin n) (flow : FlowId) : Lineup m n :=
  (lineup.detach source flow).append target flow

/-! ### The contracts -/

/-- What an insertion into `q` stops with.  A flow that is in a queue is refused as `linked`. -/
def refuseInsert (q : Fin n) (flow : FlowId) (linked : Fault) : Option Fault :=
  if lineup.capacity (lineup.arena q) ≤ flow then
    some (.outOfBounds (lineup.capacity (lineup.arena q)) flow)
  else if lineup.IsQueued (lineup.arena q) flow then some linked
  else none

def refuseRemove (q : Fin n) (flow : FlowId) : Option Fault :=
  if lineup.capacity (lineup.arena q) ≤ flow then
    some (.outOfBounds (lineup.capacity (lineup.arena q)) flow)
  else if flow ∈ lineup.flows q then none
  else some (.notMember flow (lineup.name q))

def refuseTransfer (source target : Fin n) (flow : FlowId) : Option Fault :=
  if lineup.arena source = lineup.arena target then lineup.refuseRemove source flow
  else some (.foreignArena (lineup.name source) (lineup.name target))

variable {lineup}

theorem refuseInsert_eq_none_iff {q : Fin n} {flow : FlowId} {linked : Fault} :
    lineup.refuseInsert q flow linked = none
      ↔ flow < lineup.capacity (lineup.arena q) ∧ ¬ lineup.IsQueued (lineup.arena q) flow := by
  unfold refuseInsert
  split
  · simp only [reduceCtorEq, false_iff]
    exact fun h => absurd h.1 (Nat.not_lt.2 ‹_›)
  · split <;> simp_all

theorem refuseRemove_eq_none_iff {q : Fin n} {flow : FlowId} :
    lineup.refuseRemove q flow = none
      ↔ flow < lineup.capacity (lineup.arena q) ∧ flow ∈ lineup.flows q := by
  unfold refuseRemove
  split
  · simp only [reduceCtorEq, false_iff]
    exact fun h => absurd h.1 (Nat.not_lt.2 ‹_›)
  · split <;> simp_all

theorem refuseTransfer_eq_none_iff {source target : Fin n} {flow : FlowId} :
    lineup.refuseTransfer source target flow = none
      ↔ lineup.arena source = lineup.arena target
        ∧ flow < lineup.capacity (lineup.arena source) ∧ flow ∈ lineup.flows source := by
  unfold refuseTransfer
  split
  · rw [refuseRemove_eq_none_iff]
    tauto
  · simp_all

/-! ### Repeated changes of one list -/

theorem place_flows (q : Fin n) (h : (lineup.flows q).length ≤ lineup.peak q) :
    lineup.place q (lineup.flows q) = lineup := by
  unfold place
  rw [Nat.max_eq_left h, Function.update_eq_self, Function.update_eq_self]

theorem place_place (q : Fin n) (flows flows' : List FlowId)
    (h : flows.length ≤ max (lineup.peak q) flows'.length) :
    (lineup.place q flows).place q flows' = lineup.place q flows' := by
  have hpeak : max (max (lineup.peak q) flows.length) flows'.length
      = max (lineup.peak q) flows'.length := by omega
  unfold place
  simp only [Function.update_idem, Function.update_self, hpeak]

end Lineup

/-! ### Operations of the store -/

namespace QueueStore.Represents

open QueueM

variable {store : QueueStore m n} {lineup : Lineup m n} {q source target : Fin n} {flow : FlowId}

theorem exists_cell (h : store.Represents lineup) {arena : Fin m}
    (hlt : flow < lineup.capacity arena) : ∃ links, store.cell? arena flow = some links := by
  rw [← h.capacity_eq] at hlt
  exact lt_capacity_iff.1 hlt

/-- What a flow in no queue may be linked into. -/
theorem free_cell (h : store.Represents lineup) (hlt : flow < lineup.capacity (lineup.arena q))
    (hout : ¬ lineup.IsQueued (lineup.arena q) flow) :
    store.cell? (store.queue q).arena flow = some .unlinked := by
  rw [h.arena_eq]
  exact h.unlinked _ flow hlt hout

theorem enqueue (h : store.Represents lineup) (hlt : flow < lineup.capacity (lineup.arena q))
    (hout : ¬ lineup.IsQueued (lineup.arena q) flow) :
    ∃ store', (QueueM.enqueue q flow).run store = .ok () store'
      ∧ store'.Represents (lineup.enqueue q flow) := by
  have hcell := h.free_cell hlt hout
  have hnot : flow ∉ lineup.flows q := fun hmem => hout ⟨q, rfl, hmem⟩
  refine ⟨_, run_enqueue (h.chain q) hcell rfl, ?_⟩
  have hrelinks := relinks_link (lineup.flows q) [] (by simpa using h.chain q) hcell
    (by simpa using hnot)
  rw [List.append_nil] at hrelinks
  apply h.of_relinks hrelinks
  intro x hx
  rcases List.mem_append.1 hx with hx | hx
  · exact Or.inl hx
  · exact Or.inr (List.mem_singleton.1 hx ▸ hout)

theorem append (h : store.Represents lineup) (hlt : flow < lineup.capacity (lineup.arena q))
    (hout : ¬ lineup.IsQueued (lineup.arena q) flow) :
    ∃ store', (QueueM.append q flow).run store = .ok () store'
      ∧ store'.Represents (lineup.append q flow) := by
  have hcell := h.free_cell hlt hout
  have hnot : flow ∉ lineup.flows q := fun hmem => hout ⟨q, rfl, hmem⟩
  refine ⟨_, run_append (h.chain q) hcell rfl, ?_⟩
  apply h.of_relinks (relinks_link [] (lineup.flows q) (h.chain q) hcell hnot)
  intro x hx
  rcases List.mem_cons.1 hx with hx | hx
  · exact Or.inr (hx ▸ hout)
  · exact Or.inl hx

theorem detach (h : store.Represents lineup) (hmem : flow ∈ lineup.flows q) :
    ∃ store', (QueueM.detach q flow).run store = .ok () store'
      ∧ store'.Represents (lineup.detach q flow) := by
  obtain ⟨lo, hi, hsplit⟩ := List.append_of_mem hmem
  have hchain := h.chain q
  rw [hsplit] at hchain
  have hpeak : (lo ++ flow :: hi).length ≤ (store.queue q).maxLength := by
    rw [h.peak_eq, ← hsplit]
    exact h.length_le_peak q
  have herase : (lineup.flows q).erase flow = lo ++ hi := by
    have hnot := (List.nodup_cons.1 (List.nodup_middle.1 hchain.nodup)).1
    rw [hsplit, List.erase_append_right _ fun hlo => hnot (List.mem_append_left _ hlo),
      List.erase_cons_head]
  refine ⟨_, run_detach lo hi hchain, ?_⟩
  have hrelinks := relinks_unlink lo hi hchain hpeak
  rw [← hsplit, ← herase] at hrelinks
  exact h.of_relinks hrelinks fun x hx => Or.inl (List.mem_of_mem_erase hx)

theorem dequeue_nil (h : store.Represents lineup) (hnil : lineup.flows q = []) :
    (QueueM.dequeue q).run store = .ok none store := by
  have hchain := h.chain q
  rw [hnil] at hchain
  exact run_dequeue_nil hchain

theorem dequeue_cons (h : store.Represents lineup) {rest : List FlowId}
    (hcons : lineup.flows q = flow :: rest) :
    ∃ store', (QueueM.dequeue q).run store = .ok (some flow) store'
      ∧ store'.Represents (lineup.place q rest) := by
  have hchain := h.chain q
  rw [hcons] at hchain
  have hpeak : (flow :: rest).length ≤ (store.queue q).maxLength := by
    rw [h.peak_eq, ← hcons]
    exact h.length_le_peak q
  refine ⟨_, run_dequeue_cons rest hchain, ?_⟩
  have hrelinks := relinks_unlink [] rest hchain hpeak
  rw [List.nil_append, ← hcons] at hrelinks
  exact h.of_relinks hrelinks fun x hx => Or.inl (by rw [hcons]; exact List.mem_cons_of_mem _ hx)

/-- What has left a list is in no queue. -/
theorem not_isQueued_place (h : store.Represents lineup) {flows : List FlowId}
    (hmem : flow ∈ lineup.flows q) (hleft : flow ∉ flows) :
    ¬ (lineup.place q flows).IsQueued (lineup.arena q) flow := by
  rw [Lineup.isQueued_place]
  rintro (⟨-, hmem'⟩ | ⟨q', hne, harena, hmem'⟩)
  · exact hleft hmem'
  · exact hne (h.eq_of_mem harena hmem' hmem)

theorem rotate_cons (h : store.Represents lineup) {rest : List FlowId}
    (hcons : lineup.flows q = flow :: rest) :
    ∃ store', (QueueM.rotate q).run store = .ok (some flow) store'
      ∧ store'.Represents (lineup.place q (rest ++ [flow])) := by
  have hmem : flow ∈ lineup.flows q := by rw [hcons]; exact List.mem_cons_self
  have hnodup := (h.chain q).nodup
  rw [hcons] at hnodup
  obtain ⟨store', hrun, h'⟩ := h.dequeue_cons hcons
  obtain ⟨store'', hrun', h''⟩ := h'.enqueue (q := q) (h.lt_capacity_of_mem hmem)
    (h.not_isQueued_place hmem (List.nodup_cons.1 hnodup).1)
  refine ⟨store'', ?_, ?_⟩
  · simp only [QueueM.rotate, EStateM.run_bind, hrun, hrun', EStateM.run_pure]
  · rwa [Lineup.enqueue, Lineup.flows_place_self, Lineup.place_place _ _ _ (by simp)] at h''

theorem transfer (h : store.Represents lineup) (harena : lineup.arena source = lineup.arena target)
    (hmem : flow ∈ lineup.flows source) :
    ∃ store', (QueueM.transfer source target flow).run store = .ok () store'
      ∧ store'.Represents (lineup.transfer source target flow) := by
  have hnodup := (h.chain source).nodup
  obtain ⟨store', hrun, h'⟩ := h.detach hmem
  have hout := h.not_isQueued_place hmem hnodup.not_mem_erase
  rw [harena] at hout
  have hlt := h.lt_capacity_of_mem hmem
  rw [harena] at hlt
  obtain ⟨store'', hrun', h''⟩ := h'.append (q := target) hlt hout
  refine ⟨store'', ?_, h''⟩
  have hsame : ((store.queue source).arena == (store.queue target).arena) = true := by
    rw [h.arena_eq, h.arena_eq, harena, beq_self_eq_true]
  simp only [QueueM.transfer, EStateM.run_bind, run_queue, run_require, hsame, if_true, hrun, hrun']

/-! ### Refusals -/

/-- What a check of the owner reads when a flow is put in. -/
theorem refuseInsert_of_cell (h : store.Represents lineup) {links : Links} {linked : Fault}
    (hcell : store.cell? (store.queue q).arena flow = some links) :
    lineup.refuseInsert q flow linked = if links.owner.isNone then none else some linked := by
  have hlt := lt_capacity_of_cell? hcell
  rw [h.arena_eq] at hcell
  rw [h.capacity_eq, h.arena_eq] at hlt
  unfold Lineup.refuseInsert
  rw [if_neg (Nat.not_le.2 hlt)]
  by_cases hqueued : lineup.IsQueued (lineup.arena q) flow
  · have howner : links.owner.isNone = false := by
      rw [Bool.eq_false_iff, ne_eq, Option.isNone_iff_eq_none, h.owner_isNone hcell]
      exact not_not.2 hqueued
    rw [if_pos hqueued, howner]
    rfl
  · have howner : links.owner.isNone = true := by
      rw [Option.isNone_iff_eq_none, h.owner_isNone hcell]
      exact hqueued
    rw [if_neg hqueued, howner]
    rfl

/-- What a check of the owner reads when a flow is taken out. -/
theorem refuseRemove_of_cell (h : store.Represents lineup) {links : Links}
    (hcell : store.cell? (store.queue q).arena flow = some links) :
    lineup.refuseRemove q flow
      = if links.owner = some q.val then none else some (.notMember flow (lineup.name q)) := by
  have hlt := lt_capacity_of_cell? hcell
  rw [h.arena_eq] at hcell
  rw [h.capacity_eq, h.arena_eq] at hlt
  unfold Lineup.refuseRemove
  rw [if_neg (Nat.not_le.2 hlt)]
  simp only [h.owner_eq_some hcell]

/-- A handle from beyond the arena is refused by its cell. -/
theorem run_cell_beyond (h : store.Represents lineup)
    (hle : lineup.capacity (lineup.arena q) ≤ flow) :
    (QueueM.cell (store.queue q).arena flow).run store
      = .error (.outOfBounds (lineup.capacity (lineup.arena q)) flow) store := by
  rw [← h.capacity_eq, ← h.arena_eq] at hle ⊢
  exact run_cell_of_capacity_le hle

theorem requireUnqueued_refused (h : store.Represents lineup) {fault : Fault}
    (hfault : lineup.refuseInsert q flow (.alreadyQueued flow (lineup.name q)) = some fault) :
    (requireUnqueued q flow).run store = .error fault store := by
  rcases Nat.lt_or_ge flow (lineup.capacity (lineup.arena q)) with hlt | hle
  · obtain ⟨links, hcell⟩ := h.exists_cell hlt
    rw [← h.arena_eq] at hcell
    rw [h.refuseInsert_of_cell hcell] at hfault
    rw [run_requireUnqueued hcell, h.name_eq]
    split at hfault
    · cases hfault
    · rw [if_neg ‹_›, Option.some.inj hfault]
  · rw [Lineup.refuseInsert, if_pos hle] at hfault
    simp only [requireUnqueued, EStateM.run_bind, run_queue, h.run_cell_beyond hle,
      Option.some.inj hfault]

theorem requireMember_refused (h : store.Represents lineup) {fault : Fault}
    (hfault : lineup.refuseRemove q flow = some fault) :
    (requireMember q flow).run store = .error fault store := by
  rcases Nat.lt_or_ge flow (lineup.capacity (lineup.arena q)) with hlt | hle
  · obtain ⟨links, hcell⟩ := h.exists_cell hlt
    rw [← h.arena_eq] at hcell
    rw [h.refuseRemove_of_cell hcell] at hfault
    rw [run_requireMember hcell, h.name_eq]
    split at hfault
    · cases hfault
    · rw [if_neg ‹_›, Option.some.inj hfault]
  · rw [Lineup.refuseRemove, if_pos hle] at hfault
    simp only [requireMember, EStateM.run_bind, run_queue, h.run_cell_beyond hle,
      Option.some.inj hfault]

theorem enqueue_refused (h : store.Represents lineup) {fault : Fault}
    (hfault : lineup.refuseInsert q flow (.alreadyQueued flow (lineup.name q)) = some fault) :
    (QueueM.enqueue q flow).run store = .error fault store := by
  simp only [QueueM.enqueue, EStateM.run_bind, h.requireUnqueued_refused hfault]

theorem append_refused (h : store.Represents lineup) {fault : Fault}
    (hfault : lineup.refuseInsert q flow (.alreadyQueued flow (lineup.name q)) = some fault) :
    (QueueM.append q flow).run store = .error fault store := by
  simp only [QueueM.append, EStateM.run_bind, h.requireUnqueued_refused hfault]

theorem detach_refused (h : store.Represents lineup) {fault : Fault}
    (hfault : lineup.refuseRemove q flow = some fault) :
    (QueueM.detach q flow).run store = .error fault store := by
  simp only [QueueM.detach, EStateM.run_bind, h.requireMember_refused hfault]

theorem transfer_refused (h : store.Represents lineup) {fault : Fault}
    (hfault : lineup.refuseTransfer source target flow = some fault) :
    (QueueM.transfer source target flow).run store = .error fault store := by
  simp only [QueueM.transfer, EStateM.run_bind, run_queue, run_require, h.arena_eq, h.name_eq,
    beq_iff_eq]
  rw [Lineup.refuseTransfer] at hfault
  by_cases harena : lineup.arena source = lineup.arena target
  · rw [if_pos harena] at hfault
    simp only [if_pos harena, h.detach_refused hfault]
  · rw [if_neg harena] at hfault
    simp only [if_neg harena, Option.some.inj hfault]

end QueueStore.Represents

end FlowTracker
