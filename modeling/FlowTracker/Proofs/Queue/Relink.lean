import FlowTracker.Proofs.Queue.Chain
import Mathlib.Data.List.Basic
import Mathlib.Data.List.Nodup
import Mathlib.Tactic.Tauto

/-!
# What an operation on one queue changes

`store.Relinks q flows flows' store'` says that `store'` is `store` with the members of `q` changed from
`flows` to `flows'`, and nothing else: the other queues are the same, a cell of a flow that stands in
neither list is the same, and the cell of a flow that has left is unlinked.  Each operation on a queue
is shown to relink it, from no more than the chain of that queue and the cell of the flow that is put
in.  That is why one lock for each queue is enough.
-/

namespace FlowTracker

open QueueM

variable {m n : Nat}

namespace QueueStore

/-- `store'` is `store` with the members of `q` changed from `flows` to `flows'`. -/
structure Relinks (store : QueueStore m n) (q : Fin n) (flows flows' : List FlowId)
    (store' : QueueStore m n) : Prop where
  chain : store'.IsChain q flows'
  queue_other : ∀ q', q' ≠ q → store'.queue q' = store.queue q'
  arena_eq : (store'.queue q).arena = (store.queue q).arena
  name_eq : (store'.queue q).name = (store.queue q).name
  peak_eq : (store'.queue q).maxLength = max (store.queue q).maxLength flows'.length
  capacity_eq : ∀ arena, store'.capacity arena = store.capacity arena
  cell_other : ∀ arena flow, ¬ (arena = (store.queue q).arena ∧ (flow ∈ flows ∨ flow ∈ flows')) →
    store'.cell? arena flow = store.cell? arena flow
  cell_left : ∀ flow ∈ flows, flow ∉ flows' →
    store'.cell? (store.queue q).arena flow = some .unlinked

/-! ### Splicing

Every operation replaces a stretch `old` of the list by a stretch `new`, where one of the two is empty
and the other one flow, and patches the two flows next to the stretch. -/

section Splice

variable {store store' : QueueStore m n} {q : Fin n}

/-- Where a place in a list of two parts lies. -/
theorem append_eq_append_cons {lo hi below above : List FlowId} {flow : FlowId}
    (hsplit : lo ++ hi = below ++ flow :: above) :
    (∃ mid, lo = below ++ flow :: mid ∧ above = mid ++ hi)
      ∨ (∃ mid, below = lo ++ mid ∧ hi = mid ++ flow :: above) := by
  rcases List.append_eq_append_iff.1 hsplit with ⟨mid, hbelow, hhi⟩ | ⟨mid, hlo, hrest⟩
  · exact Or.inr ⟨mid, hbelow, hhi⟩
  · cases mid with
    | nil =>
      refine Or.inr ⟨[], by simpa using hlo.symm, by simpa using hrest.symm⟩
    | cons x mid =>
      obtain ⟨rfl, rfl⟩ := List.cons.inj hrest
      exact Or.inl ⟨mid, hlo, rfl⟩

/-- A flow below the stretch that is not the last one there is none of the flows next to it. -/
theorem apart_of_below {below above stretch hi : List FlowId} {flow y : FlowId}
    (hnodup : (below ++ flow :: y :: above ++ stretch ++ hi).Nodup) :
    flow ∉ (below ++ flow :: y :: above).getLast? ∧ flow ∉ stretch ∧ flow ∉ hi.head? := by
  have hafter : flow ∉ y :: above ++ stretch ++ hi := by
    have := (List.nodup_append'.1 (by simpa using hnodup : (below ++ (flow :: (y :: above ++ stretch ++ hi))).Nodup)).2.1
    exact (List.nodup_cons.1 this).1
  simp only [List.mem_append, not_or] at hafter
  refine ⟨fun hmem => hafter.1.1 ?_, hafter.1.2, fun hmem => hafter.2 (List.mem_of_mem_head? hmem)⟩
  rw [List.getLast?_append_cons, List.getLast?_cons_cons] at hmem
  exact List.mem_of_mem_getLast? hmem

/-- A flow above the stretch that is not the first one there is none of the flows next to it. -/
theorem apart_of_above {lo stretch below above : List FlowId} {flow y : FlowId}
    (hnodup : (lo ++ stretch ++ (below ++ [y] ++ flow :: above)).Nodup) :
    flow ∉ lo.getLast? ∧ flow ∉ stretch ∧ flow ∉ (below ++ [y] ++ flow :: above).head? := by
  have hbefore : flow ∉ lo ++ stretch ++ (below ++ [y]) := by
    rw [← List.append_assoc] at hnodup
    intro hmem
    exact (List.nodup_append'.1 hnodup).2.2 hmem List.mem_cons_self
  simp only [List.mem_append, not_or] at hbefore
  refine ⟨fun hmem => hbefore.1.1 (List.mem_of_mem_getLast? hmem), hbefore.1.2, fun hmem => ?_⟩
  have : flow ∈ (below ++ [y]).head? := by
    cases below <;> simpa using hmem
  have := List.mem_of_mem_head? this
  simp only [List.mem_append] at this
  tauto

theorem Relinks.splice (lo old new hi : List FlowId) (h : store.IsChain q (lo ++ old ++ hi))
    (hnodup : (lo ++ new ++ hi).Nodup)
    (hqueue : ∀ q', store'.queue q' = if q' = q then
        { store.queue q with
          top := (lo ++ new ++ hi).getLast?
          bottom := (lo ++ new ++ hi).head?
          length := (lo ++ new ++ hi).length
          maxLength := max (store.queue q).maxLength (lo ++ new ++ hi).length }
      else store.queue q')
    (hcapacity : ∀ arena, store'.capacity arena = store.capacity arena)
    (hlo : ∀ flow ∈ lo.getLast?, store'.cell? (store.queue q).arena flow
      = (store.cell? (store.queue q).arena flow).map
          fun links => { links with towardTop := (new ++ hi).head? })
    (hhi : ∀ flow ∈ hi.head?, store'.cell? (store.queue q).arena flow
      = (store.cell? (store.queue q).arena flow).map
          fun links => { links with towardBottom := (lo ++ new).getLast? })
    (hnew : ∀ below flow above, new = below ++ flow :: above →
      store'.cell? (store.queue q).arena flow
        = some ⟨(above ++ hi).head?, (lo ++ below).getLast?, some q.val⟩)
    (hold : ∀ flow ∈ old, flow ∉ new →
      store'.cell? (store.queue q).arena flow = some .unlinked)
    (hother : ∀ arena flow, ¬ (arena = (store.queue q).arena
        ∧ (flow ∈ lo.getLast? ∨ flow ∈ hi.head? ∨ flow ∈ old ∨ flow ∈ new)) →
      store'.cell? arena flow = store.cell? arena flow) :
    store.Relinks q (lo ++ old ++ hi) (lo ++ new ++ hi) store' := by
  have hchain : store'.IsChain q (lo ++ new ++ hi) := by
    refine ⟨hnodup, by rw [hqueue, if_pos rfl], by rw [hqueue, if_pos rfl],
      by rw [hqueue, if_pos rfl], ?_⟩
    have harena : (store'.queue q).arena = (store.queue q).arena := by rw [hqueue, if_pos rfl]
    intro below flow above hsplit
    rw [harena]
    rw [List.append_assoc] at hsplit
    rcases append_eq_append_cons hsplit with ⟨mid, rfl, rfl⟩ | ⟨rest, rfl, hrest⟩
    · have hcell := h.cell_eq below flow (mid ++ (old ++ hi)) (by simp)
      cases mid with
      | nil =>
        rw [hlo flow (by simp), hcell]
        simp
      | cons y mid =>
        -- the flow is not next to the stretch, so its cell is as before
        obtain ⟨hlast, hout, hhead⟩ := apart_of_below hnodup 
        obtain ⟨-, hout', -⟩ := apart_of_below h.nodup
        rw [hother _ _ (by tauto), hcell]
        simp
    · rcases append_eq_append_cons hrest with ⟨mid, rfl, rfl⟩ | ⟨mid, rfl, rfl⟩
      · rw [hnew rest flow mid rfl]
      · have hcell := h.cell_eq (lo ++ old ++ mid) flow above (by simp)
        rcases List.eq_nil_or_concat' mid with rfl | ⟨mid, y, rfl⟩
        · rw [hhi flow (by simp), hcell]
          simp
        · obtain ⟨hlast, hout, hhead⟩ := apart_of_above hnodup
          obtain ⟨-, hout', -⟩ := apart_of_above h.nodup
          rw [hother _ _ (by tauto), hcell]
          simp [← List.append_assoc]
  refine ⟨hchain, ?_, by rw [hqueue, if_pos rfl], by rw [hqueue, if_pos rfl],
    by rw [hqueue, if_pos rfl], hcapacity, ?_, ?_⟩
  · intro q' hne
    rw [hqueue, if_neg hne]
  · intro arena flow hout
    apply hother
    rintro ⟨rfl, hmem⟩
    apply hout
    refine ⟨rfl, ?_⟩
    simp only [List.mem_append]
    rcases hmem with hmem | hmem | hmem | hmem
    · exact Or.inl (Or.inl (Or.inl (List.mem_of_mem_getLast? hmem)))
    · exact Or.inl (Or.inr (List.mem_of_mem_head? hmem))
    · exact Or.inl (Or.inl (Or.inr hmem))
    · exact Or.inr (Or.inl (Or.inr hmem))
  · intro flow hmem hleft
    simp only [List.mem_append, not_or] at hmem hleft
    exact hold flow (by tauto) hleft.1.2

end Splice

/-! ### Linking and unlinking -/

/-- The store in which `flow` is linked into `q` between two neighbours; where one is missing, the
flow becomes an end of the queue. -/
def link (store : QueueStore m n) (q : Fin n) (flow : FlowId) (below above : Option FlowId) :
    QueueStore m n :=
  let arena := (store.queue q).arena
  (((store.patch arena flow fun _ => ⟨above, below, some q.val⟩).patch? arena below
    fun links => { links with towardTop := some flow }).patch? arena above
    fun links => { links with towardBottom := some flow }).revise q fun queue =>
      { queue with
        top := if above = none then some flow else queue.top
        bottom := if below = none then some flow else queue.bottom
        length := queue.length + 1
        maxLength := max queue.maxLength (queue.length + 1) }

/-- The store in which `flow` is taken out of `q` from between its neighbours. -/
def unlink (store : QueueStore m n) (q : Fin n) (flow : FlowId) (below above : Option FlowId) :
    QueueStore m n :=
  let arena := (store.queue q).arena
  (((store.patch? arena below fun links => { links with towardTop := above }).patch? arena above
    fun links => { links with towardBottom := below }).patch arena flow
    fun _ => .unlinked).revise q fun queue =>
      { queue with
        top := if above = none then below else queue.top
        bottom := if below = none then above else queue.bottom
        length := queue.length - 1 }

variable {store : QueueStore m n} {q : Fin n} {flow : FlowId} {links : Links}

/-- A flow that has no owner stands in no chain. -/
theorem IsChain.not_mem_of_unowned {flows : List FlowId} (h : store.IsChain q flows)
    (hcell : store.cell? (store.queue q).arena flow = some links) (hfree : links.owner = none) :
    flow ∉ flows := by
  intro hmem
  obtain ⟨links', hcell', howner⟩ := h.exists_cell hmem
  obtain rfl : links = links' := Option.some.inj (hcell.symm.trans hcell')
  rw [hfree] at howner
  cases howner

theorem relinks_link (lo hi : List FlowId) (h : store.IsChain q (lo ++ hi))
    (hcell : store.cell? (store.queue q).arena flow = some links) (hnot : flow ∉ lo ++ hi) :
    store.Relinks q (lo ++ hi) (lo ++ flow :: hi) (store.link q flow lo.getLast? hi.head?) := by
  obtain ⟨hlo, hhi⟩ : flow ∉ lo.getLast? ∧ flow ∉ hi.head? := by
    rw [List.mem_append, not_or] at hnot
    exact ⟨fun hmem => hnot.1 (List.mem_of_mem_getLast? hmem),
      fun hmem => hnot.2 (List.mem_of_mem_head? hmem)⟩
  have happart : ∀ x ∈ lo.getLast?, x ∉ hi.head? := fun x hx hx' =>
    (List.nodup_append'.1 h.nodup).2.2 (List.mem_of_mem_getLast? hx) (List.mem_of_mem_head? hx')
  have hnodup : (lo ++ [flow] ++ hi).Nodup := by
    rw [List.append_assoc, List.singleton_append, List.nodup_middle]
    exact List.nodup_cons.2 ⟨hnot, h.nodup⟩
  have hsplice : store.Relinks q (lo ++ [] ++ hi) (lo ++ [flow] ++ hi)
      (store.link q flow lo.getLast? hi.head?) := by
    apply Relinks.splice lo [] [flow] hi (by simpa using h) hnodup
    · intro q'
      cases lo <;> cases hi <;>
        simp [link, queue_revise, h.length_eq, h.top_eq, h.bottom_eq, List.getLast?_cons, Nat.add_assoc]
    · simp [link]
    · intro x hx
      have hne : x ≠ flow := fun heq => hlo (heq ▸ hx)
      simp [link, cell?_patch, cell?_patch?, hx, hne, happart x hx]
    · intro x hx
      have hne : x ≠ flow := fun heq => hhi (heq ▸ hx)
      have hout : x ∉ lo.getLast? := fun hx' => happart x hx' hx
      simp [link, cell?_patch, cell?_patch?, hx, hne, hout]
    · intro below x above hsplit
      obtain ⟨rfl, rfl, rfl⟩ : below = [] ∧ x = flow ∧ above = [] := by
        cases below <;> simp_all
      simp [link, cell?_patch, cell?_patch?, hcell, hlo, hhi]
    · simp
    · intro arena x hx
      simp only [List.not_mem_nil, List.mem_singleton, false_or] at hx
      simp only [link, cell?_revise, cell?_patch, cell?_patch?]
      rw [if_neg (by tauto), if_neg (by tauto), if_neg (by tauto)]
  simpa using hsplice

theorem relinks_unlink (lo hi : List FlowId) (h : store.IsChain q (lo ++ flow :: hi))
    (hpeak : (lo ++ flow :: hi).length ≤ (store.queue q).maxLength) :
    store.Relinks q (lo ++ flow :: hi) (lo ++ hi) (store.unlink q flow lo.getLast? hi.head?) := by
  have hcell := h.cell_eq lo flow hi rfl
  obtain ⟨hnot, hnodup⟩ := List.nodup_cons.1 (List.nodup_middle.1 h.nodup)
  obtain ⟨hlo, hhi⟩ : flow ∉ lo.getLast? ∧ flow ∉ hi.head? := by
    rw [List.mem_append, not_or] at hnot
    exact ⟨fun hmem => hnot.1 (List.mem_of_mem_getLast? hmem),
      fun hmem => hnot.2 (List.mem_of_mem_head? hmem)⟩
  have happart : ∀ x ∈ lo.getLast?, x ∉ hi.head? := fun x hx hx' =>
    (List.nodup_append'.1 hnodup).2.2 (List.mem_of_mem_getLast? hx) (List.mem_of_mem_head? hx')
  have hmax : max (store.queue q).maxLength (lo ++ hi).length = (store.queue q).maxLength := by
    apply Nat.max_eq_left
    simp only [List.length_append, List.length_cons] at hpeak ⊢
    omega
  have hsplice : store.Relinks q (lo ++ [flow] ++ hi) (lo ++ [] ++ hi)
      (store.unlink q flow lo.getLast? hi.head?) := by
    apply Relinks.splice lo [flow] [] hi (by simpa using h) (by simpa using hnodup)
    · intro q'
      rw [List.append_nil, hmax]
      cases lo <;> cases hi <;>
        simp [unlink, queue_revise, h.length_eq, h.top_eq, h.bottom_eq, List.getLast?_cons, Nat.add_assoc]
    · simp [unlink]
    · intro x hx
      have hne : x ≠ flow := fun heq => hlo (heq ▸ hx)
      simp [unlink, cell?_patch, cell?_patch?, hx, hne, happart x hx]
    · intro x hx
      have hne : x ≠ flow := fun heq => hhi (heq ▸ hx)
      have hout : x ∉ lo.getLast? := fun hx' => happart x hx' hx
      simp [unlink, cell?_patch, cell?_patch?, hx, hne, hout]
    · simp
    · intro x hx _
      obtain rfl : x = flow := List.mem_singleton.1 hx
      simp [unlink, cell?_patch, cell?_patch?, hcell, hlo, hhi]
    · intro arena x hx
      simp only [List.not_mem_nil, List.mem_singleton, or_false] at hx
      simp only [unlink, cell?_revise, cell?_patch, cell?_patch?]
      rw [if_neg (by tauto), if_neg (by tauto), if_neg (by tauto)]
  simpa using hsplice

end QueueStore

end FlowTracker
