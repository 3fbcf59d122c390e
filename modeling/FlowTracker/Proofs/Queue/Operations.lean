import FlowTracker.Proofs.Queue.Relink

/-!
# Queue operations as linking and unlinking

On a queue that is a chain each operation comes to its end, and what it leaves behind is the store with
one flow linked in (`QueueStore.link`) or taken out (`QueueStore.unlink`).  The contracts are read the
same way: an insertion refuses a flow that has an owner, a removal a flow that `q` does not own, and a
refused operation leaves the store as it was.
-/

namespace FlowTracker.QueueM

open QueueStore

variable {m n : Nat} {store : QueueStore m n} {q : Fin n} {flow : FlowId} {flows : List FlowId}
  {links : Links}

/-! ### Contracts -/

theorem run_requireUnqueued (hcell : store.cell? (store.queue q).arena flow = some links) :
    (requireUnqueued q flow).run store
      = if links.owner.isNone then .ok () store
        else .error (.alreadyQueued flow (store.queue q).name) store := by
  simp only [requireUnqueued, EStateM.run_bind, run_queue, run_cell hcell, run_require]

theorem run_requireMember (hcell : store.cell? (store.queue q).arena flow = some links) :
    (requireMember q flow).run store
      = if links.owner = some q.val then .ok () store
        else .error (.notMember flow (store.queue q).name) store := by
  simp only [requireMember, EStateM.run_bind, run_queue, run_cell hcell, run_require, beq_iff_eq]

/-! ### Insertion -/

theorem run_enqueue (h : store.IsChain q flows)
    (hcell : store.cell? (store.queue q).arena flow = some links) (hfree : links.owner = none) :
    (enqueue q flow).run store = .ok () (store.link q flow flows.getLast? none) := by
  have hlt := lt_capacity_of_cell? hcell
  have hnot := h.not_mem_of_unowned hcell hfree
  have htop := h.top_eq
  cases hlast : flows.getLast? with
  | none =>
    rw [hlast] at htop
    simp only [enqueue, EStateM.run_bind, run_requireUnqueued hcell, hfree, Option.isNone_none,
      if_true, run_queue, setTowardTop, setTowardBottom, setOwner, countIn, htop, run_modifyQueue,
      run_modifyCell _ hlt, run_modifyCell, hlt, capacity_patch, capacity_revise]
    congr 1
    apply ext_of_readings
    · intro arena x
      simp only [link, cell?_revise, cell?_patch, cell?_patch?]
      by_cases hx : arena = (store.queue q).arena ∧ x = flow
      · obtain ⟨rfl, rfl⟩ := hx
        simp [hcell]
      · simp [hx]
    · intro q'
      by_cases hq : q' = q <;> simp [link, queue_revise, hq]
  | some last =>
    rw [hlast] at htop
    have hmem := List.mem_of_getLast? hlast
    obtain ⟨_, hcellLast, -⟩ := h.exists_cell hmem
    have hltLast := lt_capacity_of_cell? hcellLast
    have hne : last ≠ flow := ne_of_mem_of_not_mem hmem hnot
    simp only [enqueue, EStateM.run_bind, run_requireUnqueued hcell, hfree, Option.isNone_none,
      if_true, run_queue, setTowardTop, setTowardBottom, setOwner, countIn, htop, run_modifyQueue,
      run_modifyCell _ hlt, run_modifyCell, hlt, hltLast, capacity_patch, capacity_revise]
    congr 1
    apply ext_of_readings
    · intro arena x
      simp only [link, cell?_revise, cell?_patch, cell?_patch?]
      by_cases hx : arena = (store.queue q).arena ∧ x = flow
      · obtain ⟨rfl, rfl⟩ := hx
        simp [hcell, hne, hne.symm]
      · simp [hx, @eq_comm _ last x]
    · intro q'
      by_cases hq : q' = q <;> simp [link, queue_revise, hq]

theorem run_append (h : store.IsChain q flows)
    (hcell : store.cell? (store.queue q).arena flow = some links) (hfree : links.owner = none) :
    (append q flow).run store = .ok () (store.link q flow none flows.head?) := by
  have hlt := lt_capacity_of_cell? hcell
  have hnot := h.not_mem_of_unowned hcell hfree
  have hbottom := h.bottom_eq
  cases hhead : flows.head? with
  | none =>
    rw [hhead] at hbottom
    simp only [append, EStateM.run_bind, run_requireUnqueued hcell, hfree, Option.isNone_none,
      if_true, run_queue, setTowardTop, setTowardBottom, setOwner, countIn, hbottom,
      run_modifyQueue, run_modifyCell _ hlt, run_modifyCell, hlt, capacity_patch, capacity_revise]
    congr 1
    apply ext_of_readings
    · intro arena x
      simp only [link, cell?_revise, cell?_patch, cell?_patch?]
      by_cases hx : arena = (store.queue q).arena ∧ x = flow
      · obtain ⟨rfl, rfl⟩ := hx
        simp [hcell]
      · simp [hx]
    · intro q'
      by_cases hq : q' = q <;> simp [link, queue_revise, hq]
  | some head =>
    rw [hhead] at hbottom
    have hmem := List.mem_of_head? hhead
    obtain ⟨_, hcellHead, -⟩ := h.exists_cell hmem
    have hltHead := lt_capacity_of_cell? hcellHead
    have hne : head ≠ flow := ne_of_mem_of_not_mem hmem hnot
    simp only [append, EStateM.run_bind, run_requireUnqueued hcell, hfree, Option.isNone_none,
      if_true, run_queue, setTowardTop, setTowardBottom, setOwner, countIn, hbottom,
      run_modifyQueue, run_modifyCell _ hlt, run_modifyCell, hlt, hltHead, capacity_patch,
      capacity_revise]
    congr 1
    apply ext_of_readings
    · intro arena x
      simp only [link, cell?_revise, cell?_patch, cell?_patch?]
      by_cases hx : arena = (store.queue q).arena ∧ x = flow
      · obtain ⟨rfl, rfl⟩ := hx
        simp [hcell, hne, hne.symm]
      · simp [hx, @eq_comm _ head x]
    · intro q'
      by_cases hq : q' = q <;> simp [link, queue_revise, hq]

/-! ### Removal -/

theorem top_eq_some_iff (lo hi : List FlowId) (h : store.IsChain q (lo ++ flow :: hi)) :
    (store.queue q).top = some flow ↔ hi.head? = none := by
  have hnot := (List.nodup_cons.1 (List.nodup_middle.1 h.nodup)).1
  rw [h.top_eq, List.head?_eq_none_iff]
  constructor
  · intro htop
    cases hi with
    | nil => rfl
    | cons x hi =>
      rw [List.getLast?_append_cons, List.getLast?_cons_cons] at htop
      exact absurd (List.mem_append_right _ (List.mem_of_getLast? htop)) hnot
  · rintro rfl
    exact List.getLast?_concat

theorem bottom_eq_some_iff (lo hi : List FlowId) (h : store.IsChain q (lo ++ flow :: hi)) :
    (store.queue q).bottom = some flow ↔ lo.getLast? = none := by
  have hnot := (List.nodup_cons.1 (List.nodup_middle.1 h.nodup)).1
  rw [h.bottom_eq, List.getLast?_eq_none_iff]
  constructor
  · intro hbottom
    cases lo with
    | nil => rfl
    | cons x lo =>
      obtain rfl : x = flow := by simpa using hbottom
      simp at hnot
  · rintro rfl
    rfl

theorem run_detach (lo hi : List FlowId) (h : store.IsChain q (lo ++ flow :: hi)) :
    (detach q flow).run store = .ok () (store.unlink q flow lo.getLast? hi.head?) := by
  have hcell := h.cell_eq lo flow hi rfl
  have hlt := lt_capacity_of_cell? hcell
  have hlength : ((store.queue q).length != 0) = true := by simp [h.length_eq]
  have hnot := (List.nodup_cons.1 (List.nodup_middle.1 h.nodup)).1
  have htop := top_eq_some_iff lo hi h
  have hbottom := bottom_eq_some_iff lo hi h
  have hltBelow : ∀ x, lo.getLast? = some x → x < store.capacity (store.queue q).arena := by
    intro x hx
    obtain ⟨_, hcell', -⟩ := h.exists_cell (List.mem_append_left _ (List.mem_of_getLast? hx))
    exact lt_capacity_of_cell? hcell'
  have hltAbove : ∀ x, hi.head? = some x → x < store.capacity (store.queue q).arena := by
    intro x hx
    obtain ⟨_, hcell', -⟩ := h.exists_cell
      (List.mem_append_right _ (List.mem_cons_of_mem _ (List.mem_of_head? hx)))
    exact lt_capacity_of_cell? hcell'
  simp only [detach, EStateM.run_bind, run_requireMember hcell, if_true, run_queue, run_cell hcell,
    htop, hbottom]
  cases hlo : lo.getLast? with
  | none =>
    cases hhi : hi.head? with
    | none =>
      simp only [if_true, EStateM.run_bind, run_modifyQueue, countOut, run_queue, run_require,
        queue_revise_self, hlength, clear, run_modifyCell, capacity_revise, hlt]
      congr 1
      apply ext_of_readings
      · intro arena x
        simp [unlink, cell?_patch, cell?_patch?]
      · intro q'
        by_cases hq : q' = q <;> simp [unlink, queue_revise, hq]
    | some above =>
      have hltAbove := hltAbove above hhi
      simp only [if_true, EStateM.run_bind, run_modifyQueue, countOut, run_queue, run_require,
        reduceCtorEq, if_false, setTowardBottom, queue_patch,
        queue_revise_self, hlength, clear, run_modifyCell, capacity_revise, capacity_patch, hlt, hltAbove]
      congr 1
      apply ext_of_readings
      · intro arena x
        simp [unlink, cell?_patch, cell?_patch?, @eq_comm _ above x]
      · intro q'
        by_cases hq : q' = q <;> simp [unlink, queue_revise, hq]
  | some below =>
    have hltBelow := hltBelow below hlo
    cases hhi : hi.head? with
    | none =>
      simp only [if_true, EStateM.run_bind, run_modifyQueue, countOut, run_queue, run_require,
        reduceCtorEq, if_false, setTowardTop, queue_patch,
        queue_revise_self, hlength, clear, run_modifyCell, capacity_revise, capacity_patch, hlt, hltBelow]
      congr 1
      apply ext_of_readings
      · intro arena x
        simp [unlink, cell?_patch, cell?_patch?, @eq_comm _ below x]
      · intro q'
        by_cases hq : q' = q <;> simp [unlink, queue_revise, hq]
    | some above =>
      have hltAbove := hltAbove above hhi
      simp only [if_true, EStateM.run_bind, run_modifyQueue, countOut, run_queue, run_require,
        reduceCtorEq, if_false, setTowardTop, setTowardBottom, queue_patch,
        hlength, clear, run_modifyCell, capacity_revise, capacity_patch, hlt, hltBelow, hltAbove]
      congr 1
      apply ext_of_readings
      · intro arena x
        simp only [unlink, cell?_revise, cell?_patch, cell?_patch?, Option.mem_some_iff,
          @eq_comm _ x]
        -- the two neighbours are patched in the other order, but in different fields
        by_cases hbelow : arena = (store.queue q).arena ∧ below = x
        · by_cases habove : arena = (store.queue q).arena ∧ above = x
          · simp only [if_pos hbelow, if_pos habove, Option.map_map]
            rfl
          · simp only [if_pos hbelow, if_neg habove]
        · simp only [if_neg hbelow]
      · intro q'
        by_cases hq : q' = q <;> simp [unlink, queue_revise, hq]

theorem run_dequeue_nil (h : store.IsChain q []) : (dequeue q).run store = .ok none store := by
  have hbottom : (store.queue q).bottom = none := h.bottom_eq
  simp only [dequeue, EStateM.run_bind, run_queue, hbottom, EStateM.run_pure]

theorem run_dequeue_cons (hi : List FlowId) (h : store.IsChain q (flow :: hi)) :
    (dequeue q).run store = .ok (some flow) (store.unlink q flow none hi.head?) := by
  have hcell := h.cell_eq [] flow hi rfl
  have hlt := lt_capacity_of_cell? hcell
  have hlength : ((store.queue q).length != 0) = true := by simp [h.length_eq]
  have hbottom : (store.queue q).bottom = some flow := h.bottom_eq
  cases hhi : hi.head? with
  | none =>
    rw [hhi] at hcell
    simp only [dequeue, EStateM.run_bind, run_queue, hbottom, run_cell hcell, run_modifyQueue,
      countOut, run_require, queue_revise_self, hlength, if_true, clear, run_modifyCell,
      capacity_revise, hlt, EStateM.run_pure]
    congr 1
    apply ext_of_readings
    · intro arena x
      simp [unlink, cell?_patch, cell?_patch?]
    · intro q'
      by_cases hq : q' = q <;> simp [unlink, queue_revise, hq]
  | some above =>
    rw [hhi] at hcell
    obtain ⟨_, hcellAbove, -⟩ := h.exists_cell
      (List.mem_cons_of_mem _ (List.mem_of_head? hhi))
    have hltAbove := lt_capacity_of_cell? hcellAbove
    simp only [dequeue, EStateM.run_bind, run_queue, hbottom, run_cell hcell, setTowardBottom,
      run_modifyCell, hltAbove, run_modifyQueue, countOut, run_require, queue_revise_self,
      queue_patch, hlength, if_true, clear, capacity_revise, capacity_patch, hlt, EStateM.run_pure]
    congr 1
    apply ext_of_readings
    · intro arena x
      simp [unlink, cell?_patch, cell?_patch?, @eq_comm _ above x]
    · intro q'
      by_cases hq : q' = q <;> simp [unlink, queue_revise, hq]

end FlowTracker.QueueM
