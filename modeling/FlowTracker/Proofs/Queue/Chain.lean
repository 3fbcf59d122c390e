import FlowTracker.Proofs.Queue.Cells
import Mathlib.Data.List.Induction

/-!
# A queue as a list

`store.IsChain q flows` says that the flows of a list, written bottom first, are the members of `q` in
their order: the ends and the length of the queue are those of the list, no flow stands twice, and at
every place of the list the cell of the flow names its two neighbours and the queue.  A place is a split
`flows = below ++ flow :: above`, so what a cell has to hold is read off the two parts without an index.

From this one predicate all readings of the queue follow: the walks from either end, the listing, each
move of a cursor, and the answer of the link check.
-/

namespace FlowTracker.QueueStore

variable {m n : Nat} {store store' : QueueStore m n} {q : Fin n} {flows : List FlowId}

/-- The members of `q`, bottom first, are `flows`. -/
structure IsChain (store : QueueStore m n) (q : Fin n) (flows : List FlowId) : Prop where
  nodup : flows.Nodup
  bottom_eq : (store.queue q).bottom = flows.head?
  top_eq : (store.queue q).top = flows.getLast?
  length_eq : (store.queue q).length = flows.length
  cell_eq : ∀ below flow above, flows = below ++ flow :: above →
    store.cell? (store.queue q).arena flow = some ⟨above.head?, below.getLast?, some q.val⟩

namespace IsChain

theorem exists_cell (h : store.IsChain q flows) {flow : FlowId} (hf : flow ∈ flows) :
    ∃ links, store.cell? (store.queue q).arena flow = some links ∧ links.owner = some q.val := by
  obtain ⟨below, above, rfl⟩ := List.append_of_mem hf
  exact ⟨_, h.cell_eq below flow above rfl, rfl⟩

/-- A chain depends on nothing but its queue and the cells of its members. -/
theorem congr (h : store.IsChain q flows) (hqueue : store'.queue q = store.queue q)
    (hcell : ∀ flow ∈ flows, store'.cell? (store.queue q).arena flow
      = store.cell? (store.queue q).arena flow) :
    store'.IsChain q flows := by
  refine ⟨h.nodup, by rw [hqueue, h.bottom_eq], by rw [hqueue, h.top_eq],
    by rw [hqueue, h.length_eq], ?_⟩
  intro below flow above hsplit
  rw [hqueue, hcell flow (by simp [hsplit]), h.cell_eq below flow above hsplit]

/-! ### Walks -/

/-- Walking up from a place lists what stands there and above. -/
theorem walk_towardTop (h : store.IsChain q flows) (below above : List FlowId)
    (hsplit : flows = below ++ above) (steps : Nat) :
    store.walk (store.queue q).arena Links.towardTop steps above.head? = .ok (above.take steps) := by
  induction above generalizing below steps with
  | nil => cases steps <;> rfl
  | cons flow above ih =>
    cases steps with
    | zero => rfl
    | succ steps =>
      have hcell := cell_of_cell? (h.cell_eq below flow above hsplit)
      have hrest := ih (below ++ [flow]) (by simp [hsplit]) steps
      simp only [List.head?_cons, walk, hcell, List.take_succ_cons]
      show (do return flow :: (← store.walk _ _ steps above.head?)) = _
      rw [hrest]
      rfl

/-- Walking down from a place lists what stands there and below, from the top down. -/
theorem walk_towardBottom (h : store.IsChain q flows) (below above : List FlowId)
    (hsplit : flows = below ++ above) (steps : Nat) :
    store.walk (store.queue q).arena Links.towardBottom steps below.getLast?
      = .ok (below.reverse.take steps) := by
  induction below using List.reverseRecOn generalizing above steps with
  | nil => cases steps <;> rfl
  | append_singleton below flow ih =>
    cases steps with
    | zero => rfl
    | succ steps =>
      have hcell := cell_of_cell? (h.cell_eq below flow above (by simp [hsplit]))
      have hrest := ih (flow :: above) (by simp [hsplit]) steps
      simp only [List.getLast?_concat, walk, hcell, List.reverse_concat, List.take_succ_cons]
      show (do return flow :: (← store.walk _ _ steps below.getLast?)) = _
      rw [hrest]
      rfl

theorem toList_eq (h : store.IsChain q flows) : store.toList q = .ok flows := by
  have hwalk := h.walk_towardTop [] flows rfl flows.length
  rw [List.take_length] at hwalk
  simp only [toList, h.bottom_eq, h.length_eq, hwalk]

theorem walkUp_eq (h : store.IsChain q flows) : store.walkUp q = .ok flows := by
  have hwalk := h.walk_towardTop [] flows rfl (flows.length + 1)
  rw [List.take_of_length_le (Nat.le_succ _)] at hwalk
  simp only [walkUp, h.bottom_eq, h.length_eq, hwalk]

theorem walkDown_eq (h : store.IsChain q flows) : store.walkDown q = .ok flows.reverse := by
  have hwalk := h.walk_towardBottom flows [] (List.append_nil flows).symm (flows.length + 1)
  rw [List.take_of_length_le (by simp)] at hwalk
  simp only [walkDown, h.top_eq, h.length_eq, hwalk]

theorem cursor_eq (h : store.IsChain q flows) :
    store.cursor q = ⟨(store.queue q).arena, flows.head?, flows.length⟩ := by
  simp only [cursor, h.bottom_eq, h.length_eq]

/-- A cursor at a place answers the flow that stands there and goes one place up. -/
theorem advance_eq (h : store.IsChain q flows) {below above : List FlowId}
    (hsplit : flows = below ++ above) :
    store.advance ⟨(store.queue q).arena, above.head?, above.length⟩
      = .ok (above.head?, ⟨(store.queue q).arena, above.tail.head?, above.tail.length⟩) := by
  cases above with
  | nil => rfl
  | cons flow above =>
    have hcell := cell_of_cell? (h.cell_eq below flow above hsplit)
    simp only [advance, List.head?_cons, List.length_cons, hcell]
    rfl

/-! ### The link check -/

theorem firstDifference_self (flows : List FlowId) : firstDifference flows flows = none := by
  induction flows with
  | nil => rfl
  | cons flow flows ih =>
    simpa [firstDifference] using ih

theorem firstForeign_eq_none (h : store.IsChain q flows) (members : List FlowId)
    (hsub : ∀ flow ∈ members, flow ∈ flows) : store.firstForeign q members = .ok none := by
  induction members with
  | nil => rfl
  | cons flow rest ih =>
    obtain ⟨links, hcell, howner⟩ := h.exists_cell (hsub flow List.mem_cons_self)
    have hrest := ih fun other hother => hsub other (List.mem_cons_of_mem _ hother)
    simp only [firstForeign, cell_of_cell? hcell]
    show (if links.owner = some q.val then store.firstForeign q rest else _) = _
    rw [if_pos howner, hrest]

/-- The link check finds nothing wrong with a chain. -/
theorem check_eq (h : store.IsChain q flows) : store.check q = .ok none := by
  have hends : ¬ ((store.queue q).top.isNone ≠ (store.queue q).bottom.isNone
      ∨ (store.queue q).top.isNone ≠ ((store.queue q).length == 0)) := by
    rw [h.top_eq, h.bottom_eq, h.length_eq]
    cases flows <;> simp
  have hdown : ¬ (flows.reverse.length ≠ (store.queue q).length
      ∨ flows.reverse.getLast? ≠ (store.queue q).bottom) := by
    simp [h.bottom_eq, h.length_eq]
  have hup : ¬ (flows.length ≠ (store.queue q).length
      ∨ flows.getLast? ≠ (store.queue q).top) := by
    simp [h.top_eq, h.length_eq]
  have howned := h.firstForeign_eq_none flows.reverse (by simp)
  simp only [check, if_neg hends, h.walkDown_eq, h.walkUp_eq]
  show (if _ then _ else _) = _
  rw [if_neg hdown]
  show (if _ then _ else _) = _
  rw [if_neg hup, List.reverse_reverse, firstDifference_self]
  show (store.firstForeign q flows.reverse >>= _) = _
  rw [howned]
  rfl

end IsChain

end FlowTracker.QueueStore
