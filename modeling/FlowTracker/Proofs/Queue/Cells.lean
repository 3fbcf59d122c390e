import FlowTracker.Queue.Transfer
import FlowTracker.Queue.Walk
import Mathlib.Data.Option.Basic

/-!
# Reading and writing link cells

A store of queues is known by two readings: the cell of each flow (`QueueStore.cell?`) and the record
of each queue (`QueueStore.queue`).  Every change that a queue program makes is one of two writes,
`QueueStore.patch` on a cell and `QueueStore.revise` on a queue, and the lemmas here say what each
reading answers after each write.  With them a queue program is run symbolically: `run_modifyCell` and
its companions turn the single accesses into writes, and no later proof looks at vectors of arrays.
-/

namespace FlowTracker

open QueueM

variable {m n : Nat}

namespace QueueStore

/-- The cell of a flow, if its arena has it. -/
def cell? (store : QueueStore m n) (arena : Fin m) (flow : FlowId) : Option Links :=
  (getElem store.cells arena arena.isLt)[flow]?

def patch (store : QueueStore m n) (arena : Fin m) (flow : FlowId) (change : Links → Links) :
    QueueStore m n :=
  { store with cells := modifyArena store.cells arena fun cells => cells.modify flow change }

def revise (store : QueueStore m n) (q : Fin n) (change : Queue m → Queue m) : QueueStore m n :=
  { store with queues := store.queues.set q (change (store.queue q)) q.isLt }

/-- The store with the cell of a neighbour changed, if there is one. -/
def patch? (store : QueueStore m n) (arena : Fin m) (neighbour : Option FlowId)
    (change : Links → Links) : QueueStore m n :=
  neighbour.elim store fun flow => store.patch arena flow change

variable (store : QueueStore m n)

/-! ### What is read after a write -/

theorem cell?_patch (arena arena' : Fin m) (flow flow' : FlowId) (change : Links → Links) :
    (store.patch arena flow change).cell? arena' flow'
      = if arena' = arena ∧ flow' = flow then (store.cell? arena' flow').map change
        else store.cell? arena' flow' := by
  unfold patch cell?
  simp only
  rw [getElem_modifyArena]
  by_cases ha : arena = arena'
  · rw [if_pos ha, Array.getElem?_modify]
    by_cases hf : flow = flow'
    · simp [ha, hf]
    · rw [if_neg hf, if_neg fun h => hf h.2.symm]
  · rw [if_neg ha, if_neg fun h => ha h.1.symm]

@[simp] theorem queue_patch (arena : Fin m) (flow : FlowId) (change : Links → Links) (q : Fin n) :
    (store.patch arena flow change).queue q = store.queue q := rfl

@[simp] theorem capacity_patch (arena arena' : Fin m) (flow : FlowId) (change : Links → Links) :
    (store.patch arena flow change).capacity arena' = store.capacity arena' := by
  unfold patch capacity
  simp only
  rw [getElem_modifyArena]
  split <;> simp

theorem cell?_patch? (arena arena' : Fin m) (neighbour : Option FlowId) (flow : FlowId)
    (change : Links → Links) :
    (store.patch? arena neighbour change).cell? arena' flow
      = if arena' = arena ∧ flow ∈ neighbour then (store.cell? arena' flow).map change
        else store.cell? arena' flow := by
  cases neighbour with
  | none => simp [patch?]
  | some flow' =>
    simp only [patch?, Option.elim_some, cell?_patch, Option.mem_some_iff, eq_comm]

@[simp] theorem queue_patch? (arena : Fin m) (neighbour : Option FlowId) (change : Links → Links)
    (q : Fin n) : (store.patch? arena neighbour change).queue q = store.queue q := by
  cases neighbour <;> rfl

@[simp] theorem capacity_patch? (arena arena' : Fin m) (neighbour : Option FlowId)
    (change : Links → Links) :
    (store.patch? arena neighbour change).capacity arena' = store.capacity arena' := by
  cases neighbour with
  | none => rfl
  | some flow => exact capacity_patch store arena arena' flow change

theorem queue_revise (q q' : Fin n) (change : Queue m → Queue m) :
    (store.revise q change).queue q'
      = if q' = q then change (store.queue q) else store.queue q' := by
  unfold revise queue
  simp only [Fin.getElem_fin, Vector.getElem_set, Fin.ext_iff, eq_comm]

@[simp] theorem queue_revise_self (q : Fin n) (change : Queue m → Queue m) :
    (store.revise q change).queue q = change (store.queue q) := by
  rw [queue_revise, if_pos rfl]

@[simp] theorem cell?_revise (q : Fin n) (change : Queue m → Queue m) (arena : Fin m)
    (flow : FlowId) : (store.revise q change).cell? arena flow = store.cell? arena flow := rfl

@[simp] theorem capacity_revise (q : Fin n) (change : Queue m → Queue m) (arena : Fin m) :
    (store.revise q change).capacity arena = store.capacity arena := by
  unfold revise capacity
  simp only

variable {store}

theorem lt_capacity_iff {arena : Fin m} {flow : FlowId} :
    flow < store.capacity arena ↔ ∃ links, store.cell? arena flow = some links := by
  unfold capacity cell?
  constructor
  · intro h
    exact ⟨_, Array.getElem?_eq_getElem h⟩
  · rintro ⟨links, h⟩
    exact (Array.getElem?_eq_some_iff.1 h).1

theorem lt_capacity_of_cell? {arena : Fin m} {flow : FlowId} {links : Links}
    (h : store.cell? arena flow = some links) : flow < store.capacity arena :=
  lt_capacity_iff.2 ⟨links, h⟩

theorem cell_of_cell? {arena : Fin m} {flow : FlowId} {links : Links}
    (h : store.cell? arena flow = some links) : store.cell arena flow = .ok links := by
  unfold cell
  unfold cell? at h
  rw [h]

theorem cell_of_capacity_le {arena : Fin m} {flow : FlowId} (h : store.capacity arena ≤ flow) :
    store.cell arena flow = .error (.outOfBounds (store.capacity arena) flow) := by
  unfold cell
  have hnone : store.cells[arena][flow]? = none := Array.getElem?_eq_none h
  rw [hnone]

/-- A store has nothing but its cells and its queues. -/
theorem ext_of_readings {store' : QueueStore m n}
    (hcell : ∀ arena flow, store.cell? arena flow = store'.cell? arena flow)
    (hqueue : ∀ q, store.queue q = store'.queue q) : store = store' := by
  obtain ⟨cells, queues⟩ := store
  obtain ⟨cells', queues'⟩ := store'
  have hc : cells = cells' := by
    apply Vector.ext
    intro i hi
    apply Array.ext_getElem?
    intro flow
    exact hcell ⟨i, hi⟩ flow
  have hq : queues = queues' := by
    apply Vector.ext
    intro i hi
    exact hqueue ⟨i, hi⟩
  rw [hc, hq]

end QueueStore

/-! ### Single accesses as writes -/

namespace QueueM

variable {store : QueueStore m n}

@[simp] theorem run_queue (q : Fin n) : (queue q).run store = .ok (store.queue q) store := rfl

theorem run_cell {arena : Fin m} {flow : FlowId} {links : Links}
    (h : store.cell? arena flow = some links) :
    (cell arena flow).run store = .ok links store := by
  show QueueM.cell arena flow store = _
  unfold QueueM.cell
  rw [QueueStore.cell_of_cell? h]

theorem run_cell_of_capacity_le {arena : Fin m} {flow : FlowId}
    (h : store.capacity arena ≤ flow) :
    (cell arena flow).run store = .error (.outOfBounds (store.capacity arena) flow) store := by
  show QueueM.cell arena flow store = _
  unfold QueueM.cell
  rw [QueueStore.cell_of_capacity_le h]

theorem run_modifyCell {arena : Fin m} {flow : FlowId} (change : Links → Links)
    (h : flow < store.capacity arena) :
    (modifyCell arena flow change).run store = .ok () (store.patch arena flow change) :=
  if_pos h

@[simp] theorem run_modifyQueue (q : Fin n) (change : Queue m → Queue m) :
    (modifyQueue q change).run store = .ok () (store.revise q change) := rfl

@[simp] theorem run_require (condition : Bool) (fault : Fault) :
    (require condition fault : QueueM m n Unit).run store
      = if condition then .ok () store else .error fault store := by
  cases condition <;> rfl

end QueueM

end FlowTracker
