import FlowTracker.Fault

/-!
# The store of lifecycle queues

A queue is a doubly linked list of flows.  The flows carry no pointers of their own: the two links of
a flow and the queue that owns it lie in a cell of an arena, and every queue over that arena threads
its flows through those cells.  `QueueStore m n` holds `m` arenas and `n` queues, so a handle of
either kind is in range by its type, while a handle of a flow may be out of the range of the arena it
is used with, which is a fault.

The operations are programs over the store.  A fault keeps what was changed before it.
-/

namespace FlowTracker

/-- Identity of a queue, as the cells of its flows record it. -/
abbrev QueueId := Nat

structure Links where
  towardTop : Option FlowId
  towardBottom : Option FlowId
  /-- The queue that the flow is linked into.  It is read by contract checks only, never to decide
  where a flow goes. -/
  owner : Option QueueId
  deriving DecidableEq, Repr, Inhabited

def Links.unlinked : Links := ⟨none, none, none⟩

/-- A queue: the arena it threads its flows through, its ends and its length. -/
structure Queue (arenas : Nat) where
  name : String
  arena : Fin arenas
  /-- The flow that was enqueued last. -/
  top : Option FlowId
  /-- The flow that is dequeued next. -/
  bottom : Option FlowId
  length : Nat
  /-- The greatest length that the queue has had. -/
  maxLength : Nat
  deriving DecidableEq, Repr

def Queue.empty {arenas : Nat} (name : String) (arena : Fin arenas) : Queue arenas :=
  ⟨name, arena, none, none, 0, 0⟩

/-- Arenas and the queues over them. -/
structure QueueStore (arenas queues : Nat) where
  cells : Vector (Array Links) arenas
  queues : Vector (Queue arenas) queues
  deriving Repr

abbrev QueueM (m n : Nat) := EStateM Fault (QueueStore m n)

namespace QueueStore

variable {m n : Nat}

def empty : QueueStore 0 0 := ⟨#v[], #v[]⟩

/-- The number of slots from which on no handle could name a slot. -/
def handleLimit : Nat := 4294967295

def addArena (store : QueueStore m n) (capacity : Nat) : Except Fault (QueueStore (m + 1) n) :=
  if capacity < handleLimit then
    .ok {
      cells := store.cells.push (Array.replicate capacity .unlinked)
      queues := store.queues.map fun queue => { queue with arena := queue.arena.castSucc } }
  else .error (.arenaCapacity capacity)

def addQueue (store : QueueStore m n) (name : String) (arena : Fin m) : QueueStore m (n + 1) :=
  { store with queues := store.queues.push (.empty name arena) }

def queue (store : QueueStore m n) (q : Fin n) : Queue m := store.queues[q]

def capacity (store : QueueStore m n) (arena : Fin m) : Nat := store.cells[arena].size

def flow? (store : QueueStore m n) (arena : Fin m) (index : Nat) : Option FlowId :=
  if index < store.capacity arena then some index else none

def flows (store : QueueStore m n) (arena : Fin m) : List FlowId :=
  List.range (store.capacity arena)

def cell (store : QueueStore m n) (arena : Fin m) (flow : FlowId) : Except Fault Links :=
  match store.cells[arena][flow]? with
  | some links => .ok links
  | none => .error (.outOfBounds (store.capacity arena) flow)

def isQueued (store : QueueStore m n) (arena : Fin m) (flow : FlowId) : Except Fault Bool :=
  return (← store.cell arena flow).owner.isSome

end QueueStore

/-! ### Single accesses -/

namespace QueueM

variable {m n : Nat}

def cell (arena : Fin m) (flow : FlowId) : QueueM m n Links := fun store =>
  match store.cell arena flow with
  | .ok links => .ok links store
  | .error fault => .error fault store

def modifyArena (cells : Vector (Array Links) m) (arena : Fin m)
    (change : Array Links → Array Links) : Vector (Array Links) m :=
  ⟨cells.toArray.modify arena change, by simp⟩

theorem getElem_modifyArena (cells : Vector (Array Links) m) (arena : Fin m)
    (change : Array Links → Array Links) (i : Fin m) :
    (modifyArena cells arena change)[i]
      = if arena = i then change cells[i] else cells[i] := by
  simp only [modifyArena, Fin.getElem_fin, Vector.getElem_mk, Array.getElem_modify,
    Vector.getElem_toArray, Fin.ext_iff]

def modifyCell (arena : Fin m) (flow : FlowId) (change : Links → Links) : QueueM m n Unit :=
  fun store =>
    if flow < store.capacity arena then
      .ok () { store with
        cells := modifyArena store.cells arena fun cells => cells.modify flow change }
    else .error (.outOfBounds (store.capacity arena) flow) store

def setTowardTop (arena : Fin m) (flow : FlowId) (link : Option FlowId) : QueueM m n Unit :=
  modifyCell arena flow fun links => { links with towardTop := link }

def setTowardBottom (arena : Fin m) (flow : FlowId) (link : Option FlowId) : QueueM m n Unit :=
  modifyCell arena flow fun links => { links with towardBottom := link }

def setOwner (arena : Fin m) (flow : FlowId) (owner : QueueId) : QueueM m n Unit :=
  modifyCell arena flow fun links => { links with owner := some owner }

def clear (arena : Fin m) (flow : FlowId) : QueueM m n Unit :=
  modifyCell arena flow fun _ => .unlinked

def queue (q : Fin n) : QueueM m n (Queue m) := return (← get).queue q

def modifyQueue (q : Fin n) (change : Queue m → Queue m) : QueueM m n Unit :=
  modify fun store => { store with queues := store.queues.set q (change (store.queue q)) }

end QueueM

end FlowTracker
