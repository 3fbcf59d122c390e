import FlowTracker.Queue.Store

/-!
# Queue operations

A queue has two ends.  `enqueue` inserts at the top and `dequeue` removes at the bottom; `append`
inserts at the bottom, `detach` removes a member wherever it sits, and `rotate` moves the bottom flow
to the top.  `requeue` moves a flow between queues: it leaves its old place first and becomes the
bottom of its new queue second.

Written as lists from bottom to top, `enqueue` adds a last element, `append` a first one, `dequeue`
drops the first and `detach` drops the flow from the middle.
-/

namespace FlowTracker.QueueM

variable {m n : Nat}

def require (condition : Bool) (fault : Fault) : QueueM m n Unit :=
  if condition then pure () else throw fault

def requireUnqueued (q : Fin n) (flow : FlowId) : QueueM m n Unit := do
  let queue ← queue q
  let links ← cell queue.arena flow
  require links.owner.isNone (.alreadyQueued flow queue.name)

def requireMember (q : Fin n) (flow : FlowId) : QueueM m n Unit := do
  let queue ← queue q
  let links ← cell queue.arena flow
  require (links.owner == some q.val) (.notMember flow queue.name)

def countIn (q : Fin n) : QueueM m n Unit :=
  modifyQueue q fun queue =>
    { queue with
      length := queue.length + 1
      maxLength := max queue.maxLength (queue.length + 1) }

def countOut (q : Fin n) : QueueM m n Unit := do
  require ((← queue q).length != 0) .subOverflow
  modifyQueue q fun queue => { queue with length := queue.length - 1 }

/-! ### Insertion and removal -/

/-- Inserts a flow that is in no queue as the new top. -/
def enqueue (q : Fin n) (flow : FlowId) : QueueM m n Unit := do
  requireUnqueued q flow
  let queue ← queue q
  setTowardTop queue.arena flow none
  setTowardBottom queue.arena flow queue.top
  match queue.top with
  | some above => setTowardTop queue.arena above (some flow)
  | none => modifyQueue q fun queue => { queue with bottom := some flow }
  modifyQueue q fun queue => { queue with top := some flow }
  setOwner queue.arena flow q
  countIn q

/-- Inserts a flow that is in no queue as the new bottom. -/
def append (q : Fin n) (flow : FlowId) : QueueM m n Unit := do
  requireUnqueued q flow
  let queue ← queue q
  setTowardTop queue.arena flow queue.bottom
  setTowardBottom queue.arena flow none
  match queue.bottom with
  | some below => setTowardBottom queue.arena below (some flow)
  | none => modifyQueue q fun queue => { queue with top := some flow }
  modifyQueue q fun queue => { queue with bottom := some flow }
  setOwner queue.arena flow q
  countIn q

/-- Removes the bottom flow; `none` from an empty queue. -/
def dequeue (q : Fin n) : QueueM m n (Option FlowId) := do
  let queue ← queue q
  match queue.bottom with
  | none => return none
  | some flow =>
    match (← cell queue.arena flow).towardTop with
    | some above =>
      setTowardBottom queue.arena above none
      modifyQueue q fun queue => { queue with bottom := some above }
    | none => modifyQueue q fun queue => { queue with top := none, bottom := none }
    countOut q
    clear queue.arena flow
    return some flow

/-- Removes a member from wherever it sits. -/
def detach (q : Fin n) (flow : FlowId) : QueueM m n Unit := do
  requireMember q flow
  let queue ← queue q
  let links ← cell queue.arena flow
  if queue.top = some flow then
    modifyQueue q fun queue => { queue with top := links.towardBottom }
  if queue.bottom = some flow then
    modifyQueue q fun queue => { queue with bottom := links.towardTop }
  if let some above := links.towardTop then
    setTowardBottom queue.arena above links.towardBottom
  if let some below := links.towardBottom then
    setTowardTop queue.arena below links.towardTop
  countOut q
  clear queue.arena flow

/-- Moves the bottom flow to the top; `none` if the queue is empty. -/
def rotate (q : Fin n) : QueueM m n (Option FlowId) := do
  match ← dequeue q with
  | none => return none
  | some flow =>
    enqueue q flow
    return some flow

/-! ### Transfers -/

/-- Moves a member of `source` to the bottom of `target`. -/
def transfer (source target : Fin n) (flow : FlowId) : QueueM m n Unit := do
  let src ← queue source
  let dst ← queue target
  require (src.arena == dst.arena) (.foreignArena src.name dst.name)
  detach source flow
  append target flow

/-- Moves a flow to the bottom of `target`, from a queue that it is in or from nowhere. -/
def requeue (flow : FlowId) (source : Option (Fin n)) (target : Fin n) : QueueM m n Unit := do
  match source with
  | some source => transfer source target flow
  | none =>
    let links ← cell (← queue target).arena flow
    require links.owner.isNone (.stillLinked flow)
    append target flow

/-- Moves the bottom flow of `source` to the bottom of `target`; `none` if there is no such flow. -/
def requeueBottom (source target : Fin n) : QueueM m n (Option FlowId) := do
  match (← queue source).bottom with
  | none => return none
  | some flow =>
    transfer source target flow
    return some flow

end FlowTracker.QueueM
