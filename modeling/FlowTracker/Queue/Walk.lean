import FlowTracker.Event
import FlowTracker.Queue.Store

/-!
# Walks and the link check

A queue is read by walking its links from either end.  A walk is bounded by a number of steps, so it
ends on any arena content, also on cells that were linked into a cycle.  `QueueStore.check` compares
the two walks with each other, with the ends and with the length, and names the first disagreement.
-/

namespace FlowTracker

inductive LinkError where
  /-- The two ends and the length disagree on whether the queue is empty. -/
  | endsMismatch (length : Nat)
  /-- Walking down from the top did not reach the bottom in as many steps as the length says. -/
  | topWalk (length walked : Nat)
  /-- Walking up from the bottom did not reach the top in as many steps as the length says. -/
  | bottomWalk (length walked : Nat)
  /-- The two walks meet the members in different orders. -/
  | asymmetric (flow : FlowId)
  /-- A linked flow belongs to another queue. -/
  | foreignMember (flow : FlowId)
  deriving DecidableEq, Repr, Inhabited

def LinkError.message : LinkError → String
  | .endsMismatch length => "top/bottom do not agree with length " ++ toString length
  | .topWalk length walked =>
      "walk from top visited " ++ toString walked ++ " flows, length is " ++ toString length
  | .bottomWalk length walked =>
      "walk from bottom visited " ++ toString walked ++ " flows, length is " ++ toString length
  | .asymmetric flow => "forward and backward links disagree at " ++ flow.label
  | .foreignMember flow => flow.label ++ " is linked but owned by another queue"

namespace QueueStore

variable {m n : Nat}

/-! ### Walks -/

/-- The flows met from `start` on by following `next`, at most `steps` of them. -/
def walk (store : QueueStore m n) (arena : Fin m) (next : Links → Option FlowId) :
    (steps : Nat) → (start : Option FlowId) → Except Fault (List FlowId)
  | 0, _ => .ok []
  | _ + 1, none => .ok []
  | steps + 1, some flow => do
    let links ← store.cell arena flow
    return flow :: (← walk store arena next steps (next links))

/-- The flows met from the top down, at most one more than the queue is long. -/
def walkDown (store : QueueStore m n) (q : Fin n) : Except Fault (List FlowId) :=
  let queue := store.queue q
  store.walk queue.arena Links.towardBottom (queue.length + 1) queue.top

/-- The flows met from the bottom up, at most one more than the queue is long. -/
def walkUp (store : QueueStore m n) (q : Fin n) : Except Fault (List FlowId) :=
  let queue := store.queue q
  store.walk queue.arena Links.towardTop (queue.length + 1) queue.bottom

structure Cursor (m : Nat) where
  arena : Fin m
  next : Option FlowId
  /-- How many more flows are listed at most. -/
  remaining : Nat

def cursor (store : QueueStore m n) (q : Fin n) : Cursor m :=
  let queue := store.queue q
  ⟨queue.arena, queue.bottom, queue.length⟩

def advance (store : QueueStore m n) (cursor : Cursor m) :
    Except Fault (Option FlowId × Cursor m) :=
  match cursor.remaining, cursor.next with
  | remaining + 1, some flow => do
    let links ← store.cell cursor.arena flow
    return (some flow, { cursor with next := links.towardTop, remaining })
  | _, _ => .ok (none, cursor)

def toList (store : QueueStore m n) (q : Fin n) : Except Fault (List FlowId) :=
  let queue := store.queue q
  store.walk queue.arena Links.towardTop queue.length queue.bottom

/-! ### The check -/

/-- The first flow of the second list that differs from its partner in the first. -/
def firstDifference (expected found : List FlowId) : Option FlowId :=
  ((expected.zip found).find? fun pair => pair.1 != pair.2).map Prod.snd

/-- The first of the flows that `q` does not own. -/
def firstForeign (store : QueueStore m n) (q : Fin n) :
    List FlowId → Except Fault (Option FlowId)
  | [] => .ok none
  | flow :: rest => do
    let links ← store.cell (store.queue q).arena flow
    if links.owner = some q.val then firstForeign store q rest else return some flow

/-- Decides whether a queue is well formed, and what is wrong if it is not. -/
def check (store : QueueStore m n) (q : Fin n) : Except Fault (Option LinkError) := do
  let queue := store.queue q
  if queue.top.isNone ≠ queue.bottom.isNone ∨ queue.top.isNone ≠ (queue.length == 0) then
    return some (.endsMismatch queue.length)
  let down ← store.walkDown q
  if down.length ≠ queue.length ∨ down.getLast? ≠ queue.bottom then
    return some (.topWalk queue.length down.length)
  let up ← store.walkUp q
  if up.length ≠ queue.length ∨ up.getLast? ≠ queue.top then
    return some (.bottomWalk queue.length up.length)
  if let some flow := firstDifference down.reverse up then
    return some (.asymmetric flow)
  if let some flow := (← store.firstForeign q down) then
    return some (.foreignMember flow)
  return none

/-! ### Reports -/

/-- The events of tearing a queue down.  Its members are not touched. -/
def destroyEvents (store : QueueStore m n) (q : Fin n) : List Event :=
  let queue := store.queue q
  (if queue.length = 0 then [] else [.queueDestroyedNonEmpty queue.name queue.length])
    ++ [.queueDestroyed queue.name queue.maxLength]

def inspectFlow (flow : FlowId) : Inspect := .tuple "FlowId" [.nat flow]

def inspectQueue (store : QueueStore m n) (q : Fin n) : Inspect :=
  let queue := store.queue q
  .record "QueueGuard" [
    ("queue", .quoted queue.name),
    ("len", .nat queue.length),
    ("top", .option (queue.top.map inspectFlow)),
    ("bottom", .option (queue.bottom.map inspectFlow))]

end QueueStore

end FlowTracker
