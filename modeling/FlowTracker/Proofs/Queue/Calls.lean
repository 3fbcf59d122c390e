import FlowTracker.Proofs.Queue.Steps

/-!
# Calls on queues and on lists

A `QueueCall` is one operation with arbitrary handles.  Its meaning is given twice: as the program that
runs on a store, and on a lineup, as the fault it is refused with, its answer and the lists it leaves.
`Represents.run_call` and `Represents.run_call_refused` say that the two agree in one step, and
`Represents.performAll` that any calls move a store and the lineup that it represents alike.
-/

namespace FlowTracker

variable {m n : Nat}

/-! ### Calls -/

inductive QueueCall (n : Nat) where
  | enqueue (q : Fin n) (flow : FlowId)
  /-- Enqueues, for consumers that wait. -/
  | publish (q : Fin n) (flow : FlowId)
  | append (q : Fin n) (flow : FlowId)
  | dequeue (q : Fin n)
  /-- Dequeues when the wait for a flow ends. -/
  | waitDequeue (q : Fin n)
  | detach (q : Fin n) (flow : FlowId)
  | rotate (q : Fin n)
  | requeue (flow : FlowId) (source : Option (Fin n)) (target : Fin n)
  /-- Requeues under the lock of the source. -/
  | guardRequeue (source target : Fin n) (flow : FlowId)
  /-- Requeues whatever flow is the bottom of the source. -/
  | requeueBottom (source target : Fin n)
  deriving DecidableEq, Repr

namespace QueueCall

def program : QueueCall n → QueueM m n (Option FlowId)
  | enqueue q flow | publish q flow => do QueueM.enqueue q flow; return none
  | append q flow => do QueueM.append q flow; return none
  | dequeue q | waitDequeue q => QueueM.dequeue q
  | detach q flow => do QueueM.detach q flow; return none
  | rotate q => QueueM.rotate q
  | requeue flow source target => do QueueM.requeue flow source target; return none
  | guardRequeue source target flow => do QueueM.transfer source target flow; return none
  | requeueBottom source target => QueueM.requeueBottom source target

/-- What a call asks of the handles that it is given. -/
def Contract (lineup : Lineup m n) : QueueCall n → Prop
  | enqueue q flow | publish q flow | append q flow | requeue flow none q =>
      flow < lineup.capacity (lineup.arena q) ∧ ¬ lineup.IsQueued (lineup.arena q) flow
  | dequeue _ | waitDequeue _ | rotate _ => True
  | detach q flow => flow < lineup.capacity (lineup.arena q) ∧ flow ∈ lineup.flows q
  | requeue flow (some source) target | guardRequeue source target flow =>
      lineup.arena source = lineup.arena target
        ∧ flow < lineup.capacity (lineup.arena source) ∧ flow ∈ lineup.flows source
  | requeueBottom source target =>
      lineup.flows source = [] ∨ lineup.arena source = lineup.arena target

end QueueCall

namespace Lineup

variable (lineup : Lineup m n)

/-- The fault that a call is refused with, if its contract is broken. -/
def refusal : QueueCall n → Option Fault
  | .enqueue q flow | .publish q flow | .append q flow =>
      lineup.refuseInsert q flow (.alreadyQueued flow (lineup.name q))
  | .dequeue _ | .waitDequeue _ | .rotate _ => none
  | .detach q flow => lineup.refuseRemove q flow
  | .requeue flow none target => lineup.refuseInsert target flow (.stillLinked flow)
  | .requeue flow (some source) target | .guardRequeue source target flow =>
      lineup.refuseTransfer source target flow
  | .requeueBottom source target =>
      if lineup.flows source = [] ∨ lineup.arena source = lineup.arena target then none
      else some (.foreignArena (lineup.name source) (lineup.name target))

def answer : QueueCall n → Option FlowId
  | .dequeue q | .waitDequeue q | .rotate q | .requeueBottom q _ => (lineup.flows q).head?
  | _ => none

def after : QueueCall n → Lineup m n
  | .enqueue q flow | .publish q flow => lineup.enqueue q flow
  | .append q flow | .requeue flow none q => lineup.append q flow
  | .dequeue q | .waitDequeue q => lineup.dequeue q
  | .detach q flow => lineup.detach q flow
  | .rotate q => lineup.rotate q
  | .requeue flow (some source) target | .guardRequeue source target flow =>
      lineup.transfer source target flow
  | .requeueBottom source target =>
      (lineup.flows source).head?.elim lineup (lineup.transfer source target)

/-- What a call leaves: nothing is changed by one that is refused. -/
def perform (call : QueueCall n) : Lineup m n :=
  if (lineup.refusal call).isNone then lineup.after call else lineup

def performAll (calls : List (QueueCall n)) : Lineup m n := calls.foldl perform lineup

/-- A call is refused exactly if its contract is broken. -/
theorem refusal_eq_none_iff (call : QueueCall n) :
    lineup.refusal call = none ↔ call.Contract lineup := by
  cases call with
  | enqueue q flow => exact refuseInsert_eq_none_iff
  | publish q flow => exact refuseInsert_eq_none_iff
  | append q flow => exact refuseInsert_eq_none_iff
  | dequeue q => exact ⟨fun _ => trivial, fun _ => rfl⟩
  | waitDequeue q => exact ⟨fun _ => trivial, fun _ => rfl⟩
  | detach q flow => exact refuseRemove_eq_none_iff
  | rotate q => exact ⟨fun _ => trivial, fun _ => rfl⟩
  | requeue flow source target =>
    cases source with
    | none => exact refuseInsert_eq_none_iff
    | some source => exact refuseTransfer_eq_none_iff
  | guardRequeue source target flow => exact refuseTransfer_eq_none_iff
  | requeueBottom source target =>
    by_cases hcontract : lineup.flows source = [] ∨ lineup.arena source = lineup.arena target
    · exact ⟨fun _ => hcontract, fun _ => if_pos hcontract⟩
    · simp only [refusal, if_neg hcontract, reduceCtorEq, false_iff]
      exact hcontract

end Lineup

/-! ### One call -/

namespace QueueStore

/-- The store that a call leaves, also one that is refused. -/
def perform (store : QueueStore m n) (call : QueueCall n) : QueueStore m n :=
  match call.program.run store with
  | .ok _ store' => store'
  | .error _ store' => store'

def performAll (store : QueueStore m n) (calls : List (QueueCall n)) : QueueStore m n :=
  calls.foldl perform store

namespace Represents

variable {store : QueueStore m n} {lineup : Lineup m n} {q : Fin n} {flow : FlowId}

theorem dequeue (h : store.Represents lineup) :
    ∃ store', (QueueM.dequeue q).run store = .ok (lineup.flows q).head? store'
      ∧ store'.Represents (lineup.dequeue q) := by
  unfold Lineup.dequeue
  cases hflows : lineup.flows q with
  | nil =>
    refine ⟨store, h.dequeue_nil hflows, ?_⟩
    rw [List.tail_nil, ← hflows, Lineup.place_flows q (h.length_le_peak q)]
    exact h
  | cons flow rest => exact h.dequeue_cons hflows

theorem rotate (h : store.Represents lineup) :
    ∃ store', (QueueM.rotate q).run store = .ok (lineup.flows q).head? store'
      ∧ store'.Represents (lineup.rotate q) := by
  unfold Lineup.rotate
  cases hflows : lineup.flows q with
  | nil =>
    refine ⟨store, ?_, ?_⟩
    · simp only [QueueM.rotate, EStateM.run_bind, h.dequeue_nil hflows, EStateM.run_pure,
        List.head?_nil]
    · simp only [List.tail_nil, List.head?_nil, Option.toList_none, List.append_nil]
      rw [← hflows, Lineup.place_flows q (h.length_le_peak q)]
      exact h
  | cons flow rest => exact h.rotate_cons hflows

theorem requeue_none (h : store.Represents lineup)
    (hlt : flow < lineup.capacity (lineup.arena q))
    (hout : ¬ lineup.IsQueued (lineup.arena q) flow) :
    ∃ store', (QueueM.requeue flow none q).run store = .ok () store'
      ∧ store'.Represents (lineup.append q flow) := by
  obtain ⟨store', hrun, h'⟩ := h.append hlt hout
  refine ⟨store', ?_, h'⟩
  simp only [QueueM.requeue, EStateM.run_bind, QueueM.run_queue,
    QueueM.run_cell (h.free_cell hlt hout), QueueM.run_require, Links.unlinked,
    Option.isNone_none, if_true, hrun]

theorem requeue_none_refused (h : store.Represents lineup) {fault : Fault}
    (hfault : lineup.refuseInsert q flow (.stillLinked flow) = some fault) :
    (QueueM.requeue flow none q).run store = .error fault store := by
  rcases Nat.lt_or_ge flow (lineup.capacity (lineup.arena q)) with hlt | hle
  · obtain ⟨links, hcell⟩ := h.exists_cell hlt
    rw [← h.arena_eq] at hcell
    rw [h.refuseInsert_of_cell hcell] at hfault
    split at hfault
    · cases hfault
    · obtain rfl := Option.some.inj hfault
      simp only [QueueM.requeue, EStateM.run_bind, QueueM.run_queue, QueueM.run_cell hcell,
        QueueM.run_require, if_neg ‹_›]
  · rw [Lineup.refuseInsert, if_pos hle] at hfault
    obtain rfl := Option.some.inj hfault
    simp only [QueueM.requeue, EStateM.run_bind, QueueM.run_queue, h.run_cell_beyond hle]

theorem requeueBottom (h : store.Represents lineup) {source target : Fin n}
    (hcontract : lineup.flows source = [] ∨ lineup.arena source = lineup.arena target) :
    ∃ store', (QueueM.requeueBottom source target).run store
        = .ok (lineup.flows source).head? store'
      ∧ store'.Represents
        ((lineup.flows source).head?.elim lineup (lineup.transfer source target)) := by
  have hbottom := (h.chain source).bottom_eq
  cases hflows : lineup.flows source with
  | nil =>
    rw [hflows] at hbottom
    refine ⟨store, ?_, h⟩
    simp only [QueueM.requeueBottom, EStateM.run_bind, QueueM.run_queue, hbottom, List.head?_nil,
      EStateM.run_pure]
  | cons flow rest =>
    have hmem : flow ∈ lineup.flows source := by rw [hflows]; exact List.mem_cons_self
    have harena := hcontract.resolve_left (by rw [hflows]; exact List.cons_ne_nil _ _)
    rw [hflows] at hbottom
    obtain ⟨store', hrun, h'⟩ := h.transfer harena hmem
    refine ⟨store', ?_, h'⟩
    simp only [QueueM.requeueBottom, EStateM.run_bind, QueueM.run_queue, hbottom, List.head?_cons,
      hrun, EStateM.run_pure]

theorem requeueBottom_refused (h : store.Represents lineup) {source target : Fin n}
    (hcontract : ¬ (lineup.flows source = [] ∨ lineup.arena source = lineup.arena target)) :
    (QueueM.requeueBottom source target).run store
      = .error (.foreignArena (lineup.name source) (lineup.name target)) store := by
  rw [not_or] at hcontract
  have hbottom := (h.chain source).bottom_eq
  cases hflows : lineup.flows source with
  | nil => exact absurd hflows hcontract.1
  | cons flow rest =>
    rw [hflows] at hbottom
    have hrefused : (QueueM.transfer source target flow).run store = _ :=
      h.transfer_refused (if_neg hcontract.2)
    simp only [QueueM.requeueBottom, EStateM.run_bind, QueueM.run_queue, hbottom, List.head?_cons,
      hrefused]

/-- A program that answers nothing, as a call. -/
theorem run_then_none {program : QueueM m n Unit} {store' : QueueStore m n}
    (hrun : program.run store = .ok () store') :
    (do program; return none : QueueM m n (Option FlowId)).run store = .ok none store' := by
  simp only [EStateM.run_bind, hrun, EStateM.run_pure]

theorem run_then_none_refused {program : QueueM m n Unit} {fault : Fault}
    (hrun : program.run store = .error fault store) :
    (do program; return none : QueueM m n (Option FlowId)).run store = .error fault store := by
  simp only [EStateM.run_bind, hrun]

/-- A call that is refused changes nothing. -/
theorem run_call_refused (h : store.Represents lineup) {call : QueueCall n} {fault : Fault}
    (hfault : lineup.refusal call = some fault) :
    call.program.run store = .error fault store := by
  cases call with
  | enqueue q flow => exact run_then_none_refused (h.enqueue_refused hfault)
  | publish q flow => exact run_then_none_refused (h.enqueue_refused hfault)
  | append q flow => exact run_then_none_refused (h.append_refused hfault)
  | dequeue q => cases hfault
  | waitDequeue q => cases hfault
  | detach q flow => exact run_then_none_refused (h.detach_refused hfault)
  | rotate q => cases hfault
  | requeue flow source target =>
    cases source with
    | none => exact run_then_none_refused (h.requeue_none_refused hfault)
    | some source => exact run_then_none_refused (h.transfer_refused hfault)
  | guardRequeue source target flow => exact run_then_none_refused (h.transfer_refused hfault)
  | requeueBottom source target =>
    simp only [Lineup.refusal] at hfault
    split at hfault
    · cases hfault
    · rw [← Option.some.inj hfault]
      exact h.requeueBottom_refused ‹_›

/-- A call within its contract answers and leaves what its counterpart does. -/
theorem run_call (h : store.Represents lineup) {call : QueueCall n}
    (hcontract : call.Contract lineup) :
    ∃ store', call.program.run store = .ok (lineup.answer call) store'
      ∧ store'.Represents (lineup.after call) := by
  cases call with
  | enqueue q flow =>
    obtain ⟨store', hrun, h'⟩ := h.enqueue hcontract.1 hcontract.2
    exact ⟨store', run_then_none hrun, h'⟩
  | publish q flow =>
    obtain ⟨store', hrun, h'⟩ := h.enqueue hcontract.1 hcontract.2
    exact ⟨store', run_then_none hrun, h'⟩
  | append q flow =>
    obtain ⟨store', hrun, h'⟩ := h.append hcontract.1 hcontract.2
    exact ⟨store', run_then_none hrun, h'⟩
  | dequeue q => exact h.dequeue
  | waitDequeue q => exact h.dequeue
  | detach q flow =>
    obtain ⟨store', hrun, h'⟩ := h.detach hcontract.2
    exact ⟨store', run_then_none hrun, h'⟩
  | rotate q => exact h.rotate
  | requeue flow source target =>
    cases source with
    | none =>
      obtain ⟨store', hrun, h'⟩ := h.requeue_none hcontract.1 hcontract.2
      exact ⟨store', run_then_none hrun, h'⟩
    | some source =>
      obtain ⟨store', hrun, h'⟩ := h.transfer hcontract.1 hcontract.2.2
      exact ⟨store', run_then_none hrun, h'⟩
  | guardRequeue source target flow =>
    obtain ⟨store', hrun, h'⟩ := h.transfer hcontract.1 hcontract.2.2
    exact ⟨store', run_then_none hrun, h'⟩
  | requeueBottom source target => exact h.requeueBottom hcontract

/-- One call moves the store and the lineup alike. -/
theorem perform (h : store.Represents lineup) (call : QueueCall n) :
    (store.perform call).Represents (lineup.perform call) := by
  unfold QueueStore.perform Lineup.perform
  cases hfault : lineup.refusal call with
  | none =>
    obtain ⟨store', hrun, h'⟩ := h.run_call ((lineup.refusal_eq_none_iff call).1 hfault)
    simp only [hrun, Option.isNone_none, if_true]
    exact h'
  | some fault =>
    simp only [h.run_call_refused hfault, Option.isNone_some, Bool.false_eq_true, if_false]
    exact h

theorem performAll (h : store.Represents lineup) (calls : List (QueueCall n)) :
    (store.performAll calls).Represents (lineup.performAll calls) := by
  induction calls generalizing store lineup with
  | nil => exact h
  | cons call calls ih => exact ih (h.perform call)

end Represents

end QueueStore

end FlowTracker
