import FlowTracker.Proofs.Queue.Behaviour

/-!
# Calls that work on one queue

A call that takes one queue lock changes that queue, the cells of its members before and after, and
nothing else (`Represents.changesOnly`).  Two such calls on different queues can be exchanged, unless one
inserts a flow that the other one inserts or removes (`Represents.commute`).

Both are read off the lists.  A call on one queue replaces one list by another that depends on the old one
alone, so changes of two lists can be exchanged; what is left is that neither call is refused because of
the other, and a call is refused on the strength of its own list and of the queue that its flow is in.
A store is then determined by the lineup that it represents (`Represents.unique`).
-/

namespace FlowTracker

variable {m n : Nat}

/-! ### What a call names -/

namespace QueueCall

def queues : QueueCall n → List (Fin n)
  | enqueue q _ | publish q _ | append q _ | dequeue q | waitDequeue q | detach q _ | rotate q
  | requeue _ none q => [q]
  | requeue _ (some source) target | guardRequeue source target _ | requeueBottom source target =>
    [source, target]

/-- The queue that a call works on, if it takes the lock of one queue only. -/
def queue? : QueueCall n → Option (Fin n)
  | enqueue q _ | publish q _ | append q _ | dequeue q | waitDequeue q | detach q _ | rotate q
  | requeue _ none q => some q
  | requeue _ (some _) _ | guardRequeue .. | requeueBottom .. => none

/-- The flow that a call is to put into its queue. -/
def inserted? : QueueCall n → Option FlowId
  | enqueue _ flow | publish _ flow | append _ flow | requeue flow none _ => some flow
  | _ => none

/-- What a call on one queue makes of the list of its members. -/
def change : QueueCall n → List FlowId → List FlowId
  | enqueue _ flow | publish _ flow => fun flows => flows ++ [flow]
  | append _ flow | requeue flow none _ => fun flows => flow :: flows
  | dequeue _ | waitDequeue _ => List.tail
  | detach _ flow => fun flows => flows.erase flow
  | rotate _ => fun flows => flows.tail ++ flows.head?.toList
  | requeue _ (some _) _ | guardRequeue .. | requeueBottom .. => id

variable {call : QueueCall n} {flows : List FlowId} {flow : FlowId}

/-- What a call leaves in a list was there before or has been inserted. -/
theorem mem_of_mem_change (h : flow ∈ call.change flows) :
    flow ∈ flows ∨ call.inserted? = some flow := by
  have hinsert {new : FlowId} (h : flow ∈ flows ++ [new]) :
      flow ∈ flows ∨ some new = some flow := by
    rcases List.mem_append.1 h with h | h
    · exact Or.inl h
    · exact Or.inr (congrArg some (List.mem_singleton.1 h).symm)
  have hadd {new : FlowId} (h : flow ∈ new :: flows) : flow ∈ flows ∨ some new = some flow := by
    rcases List.mem_cons.1 h with h | h
    · exact Or.inr (congrArg some h.symm)
    · exact Or.inl h
  cases call with
  | enqueue q new => exact hinsert h
  | publish q new => exact hinsert h
  | append q new => exact hadd h
  | dequeue q => exact Or.inl (List.mem_of_mem_tail h)
  | waitDequeue q => exact Or.inl (List.mem_of_mem_tail h)
  | detach q old => exact Or.inl (List.mem_of_mem_erase h)
  | rotate q =>
    rcases List.mem_append.1 h with h | h
    · exact Or.inl (List.mem_of_mem_tail h)
    · exact Or.inl (List.mem_of_head? (Option.mem_toList.1 h))
  | requeue new source q =>
    cases source with
    | none => exact hadd h
    | some source => exact Or.inl h
  | guardRequeue source target new => exact Or.inl h
  | requeueBottom source target => exact Or.inl h

end QueueCall

/-! ### Calls on lists -/

namespace Lineup

variable {lineup lineup' : Lineup m n} {call call' : QueueCall n} {q q' : Fin n}

theorem after_eq_place (h : call.queue? = some q) :
    lineup.after call = lineup.place q (call.change (lineup.flows q)) := by
  cases call with
  | requeue flow source target =>
    cases source with
    | none => obtain rfl := Option.some.inj h; rfl
    | some source => cases h
  | guardRequeue source target flow => cases h
  | requeueBottom source target => cases h
  | _ => obtain rfl := Option.some.inj h; rfl

theorem perform_of_refusal {fault : Fault} (h : lineup.refusal call = some fault) :
    lineup.perform call = lineup := by
  rw [perform, h]
  rfl

theorem perform_eq_place (hq : call.queue? = some q) (h : lineup.refusal call = none) :
    lineup.perform call = lineup.place q (call.change (lineup.flows q)) := by
  rw [perform, h, ← after_eq_place hq]
  rfl

/-- A call on one queue changes nothing, or it changes the list of that queue. -/
theorem perform_or (hq : call.queue? = some q) :
    lineup.perform call = lineup
      ∨ lineup.perform call = lineup.place q (call.change (lineup.flows q)) := by
  cases h : lineup.refusal call with
  | some fault => exact Or.inl (perform_of_refusal h)
  | none => exact Or.inr (perform_eq_place hq h)

theorem flows_perform_of_ne (hq : call.queue? = some q) (hne : q' ≠ q) :
    (lineup.perform call).flows q' = lineup.flows q' := by
  rcases lineup.perform_or hq with h | h
  · rw [h]
  · rw [h, lineup.flows_place_of_ne hne]

theorem mem_of_mem_perform {flow : FlowId} (hq : call.queue? = some q)
    (h : flow ∈ (lineup.perform call).flows q') :
    flow ∈ lineup.flows q' ∨ call.inserted? = some flow := by
  by_cases hsame : q' = q
  · subst hsame
    rcases lineup.perform_or hq with heq | heq
    · rw [heq] at h
      exact Or.inl h
    · rw [heq, flows_place_self] at h
      exact QueueCall.mem_of_mem_change h
  · rw [flows_perform_of_ne hq hsame] at h
    exact Or.inl h

theorem flows_transfer_of_ne {source target : Fin n} (flow : FlowId) (hsource : q ≠ source)
    (htarget : q ≠ target) : (lineup.transfer source target flow).flows q = lineup.flows q := by
  rw [transfer, append, flows_place_of_ne _ htarget, detach, flows_place_of_ne _ hsource]

/-- A call changes no list but those of the queues that it names. -/
theorem flows_perform_of_unnamed {call : QueueCall n} (h : q ∉ call.queues) :
    (lineup.perform call).flows q = lineup.flows q := by
  have hone {q' : Fin n} (hqueue : call.queue? = some q') (hqueues : call.queues = [q']) :
      (lineup.perform call).flows q = lineup.flows q := by
    rw [hqueues, List.mem_singleton] at h
    exact flows_perform_of_ne hqueue h
  have htwo {source target : Fin n} (flow : FlowId) (hqueues : call.queues = [source, target]) :
      (lineup.transfer source target flow).flows q = lineup.flows q := by
    simp only [hqueues, List.mem_cons, List.not_mem_nil, or_false, not_or] at h
    exact flows_transfer_of_ne flow h.1 h.2
  cases call with
  | requeue flow source target =>
    cases source with
    | none => exact hone rfl rfl
    | some source =>
      unfold perform
      split
      · exact htwo flow rfl
      · rfl
  | guardRequeue source target flow =>
    unfold perform
    split
    · exact htwo flow rfl
    · rfl
  | requeueBottom source target =>
    unfold perform
    split
    · simp only [after]
      cases (lineup.flows source).head? with
      | none => rfl
      | some flow => exact htwo flow rfl
    · rfl
  | _ => exact hone rfl rfl

theorem shape_perform (lineup : Lineup m n) (call : QueueCall n) :
    (lineup.perform call).capacity = lineup.capacity ∧ (lineup.perform call).arena = lineup.arena
      ∧ (lineup.perform call).name = lineup.name := by
  unfold perform
  split
  · cases call with
    | requeue flow source target => cases source <;> exact ⟨rfl, rfl, rfl⟩
    | requeueBottom source target =>
      simp only [after]
      cases (lineup.flows source).head? <;> exact ⟨rfl, rfl, rfl⟩
    | _ => exact ⟨rfl, rfl, rfl⟩
  · exact ⟨rfl, rfl, rfl⟩

/-! ### Exchanging two calls -/

theorem place_comm (hne : q ≠ q') (flows flows' : List FlowId) :
    (lineup.place q flows).place q' flows' = (lineup.place q' flows').place q flows := by
  unfold place
  simp only [Function.update_of_ne hne, Function.update_of_ne hne.symm]
  rw [Function.update_comm hne, Function.update_comm hne]

/-- No flow that one of the two calls is to insert is inserted or taken out by the other. -/
def Apart (lineup : Lineup m n) (call call' : QueueCall n) : Prop :=
  ∀ flow, call.inserted? = some flow → call'.inserted? ≠ some flow
    ∧ ∀ q', flow ∈ lineup.flows q' → flow ∈ (lineup.perform call').flows q'

theorem isQueued_perform {flow : FlowId} (hq' : call'.queue? = some q')
    (happart : lineup.Apart call call') (hflow : call.inserted? = some flow) (arena : Fin m) :
    (lineup.perform call').IsQueued arena flow ↔ lineup.IsQueued arena flow := by
  obtain ⟨hother, hstays⟩ := happart flow hflow
  unfold IsQueued
  rw [(lineup.shape_perform call').2.1]
  constructor
  · rintro ⟨q, harena, hmem⟩
    exact ⟨q, harena, (mem_of_mem_perform hq' hmem).resolve_right hother⟩
  · rintro ⟨q, harena, hmem⟩
    exact ⟨q, harena, hstays q hmem⟩

/-- A call on another queue decides nothing about whether a call is refused. -/
theorem refusal_perform (hq : call.queue? = some q) (hq' : call'.queue? = some q') (hne : q ≠ q')
    (happart : lineup.Apart call call') :
    (lineup.perform call').refusal call = lineup.refusal call := by
  obtain ⟨hcapacity, harena, hname⟩ := lineup.shape_perform call'
  have hinsert (target : Fin n) (flow : FlowId) (linked : Fault) (hflow : call.inserted? = some flow) :
      (lineup.perform call').refuseInsert target flow linked
        = lineup.refuseInsert target flow linked := by
    simp only [refuseInsert, hcapacity, harena, isQueued_perform hq' happart hflow]
  -- an insertion asks whether the flow is in any queue, a removal whether it is in its own
  cases call with
  | enqueue target flow => simp only [refusal, hname, hinsert target flow _ rfl]
  | publish target flow => simp only [refusal, hname, hinsert target flow _ rfl]
  | append target flow => simp only [refusal, hname, hinsert target flow _ rfl]
  | detach target flow =>
    obtain rfl := Option.some.inj hq
    simp only [refusal, refuseRemove, hcapacity, harena, hname, flows_perform_of_ne hq' hne]
  | dequeue target => rfl
  | waitDequeue target => rfl
  | rotate target => rfl
  | requeue flow source target =>
    cases source with
    | none => exact hinsert target flow _ rfl
    | some source => cases hq
  | guardRequeue source target flow => cases hq
  | requeueBottom source target => cases hq

theorem answer_congr (hq : call.queue? = some q) (h : lineup'.flows q = lineup.flows q) :
    lineup'.answer call = lineup.answer call := by
  cases call with
  | dequeue target => obtain rfl := Option.some.inj hq; exact congrArg List.head? h
  | waitDequeue target => obtain rfl := Option.some.inj hq; exact congrArg List.head? h
  | rotate target => obtain rfl := Option.some.inj hq; exact congrArg List.head? h
  | requeueBottom source target => cases hq
  | _ => rfl

theorem perform_comm (hq : call.queue? = some q) (hq' : call'.queue? = some q') (hne : q ≠ q')
    (happart : lineup.Apart call call') (happart' : lineup.Apart call' call) :
    (lineup.perform call).perform call' = (lineup.perform call').perform call := by
  have hrefusal := refusal_perform hq hq' hne happart
  have hrefusal' := refusal_perform hq' hq hne.symm happart'
  cases h : lineup.refusal call with
  | some fault =>
    rw [h] at hrefusal
    rw [perform_of_refusal h, perform_of_refusal hrefusal]
  | none =>
    rw [h] at hrefusal
    cases h' : lineup.refusal call' with
    | some fault =>
      rw [h'] at hrefusal'
      rw [perform_of_refusal h', perform_of_refusal hrefusal']
    | none =>
      rw [h'] at hrefusal'
      rw [perform_eq_place hq' hrefusal', perform_eq_place hq hrefusal,
        flows_perform_of_ne hq hne.symm, flows_perform_of_ne hq' hne, perform_eq_place hq h,
        perform_eq_place hq' h', place_comm hne]

end Lineup

/-! ### Calls on a store -/

namespace QueueStore

def outcome (store : QueueStore m n) (call : QueueCall n) : Except Fault (Option FlowId) :=
  match call.program.run store with
  | .ok answer _ => .ok answer
  | .error fault _ => .error fault

/-- A call changes `q`, the cells of the flows that `q` has before or after the call, and nothing
else. -/
def ChangesOnly (store : QueueStore m n) (q : Fin n) (call : QueueCall n) : Prop :=
  ∃ before after, store.toList q = .ok before ∧ (store.perform call).toList q = .ok after
    ∧ (∀ q', q' ≠ q → (store.perform call).queue q' = store.queue q')
    ∧ ∀ arena flow, ¬ (arena = (store.queue q).arena ∧ (flow ∈ before ∨ flow ∈ after)) →
      (store.perform call).cell? arena flow = store.cell? arena flow

def Removes (store : QueueStore m n) (call : QueueCall n) (flow : FlowId) : Prop :=
  ∃ q before after, call.queue? = some q ∧ store.toList q = .ok before
    ∧ (store.perform call).toList q = .ok after ∧ flow ∈ before ∧ flow ∉ after

/-- No flow that one of the two calls is to insert is inserted or removed by the other. -/
def Apart (store : QueueStore m n) (call call' : QueueCall n) : Prop :=
  ∀ flow, call.inserted? = some flow → call'.inserted? ≠ some flow ∧ ¬ store.Removes call' flow

/-- In both orders two calls leave the same store, and each has the same outcome. -/
def Commute (store : QueueStore m n) (call call' : QueueCall n) : Prop :=
  (store.perform call).perform call' = (store.perform call').perform call
    ∧ (store.perform call').outcome call = store.outcome call
    ∧ (store.perform call).outcome call' = store.outcome call'

namespace Represents

variable {store store' : QueueStore m n} {lineup lineup' : Lineup m n} {call call' : QueueCall n}
  {q q' : Fin n} {flow : FlowId}

/-- The cell of a flow between its neighbours. -/
theorem cell_of_split (h : store.Represents lineup) {below above : List FlowId}
    (hsplit : lineup.flows q = below ++ flow :: above) :
    store.cell? (lineup.arena q) flow = some ⟨above.head?, below.getLast?, some q.val⟩ := by
  rw [← h.arena_eq]
  exact (h.chain q).cell_eq below flow above hsplit

/-- A cell depends on the lists that have its flow, and on nothing else. -/
theorem cell_congr (h : store.Represents lineup) (h' : store'.Represents lineup')
    (hcapacity : lineup'.capacity = lineup.capacity) (harena : lineup'.arena = lineup.arena)
    {arena : Fin m} (hflows : ∀ q, lineup.arena q = arena →
      flow ∈ lineup.flows q ∨ flow ∈ lineup'.flows q → lineup'.flows q = lineup.flows q) :
    store'.cell? arena flow = store.cell? arena flow := by
  by_cases hqueued : lineup.IsQueued arena flow
  · obtain ⟨q, rfl, hmem⟩ := hqueued
    have hsame := hflows q rfl (Or.inl hmem)
    obtain ⟨below, above, hsplit⟩ := List.append_of_mem hmem
    rw [h.cell_of_split hsplit, ← harena, h'.cell_of_split (hsame.trans hsplit)]
  · have hqueued' : ¬ lineup'.IsQueued arena flow := by
      rintro ⟨q, hq, hmem⟩
      rw [harena] at hq
      exact hqueued ⟨q, hq, hflows q hq (Or.inr hmem) ▸ hmem⟩
    by_cases hlt : flow < lineup.capacity arena
    · rw [h.unlinked arena flow hlt hqueued,
        h'.unlinked arena flow (by rw [hcapacity]; exact hlt) hqueued']
    · have hbeyond {store : QueueStore m n} (hle : store.capacity arena = lineup.capacity arena) :
          store.cell? arena flow = none := by
        rw [Option.eq_none_iff_forall_ne_some]
        intro links hlinks
        exact hlt (hle ▸ lt_capacity_of_cell? hlinks)
      rw [hbeyond (h.capacity_eq arena), hbeyond ((h'.capacity_eq arena).trans (by rw [hcapacity]))]

theorem queue_congr (h : store.Represents lineup) (h' : store'.Represents lineup')
    (harena : lineup'.arena = lineup.arena) (hname : lineup'.name = lineup.name)
    (hflows : lineup'.flows q = lineup.flows q) (hpeak : lineup'.peak q = lineup.peak q) :
    store'.queue q = store.queue q := by
  have hchain := h'.chain q
  rw [hflows] at hchain
  have hname' : (store'.queue q).name = (store.queue q).name := by
    rw [h.name_eq, h'.name_eq, hname]
  have harena' : (store'.queue q).arena = (store.queue q).arena := by
    rw [h.arena_eq, h'.arena_eq, harena]
  have hpeak' : (store'.queue q).maxLength = (store.queue q).maxLength := by
    rw [h.peak_eq, h'.peak_eq, hpeak]
  have htop := hchain.top_eq.trans (h.chain q).top_eq.symm
  have hbottom := hchain.bottom_eq.trans (h.chain q).bottom_eq.symm
  have hlength := hchain.length_eq.trans (h.chain q).length_eq.symm
  cases hqueue : store.queue q
  cases hqueue' : store'.queue q
  rw [hqueue, hqueue'] at hname' harena' hpeak' htop hbottom hlength
  simp_all

theorem unique (h : store.Represents lineup) (h' : store'.Represents lineup) : store' = store :=
  ext_of_readings (fun _ _ => h.cell_congr h' rfl rfl fun _ _ _ => rfl)
    fun _ => h.queue_congr h' rfl rfl rfl rfl

theorem outcome_eq (h : store.Represents lineup) (call : QueueCall n) :
    store.outcome call
      = match lineup.refusal call with
        | some fault => .error fault
        | none => .ok (lineup.answer call) := by
  unfold outcome
  cases hrefusal : lineup.refusal call with
  | some fault => rw [h.run_call_refused hrefusal]
  | none =>
    obtain ⟨store', hrun, -⟩ := h.run_call ((lineup.refusal_eq_none_iff call).1 hrefusal)
    rw [hrun]

theorem toList_eq (h : store.Represents lineup) (q : Fin n) :
    store.toList q = .ok (lineup.flows q) := (h.chain q).toList_eq

theorem changesOnly (h : store.Represents lineup) (hq : call.queue? = some q) :
    store.ChangesOnly q call := by
  have h' := h.perform call
  obtain ⟨hcapacity, harena, hname⟩ := lineup.shape_perform call
  refine ⟨_, _, h.toList_eq q, h'.toList_eq q, ?_, ?_⟩
  · intro q' hne
    have hpeak : (lineup.perform call).peak q' = lineup.peak q' := by
      rcases lineup.perform_or hq with heq | heq
      · rw [heq]
      · rw [heq, lineup.peak_place_of_ne hne]
    exact h.queue_congr h' harena hname (Lineup.flows_perform_of_ne hq hne) hpeak
  · intro arena flow hout
    apply h.cell_congr h' hcapacity harena
    intro q' hq' hmem
    by_cases hsame : q' = q
    · subst hsame
      exact absurd ⟨(h.arena_eq q').trans hq' |>.symm, hmem⟩ hout
    · exact Lineup.flows_perform_of_ne hq hsame

theorem apart (h : store.Represents lineup) (hq' : call'.queue? = some q')
    (happart : store.Apart call call') : lineup.Apart call call' := by
  intro flow hflow
  obtain ⟨hother, hkept⟩ := happart flow hflow
  refine ⟨hother, ?_⟩
  intro q hmem
  by_cases hsame : q = q'
  · subst hsame
    by_contra hleft
    exact hkept ⟨q, _, _, hq', h.toList_eq q, (h.perform call').toList_eq q, hmem, hleft⟩
  · rw [Lineup.flows_perform_of_ne hq' hsame]
    exact hmem

theorem outcome_perform (h : store.Represents lineup) (hq : call.queue? = some q)
    (hq' : call'.queue? = some q') (hne : q ≠ q') (happart : lineup.Apart call call') :
    (store.perform call').outcome call = store.outcome call := by
  rw [(h.perform call').outcome_eq, h.outcome_eq, Lineup.refusal_perform hq hq' hne happart,
    Lineup.answer_congr hq (Lineup.flows_perform_of_ne hq' hne)]

theorem commute (h : store.Represents lineup) (hq : call.queue? = some q)
    (hq' : call'.queue? = some q') (hne : q ≠ q') (happart : store.Apart call call')
    (happart' : store.Apart call' call) : store.Commute call call' := by
  have hlists := h.apart hq' happart
  have hlists' := h.apart hq happart'
  have hleft := (h.perform call).perform call'
  rw [Lineup.perform_comm hq hq' hne hlists hlists'] at hleft
  exact ⟨((h.perform call').perform call).unique hleft, h.outcome_perform hq hq' hne hlists,
    h.outcome_perform hq' hq hne.symm hlists'⟩

end Represents

end QueueStore

end FlowTracker
