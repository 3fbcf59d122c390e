import FlowTracker.Proofs.Queue.Locality

/-!
# In which order a queue is served

Where flows only come in at the top of a queue and leave it at the bottom, what has been served and what
is left are together what was there and what has come in, in this order (`Represents.served_append`).  A
flow that is transferred comes in at the bottom.  It is therefore served next, before all flows that have
been waiting, and these keep their order (`QueueStore.transferred_served_first`).
-/

namespace FlowTracker

variable {m n : Nat}

/-- Wherever the second flow stands in the list, the first one stands before it. -/
def IsAhead (first second : FlowId) (flows : List FlowId) : Prop :=
  ∀ before after, flows = before ++ second :: after → first ∈ before

/-- The first flow of a list is ahead of every other one in what is taken from the list. -/
theorem isAhead_of_append_eq {first second : FlowId} {taken left rest : List FlowId}
    (h : taken ++ left = first :: rest) (hne : second ≠ first) : IsAhead first second taken := by
  rintro before after rfl
  cases before with
  | nil => exact absurd (List.cons.inj h).1 hne
  | cons head before =>
    rw [(List.cons.inj h).1]
    exact List.mem_cons_self

/-! ### What is served and what comes in -/

/-- The call lets a flow in at the top of the queue or takes one from its bottom. -/
def QueueCall.IsTraffic (q : Fin n) : QueueCall n → Prop
  | enqueue q' _ | publish q' _ | dequeue q' | waitDequeue q' => q' = q
  | _ => False

instance (q : Fin n) : DecidablePred (QueueCall.IsTraffic q)
  | .enqueue .. | .publish .. | .dequeue _ | .waitDequeue _ => inferInstanceAs (Decidable (_ = _))
  | .append .. | .detach .. | .rotate _ | .requeue .. | .guardRequeue .. | .requeueBottom .. =>
    inferInstanceAs (Decidable False)

namespace QueueStore

variable (store : QueueStore m n)

def answer? (call : QueueCall n) : Option FlowId :=
  match store.outcome call with
  | .ok answer => answer
  | .error _ => none

/-- The flow that a call puts into its queue; none if it is refused. -/
def entry? (call : QueueCall n) : Option FlowId :=
  match store.outcome call with
  | .ok _ => call.inserted?
  | .error _ => none

def served (store : QueueStore m n) : List (QueueCall n) → List FlowId
  | [] => []
  | call :: calls => (store.answer? call).toList ++ (store.perform call).served calls

def entered (store : QueueStore m n) : List (QueueCall n) → List FlowId
  | [] => []
  | call :: calls => (store.entry? call).toList ++ (store.perform call).entered calls

namespace Represents

variable {store : QueueStore m n} {lineup : Lineup m n} {q source target : Fin n} {flow : FlowId}
  {call : QueueCall n} {calls : List (QueueCall n)}

/-- What one call serves leaves at the bottom, and what it lets in comes to the top. -/
theorem answer_append (h : store.Represents lineup) (hcall : call.IsTraffic q) :
    (store.answer? call).toList ++ (lineup.perform call).flows q
      = lineup.flows q ++ (store.entry? call).toList := by
  unfold answer? entry?
  rw [h.outcome_eq]
  cases hrefusal : lineup.refusal call with
  | some fault =>
    rw [Lineup.perform_of_refusal hrefusal]
    exact (List.append_nil _).symm
  | none =>
    have hserve : (lineup.flows q).head?.toList ++ (lineup.flows q).tail = lineup.flows q ++ [] := by
      cases lineup.flows q <;> simp
    cases call with
    | enqueue q' flow =>
      obtain rfl : q' = q := hcall
      rw [Lineup.perform_eq_place rfl hrefusal, Lineup.flows_place_self]
      rfl
    | publish q' flow =>
      obtain rfl : q' = q := hcall
      rw [Lineup.perform_eq_place rfl hrefusal, Lineup.flows_place_self]
      rfl
    | dequeue q' =>
      obtain rfl : q' = q := hcall
      rw [Lineup.perform_eq_place rfl hrefusal, Lineup.flows_place_self]
      exact hserve
    | waitDequeue q' =>
      obtain rfl : q' = q := hcall
      rw [Lineup.perform_eq_place rfl hrefusal, Lineup.flows_place_self]
      exact hserve
    | _ => exact hcall.elim

/-- What calls have served and what they leave are what was there and what they have let in. -/
theorem served_append (h : store.Represents lineup) (hcalls : ∀ call ∈ calls, call.IsTraffic q) :
    store.served calls ++ (lineup.performAll calls).flows q
      = lineup.flows q ++ store.entered calls := by
  induction calls generalizing store lineup with
  | nil => exact (List.append_nil _).symm
  | cons call calls ih =>
    have hfirst := h.answer_append (hcalls call List.mem_cons_self)
    have hrest := ih (h.perform call) fun call hmem => hcalls call (List.mem_cons_of_mem _ hmem)
    calc (store.answer? call).toList ++ (store.perform call).served calls
          ++ ((lineup.perform call).performAll calls).flows q
        = (store.answer? call).toList ++ ((lineup.perform call).flows q
          ++ (store.perform call).entered calls) := by rw [List.append_assoc, hrest]
      _ = lineup.flows q ++ ((store.entry? call).toList
          ++ (store.perform call).entered calls) := by
        rw [← List.append_assoc, hfirst, List.append_assoc]

/-- A member of one queue is transferred to the bottom of another one over the same arena. -/
theorem requeue (h : store.Represents lineup) (harena : lineup.arena source = lineup.arena target)
    (hmem : flow ∈ lineup.flows source) :
    store.outcome (.requeue flow (some source) target) = .ok none
      ∧ (lineup.perform (.requeue flow (some source) target)).flows target
        = flow :: (lineup.flows target).erase flow := by
  have hrefusal : lineup.refusal (.requeue flow (some source) target) = none :=
    (lineup.refusal_eq_none_iff _).2 ⟨harena, h.lt_capacity_of_mem hmem, hmem⟩
  have hafter : lineup.perform (.requeue flow (some source) target)
      = lineup.transfer source target flow := by
    rw [Lineup.perform, hrefusal]
    rfl
  rw [h.outcome_eq, hrefusal, hafter, Lineup.transfer, Lineup.append, Lineup.flows_place_self]
  refine ⟨rfl, congrArg (flow :: ·) ?_⟩
  unfold Lineup.detach
  by_cases hsame : target = source
  · subst hsame
    exact Lineup.flows_place_self ..
  · have hout : flow ∉ lineup.flows target := fun hmem' => hsame (h.eq_of_mem harena.symm hmem' hmem)
    rw [Lineup.flows_place_of_ne _ hsame, List.erase_of_not_mem hout]

end Represents

/-- Whatever calls have led to two queues over one arena, a flow that is transferred from one to the other
is served there before every flow that has been waiting.  Those are served in their order, and before
all that come in later. -/
theorem transferred_served_first {store : QueueStore m n} (hbuilt : store.Built)
    (calls : List (QueueCall n)) (source target : Fin n) (queued waiting : List FlowId)
    (flow : FlowId) :
    let reached := store.performAll calls
    let after := reached.perform (.requeue flow (some source) target)
    (reached.queue source).arena = (reached.queue target).arena →
    reached.toList source = .ok queued → reached.toList target = .ok waiting → flow ∈ queued →
    reached.outcome (.requeue flow (some source) target) = .ok none
    ∧ after.toList target = .ok (flow :: waiting.erase flow)
    ∧ ∀ later : List (QueueCall n), (∀ call ∈ later, call.IsTraffic target) →
      (∃ left, (after.performAll later).toList target = .ok left
        ∧ after.served later ++ left = flow :: waiting.erase flow ++ after.entered later)
      ∧ ∀ other ∈ waiting, other ≠ flow → IsAhead flow other (after.served later) := by
  intro reached after harena hqueued hwaiting hmem
  obtain ⟨lineup, hreached⟩ : ∃ lineup, reached.Represents lineup :=
    ⟨_, hbuilt.isVacant.represents.performAll calls⟩
  rw [hreached.arena_eq, hreached.arena_eq] at harena
  rw [hreached.toList_eq] at hqueued hwaiting
  obtain rfl := Except.ok.inj hqueued
  obtain rfl := Except.ok.inj hwaiting
  obtain ⟨houtcome, hflows⟩ := hreached.requeue harena hmem
  have hafter : after.Represents (lineup.perform (.requeue flow (some source) target)) :=
    hreached.perform _
  refine ⟨houtcome, by rw [hafter.toList_eq, hflows], ?_⟩
  intro later hlater
  have hserved := hafter.served_append hlater
  rw [hflows] at hserved
  exact ⟨⟨_, (hafter.performAll later).toList_eq target, hserved⟩,
    fun other _ hne => isAhead_of_append_eq hserved hne⟩

/-- Flow 2 overtakes flows 0 and 1, and flow 4 comes in later. -/
theorem transferred_served_first_of_three :
    ∃ store : QueueStore 1 2, store.Built ∧
      let reached := store.performAll [.enqueue 1 0, .publish 1 1, .enqueue 0 3, .enqueue 0 2]
      let after := reached.perform (.requeue 2 (some 0) 1)
      let later : List (QueueCall 2) := [.dequeue 1, .enqueue 1 4, .dequeue 1, .waitDequeue 1]
      (reached.queue 0).arena = (reached.queue 1).arena ∧ reached.toList 0 = .ok [3, 2]
      ∧ reached.toList 1 = .ok [0, 1] ∧ (∀ call ∈ later, call.IsTraffic 1)
      ∧ after.toList 1 = .ok [2, 0, 1] ∧ after.served later = [2, 0, 1]
      ∧ IsAhead 2 1 (after.served later) := by
  have hbuilt := ((QueueStore.Built.empty.addArena 5 rfl).addQueue "first" 0).addQueue "second" 0
  refine ⟨_, hbuilt, ?_⟩
  intro reached after later
  have harena : (reached.queue 0).arena = (reached.queue 1).arena := by decide +kernel
  have hqueued : reached.toList 0 = .ok [3, 2] := by decide +kernel
  have hwaiting : reached.toList 1 = .ok [0, 1] := by decide +kernel
  have hlater : ∀ call ∈ later, call.IsTraffic 1 := by decide
  obtain ⟨-, hflows, hserved⟩ := transferred_served_first hbuilt
    [.enqueue 1 0, .publish 1 1, .enqueue 0 3, .enqueue 0 2] 0 1 _ _ 2 harena hqueued hwaiting
    (by decide)
  exact ⟨harena, hqueued, hwaiting, hlater, hflows, by decide +kernel,
    (hserved later hlater).2 1 (by decide) (by decide)⟩

/-- Flow 1 waits in a queue when flow 0 is transferred there, and flow 0 is served first. -/
theorem transferred_overtakes :
    ∃ store : QueueStore 1 2, store.Built ∧
      let reached := store.performAll [.enqueue 0 0, .enqueue 1 1]
      let after := reached.perform (.requeue 0 (some 0) 1)
      reached.toList 0 = .ok [0] ∧ reached.toList 1 = .ok [1]
      ∧ after.served [.dequeue 1, .dequeue 1] = [0, 1]
      ∧ ¬ IsAhead 1 0 (after.served [.dequeue 1, .dequeue 1]) := by
  have hbuilt := ((QueueStore.Built.empty.addArena 2 rfl).addQueue "first" 0).addQueue "second" 0
  refine ⟨_, hbuilt, ?_⟩
  intro reached after
  have hserved : after.served [.dequeue 1, .dequeue 1] = [0, 1] := by decide +kernel
  refine ⟨by decide +kernel, by decide +kernel, hserved, ?_⟩
  rw [hserved]
  intro hahead
  cases hahead [] [1] rfl

end QueueStore

end FlowTracker
