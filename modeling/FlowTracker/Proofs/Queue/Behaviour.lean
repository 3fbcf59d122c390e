import FlowTracker.Proofs.Queue.Calls
import Mathlib.Order.Bounds.Defs

/-!
# Queues behave as lists

A store is built of fresh arenas and fresh queues (`QueueStore.Built`); it represents the lineup of
empty lists.  `queues_behave_as_lists` says what can be read of its queues after any calls whatever, and
what the next call does.
-/

namespace FlowTracker

variable {m n : Nat}

/-! ### Stores that are built -/

namespace QueueStore

inductive Built : {m n : Nat} → QueueStore m n → Prop
  | empty : Built empty
  | addArena {m n : Nat} {store : QueueStore m n} {store' : QueueStore (m + 1) n} (capacity : Nat) :
      Built store → store.addArena capacity = .ok store' → Built store'
  | addQueue {m n : Nat} {store : QueueStore m n} (name : String) (arena : Fin m) :
      Built store → Built (store.addQueue name arena)

end QueueStore

def Lineup.vacant (store : QueueStore m n) : Lineup m n where
  capacity := store.capacity
  arena q := (store.queue q).arena
  name q := (store.queue q).name
  flows _ := []
  peak _ := 0

namespace QueueStore

structure IsVacant (store : QueueStore m n) : Prop where
  queue_eq : ∀ q, store.queue q = .empty (store.queue q).name (store.queue q).arena
  cell_eq : ∀ arena flow links, store.cell? arena flow = some links → links = .unlinked

theorem IsVacant.represents {store : QueueStore m n} (h : store.IsVacant) :
    store.Represents (Lineup.vacant store) := by
  refine ⟨fun _ => rfl, fun _ => rfl, fun _ => rfl, ?_, fun _ => Nat.le_refl 0, ?_, ?_⟩
  · intro q
    rw [h.queue_eq q]
    rfl
  · intro q
    refine ⟨List.nodup_nil, ?_, ?_, ?_, ?_⟩
    · rw [h.queue_eq q]
      rfl
    · rw [h.queue_eq q]
      rfl
    · rw [h.queue_eq q]
      rfl
    · intro below flow above hsplit
      exact absurd hsplit (by simp [Lineup.vacant])
  · intro arena flow hlt _
    obtain ⟨links, hcell⟩ := lt_capacity_iff.1 hlt
    rw [hcell, h.cell_eq arena flow links hcell]

theorem IsVacant.addArena {store : QueueStore m n} {store' : QueueStore (m + 1) n} {capacity : Nat}
    (h : store.IsVacant) (hadd : store.addArena capacity = .ok store') : store'.IsVacant := by
  unfold QueueStore.addArena at hadd
  split at hadd
  · obtain rfl := Except.ok.inj hadd
    refine ⟨?_, ?_⟩
    · intro q
      have hqueue := h.queue_eq q
      simp only [queue, Fin.getElem_fin, Vector.getElem_map] at hqueue ⊢
      rw [hqueue]
      rfl
    · intro arena flow links hcell
      simp only [cell?, Fin.getElem_fin] at hcell
      rw [Vector.getElem_push] at hcell
      split at hcell
      · exact h.cell_eq ⟨arena, ‹_›⟩ flow links hcell
      · rw [Array.getElem?_replicate] at hcell
        split at hcell
        · exact (Option.some.inj hcell).symm
        · cases hcell
  · cases hadd

theorem IsVacant.addQueue {store : QueueStore m n} (h : store.IsVacant) (name : String)
    (arena : Fin m) : (store.addQueue name arena).IsVacant := by
  refine ⟨?_, h.cell_eq⟩
  intro q
  simp only [QueueStore.addQueue, queue, Fin.getElem_fin]
  rw [Vector.getElem_push]
  split
  · exact h.queue_eq ⟨q, ‹_›⟩
  · rfl

theorem Built.isVacant {store : QueueStore m n} (h : store.Built) : store.IsVacant := by
  induction h with
  | empty => exact ⟨fun q => q.elim0, fun arena => arena.elim0⟩
  | addArena capacity _ hadd ih => exact ih.addArena hadd
  | addQueue name arena _ ih => exact ih.addQueue name arena

end QueueStore

/-! ### The greatest length -/

namespace Lineup

/-- No list is longer than its greatest length. -/
def IsSettled (lineup : Lineup m n) : Prop := ∀ q, (lineup.flows q).length ≤ lineup.peak q

theorem isSettled_vacant (store : QueueStore m n) : (vacant store).IsSettled :=
  fun _ => Nat.le_refl 0

variable {lineup : Lineup m n}

theorem peak_place (h : lineup.IsSettled) (q q' : Fin n) (flows : List FlowId) :
    (lineup.place q flows).peak q'
      = max (lineup.peak q') ((lineup.place q flows).flows q').length := by
  by_cases hq : q' = q
  · subst hq
    rw [peak_place_self, flows_place_self]
  · rw [lineup.peak_place_of_ne hq, lineup.flows_place_of_ne hq, Nat.max_eq_left (h q')]

theorem IsSettled.place (h : lineup.IsSettled) (q : Fin n) (flows : List FlowId) :
    (lineup.place q flows).IsSettled := by
  intro q'
  rw [peak_place h]
  exact Nat.le_max_right ..

theorem peak_detach (h : lineup.IsSettled) (q q' : Fin n) (flow : FlowId) :
    (lineup.detach q flow).peak q' = lineup.peak q' := by
  by_cases hq : q' = q
  · subst hq
    have hle : ((lineup.flows q').erase flow).length ≤ lineup.peak q' :=
      Nat.le_trans List.erase_sublist.length_le (h q')
    rw [detach, peak_place_self, Nat.max_eq_left hle]
  · rw [detach, lineup.peak_place_of_ne hq]

theorem peak_transfer (h : lineup.IsSettled) (source target q : Fin n) (flow : FlowId) :
    (lineup.transfer source target flow).peak q
      = max (lineup.peak q) ((lineup.transfer source target flow).flows q).length := by
  have hdetach : (lineup.detach source flow).IsSettled := h.place source _
  rw [transfer, append, peak_place hdetach, peak_detach h]

/-- A call raises the greatest length of a list to the length that it leaves. -/
theorem peak_perform (h : lineup.IsSettled) (call : QueueCall n) (q : Fin n) :
    (lineup.perform call).peak q
      = max (lineup.peak q) ((lineup.perform call).flows q).length := by
  have hself : lineup.peak q = max (lineup.peak q) (lineup.flows q).length :=
    (Nat.max_eq_left (h q)).symm
  unfold perform
  split
  · cases call with
    | enqueue q' flow => exact peak_place h q' q _
    | publish q' flow => exact peak_place h q' q _
    | append q' flow => exact peak_place h q' q _
    | dequeue q' => exact peak_place h q' q _
    | waitDequeue q' => exact peak_place h q' q _
    | detach q' flow => exact peak_place h q' q _
    | rotate q' => exact peak_place h q' q _
    | requeue flow source target =>
      cases source with
      | none => exact peak_place h target q _
      | some source => exact peak_transfer h source target q flow
    | guardRequeue source target flow => exact peak_transfer h source target q flow
    | requeueBottom source target =>
      simp only [after]
      cases (lineup.flows source).head? with
      | none => exact hself
      | some flow => exact peak_transfer h source target q flow
  · exact hself

theorem IsSettled.perform (h : lineup.IsSettled) (call : QueueCall n) :
    (lineup.perform call).IsSettled := by
  intro q
  rw [peak_perform h]
  exact Nat.le_max_right ..

theorem performAll_concat (calls : List (QueueCall n)) (call : QueueCall n) :
    lineup.performAll (calls ++ [call]) = (lineup.performAll calls).perform call := by
  simp only [performAll, List.foldl_append, List.foldl_cons, List.foldl_nil]

/-- From lists that have had no flows, the peak is the greatest length so far. -/
theorem isGreatest_peak (hsettled : lineup.IsSettled) (hpeak : ∀ q, lineup.peak q = 0)
    (calls : List (QueueCall n)) (q : Fin n) :
    IsGreatest {length | ∃ earlier, earlier <+: calls
      ∧ ((lineup.performAll earlier).flows q).length = length}
      ((lineup.performAll calls).peak q) ∧ (lineup.performAll calls).IsSettled := by
  induction calls using List.reverseRecOn with
  | nil =>
    refine ⟨⟨⟨[], List.prefix_rfl, ?_⟩, ?_⟩, hsettled⟩
    · have hle := hsettled q
      rw [hpeak q] at hle
      show (lineup.flows q).length = lineup.peak q
      rw [hpeak q]
      omega
    · rintro length ⟨earlier, hprefix, rfl⟩
      obtain rfl := List.prefix_nil.1 hprefix
      exact hsettled q
  | append_singleton calls call ih =>
    obtain ⟨⟨⟨earlier, hprefix, hlength⟩, hbound⟩, hdone⟩ := ih
    rw [performAll_concat]
    refine ⟨⟨?_, ?_⟩, hdone.perform call⟩
    · rw [peak_perform hdone]
      rcases Nat.le_total ((lineup.performAll calls).peak q)
          (((lineup.performAll calls).perform call).flows q).length with hle | hle
      · rw [Nat.max_eq_right hle]
        exact ⟨calls ++ [call], List.prefix_rfl, by rw [performAll_concat]⟩
      · rw [Nat.max_eq_left hle]
        exact ⟨earlier, hprefix.trans (List.prefix_append ..), hlength⟩
    · rintro length ⟨earlier', hprefix', rfl⟩
      rw [peak_perform hdone]
      rcases List.prefix_concat_iff.1 hprefix' with rfl | hprefix'
      · rw [performAll_concat]
        exact Nat.le_max_right ..
      · exact Nat.le_trans (hbound ⟨earlier', hprefix', rfl⟩) (Nat.le_max_left ..)

end Lineup

/-! ### A run -/

/-- All that can be read of a queue says that its members, bottom first, are `flows`. -/
structure QueueStore.ReadsAs (store : QueueStore m n) (q : Fin n) (flows : List FlowId) : Prop where
  toList_eq : store.toList q = .ok flows
  walkUp_eq : store.walkUp q = .ok flows
  walkDown_eq : store.walkDown q = .ok flows.reverse
  bottom_eq : (store.queue q).bottom = flows.head?
  top_eq : (store.queue q).top = flows.getLast?
  length_eq : (store.queue q).length = flows.length
  check_eq : store.check q = .ok none
  cursor_eq : store.cursor q = ⟨(store.queue q).arena, flows.head?, flows.length⟩
  advance_eq : ∀ below above, flows = below ++ above →
    store.advance ⟨(store.queue q).arena, above.head?, above.length⟩
      = .ok (above.head?, ⟨(store.queue q).arena, above.tail.head?, above.tail.length⟩)

theorem QueueStore.IsChain.readsAs {store : QueueStore m n} {q : Fin n} {flows : List FlowId}
    (h : store.IsChain q flows) : store.ReadsAs q flows :=
  ⟨h.toList_eq, h.walkUp_eq, h.walkDown_eq, h.bottom_eq, h.top_eq, h.length_eq, h.check_eq,
    h.cursor_eq, fun _ _ hsplit => h.advance_eq hsplit⟩

/-- After any calls on a store that was built, every queue reads as its list, its greatest length is
the greatest that the list has had, and no flow of an arena is in two lists.  The next call answers and
leaves what its counterpart on lists does if its contract holds, and is refused without a change if
not. -/
theorem queues_behave_as_lists {store : QueueStore m n} (hbuilt : store.Built)
    (calls : List (QueueCall n)) :
    let reached := store.performAll calls
    let lineup := (Lineup.vacant store).performAll calls
    (∀ q, reached.ReadsAs q (lineup.flows q)) ∧
    (∀ q, IsGreatest {length | ∃ earlier, earlier <+: calls
        ∧ (((Lineup.vacant store).performAll earlier).flows q).length = length}
      (reached.queue q).maxLength) ∧
    (∀ q q' flow, (reached.queue q).arena = (reached.queue q').arena →
      flow ∈ lineup.flows q → flow ∈ lineup.flows q' → q = q') ∧
    (∀ call : QueueCall n, call.Contract lineup →
      call.program.run reached = .ok (lineup.answer call) (reached.perform call)
        ∧ (store.performAll (calls ++ [call])) = reached.perform call
        ∧ ((Lineup.vacant store).performAll (calls ++ [call])) = lineup.after call) ∧
    (∀ call : QueueCall n, ¬ call.Contract lineup →
      ∃ fault, lineup.refusal call = some fault
        ∧ call.program.run reached = .error fault reached) := by
  intro reached lineup
  have hreached : reached.Represents lineup := hbuilt.isVacant.represents.performAll calls
  refine ⟨?_, ?_, ?_, ?_, ?_⟩
  · intro q
    exact (hreached.chain q).readsAs
  · intro q
    rw [hreached.peak_eq]
    exact (Lineup.isGreatest_peak (Lineup.isSettled_vacant store) (fun _ => rfl) calls q).1
  · intro q q' flow harena hmem hmem'
    rw [hreached.arena_eq, hreached.arena_eq] at harena
    exact hreached.eq_of_mem harena hmem hmem'
  · intro call hcontract
    obtain ⟨store', hrun, -⟩ := hreached.run_call hcontract
    have hperform : reached.perform call = store' := by
      simp only [QueueStore.perform, hrun]
    refine ⟨by rw [hperform, hrun], ?_, ?_⟩
    · simp only [QueueStore.performAll, List.foldl_append, List.foldl_cons, List.foldl_nil, reached]
    · rw [Lineup.performAll_concat, Lineup.perform,
        (Lineup.refusal_eq_none_iff _ call).2 hcontract]
      rfl
  · intro call hbroken
    cases hfault : lineup.refusal call with
    | none => exact absurd ((lineup.refusal_eq_none_iff call).1 hfault) hbroken
    | some fault => exact ⟨fault, rfl, hreached.run_call_refused hfault⟩

/-- Flow 2 leaves the top of one queue for the bottom of another; flow 1 is refused there. -/
theorem queues_behave_as_lists_of_two :
    ∃ store : QueueStore 1 2, store.Built ∧ store.capacity 0 = 3
      ∧ let calls := [.enqueue 0 1, .enqueue 0 2, .enqueue 1 1, .requeue 2 (some 0) 1]
        (store.performAll calls).ReadsAs 0 [1] ∧ (store.performAll calls).ReadsAs 1 [2] := by
  have hbuilt := ((QueueStore.Built.empty.addArena 3 rfl).addQueue "first" 0).addQueue "second" 0
  refine ⟨_, hbuilt, by decide, ?_⟩
  intro calls
  have hreads := (queues_behave_as_lists hbuilt calls).1
  constructor
  · convert hreads 0 using 1
    decide +kernel
  · convert hreads 1 using 1
    decide +kernel

end FlowTracker
