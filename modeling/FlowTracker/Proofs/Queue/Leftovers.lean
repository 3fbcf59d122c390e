import FlowTracker.Proofs.Queue.Locality
import Mathlib.Data.Fin.Tuple.Basic

/-!
# What destroyed queues leave behind

A `QueueStock` is a store whose queues are created and destroyed while others are in use.  Destroying a
queue touches no cell: the flows that are still linked into it keep their links, and the queue as their
owner.  As no later call names the queue, its list never changes again (`Later.outlives`), and every
contract finds its flows owned: they cannot be inserted anywhere, nor taken out of another queue, so they
are in no live queue (`QueueStock.Stranded`).

`QueueStock.queues_touch_their_own` puts this together with what calls on live queues leave alone.
-/

namespace FlowTracker

variable {m n k : Nat}

/-! ### New queues -/

namespace Lineup

variable {lineup : Lineup m n} {q : Fin n}

def addQueue (lineup : Lineup m n) (name : String) (arena : Fin m) : Lineup m (n + 1) where
  capacity := lineup.capacity
  arena := @Fin.snoc n (fun _ => Fin m) lineup.arena arena
  name := @Fin.snoc n (fun _ => String) lineup.name name
  flows := @Fin.snoc n (fun _ => List FlowId) lineup.flows []
  peak := @Fin.snoc n (fun _ => Nat) lineup.peak 0

section AddQueue

variable {name : String} {arena : Fin m}

@[simp]
theorem arena_addQueue_castSucc :
    (lineup.addQueue name arena).arena q.castSucc = lineup.arena q := by
  simp only [addQueue, Fin.snoc_castSucc]

@[simp]
theorem name_addQueue_castSucc :
    (lineup.addQueue name arena).name q.castSucc = lineup.name q := by
  simp only [addQueue, Fin.snoc_castSucc]

@[simp]
theorem flows_addQueue_castSucc :
    (lineup.addQueue name arena).flows q.castSucc = lineup.flows q := by
  simp only [addQueue, Fin.snoc_castSucc]

@[simp]
theorem peak_addQueue_castSucc :
    (lineup.addQueue name arena).peak q.castSucc = lineup.peak q := by
  simp only [addQueue, Fin.snoc_castSucc]

@[simp]
theorem arena_addQueue_last : (lineup.addQueue name arena).arena (.last n) = arena := by
  simp only [addQueue, Fin.snoc_last]

@[simp]
theorem name_addQueue_last : (lineup.addQueue name arena).name (.last n) = name := by
  simp only [addQueue, Fin.snoc_last]

@[simp]
theorem flows_addQueue_last : (lineup.addQueue name arena).flows (.last n) = [] := by
  simp only [addQueue, Fin.snoc_last]

@[simp]
theorem peak_addQueue_last : (lineup.addQueue name arena).peak (.last n) = 0 := by
  simp only [addQueue, Fin.snoc_last]

theorem isQueued_addQueue {arena' : Fin m} {flow : FlowId} :
    (lineup.addQueue name arena).IsQueued arena' flow ↔ lineup.IsQueued arena' flow := by
  unfold IsQueued
  rw [Fin.exists_fin_succ']
  simp

end AddQueue

end Lineup

namespace QueueStore

variable {store : QueueStore m n} {lineup : Lineup m n}

theorem queue_addQueue_castSucc (store : QueueStore m n) (name : String) (arena : Fin m) (q : Fin n) :
    (store.addQueue name arena).queue q.castSucc = store.queue q := by
  simp only [addQueue, queue, Fin.getElem_fin, Fin.val_castSucc]
  rw [Vector.getElem_push_lt]

theorem queue_addQueue_last (store : QueueStore m n) (name : String) (arena : Fin m) :
    (store.addQueue name arena).queue (.last n) = .empty name arena := by
  simp only [addQueue, queue, Fin.getElem_fin, Fin.val_last]
  rw [Vector.getElem_push_eq]

/-- A new queue changes nothing about the others. -/
theorem Represents.addQueue (h : store.Represents lineup) (name : String) (arena : Fin m) :
    (store.addQueue name arena).Represents (lineup.addQueue name arena) := by
  have hold := store.queue_addQueue_castSucc name arena
  have hnew := store.queue_addQueue_last name arena
  refine ⟨h.capacity_eq, ?_, ?_, ?_, ?_, ?_, ?_⟩
  · intro q
    cases q using Fin.lastCases with
    | last => rw [hnew, Lineup.arena_addQueue_last]; rfl
    | cast q => rw [hold, h.arena_eq, Lineup.arena_addQueue_castSucc]
  · intro q
    cases q using Fin.lastCases with
    | last => rw [hnew, Lineup.name_addQueue_last]; rfl
    | cast q => rw [hold, h.name_eq, Lineup.name_addQueue_castSucc]
  · intro q
    cases q using Fin.lastCases with
    | last => rw [hnew, Lineup.peak_addQueue_last]; rfl
    | cast q => rw [hold, h.peak_eq, Lineup.peak_addQueue_castSucc]
  · intro q
    cases q using Fin.lastCases with
    | last => rw [Lineup.flows_addQueue_last]; exact Nat.zero_le _
    | cast q =>
      rw [Lineup.flows_addQueue_castSucc, Lineup.peak_addQueue_castSucc]
      exact h.length_le_peak q
  · intro q
    cases q using Fin.lastCases with
    | last =>
      rw [Lineup.flows_addQueue_last]
      refine ⟨List.nodup_nil, by rw [hnew]; rfl, by rw [hnew]; rfl, by rw [hnew]; rfl, ?_⟩
      intro below flow above hsplit
      exact absurd hsplit (by simp)
    | cast q =>
      obtain ⟨hnodup, hbottom, htop, hlength, hcell⟩ := h.chain q
      rw [Lineup.flows_addQueue_castSucc]
      rw [← hold] at hbottom htop hlength hcell
      exact ⟨hnodup, hbottom, htop, hlength, hcell⟩
  · intro arena' flow hlt hout
    rw [Lineup.isQueued_addQueue] at hout
    exact h.unlinked arena' flow hlt hout

end QueueStore

/-! ### Queues that come and go -/

def QueueCall.flow? : QueueCall n → Option FlowId
  | enqueue _ flow | publish _ flow | append _ flow | detach _ flow | requeue flow _ _
  | guardRequeue _ _ flow => some flow
  | dequeue _ | waitDequeue _ | rotate _ | requeueBottom _ _ => none

/-- A store of queues, some of which have been destroyed. -/
structure QueueStock (m n : Nat) where
  store : QueueStore m n
  /-- The queues that have been destroyed.  They keep their places, so that no later queue is taken for
  one of them. -/
  destroyed : Finset QueueId

namespace QueueStock

def IsLive (stock : QueueStock m n) (q : Fin n) : Prop := q.val ∉ stock.destroyed

instance (stock : QueueStock m n) (q : Fin n) : Decidable (stock.IsLive q) :=
  inferInstanceAs (Decidable (q.val ∉ stock.destroyed))

def create (stock : QueueStock m n) (name : String) (arena : Fin m) : QueueStock m (n + 1) :=
  ⟨stock.store.addQueue name arena, stock.destroyed⟩

def perform (stock : QueueStock m n) (call : QueueCall n) : QueueStock m n :=
  ⟨stock.store.perform call, stock.destroyed⟩

/-- Destroys a queue.  The flows that it has are not touched. -/
def destroy (stock : QueueStock m n) (q : Fin n) : QueueStock m n :=
  ⟨stock.store, insert q.val stock.destroyed⟩

/-- What `stock` can become: queues are created, called and destroyed, and no queue that has been
destroyed is named again. -/
inductive Later (stock : QueueStock m n) : {k : Nat} → QueueStock m k → Prop
  | now : Later stock stock
  | create {k : Nat} {later : QueueStock m k} (name : String) (arena : Fin m) (h : Later stock later) :
      Later stock (later.create name arena)
  | perform {k : Nat} {later : QueueStock m k} (call : QueueCall k) (h : Later stock later)
      (hlive : ∀ q ∈ call.queues, later.IsLive q) : Later stock (later.perform call)
  | destroy {k : Nat} {later : QueueStock m k} (q : Fin k) (h : Later stock later)
      (hlive : later.IsLive q) : Later stock (later.destroy q)

def Reached (stock : QueueStock m n) : Prop :=
  ∃ start : QueueStore m 0, start.Built ∧ Later ⟨start, ∅⟩ stock

end QueueStock

/-- Each list of `lineup` is still there under its identity, and those that are gone have not changed. -/
structure Lineup.Outlives (lineup : Lineup m n) (gone : Finset QueueId) (later : Lineup m k) :
    Prop where
  le : n ≤ k
  arena_eq : ∀ (q : Fin n) (q' : Fin k), q'.val = q.val → later.arena q' = lineup.arena q
  flows_eq : ∀ (q : Fin n) (q' : Fin k), q'.val = q.val → q.val ∈ gone →
    later.flows q' = lineup.flows q

namespace Lineup.Outlives

variable {lineup : Lineup m n} {later : Lineup m k} {gone : Finset QueueId}

theorem refl (lineup : Lineup m n) (gone : Finset QueueId) : lineup.Outlives gone lineup := by
  refine ⟨Nat.le_refl n, ?_, ?_⟩
  · intro q q' hq
    rw [Fin.ext hq]
  · intro q q' hq _
    rw [Fin.ext hq]

theorem addQueue (h : lineup.Outlives gone later) (name : String) (arena : Fin m) :
    lineup.Outlives gone (later.addQueue name arena) := by
  have hle := h.le
  have hold {q : Fin n} {q' : Fin (k + 1)} (hq : q'.val = q.val) :
      ∃ old : Fin k, q' = old.castSucc ∧ old.val = q.val :=
    ⟨⟨q, q.isLt.trans_le hle⟩, Fin.ext hq, rfl⟩
  refine ⟨Nat.le_succ_of_le hle, ?_, ?_⟩
  · intro q q' hq
    obtain ⟨old, rfl, hq⟩ := hold hq
    rw [Lineup.arena_addQueue_castSucc]
    exact h.arena_eq q old hq
  · intro q q' hq hgone
    obtain ⟨old, rfl, hq⟩ := hold hq
    rw [Lineup.flows_addQueue_castSucc]
    exact h.flows_eq q old hq hgone

theorem perform (h : lineup.Outlives gone later) (call : QueueCall k)
    (hlive : ∀ q ∈ call.queues, q.val ∉ gone) : lineup.Outlives gone (later.perform call) := by
  refine ⟨h.le, ?_, ?_⟩
  · intro q q' hq
    rw [(later.shape_perform call).2.1]
    exact h.arena_eq q q' hq
  · intro q q' hq hgone
    rw [Lineup.flows_perform_of_unnamed fun hmem => hlive q' hmem (hq ▸ hgone)]
    exact h.flows_eq q q' hq hgone

end Lineup.Outlives

namespace QueueStock

variable {stock : QueueStock m n} {later : QueueStock m k} {lineup : Lineup m n}

/-- Whatever happens later, every queue is a list, and the list of a destroyed queue stays. -/
theorem Later.outlives (h : stock.Later later) (hstock : stock.store.Represents lineup) :
    ∃ lineup' : Lineup m k, later.store.Represents lineup'
      ∧ lineup.Outlives stock.destroyed lineup' ∧ stock.destroyed ⊆ later.destroyed := by
  induction h with
  | now => exact ⟨lineup, hstock, .refl lineup _, Finset.Subset.refl _⟩
  | create name arena h ih =>
    obtain ⟨lineup', hlater, houtlives, hsubset⟩ := ih
    exact ⟨_, hlater.addQueue name arena, houtlives.addQueue name arena, hsubset⟩
  | perform call h hlive ih =>
    obtain ⟨lineup', hlater, houtlives, hsubset⟩ := ih
    -- a queue that is named is live now, so it was not among those destroyed at the start
    refine ⟨_, hlater.perform call, houtlives.perform call ?_, hsubset⟩
    exact fun q hmem hgone => hlive q hmem (hsubset hgone)
  | destroy q h hlive ih =>
    obtain ⟨lineup', hlater, houtlives, hsubset⟩ := ih
    exact ⟨lineup', hlater, houtlives, fun _ hmem => Finset.mem_insert_of_mem (hsubset hmem)⟩

theorem Reached.represents (h : stock.Reached) : ∃ lineup, stock.store.Represents lineup := by
  obtain ⟨start, hbuilt, hlater⟩ := h
  obtain ⟨lineup, hrepresents, -⟩ := hlater.outlives hbuilt.isVacant.represents
  exact ⟨lineup, hrepresents⟩

/-! ### Leftover flows -/

/-- The flow is out of reach: its cell holds `links`, every call that is given it is refused and changes
nothing, and it is in no live queue. -/
structure Stranded (stock : QueueStock m n) (arena : Fin m) (flow : FlowId) (links : Links) :
    Prop where
  cell_eq : stock.store.cell? arena flow = some links
  refused : ∀ call : QueueCall n, call.flow? = some flow →
    (∀ q ∈ call.queues, stock.IsLive q ∧ (stock.store.queue q).arena = arena) →
    ∃ fault, call.program.run stock.store = .error fault stock.store
  unlisted : ∀ q, stock.IsLive q → (stock.store.queue q).arena = arena →
    ∃ members, stock.store.toList q = .ok members ∧ flow ∉ members

/-- Live queues do not accept a flow of a destroyed one, and do not have it. -/
theorem contract_broken (h : stock.store.Represents lineup) {q : Fin n} (hgone : ¬ stock.IsLive q)
    {flow : FlowId} (hmem : flow ∈ lineup.flows q) {call : QueueCall n}
    (hflow : call.flow? = some flow)
    (hnamed : ∀ q' ∈ call.queues, stock.IsLive q' ∧ lineup.arena q' = lineup.arena q) :
    ¬ call.Contract lineup := by
  -- an insertion asks for a flow in no queue of the arena, a removal for one in a queue that is named
  have hinsert {target : Fin n} (htarget : target ∈ call.queues) :
      lineup.IsQueued (lineup.arena target) flow := ⟨q, (hnamed target htarget).2.symm, hmem⟩
  have hremove {source : Fin n} (hsource : source ∈ call.queues) : flow ∉ lineup.flows source := by
    intro hmem'
    obtain ⟨hlive, harena⟩ := hnamed source hsource
    exact hgone (h.eq_of_mem harena hmem' hmem ▸ hlive)
  cases call with
  | enqueue target flow' =>
    obtain rfl := Option.some.inj hflow
    exact fun hcontract => hcontract.2 (hinsert List.mem_cons_self)
  | publish target flow' =>
    obtain rfl := Option.some.inj hflow
    exact fun hcontract => hcontract.2 (hinsert List.mem_cons_self)
  | append target flow' =>
    obtain rfl := Option.some.inj hflow
    exact fun hcontract => hcontract.2 (hinsert List.mem_cons_self)
  | detach source flow' =>
    obtain rfl := Option.some.inj hflow
    exact fun hcontract => hremove List.mem_cons_self hcontract.2
  | requeue flow' source target =>
    obtain rfl := Option.some.inj hflow
    cases source with
    | none => exact fun hcontract => hcontract.2 (hinsert List.mem_cons_self)
    | some source => exact fun hcontract => hremove List.mem_cons_self hcontract.2.2
  | guardRequeue source target flow' =>
    obtain rfl := Option.some.inj hflow
    exact fun hcontract => hremove List.mem_cons_self hcontract.2.2
  | dequeue target => cases hflow
  | waitDequeue target => cases hflow
  | rotate target => cases hflow
  | requeueBottom source target => cases hflow

theorem stranded (h : stock.store.Represents lineup) {q : Fin n} (hgone : ¬ stock.IsLive q)
    {flow : FlowId} {links : Links} (hmem : flow ∈ lineup.flows q)
    (hcell : stock.store.cell? (lineup.arena q) flow = some links) :
    stock.Stranded (lineup.arena q) flow links := by
  refine ⟨hcell, ?_, ?_⟩
  · intro call hflow hnamed
    have hbroken := contract_broken h hgone hmem hflow fun q' hq' =>
      ⟨(hnamed q' hq').1, (h.arena_eq q').symm.trans (hnamed q' hq').2⟩
    rw [← lineup.refusal_eq_none_iff, ← ne_eq, Option.ne_none_iff_exists'] at hbroken
    obtain ⟨fault, hfault⟩ := hbroken
    exact ⟨fault, h.run_call_refused hfault⟩
  · intro q' hlive harena
    refine ⟨_, h.toList_eq q', ?_⟩
    intro hmem'
    rw [h.arena_eq] at harena
    exact hgone (h.eq_of_mem harena hmem' hmem ▸ hlive)

theorem Later.stranded (hstock : stock.store.Represents lineup) {q : Fin n}
    (h : (stock.destroy q).Later later) {flow : FlowId} (hmem : flow ∈ lineup.flows q) :
    ∃ links, stock.store.cell? (lineup.arena q) flow = some links
      ∧ later.Stranded (lineup.arena q) flow links := by
  obtain ⟨lineup', hlater, houtlives, hsubset⟩ := h.outlives hstock
  have hlt : q.val < k := Nat.lt_of_lt_of_le q.isLt houtlives.le
  have hself : q.val ∈ (stock.destroy q).destroyed := Finset.mem_insert_self ..
  have hflows := houtlives.flows_eq q ⟨q, hlt⟩ rfl hself
  have harena := houtlives.arena_eq q ⟨q, hlt⟩ rfl
  obtain ⟨below, above, hsplit⟩ := List.append_of_mem hmem
  refine ⟨_, hstock.cell_of_split hsplit, ?_⟩
  rw [← harena]
  refine QueueStock.stranded hlater (fun hlive => hlive (hsubset hself)) (hflows ▸ hmem) ?_
  exact hlater.cell_of_split (hflows.trans hsplit)

/-! ### Runs -/

/-- However queues have been created, used and destroyed: a call on one queue changes that queue and the
cells of its members before and after; two such calls on different queues can be exchanged, unless one
inserts a flow that the other inserts or removes; and the flows that a destroyed queue still has keep
their cells through every later run and are out of reach. -/
theorem queues_touch_their_own (h : stock.Reached) :
    (∀ q call, call.queue? = some q → stock.store.ChangesOnly q call) ∧
    (∀ q q' call call', call.queue? = some q → call'.queue? = some q' → q ≠ q' →
      stock.store.Apart call call' → stock.store.Apart call' call →
      stock.store.Commute call call') ∧
    (∀ q flows, stock.store.toList q = .ok flows →
      ∀ (k : Nat) (later : QueueStock m k), (stock.destroy q).Later later → ∀ flow ∈ flows,
        ∃ links, stock.store.cell? (stock.store.queue q).arena flow = some links
          ∧ later.Stranded (stock.store.queue q).arena flow links) := by
  obtain ⟨lineup, hstock⟩ := h.represents
  refine ⟨?_, ?_, ?_⟩
  · intro q call hq
    exact hstock.changesOnly hq
  · intro q q' call call' hq hq' hne happart happart'
    exact hstock.commute hq hq' hne happart happart'
  · intro q flows hflows k later hlater flow hmem
    rw [hstock.toList_eq] at hflows
    obtain rfl := Except.ok.inj hflows
    rw [hstock.arena_eq]
    exact hlater.stranded hstock hmem

/-- Of three flows the first is in one queue and the second in another.  A flow leaves the one while the
third enters the other; and the first queue is destroyed with its flow. -/
theorem queues_touch_their_own_of_two :
    let start : QueueStock 1 0 := ⟨⟨#v[Array.replicate 3 .unlinked], #v[]⟩, ∅⟩
    let created : QueueStock 1 2 := (start.create "left" 0).create "right" 0
    let stock := (created.perform (.enqueue 0 0)).perform (.enqueue 1 1)
    stock.Reached ∧ stock.store.ChangesOnly 0 (.dequeue 0)
      ∧ stock.store.Commute (.dequeue 0) (.enqueue 1 2)
      ∧ ∃ links, stock.store.cell? 0 0 = some links
        ∧ (((stock.destroy 0).create "again" 0).perform (.enqueue 2 2)).Stranded 0 0 links := by
  intro start created stock
  have hreached : stock.Reached := by
    refine ⟨start.store, .addArena 3 .empty ?_, ?_⟩
    · simp [QueueStore.addArena, QueueStore.handleLimit, QueueStore.empty, start]
    · exact .perform _ (.perform _ (.create _ _ (.create _ _ .now)) (by decide)) (by decide)
  have hflows : stock.store.toList 0 = .ok [0] := by decide
  obtain ⟨hchanges, hcommute, hleftover⟩ := queues_touch_their_own hreached
  refine ⟨hreached, hchanges 0 _ rfl, hcommute 0 1 _ _ rfl rfl (by decide) ?_ ?_, ?_⟩
  · intro flow hflow
    cases hflow
  · intro flow hflow
    obtain rfl := Option.some.inj hflow
    refine ⟨by decide, ?_⟩
    rintro ⟨q, before, after, hq, hbefore, -, hmem, -⟩
    obtain rfl := Option.some.inj hq
    obtain rfl := Except.ok.inj (hflows.symm.trans hbefore)
    exact absurd hmem (by decide)
  · have hlater : (stock.destroy 0).Later
        (((stock.destroy 0).create "again" 0).perform (.enqueue 2 2)) :=
      .perform (.enqueue 2 2) (.create "again" 0 .now) (by decide)
    have harena : (stock.store.queue 0).arena = 0 := Subsingleton.elim ..
    have hstranded := hleftover 0 [0] hflows 3 _ hlater 0 List.mem_cons_self
    rwa [harena] at hstranded

end QueueStock

end FlowTracker
