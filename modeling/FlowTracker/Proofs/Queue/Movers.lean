import FlowTracker.Proofs.Queue.Behaviour
import Mathlib.Algebra.BigOperators.Fin
import Mathlib.Data.Finset.Card

/-!
# Transfers by many parties

Parties put flows of their own into queues and move them from queue to queue, each by a program of its
own, while others rotate the queues.  A transfer between two queues is two steps, `QueueM.leave` under
the lock of the source and `QueueM.append` under that of the target, so in between the flow is in the
hand of its party and everybody else may move.

The neighbours of a flow and the ends of its queue may be others at each step of its party.  What the
parties can rely on is `Movers.Sound`: a flow is where its own party has put it last, or in that party's
hand, and nowhere else.  `Sound.shift` is the one argument why a step about one flow keeps this, and
`Sound.run` says it of every run.
-/

namespace FlowTracker

variable {m n p : Nat}

/-! ### Halves of a transfer -/

namespace QueueM

/-- The half of a transfer that holds the source. -/
def leave (source target : Fin n) (flow : FlowId) : QueueM m n Unit := do
  let src ← queue source
  let dst ← queue target
  require (src.arena == dst.arena) (.foreignArena src.name dst.name)
  detach source flow

theorem transfer_eq (source target : Fin n) (flow : FlowId) :
    (transfer source target flow : QueueM m n Unit) = (do
      leave source target flow
      append target flow) := by
  simp only [transfer, leave, bind_assoc]

end QueueM

/-! ### Programs of a party -/

inductive Errand (n : Nat) where
  | publish (flow : FlowId) (target : Fin n)
  /-- A transfer from nowhere. -/
  | enter (flow : FlowId) (target : Fin n)
  | move (flow : FlowId) (source target : Fin n)
  deriving DecidableEq, Repr

namespace Errand

def flow : Errand n → FlowId
  | publish flow _ | enter flow _ | move flow _ _ => flow

def target : Errand n → Fin n
  | publish _ target | enter _ target | move _ _ target => target

def placed (errands : List (Errand n)) : FlowId → Option (Fin n) :=
  errands.foldl (fun place errand => Function.update place errand.flow (some errand.target))
    fun _ => none

def flows (errands : List (Errand n)) : Finset FlowId := (errands.map flow).toFinset

/-- A flow is put in while it is in no queue, and it is moved from the queue that the errands before
have put it into last. -/
def IsDue (done : List (Errand n)) : Errand n → Prop
  | publish flow _ | enter flow _ => placed done flow = none
  | move flow source _ => placed done flow = some source

instance (done : List (Errand n)) (errand : Errand n) : Decidable (errand.IsDue done) :=
  match errand with
  | publish flow _ | enter flow _ => inferInstanceAs (Decidable (placed done flow = none))
  | move flow source _ => inferInstanceAs (Decidable (placed done flow = some source))

/-- Every errand is about a flow of the party's own, and due when its turn comes. -/
def AreDue (owned : Finset FlowId) : (done rest : List (Errand n)) → Prop
  | _, [] => True
  | done, errand :: rest =>
    errand.flow ∈ owned ∧ errand.IsDue done ∧ AreDue owned (done ++ [errand]) rest

instance decidableAreDue (owned : Finset FlowId) :
    (done rest : List (Errand n)) → Decidable (AreDue owned done rest)
  | _, [] => inferInstanceAs (Decidable True)
  | done, errand :: rest =>
    have := decidableAreDue owned (done ++ [errand]) rest
    inferInstanceAs (Decidable (_ ∧ _ ∧ _))

/-- The first step.  It is the only one unless the errand moves a flow to another queue. -/
def program : Errand n → QueueM 1 n Unit
  | publish flow target => QueueM.enqueue target flow
  | enter flow target => QueueM.requeue flow none target
  | move flow source target =>
    if source = target then QueueM.requeue flow (some source) target
    else QueueM.leave source target flow

/-- What is in hand after the first step, and where it is to go. -/
def hand : Errand n → Option (FlowId × Fin n)
  | move flow source target => if source = target then none else some (flow, target)
  | _ => none

variable {errands : List (Errand n)} {errand : Errand n} {flow : FlowId}

theorem placed_concat (errands : List (Errand n)) (errand : Errand n) :
    placed (errands ++ [errand])
      = Function.update (placed errands) errand.flow (some errand.target) := by
  unfold placed
  rw [List.foldl_append]
  rfl

theorem placed_concat_self (errands : List (Errand n)) (errand : Errand n) :
    placed (errands ++ [errand]) errand.flow = some errand.target := by
  rw [placed_concat, Function.update_self]

theorem placed_concat_of_ne (errands : List (Errand n)) (hne : flow ≠ errand.flow) :
    placed (errands ++ [errand]) flow = placed errands flow := by
  rw [placed_concat, Function.update_of_ne hne]

theorem flows_concat (errands : List (Errand n)) (errand : Errand n) :
    flows (errands ++ [errand]) = insert errand.flow (flows errands) := by
  ext flow
  simp [flows]

theorem mem_flows_iff : flow ∈ flows errands ↔ ∃ q, placed errands flow = some q := by
  induction errands using List.reverseRecOn with
  | nil => simp [flows, placed]
  | append_singleton errands errand ih =>
    rw [flows_concat, Finset.mem_insert]
    by_cases hflow : flow = errand.flow
    · rw [hflow, placed_concat_self]
      exact ⟨fun _ => ⟨_, rfl⟩, fun _ => Or.inl rfl⟩
    · rw [placed_concat_of_ne _ hflow, ← ih]
      exact ⟨fun hmem => hmem.resolve_left hflow, Or.inr⟩

end Errand

/-! ### Members after a step -/

namespace Lineup

variable {lineup : Lineup m n} {q q' source target : Fin n} {flow x : FlowId}

theorem mem_place (flows : List FlowId) :
    x ∈ (lineup.place q flows).flows q'
      ↔ (q' = q ∧ x ∈ flows) ∨ (q' ≠ q ∧ x ∈ lineup.flows q') := by
  by_cases hq : q' = q
  · rw [hq, flows_place_self]
    tauto
  · rw [lineup.flows_place_of_ne hq]
    tauto

theorem mem_enqueue :
    x ∈ (lineup.enqueue q flow).flows q' ↔ x ∈ lineup.flows q' ∨ (q' = q ∧ x = flow) := by
  rw [enqueue, mem_place, List.mem_append, List.mem_singleton]
  by_cases hq : q' = q
  · subst hq
    tauto
  · tauto

theorem mem_append :
    x ∈ (lineup.append q flow).flows q' ↔ x ∈ lineup.flows q' ∨ (q' = q ∧ x = flow) := by
  rw [append, mem_place, List.mem_cons]
  by_cases hq : q' = q
  · subst hq
    tauto
  · tauto

theorem mem_detach (hnodup : (lineup.flows q).Nodup) :
    x ∈ (lineup.detach q flow).flows q' ↔ x ∈ lineup.flows q' ∧ ¬ (q' = q ∧ x = flow) := by
  rw [detach, mem_place, hnodup.mem_erase_iff]
  by_cases hq : q' = q
  · subst hq
    tauto
  · tauto

theorem mem_rotate : x ∈ (lineup.rotate q).flows q' ↔ x ∈ lineup.flows q' := by
  have hperm : ((lineup.flows q).tail ++ (lineup.flows q).head?.toList).Perm (lineup.flows q) := by
    cases lineup.flows q with
    | nil => rfl
    | cons flow rest => exact List.perm_append_singleton flow rest
  rw [rotate, mem_place, hperm.mem_iff]
  by_cases hq : q' = q
  · subst hq
    tauto
  · tauto

/-- A flow that comes to one queue, from nowhere or from the same queue. -/
theorem mem_of_entering {lineup' : Lineup m n}
    (hmem : ∀ x q', x ∈ lineup'.flows q' ↔ (x ∈ lineup.flows q' ∧ x ≠ flow) ∨ (q' = q ∧ x = flow)) :
    (∀ x ≠ flow, ∀ q', x ∈ lineup'.flows q' ↔ x ∈ lineup.flows q')
      ∧ ∀ q', flow ∈ lineup'.flows q' ↔ q' = q := by
  constructor
  · intro x hx q'
    rw [hmem]
    tauto
  · intro q'
    rw [hmem]
    tauto

theorem and_ne_of_out (hout : ∀ q', flow ∉ lineup.flows q') :
    x ∈ lineup.flows q' ↔ x ∈ lineup.flows q' ∧ x ≠ flow := by
  refine ⟨fun hmem => ⟨hmem, ?_⟩, And.left⟩
  rintro rfl
  exact hout q' hmem

theorem mem_of_out {lineup' : Lineup m n} (hout : ∀ q', flow ∉ lineup.flows q')
    (hmem : ∀ x q', x ∈ lineup'.flows q' ↔ x ∈ lineup.flows q' ∨ (q' = q ∧ x = flow)) :
    (∀ x ≠ flow, ∀ q', x ∈ lineup'.flows q' ↔ x ∈ lineup.flows q')
      ∧ ∀ q', flow ∈ lineup'.flows q' ↔ q' = q := by
  apply mem_of_entering
  intro x q'
  rw [hmem, ← and_ne_of_out hout]

end Lineup

theorem QueueStore.Represents.leave {store : QueueStore m n} {lineup : Lineup m n}
    {source target : Fin n} {flow : FlowId} (h : store.Represents lineup)
    (harena : lineup.arena source = lineup.arena target) (hmem : flow ∈ lineup.flows source) :
    ∃ store', (QueueM.leave source target flow).run store = .ok () store'
      ∧ store'.Represents (lineup.detach source flow) := by
  obtain ⟨store', hrun, h'⟩ := h.detach hmem
  refine ⟨store', ?_, h'⟩
  have hsame : ((store.queue source).arena == (store.queue target).arena) = true := by
    rw [h.arena_eq, h.arena_eq, harena, beq_self_eq_true]
  simp only [QueueM.leave, EStateM.run_bind, QueueM.run_queue, QueueM.run_require, hsame, if_true,
    hrun]

/-! ### Parties and their turns -/

structure Movers (p n : Nat) where
  store : QueueStore 1 n
  /-- The errands that were begun, in their order.  No turn reads them. -/
  done : Fin p → List (Errand n)
  due : Fin p → List (Errand n)
  /-- The flow between the two halves of a transfer, and where it is to go. -/
  carried : Fin p → Option (FlowId × Fin n)

inductive Turn (p n : Nat) where
  | work (party : Fin p)
  | rotate (q : Fin n)
  deriving DecidableEq, Repr

namespace Movers

def start (store : QueueStore 1 n) (programs : Fin p → List (Errand n)) : Movers p n :=
  ⟨store, fun _ => [], programs, fun _ => none⟩

def become (movers : Movers p n) (party : Fin p) (store : QueueStore 1 n)
    (done due : List (Errand n)) (carried : Option (FlowId × Fin n)) : Movers p n where
  store := store
  done := Function.update movers.done party done
  due := Function.update movers.due party due
  carried := Function.update movers.carried party carried

/-- One turn.  A party with a flow in hand puts it down first; one without errands does nothing. -/
def step (movers : Movers p n) : Turn p n → Except Fault (Movers p n)
  | .rotate q =>
    match (QueueM.rotate q).run movers.store with
    | .ok _ store => .ok { movers with store }
    | .error fault _ => .error fault
  | .work party =>
    match movers.carried party with
    | some (flow, target) =>
      match (QueueM.append target flow).run movers.store with
      | .ok _ store =>
        .ok (movers.become party store (movers.done party) (movers.due party) none)
      | .error fault _ => .error fault
    | none =>
      match movers.due party with
      | [] => .ok movers
      | errand :: rest =>
        match errand.program.run movers.store with
        | .ok _ store =>
          .ok (movers.become party store (movers.done party ++ [errand]) rest errand.hand)
        | .error fault _ => .error fault

def run (movers : Movers p n) (turns : List (Turn p n)) : Except Fault (Movers p n) :=
  turns.foldlM step movers

/-! ### What every turn keeps -/

/-- A flow is in the queue that its own party has put it into last, or in the hand of that party. -/
structure Sound (owned : Fin p → Finset FlowId) (movers : Movers p n) (lineup : Lineup 1 n) :
    Prop where
  represents : movers.store.Represents lineup
  fits : ∀ party, ∀ flow ∈ owned party, flow < lineup.capacity 0
  due : ∀ party, Errand.AreDue (owned party) (movers.done party) (movers.due party)
  done_owned : ∀ party, Errand.flows (movers.done party) ⊆ owned party
  carried_placed : ∀ party flow q, movers.carried party = some (flow, q) →
    Errand.placed (movers.done party) flow = some q
  queued_iff : ∀ q flow, flow ∈ lineup.flows q ↔ ∃ party,
    Errand.placed (movers.done party) flow = some q ∧ movers.carried party ≠ some (flow, q)

variable {owned : Fin p → Finset FlowId} {movers : Movers p n} {lineup lineup' : Lineup 1 n}
  {store' : QueueStore 1 n} {party party' : Fin p} {flow : FlowId} {q : Fin n}

theorem Sound.owned_of_placed (h : movers.Sound owned lineup)
    (hplaced : Errand.placed (movers.done party) flow = some q) : flow ∈ owned party :=
  h.done_owned party (Errand.mem_flows_iff.2 ⟨q, hplaced⟩)

theorem Sound.fits_arena (h : movers.Sound owned lineup) (hflow : flow ∈ owned party) (q : Fin n) :
    flow < lineup.capacity (lineup.arena q) := by
  rw [Subsingleton.elim (lineup.arena q) 0]
  exact h.fits party flow hflow

theorem eq_of_owned (howned : Pairwise (Function.onFun Disjoint owned))
    (hflow : flow ∈ owned party) (hflow' : flow ∈ owned party') : party = party' := by
  by_contra hne
  exact Finset.disjoint_left.1 (howned hne) hflow hflow'

/-- Of one's own flows one knows where they are, whatever the others do. -/
theorem Sound.queued_iff_of_owned (h : movers.Sound owned lineup)
    (howned : Pairwise (Function.onFun Disjoint owned)) (hflow : flow ∈ owned party) (q : Fin n) :
    flow ∈ lineup.flows q ↔ Errand.placed (movers.done party) flow = some q
      ∧ movers.carried party ≠ some (flow, q) := by
  rw [h.queued_iff]
  constructor
  · rintro ⟨party', hplaced, hcarried⟩
    obtain rfl := eq_of_owned howned hflow (h.owned_of_placed hplaced)
    exact ⟨hplaced, hcarried⟩
  · intro hparty
    exact ⟨party, hparty⟩

/-- A step of one party that leaves all flows but one of its own where they are. -/
theorem Sound.shift (h : movers.Sound owned lineup)
    (howned : Pairwise (Function.onFun Disjoint owned)) (hflow : flow ∈ owned party)
    {done due : List (Errand n)} {carried : Option (FlowId × Fin n)}
    (hstore : store'.Represents lineup') (hcapacity : lineup'.capacity = lineup.capacity)
    (hdue : Errand.AreDue (owned party) done due)
    (hdone : ∀ x ≠ flow, Errand.placed done x = Errand.placed (movers.done party) x)
    (hbefore : ∀ x q, movers.carried party = some (x, q) → x = flow)
    (hafter : ∀ x q, carried = some (x, q) → x = flow ∧ Errand.placed done flow = some q)
    (hothers : ∀ x ≠ flow, ∀ q, x ∈ lineup'.flows q ↔ x ∈ lineup.flows q)
    (hself : ∀ q, flow ∈ lineup'.flows q
      ↔ Errand.placed done flow = some q ∧ carried ≠ some (flow, q)) :
    (movers.become party store' done due carried).Sound owned lineup' := by
  have hplaced_owned : ∀ x q, Errand.placed done x = some q → x ∈ owned party := by
    intro x q hplaced
    by_cases hx : x = flow
    · rwa [hx]
    · rw [hdone x hx] at hplaced
      exact h.owned_of_placed hplaced
  refine ⟨hstore, ?_, ?_, ?_, ?_, ?_⟩
  · rw [hcapacity]
    exact h.fits
  · intro party'
    by_cases hparty : party' = party
    · subst hparty
      simpa only [become, Function.update_self] using hdue
    · simpa only [become, Function.update_of_ne hparty] using h.due party'
  · intro party' x hx
    obtain ⟨q, hplaced⟩ := Errand.mem_flows_iff.1 hx
    by_cases hparty : party' = party
    · subst hparty
      simp only [become, Function.update_self] at hplaced
      exact hplaced_owned x q hplaced
    · simp only [become, Function.update_of_ne hparty] at hplaced
      exact h.owned_of_placed hplaced
  · intro party' x q hcarried
    by_cases hparty : party' = party
    · subst hparty
      simp only [become, Function.update_self] at hcarried ⊢
      obtain ⟨rfl, hplaced⟩ := hafter x q hcarried
      exact hplaced
    · simp only [become, Function.update_of_ne hparty] at hcarried ⊢
      exact h.carried_placed party' x q hcarried
  · intro q x
    by_cases hx : x = flow
    · -- the flow of this step has no other owner
      subst hx
      rw [hself]
      constructor
      · intro hthere
        refine ⟨party, ?_⟩
        simpa only [become, Function.update_self] using hthere
      · rintro ⟨party', hplaced, hcarried⟩
        by_cases hparty : party' = party
        · subst hparty
          simp only [become, Function.update_self] at hplaced hcarried
          exact ⟨hplaced, hcarried⟩
        · simp only [become, Function.update_of_ne hparty] at hplaced
          exact absurd (eq_of_owned howned (h.owned_of_placed hplaced) hflow) hparty
    · -- all other flows are placed and carried as before
      rw [hothers x hx, h.queued_iff]
      apply exists_congr
      intro party'
      by_cases hparty : party' = party
      · subst hparty
        have hnot : movers.carried party' ≠ some (x, q) := fun hc => hx (hbefore x q hc)
        have hnot' : carried ≠ some (x, q) := fun hc => hx (hafter x q hc).1
        simp only [become, Function.update_self, hdone x hx]
        exact and_congr_right fun _ => iff_of_true hnot hnot'
      · simp only [become, Function.update_of_ne hparty]

/-- The second half of a transfer. -/
theorem Sound.deliver (h : movers.Sound owned lineup)
    (howned : Pairwise (Function.onFun Disjoint owned))
    (hcarried : movers.carried party = some (flow, q)) :
    ∃ store' lineup', (QueueM.append q flow).run movers.store = .ok () store'
      ∧ (movers.become party store' (movers.done party) (movers.due party) none).Sound owned
        lineup' := by
  have hplaced := h.carried_placed party flow q hcarried
  have hflow := h.owned_of_placed hplaced
  have hout : ∀ q', flow ∉ lineup.flows q' := by
    intro q' hmem
    obtain ⟨hplaced', hnot⟩ := (h.queued_iff_of_owned howned hflow q').1 hmem
    rw [hplaced, Option.some.injEq] at hplaced'
    exact hnot (hplaced' ▸ hcarried)
  obtain ⟨store', hrun, hstore⟩ :=
    h.represents.append (h.fits_arena hflow q) (by rintro ⟨q', -, hmem⟩; exact hout q' hmem)
  obtain ⟨hothers, hself⟩ := Lineup.mem_of_out hout fun _ _ => Lineup.mem_append
  refine ⟨store', _, hrun,
    h.shift howned hflow hstore rfl (h.due party) (fun _ _ => rfl) ?_ ?_ hothers ?_⟩
  · intro x q' hx
    rw [hcarried, Option.some.injEq, Prod.mk.injEq] at hx
    exact hx.1.symm
  · intro x q' hx
    cases hx
  · intro q'
    rw [hself, hplaced, Option.some.injEq, eq_comm]
    exact (and_iff_left (Option.some_ne_none _).symm).symm

/-- The first step of an errand leads to some lineup in which its flow is where the errand says. -/
theorem Sound.program (h : movers.Sound owned lineup)
    (howned : Pairwise (Function.onFun Disjoint owned)) {errand : Errand n}
    (hfree : movers.carried party = none) (hflow : errand.flow ∈ owned party)
    (hdue : errand.IsDue (movers.done party)) :
    ∃ store' lineup', errand.program.run movers.store = .ok () store'
      ∧ store'.Represents lineup' ∧ lineup'.capacity = lineup.capacity
      ∧ (∀ x ≠ errand.flow, ∀ q, x ∈ lineup'.flows q ↔ x ∈ lineup.flows q)
      ∧ ∀ q, errand.flow ∈ lineup'.flows q
        ↔ q = errand.target ∧ errand.hand ≠ some (errand.flow, q) := by
  have hqueued := h.queued_iff_of_owned howned hflow
  have hnowhere : Errand.placed (movers.done party) errand.flow = none →
      ∀ q, errand.flow ∉ lineup.flows q := by
    intro hnone q hmem
    have hplaced := ((hqueued q).1 hmem).1
    rw [hnone] at hplaced
    cases hplaced
  cases errand with
  | publish flow target =>
    have hout : ∀ q, flow ∉ lineup.flows q := hnowhere hdue
    obtain ⟨store', hrun, hstore⟩ := h.represents.enqueue (h.fits_arena hflow target)
      (by rintro ⟨q, -, hmem⟩; exact hout q hmem)
    obtain ⟨hothers, hself⟩ := Lineup.mem_of_out hout fun _ _ => Lineup.mem_enqueue
    refine ⟨store', _, hrun, hstore, rfl, hothers, fun q => (hself q).trans ?_⟩
    exact (and_iff_left (Option.some_ne_none _).symm).symm
  | enter flow target =>
    have hout : ∀ q, flow ∉ lineup.flows q := hnowhere hdue
    obtain ⟨store', hrun, hstore⟩ := h.represents.requeue_none (h.fits_arena hflow target)
      (by rintro ⟨q, -, hmem⟩; exact hout q hmem)
    obtain ⟨hothers, hself⟩ := Lineup.mem_of_out hout fun _ _ => Lineup.mem_append
    refine ⟨store', _, hrun, hstore, rfl, hothers, fun q => (hself q).trans ?_⟩
    exact (and_iff_left (Option.some_ne_none _).symm).symm
  | move flow source target =>
    have hplaced : Errand.placed (movers.done party) flow = some source := hdue
    have hthere : ∀ q, flow ∈ lineup.flows q ↔ q = source := by
      intro q
      have hiff : flow ∈ lineup.flows q ↔ _ := hqueued q
      rw [hiff, Errand.flow, hplaced, hfree, Option.some.injEq, eq_comm]
      exact and_iff_left (Option.some_ne_none _).symm
    have hmem := (hthere source).2 rfl
    have harena : lineup.arena source = lineup.arena target := Subsingleton.elim ..
    have hnodup := (h.represents.chain source).nodup
    have hleft : ∀ x q, x ∈ (lineup.detach source flow).flows q
        ↔ x ∈ lineup.flows q ∧ x ≠ flow := by
      intro x q
      rw [Lineup.mem_detach hnodup]
      refine and_congr_right fun hx => not_congr ⟨And.right, ?_⟩
      rintro rfl
      exact ⟨(hthere q).1 hx, rfl⟩
    by_cases hsame : source = target
    · subst hsame
      obtain ⟨store', hrun, hstore⟩ := h.represents.transfer harena hmem
      have hmem : ∀ x q, x ∈ (lineup.transfer source source flow).flows q
          ↔ (x ∈ lineup.flows q ∧ x ≠ flow) ∨ (q = source ∧ x = flow) := by
        intro x q
        rw [Lineup.transfer, Lineup.mem_append, hleft]
      obtain ⟨hothers, hself⟩ := Lineup.mem_of_entering hmem
      refine ⟨store', _, ?_, hstore, rfl, hothers, fun q => (hself q).trans ?_⟩
      · rw [Errand.program, if_pos rfl]
        exact hrun
      · rw [Errand.hand, if_pos rfl]
        exact (and_iff_left (Option.some_ne_none _).symm).symm
    · obtain ⟨store', hrun, hstore⟩ := h.represents.leave harena hmem
      refine ⟨store', _, ?_, hstore, rfl, ?_, ?_⟩
      · rw [Errand.program, if_neg hsame]
        exact hrun
      · intro x hx q
        rw [hleft]
        exact and_iff_left hx
      · -- it is in hand, so it is in no queue
        intro q
        rw [Errand.hand, if_neg hsame, hleft]
        constructor
        · rintro ⟨-, hne⟩
          exact absurd rfl hne
        · rintro ⟨rfl, hne⟩
          exact absurd rfl hne

/-- The first step of an errand. -/
theorem Sound.begin (h : movers.Sound owned lineup)
    (howned : Pairwise (Function.onFun Disjoint owned)) {errand : Errand n} {rest : List (Errand n)}
    (hfree : movers.carried party = none) (hnext : movers.due party = errand :: rest) :
    ∃ store' lineup', errand.program.run movers.store = .ok () store'
      ∧ (movers.become party store' (movers.done party ++ [errand]) rest errand.hand).Sound owned
        lineup' := by
  have hdue := h.due party
  rw [hnext] at hdue
  obtain ⟨hflow, hready, hrest⟩ := hdue
  obtain ⟨store', lineup', hrun, hstore, hcapacity, hothers, hself⟩ :=
    h.program howned hfree hflow hready
  refine ⟨store', lineup', hrun, h.shift howned hflow hstore hcapacity hrest ?_ ?_ ?_ hothers ?_⟩
  · intro x hx
    exact Errand.placed_concat_of_ne _ hx
  · intro x q hx
    rw [hfree] at hx
    cases hx
  · intro x q hx
    rw [Errand.placed_concat_self]
    cases errand with
    | publish flow target => cases hx
    | enter flow target => cases hx
    | move flow source target =>
      simp only [Errand.hand] at hx
      split at hx
      · cases hx
      · cases hx
        exact ⟨rfl, rfl⟩
  · intro q
    rw [hself, Errand.placed_concat_self, Option.some.injEq, eq_comm]

theorem Sound.rotate (h : movers.Sound owned lineup) (q : Fin n) :
    ∃ front store' lineup', (QueueM.rotate q).run movers.store = .ok front store'
      ∧ Sound owned { movers with store := store' } lineup' := by
  obtain ⟨store', hrun, hstore⟩ := h.represents.rotate (q := q)
  refine ⟨_, store', _, hrun, hstore, h.fits, h.due, h.done_owned, h.carried_placed, ?_⟩
  intro q' flow
  rw [Lineup.mem_rotate]
  exact h.queued_iff q' flow

theorem Sound.step (h : movers.Sound owned lineup)
    (howned : Pairwise (Function.onFun Disjoint owned)) (turn : Turn p n) :
    ∃ next lineup', movers.step turn = .ok next ∧ next.Sound owned lineup'
      ∧ ∀ party, next.done party ++ next.due party = movers.done party ++ movers.due party := by
  cases turn with
  | rotate q =>
    obtain ⟨front, store', lineup', hrun, hsound⟩ := h.rotate q
    refine ⟨{ movers with store := store' }, lineup', ?_, hsound, fun _ => rfl⟩
    simp only [Movers.step, hrun]
  | work party =>
    cases hcarried : movers.carried party with
    | some hand =>
      obtain ⟨store', lineup', hrun, hsound⟩ := h.deliver howned hcarried
      refine ⟨_, lineup', ?_, hsound, ?_⟩
      · simp only [Movers.step, hcarried, hrun]
      · simp only [become, Function.update_eq_self, implies_true]
    | none =>
      cases hdue : movers.due party with
      | nil =>
        refine ⟨movers, lineup, ?_, h, fun _ => rfl⟩
        simp only [Movers.step, hcarried, hdue]
      | cons errand rest =>
        obtain ⟨store', lineup', hrun, hsound⟩ := h.begin howned hcarried hdue
        refine ⟨_, lineup', ?_, hsound, ?_⟩
        · simp only [Movers.step, hcarried, hdue, hrun]
        · intro party'
          by_cases hparty : party' = party
          · subst hparty
            simp only [become, Function.update_self, hdue, List.append_assoc, List.singleton_append]
          · simp only [become, Function.update_of_ne hparty]

theorem Sound.run (h : movers.Sound owned lineup)
    (howned : Pairwise (Function.onFun Disjoint owned)) (turns : List (Turn p n)) :
    ∃ last lineup', movers.run turns = .ok last ∧ last.Sound owned lineup'
      ∧ ∀ party, last.done party ++ last.due party = movers.done party ++ movers.due party := by
  induction turns generalizing movers lineup with
  | nil => exact ⟨movers, lineup, rfl, h, fun _ => rfl⟩
  | cons turn turns ih =>
    obtain ⟨next, lineup₁, hstep, hnext, hkept⟩ := h.step howned turn
    obtain ⟨last, lineup₂, hrun, hlast, hkept'⟩ := ih hnext
    refine ⟨last, lineup₂, ?_, hlast, fun party => by rw [hkept', hkept]⟩
    rw [Movers.run, List.foldlM_cons, hstep]
    exact hrun

/-! ### Where the flows are -/

def hand (movers : Movers p n) (party : Fin p) : Option FlowId := (movers.carried party).map Prod.fst

theorem hand_eq_some_iff :
    movers.hand party = some flow ↔ ∃ q, movers.carried party = some (flow, q) := by
  simp [hand]

/-- What can be said of the flows between any two steps, whoever made them. -/
structure Keeps (programs : Fin p → List (Errand n)) (movers : Movers p n)
    (flows : Fin n → List FlowId) : Prop where
  reads : ∀ q, movers.store.ReadsAs q (flows q)
  nodup : ∀ q, (flows q).Nodup
  follows : ∀ party, movers.done party ++ movers.due party = programs party
  /-- What was put in is in one queue and in no hand, or in its own party's hand and in no queue. -/
  one_place : ∀ party, ∀ flow ∈ Errand.flows (movers.done party),
    ((∃! q, flow ∈ flows q) ∧ ∀ party', movers.hand party' ≠ some flow)
      ∨ ((∀ q, flow ∉ flows q) ∧ ∀ party', movers.hand party' = some flow ↔ party' = party)
  put_in : ∀ flow, ((∃ q, flow ∈ flows q) ∨ ∃ party, movers.hand party = some flow) →
    ∃ party, flow ∈ Errand.flows (movers.done party)
  count : ∑ q, (movers.store.queue q).length + (Finset.univ.filter fun party =>
      (movers.hand party).isSome).card = ∑ party, (Errand.flows (movers.done party)).card
  at_end : (∀ party, movers.due party = [] ∧ movers.hand party = none) →
    ∀ q flow, flow ∈ flows q ↔ ∃ party, Errand.placed (programs party) flow = some q

theorem Sound.one_place (h : movers.Sound owned lineup)
    (howned : Pairwise (Function.onFun Disjoint owned))
    (hflow : flow ∈ Errand.flows (movers.done party)) :
    ((∃! q, flow ∈ lineup.flows q) ∧ ∀ party', movers.hand party' ≠ some flow)
      ∨ ((∀ q, flow ∉ lineup.flows q) ∧ ∀ party', movers.hand party' = some flow
        ↔ party' = party) := by
  have hmine := h.done_owned party hflow
  have hqueued := h.queued_iff_of_owned howned hmine
  obtain ⟨q, hplaced⟩ := Errand.mem_flows_iff.1 hflow
  have hholder : ∀ party', movers.hand party' = some flow → party' = party := by
    intro party' hhand
    obtain ⟨q', hcarried⟩ := hand_eq_some_iff.1 hhand
    exact eq_of_owned howned (h.owned_of_placed (h.carried_placed _ _ _ hcarried)) hmine
  by_cases hcarried : movers.carried party = some (flow, q)
  · refine Or.inr ⟨?_, fun party' => ⟨hholder party', ?_⟩⟩
    · intro q' hmem
      obtain ⟨hplaced', hnot⟩ := (hqueued q').1 hmem
      rw [hplaced, Option.some.injEq] at hplaced'
      exact hnot (hplaced' ▸ hcarried)
    · rintro rfl
      exact hand_eq_some_iff.2 ⟨q, hcarried⟩
  · refine Or.inl ⟨⟨q, (hqueued q).2 ⟨hplaced, hcarried⟩, ?_⟩, ?_⟩
    · intro q' hmem
      have hplaced' := ((hqueued q').1 hmem).1
      rw [hplaced, Option.some.injEq] at hplaced'
      exact hplaced'.symm
    · intro party' hhand
      obtain rfl := hholder party' hhand
      obtain ⟨q', hcarried'⟩ := hand_eq_some_iff.1 hhand
      have hplaced' := h.carried_placed _ _ _ hcarried'
      rw [hplaced, Option.some.injEq] at hplaced'
      exact hcarried (hplaced' ▸ hcarried')

theorem Sound.put_in (h : movers.Sound owned lineup)
    (hthere : (∃ q, flow ∈ lineup.flows q) ∨ ∃ party, movers.hand party = some flow) :
    ∃ party, flow ∈ Errand.flows (movers.done party) := by
  rcases hthere with ⟨q, hmem⟩ | ⟨party, hhand⟩
  · obtain ⟨party, hplaced, -⟩ := (h.queued_iff q flow).1 hmem
    exact ⟨party, Errand.mem_flows_iff.2 ⟨q, hplaced⟩⟩
  · obtain ⟨q, hcarried⟩ := hand_eq_some_iff.1 hhand
    exact ⟨party, Errand.mem_flows_iff.2 ⟨q, h.carried_placed _ _ _ hcarried⟩⟩

def queued (lineup : Lineup 1 n) : Finset FlowId :=
  Finset.univ.biUnion fun q => (lineup.flows q).toFinset

def held (movers : Movers p n) : Finset FlowId :=
  Finset.univ.biUnion fun party => (movers.hand party).toFinset

theorem mem_queued : flow ∈ queued lineup ↔ ∃ q, flow ∈ lineup.flows q := by
  simp only [queued, Finset.mem_biUnion, Finset.mem_univ, true_and, List.mem_toFinset]

theorem mem_held : flow ∈ movers.held ↔ ∃ party, movers.hand party = some flow := by
  simp only [held, Finset.mem_biUnion, Finset.mem_univ, true_and, Option.mem_toFinset,
    Option.mem_def]

theorem Sound.card_queued (h : movers.Sound owned lineup) :
    (queued lineup).card = ∑ q, (lineup.flows q).length := by
  rw [queued, Finset.card_biUnion]
  · exact Finset.sum_congr rfl fun q _ => List.toFinset_card_of_nodup (h.represents.chain q).nodup
  · intro q _ q' _ hne
    refine Finset.disjoint_left.2 fun flow hmem hmem' => hne ?_
    exact h.represents.eq_of_mem (Subsingleton.elim ..) (List.mem_toFinset.1 hmem)
      (List.mem_toFinset.1 hmem')

theorem Sound.card_held (h : movers.Sound owned lineup)
    (howned : Pairwise (Function.onFun Disjoint owned)) :
    movers.held.card = (Finset.univ.filter fun party => (movers.hand party).isSome).card := by
  rw [held, Finset.card_biUnion, Finset.card_filter]
  · refine Finset.sum_congr rfl fun party _ => ?_
    cases movers.hand party <;> rfl
  · intro party _ party' _ hne
    refine Finset.disjoint_left.2 fun flow hmem hmem' => hne ?_
    obtain ⟨q, hcarried⟩ := hand_eq_some_iff.1 (Option.mem_toFinset.1 hmem)
    obtain ⟨q', hcarried'⟩ := hand_eq_some_iff.1 (Option.mem_toFinset.1 hmem')
    exact eq_of_owned howned (h.owned_of_placed (h.carried_placed _ _ _ hcarried))
      (h.owned_of_placed (h.carried_placed _ _ _ hcarried'))

theorem Sound.disjoint_queued_held (h : movers.Sound owned lineup)
    (howned : Pairwise (Function.onFun Disjoint owned)) :
    Disjoint (queued lineup) movers.held := by
  refine Finset.disjoint_left.2 fun flow hmem hmem' => ?_
  rw [mem_queued] at hmem
  rw [mem_held] at hmem'
  obtain ⟨party, hflow⟩ := h.put_in (Or.inl hmem)
  rcases h.one_place howned hflow with ⟨-, hhand⟩ | ⟨hout, -⟩
  · obtain ⟨party', hparty'⟩ := hmem'
    exact hhand party' hparty'
  · obtain ⟨q, hq⟩ := hmem
    exact hout q hq

theorem Sound.put_in_eq (h : movers.Sound owned lineup)
    (howned : Pairwise (Function.onFun Disjoint owned)) :
    (Finset.univ.biUnion fun party => Errand.flows (movers.done party))
      = queued lineup ∪ movers.held := by
  ext flow
  rw [Finset.mem_union, mem_queued, mem_held, Finset.mem_biUnion]
  constructor
  · rintro ⟨party, -, hflow⟩
    rcases h.one_place howned hflow with ⟨⟨q, hmem, -⟩, -⟩ | ⟨-, hhand⟩
    · exact Or.inl ⟨q, hmem⟩
    · exact Or.inr ⟨party, (hhand party).2 rfl⟩
  · intro hthere
    obtain ⟨party, hflow⟩ := h.put_in hthere
    exact ⟨party, Finset.mem_univ party, hflow⟩

/-- No flow that was put in is missing, and none is counted twice. -/
theorem Sound.count (h : movers.Sound owned lineup)
    (howned : Pairwise (Function.onFun Disjoint owned)) :
    ∑ q, (lineup.flows q).length + (Finset.univ.filter fun party =>
        (movers.hand party).isSome).card = ∑ party, (Errand.flows (movers.done party)).card := by
  have hput : (Finset.univ.biUnion fun party => Errand.flows (movers.done party)).card
      = ∑ party, (Errand.flows (movers.done party)).card := by
    apply Finset.card_biUnion
    intro party _ party' _ hne
    exact Finset.disjoint_of_subset_left (h.done_owned party)
      (Finset.disjoint_of_subset_right (h.done_owned party') (howned hne))
  rw [← hput, h.put_in_eq howned, Finset.card_union_of_disjoint (h.disjoint_queued_held howned),
    h.card_queued, h.card_held howned]

theorem Sound.keeps (h : movers.Sound owned lineup)
    (howned : Pairwise (Function.onFun Disjoint owned)) {programs : Fin p → List (Errand n)}
    (hfollows : ∀ party, movers.done party ++ movers.due party = programs party) :
    movers.Keeps programs lineup.flows := by
  refine ⟨?_, ?_, hfollows, fun party flow => h.one_place howned, fun flow => h.put_in, ?_, ?_⟩
  · intro q
    exact (h.represents.chain q).readsAs
  · intro q
    exact (h.represents.chain q).nodup
  · rw [← h.count howned]
    simp only [(h.represents.chain _).length_eq]
  · intro hend q flow
    rw [h.queued_iff]
    apply exists_congr
    intro party
    obtain ⟨hdue, hhand⟩ := hend party
    have hdone := hfollows party
    rw [hdue, List.append_nil] at hdone
    rw [hand, Option.map_eq_none_iff] at hhand
    rw [hdone, hhand]
    exact and_iff_left (Option.some_ne_none _).symm

theorem sound_start {store : QueueStore 1 n} {programs : Fin p → List (Errand n)}
    (hbuilt : store.Built) (hfits : ∀ party, ∀ flow ∈ owned party, flow < store.capacity 0)
    (hprograms : ∀ party, Errand.AreDue (owned party) [] (programs party)) :
    (start store programs).Sound owned (Lineup.vacant store) := by
  refine ⟨hbuilt.isVacant.represents, hfits, hprograms, ?_, ?_, ?_⟩
  · intro party
    exact Finset.empty_subset _
  · intro party flow q hcarried
    cases hcarried
  · intro q flow
    constructor
    · intro hmem
      cases hmem
    · rintro ⟨party, hplaced, -⟩
      cases hplaced

/-- Parties with flows of their own put them into queues and transfer them, each by a program that
takes every flow from where it has put it last; others rotate the queues.  In whatever order the steps
happen none faults, and after each of them the queues pass their check and no flow is lost or
doubled. -/
theorem run_keeps {store : QueueStore 1 n} (hbuilt : store.Built)
    (howned : Pairwise (Function.onFun Disjoint owned))
    (hfits : ∀ party, ∀ flow ∈ owned party, flow < store.capacity 0)
    {programs : Fin p → List (Errand n)}
    (hprograms : ∀ party, Errand.AreDue (owned party) [] (programs party))
    (turns : List (Turn p n)) :
    ∃ movers flows, (start store programs).run turns = .ok movers ∧ movers.Keeps programs flows := by
  obtain ⟨movers, lineup, hrun, hsound, hkept⟩ :=
    (sound_start hbuilt hfits hprograms).run howned turns
  exact ⟨movers, lineup.flows, hrun, hsound.keeps howned hkept⟩

/-- Two parties exchange their flows between two queues while the first queue is rotated; at the end
of these turns one of the flows is in a hand. -/
theorem run_keeps_of_opposite :
    ∃ store : QueueStore 1 2, store.Built ∧
      let owned : Fin 2 → Finset FlowId := ![{0, 1}, {2}]
      let programs : Fin 2 → List (Errand 2) :=
        ![[.publish 0 0, .publish 1 0, .move 0 0 1], [.enter 2 1, .move 2 1 0]]
      let turns : List (Turn 2 2) :=
        [.work 0, .work 0, .work 1, .work 0, .work 1, .rotate 0, .work 1]
      Pairwise (Function.onFun Disjoint owned)
        ∧ (∀ party, ∀ flow ∈ owned party, flow < store.capacity 0)
        ∧ (∀ party, Errand.AreDue (owned party) [] (programs party))
        ∧ ∃ movers flows, (start store programs).run turns = .ok movers
          ∧ movers.Keeps programs flows ∧ flows 0 = [2, 1] ∧ flows 1 = []
          ∧ movers.hand 0 = some 0 := by
  have hbuilt := ((QueueStore.Built.empty.addArena 3 rfl).addQueue "first" 0).addQueue "second" 0
  refine ⟨_, hbuilt, ?_⟩
  intro owned programs turns
  have howned : Pairwise (Function.onFun Disjoint owned) := by
    unfold Pairwise Function.onFun
    decide
  have hfits : ∀ party, ∀ flow ∈ owned party, flow < 3 := by decide
  have hprograms : ∀ party, Errand.AreDue (owned party) [] (programs party) := by decide
  refine ⟨howned, hfits, hprograms, ?_⟩
  obtain ⟨movers, flows, hrun, hkeeps⟩ := run_keeps hbuilt howned hfits hprograms turns
  have hlists : Except.ok (movers.store.toList 0, movers.store.toList 1, movers.hand 0)
      = (.ok (.ok [2, 1], .ok [], some 0) : Except Fault _) :=
    (congrArg (Except.map fun movers : Movers 2 2 =>
      (movers.store.toList 0, movers.store.toList 1, movers.hand 0)) hrun).symm.trans
      (by decide +kernel)
  rw [Except.ok.injEq, Prod.mk.injEq, Prod.mk.injEq, (hkeeps.reads 0).toList_eq,
    (hkeeps.reads 1).toList_eq, Except.ok.injEq, Except.ok.injEq] at hlists
  exact ⟨movers, flows, hrun, hkeeps, hlists⟩

end Movers

end FlowTracker
