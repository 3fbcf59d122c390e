import FlowTracker.Proofs.Interleaving.Races
import FlowTracker.Proofs.Interleaving.Runs
import FlowTracker.Proofs.Engine.Fresh
import FlowTracker.Proofs.Engine.Steady

/-!
# Dropped packets

A worker drops a packet when it has waited for a spare slot in vain.  It asked the table before the wait
and does not ask again, so what the table says at the drop may be news to it.

Each drop is traced back to that question: nothing was bound to the packet's conversation then, no slot
was spare when the wait ended, and if the conversation is bound at the drop, another party has bound it in
between (`run_drops`).  This does happen: a worker that waits for a slot while another one starts the same
flow in the last of them drops a packet of a flow in the table (`drops_overtaken`).
-/

namespace FlowTracker

open EStateM EngineM

/-- Only a queue without a bottom flow has none to give. -/
theorem QueueM.bottom_of_dequeue_none {m n : Nat} {q : Fin n} {queues queues' : QueueStore m n}
    (h : (QueueM.dequeue q).run queues = .ok none queues') : (queues.queue q).bottom = none := by
  obtain ⟨queue, queues₁, hqueue, hrun⟩ := run_bind_eq_ok h
  cases hqueue
  cases hbottom : (queues.queue q).bottom with
  | none => rfl
  | some flow =>
    simp only [hbottom] at hrun
    obtain ⟨cell, queues₂, -, hrun⟩ := run_bind_eq_ok hrun
    cases habove : cell.towardTop with
    | none =>
      rw [habove] at hrun
      obtain ⟨⟨⟩, queues₃, -, hrun⟩ := run_bind_eq_ok hrun
      obtain ⟨⟨⟩, queues₄, -, hrun⟩ := run_bind_eq_ok hrun
      obtain ⟨⟨⟩, queues₅, -, hrun⟩ := run_bind_eq_ok hrun
      cases hrun
    | some above =>
      rw [habove] at hrun
      obtain ⟨⟨⟩, queues₃, -, hrun⟩ := run_bind_eq_ok hrun
      obtain ⟨⟨⟩, queues₄, -, hrun⟩ := run_bind_eq_ok hrun
      obtain ⟨⟨⟩, queues₅, -, hrun⟩ := run_bind_eq_ok hrun
      obtain ⟨⟨⟩, queues₆, -, hrun⟩ := run_bind_eq_ok hrun
      cases hrun

/-! ### One step of a party -/

namespace Stage

open Engine Worker

/-- The arrival that found neither its conversation nor, so far, a spare slot. -/
def starving : Stage → Option Arrival
  | needing arrival | waiting arrival | dropping arrival => some arrival
  | _ => none

variable {inv : Engine → Prop} {worker : Worker} {stage next : Stage} {engine engine' : Engine}
  {arrival : Arrival} {flow : FlowId}

theorem keeps_unlock (h : Steady inv) : Keeps (unlock flow) inv fun _ => True :=
  Keeps.modify fun engine hinv => h.same engine _ hinv (fun _ => rfl) rfl

/-- A step keeps what is steady, unless it binds a conversation or drops a packet; and only a party that
has just asked the table begins to starve. -/
theorem keeps_advance (h : Steady inv) (worker : Worker) (stage : Stage)
    (hbinding : ∀ arrival flow, stage = binding arrival flow → ∀ engine, inv engine →
      inv (engine.withTable (engine.table.insert arrival.key flow)))
    (hdropping : ∀ arrival, stage ≠ dropping arrival) :
    Keeps (stage.advance worker) inv fun next =>
      next.starving = none ∨ next.starving = stage.starving
        ∨ ∃ arrival, stage = seeking arrival ∧ next = needing arrival := by
  cases stage with
  | idle => exact Keeps.pure (Or.inl rfl)
  | seeking arrival =>
    have hfind : Keeps (find arrival) inv fun _ => True := Keeps.get.bind fun _ _ => Keeps.pure trivial
    refine hfind.bind fun flow _ => ?_
    cases flow with
    | some flow => exact Keeps.pure (Or.inl rfl)
    | none => exact Keeps.pure (Or.inr (Or.inr ⟨arrival, rfl, rfl⟩))
  | found arrival flow => exact h.keeps_lock.then_pure (Or.inl rfl)
  | holding arrival flow =>
    refine (Keeps.slot flow).bind fun slot _ => ?_
    cases slot.record with
    | none => exact Keeps.pure (Or.inl rfl)
    | some record =>
      simp only
      split
      · exact Keeps.pure (Or.inl rfl)
      · refine (h.keeps_account arrival record).bind fun states _ => Keeps.pure (Or.inl ?_)
        split <;> rfl
  | moving flow before after => exact (h.keeps_onQueues _).then_pure (Or.inl rfl)
  | placing flow before after =>
    exact (h.keeps_onQueues _).bind fun _ _ => (h.keeps_report _).then_pure (Or.inl rfl)
  | leaving flow => exact (keeps_unlock h).then_pure (Or.inl rfl)
  | missing arrival flow => exact (keeps_unlock h).then_pure (Or.inl rfl)
  | needing arrival =>
    refine h.keeps_takeSpare.bind fun flow _ => ?_
    cases flow with
    | some flow => exact Keeps.pure (Or.inl rfl)
    | none => exact Keeps.pure (Or.inr (Or.inl rfl))
  | waiting arrival =>
    refine (h.keeps_onQueues _).bind fun flow _ => ?_
    cases flow with
    | some flow => exact Keeps.pure (Or.inl rfl)
    | none => exact Keeps.pure (Or.inr (Or.inl rfl))
  | dropping arrival => exact absurd rfl (hdropping arrival)
  | taken arrival flow => exact h.keeps_lock.then_pure (Or.inl rfl)
  | binding arrival flow =>
    have hbind : Keeps (Engine.bind arrival.key flow) inv fun _ => True := by
      refine Keeps.get.bind fun engine _ => ?_
      split
      · exact Keeps.pure trivial
      · exact (Keeps.modify (hbinding arrival flow rfl)).then_pure trivial
    refine hbind.bind fun bound _ => ?_
    split
    · exact Keeps.pure (Or.inl rfl)
    · exact Keeps.pure (Or.inl rfl)
  | storing arrival flow =>
    exact (Keeps.check _).bind fun record _ =>
      (h.keeps_setRecord (some record)).then_pure (Or.inl rfl)
  | publishing flow record => exact (h.keeps_onQueues _).then_pure (Or.inl rfl)
  | created flow => exact (keeps_unlock h).then_pure (Or.inl rfl)
  | counting flow =>
    refine (Keeps.modify ?_).bind fun _ _ => (h.keeps_report _).then_pure (Or.inl rfl)
    exact fun engine hinv => h.same engine _ hinv (fun _ => rfl) rfl
  | refused arrival flow => exact (keeps_unlock h).then_pure (Or.inl rfl)
  | returning arrival flow => exact (h.keeps_onQueues _).then_pure (Or.inl rfl)
  | opening tour =>
    obtain ⟨manager, reason, clock, states, visits, harvest⟩ := tour
    cases states with
    | nil => exact Keeps.pure (Or.inl rfl)
    | cons state states =>
      exact (h.keeps_onQueues _).bind fun queue _ => Keeps.pure (Or.inl rfl)
  | visiting tour =>
    obtain ⟨manager, reason, clock, states, visits, harvest⟩ := tour
    rcases states with _ | ⟨state, states⟩
    · exact Keeps.pure (Or.inl rfl)
    rcases visits with _ | visits
    · exact Keeps.pure (Or.inl rfl)
    refine (h.keeps_inspectBottom _ _ _ _).bind fun visit _ => ?_
    cases visit <;> exact Keeps.pure (Or.inl rfl)
  | aside tour flow => exact (h.keeps_onQueues _).then_pure (Or.inl rfl)
  | unlocking tour flow => exact (keeps_unlock h).then_pure (Or.inl rfl)
  | releasing tour flows =>
    cases flows with
    | nil => exact (h.keeps_report _).then_pure (Or.inl rfl)
    | cons flow rest => exact (h.keeps_release tour.manager flow).then_pure (Or.inl rfl)

/-- A party that is about to drop a packet drops it and is done. -/
theorem advance_dropping
    (h : ((dropping arrival).advance worker).run engine = .ok next engine') :
    next = idle ∧ engine'.table = engine.table
      ∧ engine'.totals.tableFullDrops = engine.totals.tableFullDrops + 1 := by
  cases h
  exact ⟨rfl, rfl, rfl⟩

theorem drops_of_advance (h : (stage.advance worker).run engine = .ok next engine')
    (hstage : ∀ arrival, stage ≠ dropping arrival) :
    engine'.totals.tableFullDrops = engine.totals.tableFullDrops :=
  (keeps_advance (.drops _) worker stage (fun _ _ _ _ hcount => hcount) hstage
    engine next engine' rfl h).2

theorem unbound_of_advance (h : (stage.advance worker).run engine = .ok next engine')
    {key : FlowKey} (hnone : engine.table.lookup key = none)
    (hother : ∀ arrival flow, stage = binding arrival flow → arrival.key ≠ key) :
    engine'.table.lookup key = none := by
  by_cases hdropping : ∃ arrival, stage = dropping arrival
  · obtain ⟨arrival, rfl⟩ := hdropping
    rw [(advance_dropping h).2.1]
    exact hnone
  · refine (keeps_advance (.unbound key) worker stage ?_ (fun arrival heq => hdropping ⟨arrival, heq⟩)
      engine next engine' hnone h).2
    intro arrival flow hstage engine hnone
    show (engine.table.insert arrival.key flow).lookup key = none
    rw [FlowTable.lookup_insert, if_neg fun heq => hother arrival flow hstage heq.symm]
    exact hnone

/-- Who starves has starved before or has just asked the table. -/
theorem starving_of_advance (h : (stage.advance worker).run engine = .ok next engine')
    (hnext : next.starving = some arrival) :
    stage.starving = some arrival
      ∨ stage = seeking arrival ∧ engine.table.lookup arrival.key = none := by
  by_cases hdropping : ∃ arrival, stage = dropping arrival
  · obtain ⟨arrival', rfl⟩ := hdropping
    rw [(advance_dropping h).1] at hnext
    cases hnext
  · rcases (keeps_advance (.drops _) worker stage (fun _ _ _ _ hcount => hcount)
      (fun arrival heq => hdropping ⟨arrival, heq⟩) engine next engine' rfl h).1 with
      hnone | hsame | ⟨arrival', rfl, rfl⟩
    · rw [hnone] at hnext
      cases hnext
    · left
      rw [← hsame, hnext]
    · right
      obtain rfl : arrival = arrival' := (Option.some.inj hnext).symm
      refine ⟨rfl, ?_⟩
      cases hlookup : engine.table.lookup arrival.key with
      | none => rfl
      | some flow =>
        rw [run_seeking, hlookup] at h
        cases h

/-- Who is about to drop a packet has waited, and no slot was spare when the wait ended. -/
theorem waiting_of_advance
    (h : (stage.advance worker).run engine = .ok (dropping arrival) engine') :
    stage = waiting arrival ∧ (engine.queues.queue spareQueue).bottom = none := by
  rcases starving_of_advance h rfl with hstarving | ⟨rfl, hnone⟩
  · cases stage <;> simp only [starving, Option.some.injEq, reduceCtorEq] at hstarving <;>
      subst hstarving
    case needing =>
      obtain ⟨flow, engine₁, -, hrun⟩ := run_bind_eq_ok h
      cases flow <;> cases hrun
    case waiting =>
      obtain ⟨flow, engine₁, hawait, hrun⟩ := run_bind_eq_ok h
      obtain ⟨queues, hdequeue, rfl⟩ := run_onQueues_eq_ok hawait
      cases flow with
      | some flow => cases hrun
      | none => exact ⟨rfl, QueueM.bottom_of_dequeue_none hdequeue⟩
    case dropping => cases (advance_dropping h).1
  · rw [run_seeking, hnone] at h
    cases h

end Stage

/-! ### One move -/

namespace System

open Engine

variable {n : Nat} {system next : System n} {move : Move n} {party : Fin n} {arrival : Arrival}

/-- A party makes a step, or nobody binds a conversation, counts a drop or begins to starve. -/
theorem step_cases (h : system.step move = .ok next) :
    (∃ party stage engine, move = .work party
      ∧ ((system.stage party).advance ⟨party⟩).run system.engine = .ok stage engine
      ∧ next = system.become party engine stage)
    ∨ (∀ key, system.engine.table.lookup key = none → next.engine.table.lookup key = none)
      ∧ next.engine.totals.tableFullDrops = system.engine.totals.tableFullDrops
      ∧ ∀ party, next.stage party = system.stage party ∨ (next.stage party).starving = none := by
  cases move with
  | arrive party packet =>
    right
    by_cases hidle : system.stage party = .idle
    · simp only [step, hidle] at h
      have hkeeps : ∀ {inv answer engine}, Steady inv → inv system.engine →
          (Worker.decode ⟨party⟩ packet).run system.engine = .ok answer engine → inv engine :=
        fun hsteady hinv hrun => (hsteady.keeps_decode _ _ _ _ _ hinv hrun).2
      cases hdecode : (Worker.decode ⟨party⟩ packet).run system.engine with
      | error fault engine =>
        rw [hdecode] at h
        cases h
      | ok answer engine =>
        rw [hdecode] at h
        have hunbound := fun key hnone => hkeeps (.unbound key) hnone hdecode
        have hdrops := hkeeps (.drops system.engine.totals.tableFullDrops) rfl hdecode
        cases answer with
        | none =>
          cases h
          exact ⟨hunbound, hdrops, fun _ => Or.inl rfl⟩
        | some arrival =>
          cases h
          refine ⟨hunbound, hdrops, fun party' => ?_⟩
          by_cases hparty : party' = party
          · subst hparty
            right
            show ((system.become party' engine (.seeking arrival)).stage party').starving = none
            rw [stage_become]
            rfl
          · left
            exact stage_become_of_ne system engine (.seeking arrival) hparty
    · rw [(step_of_ne_idle hidle).1] at h
      cases h
      exact ⟨fun _ hnone => hnone, rfl, fun _ => Or.inl rfl⟩
  | sweep party manager reason =>
    right
    by_cases hidle : system.stage party = .idle
    · simp only [step, hidle] at h
      cases h
      refine ⟨fun _ hnone => hnone, rfl, fun party' => ?_⟩
      by_cases hparty : party' = party
      · subst hparty
        right
        rw [stage_become]
        rfl
      · left
        exact stage_become_of_ne _ _ _ hparty
    · rw [(step_of_ne_idle hidle).2] at h
      cases h
      exact ⟨fun _ hnone => hnone, rfl, fun _ => Or.inl rfl⟩
  | work party =>
    cases hwaits : system.waits party with
    | true =>
      simp only [step, hwaits, if_true] at h
      cases h
      exact Or.inr ⟨fun _ hnone => hnone, rfl, fun _ => Or.inl rfl⟩
    | false =>
      obtain ⟨stage, engine, hrun, rfl⟩ := advance_of_step hwaits h
      exact Or.inl ⟨party, stage, engine, rfl, hrun, rfl⟩

theorem drops_of_step (h : system.step move = .ok next)
    (hdrops : next.engine.totals.tableFullDrops ≠ system.engine.totals.tableFullDrops) :
    ∃ party arrival, move = .work party ∧ system.stage party = .dropping arrival
      ∧ next.engine.totals.tableFullDrops = system.engine.totals.tableFullDrops + 1 := by
  rcases step_cases h with ⟨party, stage, engine, rfl, hrun, rfl⟩ | ⟨-, hsame, -⟩
  · by_cases hdropping : ∃ arrival, system.stage party = .dropping arrival
    · obtain ⟨arrival, hstage⟩ := hdropping
      rw [hstage] at hrun
      exact ⟨party, arrival, rfl, hstage, (Stage.advance_dropping hrun).2.2⟩
    · exact absurd (Stage.drops_of_advance hrun fun arrival heq => hdropping ⟨arrival, heq⟩) hdrops
  · exact absurd hsame hdrops

/-- A conversation becomes bound when some party binds it. -/
theorem unbound_of_step (h : system.step move = .ok next) {key : FlowKey}
    (hnone : system.engine.table.lookup key = none) :
    next.engine.table.lookup key = none ∨ ∃ other arrival flow, move = .work other
      ∧ system.stage other = .binding arrival flow ∧ arrival.key = key := by
  rcases step_cases h with ⟨party, stage, engine, rfl, hrun, rfl⟩ | ⟨hunbound, -, -⟩
  · by_cases hbinding : ∃ arrival flow, system.stage party = .binding arrival flow
        ∧ arrival.key = key
    · obtain ⟨arrival, flow, hstage, hkey⟩ := hbinding
      exact Or.inr ⟨party, arrival, flow, rfl, hstage, hkey⟩
    · left
      exact Stage.unbound_of_advance hrun hnone
        fun arrival flow hstage hkey => hbinding ⟨arrival, flow, hstage, hkey⟩
  · exact Or.inl (hunbound key hnone)

theorem starving_of_step (h : system.step move = .ok next)
    (hnext : (next.stage party).starving = some arrival) :
    (system.stage party).starving = some arrival
      ∨ move = .work party ∧ system.stage party = .seeking arrival
        ∧ system.engine.table.lookup arrival.key = none := by
  rcases step_cases h with ⟨mover, stage, engine, rfl, hrun, rfl⟩ | ⟨-, -, hstages⟩
  · by_cases hparty : party = mover
    · subst hparty
      rw [stage_become] at hnext
      rcases Stage.starving_of_advance hrun hnext with hstarving | ⟨hstage, hnone⟩
      · exact Or.inl hstarving
      · exact Or.inr ⟨rfl, hstage, hnone⟩
    · rw [stage_become_of_ne _ _ _ hparty] at hnext
      exact Or.inl hnext
  · rcases hstages party with hsame | hnone
    · rw [hsame] at hnext
      exact Or.inl hnext
    · rw [hnone] at hnext
      cases hnext

theorem waiting_of_step (h : system.step move = .ok next)
    (hnext : next.stage party = .dropping arrival) :
    system.stage party = .dropping arrival
      ∨ move = .work party ∧ system.stage party = .waiting arrival
        ∧ (system.engine.queues.queue spareQueue).bottom = none := by
  rcases step_cases h with ⟨mover, stage, engine, rfl, hrun, rfl⟩ | ⟨-, -, hstages⟩
  · by_cases hparty : party = mover
    · subst hparty
      rw [stage_become] at hnext
      subst hnext
      exact Or.inr ⟨rfl, Stage.waiting_of_advance hrun⟩
    · rw [stage_become_of_ne _ _ _ hparty] at hnext
      exact Or.inl hnext
  · rcases hstages party with hsame | hnone
    · rw [hsame] at hnext
      exact Or.inl hnext
    · rw [hnext] at hnone
      cases hnone

/-! ### All moves -/

variable {engine : Engine} {moves earlier : List (Move n)}

theorem run_concat_eq_ok {first : System n} (h : first.run (moves ++ [move]) = .ok next) :
    ∃ system, first.run moves = .ok system ∧ system.step move = .ok next := by
  unfold run at h ⊢
  rw [List.foldlM_append] at h
  cases hrun : moves.foldlM step first with
  | error fault =>
    rw [hrun] at h
    cases h
  | ok system =>
    rw [hrun] at h
    refine ⟨system, rfl, ?_⟩
    exact (bind_pure (system.step move)).symm.trans h

/-- In the course of the moves, after those of `earlier`, the `move` finds a system as `seen` says. -/
def Met (engine : Engine) (moves earlier : List (Move n)) (move : Move n)
    (seen : System n → Prop) : Prop :=
  earlier ++ [move] <+: moves ∧ ∃ system, (start n engine).run earlier = .ok system ∧ seen system

theorem Met.more {seen : System n → Prop} (h : Met engine moves earlier move seen)
    (last : Move n) : Met engine (moves ++ [last]) earlier move seen :=
  ⟨h.1.trans (List.prefix_append moves [last]), h.2⟩

/-- What has happened to a party that starves since it asked the table.  The moves before the question
are `earlier`. -/
structure Starves (engine : Engine) (moves : List (Move n)) (system : System n) (party : Fin n)
    (arrival : Arrival) (earlier : List (Move n)) : Prop where
  sought : Met engine moves earlier (.work party) fun sought =>
    sought.stage party = .seeking arrival ∧ sought.engine.table.lookup arrival.key = none
  waited : system.stage party = .dropping arrival → ∃ later, earlier ++ [.work party] <+: later
    ∧ Met engine moves later (.work party) fun waited =>
      waited.stage party = .waiting arrival
        ∧ (waited.engine.queues.queue spareQueue).bottom = none
  overtaken : system.engine.table.lookup arrival.key ≠ none → ∃ later other,
    earlier ++ [.work party] <+: later ∧ other ≠ party
      ∧ Met engine moves later (.work other) fun before => ∃ rival flow,
        before.stage other = .binding rival flow ∧ rival.key = arrival.key
          ∧ before.engine.table.lookup arrival.key = none

theorem Starves.begin (hrun : (start n engine).run moves = .ok system)
    (hstep : system.step (.work party) = .ok next) (hstage : system.stage party = .seeking arrival)
    (hnone : system.engine.table.lookup arrival.key = none) :
    Starves engine (moves ++ [.work party]) next party arrival moves := by
  refine ⟨⟨List.prefix_rfl, system, hrun, hstage, hnone⟩, ?_, ?_⟩
  · intro hdropping
    rcases waiting_of_step hstep hdropping with hsame | ⟨-, hwaiting, -⟩
    · rw [hstage] at hsame
      cases hsame
    · rw [hstage] at hwaiting
      cases hwaiting
  · intro hbound
    rcases unbound_of_step hstep hnone with hunbound | ⟨other, rival, flow, hmove, hbinding, -⟩
    · exact absurd hunbound hbound
    · cases hmove
      rw [hstage] at hbinding
      cases hbinding

theorem Starves.step (h : Starves engine moves system party arrival earlier)
    (hrun : (start n engine).run moves = .ok system) (hstep : system.step move = .ok next)
    (hstarving : (system.stage party).starving = some arrival) :
    Starves engine (moves ++ [move]) next party arrival earlier := by
  refine ⟨h.sought.more move, ?_, ?_⟩
  · intro hdropping
    rcases waiting_of_step hstep hdropping with hsame | ⟨rfl, hwaiting, hnone⟩
    · obtain ⟨later, hlater, hmet⟩ := h.waited hsame
      exact ⟨later, hlater, hmet.more move⟩
    · exact ⟨moves, h.sought.1, List.prefix_rfl, system, hrun, hwaiting, hnone⟩
  · intro hbound
    by_cases hnone : system.engine.table.lookup arrival.key = none
    · rcases unbound_of_step hstep hnone with hunbound | ⟨other, rival, flow, rfl, hbinding, hkey⟩
      · exact absurd hunbound hbound
      · refine ⟨moves, other, h.sought.1, ?_, List.prefix_rfl, system, hrun, rival, flow, hbinding,
          hkey, hnone⟩
        rintro rfl
        rw [hbinding] at hstarving
        cases hstarving
    · obtain ⟨later, other, hlater, hne, hmet⟩ := h.overtaken hnone
      exact ⟨later, other, hlater, hne, hmet.more move⟩

theorem run_starves (hrun : (start n engine).run moves = .ok system)
    (hstarving : (system.stage party).starving = some arrival) :
    ∃ earlier, Starves engine moves system party arrival earlier := by
  induction moves using List.reverseRecOn generalizing system with
  | nil =>
    cases hrun
    cases hstarving
  | append_singleton moves move ih =>
    obtain ⟨before, hbefore, hstep⟩ := run_concat_eq_ok hrun
    rcases starving_of_step hstep hstarving with hstarved | ⟨rfl, hseeking, hnone⟩
    · obtain ⟨earlier, hstarves⟩ := ih hbefore hstarved
      exact ⟨earlier, hstarves.step hbefore hstep hstarved⟩
    · exact ⟨moves, .begin hbefore hstep hseeking hnone⟩

/-- Whatever the parties do, who drops a packet has starved for it: the packet's conversation was not
bound when the party asked the table, no slot was spare when its wait ended, and where the conversation
is bound at the drop, another party has bound it after that question. -/
theorem run_drops (hrun : (start n engine).run moves = .ok system)
    (hstep : system.step move = .ok next)
    (hdrops : next.engine.totals.tableFullDrops ≠ system.engine.totals.tableFullDrops) :
    ∃ party arrival earlier, move = .work party ∧ system.stage party = .dropping arrival
      ∧ next.engine.totals.tableFullDrops = system.engine.totals.tableFullDrops + 1
      ∧ Starves engine moves system party arrival earlier := by
  obtain ⟨party, arrival, rfl, hstage, hcount⟩ := drops_of_step hstep hdrops
  have hstarving : (system.stage party).starving = some arrival := by
    rw [hstage]
    rfl
  obtain ⟨earlier, hstarves⟩ := run_starves hrun hstarving
  exact ⟨party, arrival, earlier, rfl, hstage, hcount, hstarves⟩

/-! ### A drop of a flow in the table -/

/-- A party that looks for a slot where none is spare waits in vain and drops its packet, whatever the
table says. -/
theorem run_starving {lineup : Lineup 1 4} (h : system.engine.queues.Represents lineup)
    (hnil : lineup.flows spareQueue = []) (hstage : system.stage party = .needing arrival) :
    ∃ reached next, system.run [.work party, .work party] = .ok reached
      ∧ reached.engine.table = system.engine.table ∧ reached.stage party = .dropping arrival
      ∧ reached.step (.work party) = .ok next
      ∧ next.engine.totals.tableFullDrops = reached.engine.totals.tableFullDrops + 1 := by
  let asked : Engine := { system.engine with wakeRequested := true }
  have hneed : ((Stage.needing arrival).advance ⟨party⟩).run system.engine
      = .ok (.waiting arrival) asked := by
    have htake := run_onQueues system.engine (h.dequeue_nil hnil)
    rw [withQueues_self] at htake
    simp only [Stage.advance, run_bind, Worker.takeSpare, htake, Worker.requestSweep, run_modify,
      run_pure]
    rfl
  have hwait : ((Stage.waiting arrival).advance ⟨party⟩).run asked
      = .ok (.dropping arrival) asked := by
    have hawait := run_onQueues asked (h.dequeue_nil hnil)
    simp only [Stage.advance, run_bind, Worker.awaitSpare, hawait, run_pure]
    rfl
  let waiting := system.become party asked (.waiting arrival)
  let reached := waiting.become party asked (.dropping arrival)
  have hreached : reached.stage party = .dropping arrival := stage_become waiting party asked _
  have hwaiting : waiting.stage party = .waiting arrival := stage_become system party asked _
  refine ⟨reached, _, ?_, rfl, hreached, step_of_stage hreached rfl rfl, rfl⟩
  exact run_two (step_of_stage hstage rfl hneed) (step_of_stage hwaiting rfl hwait)

/-- `late` asks the table about a packet; then `first` handles a packet to its end; and `late` looks for
a slot and waits for one. -/
def overtaking (first late : Fin n) (packet packet' : Packet) (times : Nat) : List (Move n) :=
  [.arrive late packet', .work late]
    ++ (.arrive first packet :: List.replicate times (.work first)) ++ [.work late, .work late]

/-- Where one slot is left, the worker that asks first and looks for a slot last drops a packet of a flow
in the table. -/
theorem drops_overtaken {lineup : Lineup 1 4} {phase : FlowId → Phase} {flow : FlowId}
    (h : engine.AtRest lineup phase) (hspare : lineup.flows spareQueue = [flow])
    {first late : Fin n} (hne : first ≠ late) {packet packet' : Packet}
    {headers headers' : Headers} (hfits : packet.time.Fits) (hfits' : packet'.time.Fits)
    (hheaders : Frame.headers packet.frame = .ok headers)
    (hheaders' : Frame.headers packet'.frame = .ok headers')
    (hkey : headers.tuple.key = headers'.tuple.key)
    (hunbound : engine.table.lookup headers'.tuple.key = none) :
    ∃ times system next, (start n engine).run (overtaking first late packet packet' times)
        = .ok system
      ∧ system.stage late = .dropping ⟨headers', packet'.time, packet'.size⟩
      ∧ system.engine.table.lookup headers'.tuple.key = some flow
      ∧ system.step (.work late) = .ok next
      ∧ next.engine.totals.tableFullDrops = system.engine.totals.tableFullDrops + 1 := by
  obtain ⟨clock, hclock, -⟩ := PacketClock.advance_of_fits engine.clock hfits'
  have hnone : (start n engine).engine.table.lookup headers'.tuple.key = none := hunbound
  obtain ⟨asked, hasking, hengine, hlate, hothers⟩ :=
    run_asking (start n engine) rfl hclock hheaders'
  rw [hnone] at hlate
  -- the other worker takes the last slot
  obtain ⟨clock', hclock', -⟩ := PacketClock.advance_of_fits asked.engine.clock hfits
  have hrest : (AtRest.clocked asked.engine packet clock').AtRest lineup phase := by
    rw [hengine]
    exact h.congr rfl rfl
  have hunbound' : (AtRest.clocked asked.engine packet clock').table.lookup
      (Arrival.key ⟨headers, packet.time, packet.size⟩) = none := by
    rw [hengine, Arrival.key, hkey]
    exact hunbound
  obtain ⟨created, lineup', htrack, -, hcreated, -⟩ :=
    hrest.track_new ⟨first⟩ hunbound' hfits hspare
  have hprocess : (Worker.process ⟨first⟩ packet).run asked.engine = .ok () created :=
    (AtRest.process_decodable asked.engine _ packet hclock' hheaders).trans htrack
  obtain ⟨times, overtaken, hfirst, rfl, hstages⟩ := run_process (hothers first hne) hprocess
  have hnil : lineup'.flows spareQueue = [] := by
    rw [List.eq_nil_iff_forall_not_mem]
    intro flow' hmem
    have hspare' := Phase.queue_eq_spare_iff.1 ((hcreated.agrees.mem_iff ..).1 hmem)
    by_cases hflow : flow' = flow
    · rw [hflow, Function.update_self] at hspare'
      cases hspare'
    · rw [Function.update_of_ne hflow] at hspare'
      have hmem' : flow' ∈ lineup.flows spareQueue :=
        (h.agrees.mem_iff ..).2 (Phase.queue_eq_spare_iff.2 hspare')
      rw [hspare, List.mem_singleton] at hmem'
      exact hflow hmem'
  rw [← hstages] at hlate
  obtain ⟨system, next, hstarving, htable, hstage, hstep, hcount⟩ :=
    run_starving hcreated.agrees.represents hnil hlate
  refine ⟨times, system, next, ?_, hstage, ?_, hstep, hcount⟩
  · rw [overtaking, run_append ((run_append hasking _).trans hfirst)]
    exact hstarving
  · have hrecord : (Phase.tracked (.first headers packet.time packet.size)).record
        = some (.first headers packet.time packet.size) := rfl
    rw [htable, hcreated.agrees.lookup_iff, Function.update_self, Phase.key_of_record hrecord,
      FlowRecord.key_first, hkey]

/-- Two workers over a single slot. -/
theorem drops_overtaken_fresh : ∃ engine times system next arrival, fresh 1 = .ok engine
    ∧ (start 2 engine).run (overtaking 0 1 (.bareAt 1) (.bareAt 2) times) = .ok system
    ∧ system.stage 1 = .dropping arrival
    ∧ system.engine.table.lookup arrival.key = some 0
    ∧ system.step (.work 1) = .ok next
    ∧ next.engine.totals.tableFullDrops ≠ system.engine.totals.tableFullDrops := by
  have hlimit : 1 < QueueStore.handleLimit := by decide
  obtain ⟨engine, lineup, hfresh, hrest, -⟩ := fresh_atRest hlimit
  obtain ⟨headers, hheaders⟩ : ∃ headers, Frame.headers (Packet.bareAt 1).frame = .ok headers :=
    ⟨_, rfl⟩
  have hspare : lineup.flows spareQueue = [0] := List.perm_singleton.1 hrest.spare_perm
  have hunbound := hrest.lookup_fresh headers.tuple.key
  have hne : (0 : Fin 2) ≠ 1 := by decide
  have hfits : (Packet.bareAt 1).time.Fits := by decide
  have hfits' : (Packet.bareAt 2).time.Fits := by decide
  obtain ⟨times, system, next, hrun, hstage, hbound, hstep, hcount⟩ :=
    drops_overtaken hrest hspare hne hfits hfits' hheaders hheaders rfl hunbound
  refine ⟨engine, times, system, next, _, hfresh, hrun, hstage, hbound, hstep, ?_⟩
  rw [hcount]
  simp

/-- What a worker drops may be a packet of a flow in the table. -/
theorem drops_of_known : ¬ ∀ (n capacity : Nat) (engine : Engine) (moves : List (Move n))
    (system next : System n) (party : Fin n) (arrival : Arrival), 1 ≤ capacity →
    fresh capacity = .ok engine → (start n engine).run moves = .ok system →
    system.stage party = .dropping arrival → system.step (.work party) = .ok next →
    next.engine.totals.tableFullDrops ≠ system.engine.totals.tableFullDrops →
    system.engine.table.lookup arrival.key = none := by
  intro hunknown
  obtain ⟨engine, times, system, next, arrival, hfresh, hrun, hstage, hbound, hstep, hdrops⟩ :=
    drops_overtaken_fresh
  have hnone := hunknown 2 1 engine _ system next 1 arrival (Nat.le_refl 1) hfresh hrun hstage hstep
    hdrops
  rw [hbound] at hnone
  cases hnone

/-- The question, the wait and the other party of a drop of a known flow. -/
theorem run_drops_of_known : ∃ engine times system next, fresh 1 = .ok engine
    ∧ (start 2 engine).run (overtaking 0 1 (.bareAt 1) (.bareAt 2) times) = .ok system
    ∧ system.step (.work 1) = .ok next
    ∧ next.engine.totals.tableFullDrops ≠ system.engine.totals.tableFullDrops
    ∧ ∃ party arrival earlier, Move.work 1 = .work party
      ∧ system.stage party = .dropping arrival
      ∧ next.engine.totals.tableFullDrops = system.engine.totals.tableFullDrops + 1
      ∧ Starves engine (overtaking 0 1 (.bareAt 1) (.bareAt 2) times) system party arrival earlier := by
  obtain ⟨engine, times, system, next, arrival, hfresh, hrun, -, -, hstep, hdrops⟩ :=
    drops_overtaken_fresh
  exact ⟨engine, times, system, next, hfresh, hrun, hstep, hdrops, run_drops hrun hstep hdrops⟩

end System

end FlowTracker
