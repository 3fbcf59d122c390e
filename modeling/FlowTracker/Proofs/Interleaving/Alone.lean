import FlowTracker.Proofs.Interleaving.System
import Mathlib.Logic.Relation

/-!
# Lone parties

The steps of a party are the ones that `Worker.track` and `Manager.sweep` are made of: whenever one of
these comes to its end, a party that nobody disturbs goes step by step to the same engine and is idle
then.  Programs are taken apart at their binds, and each part is a step.
-/

namespace FlowTracker

namespace Engine

variable {engine engine' : Engine} {flow : FlowId}

/-- A flow that changes its queue leaves the old one first. -/
theorem run_requeue_eq_ok {source target : QueueIndex}
    (h : (onQueues (QueueM.requeue flow (some source) target)).run engine = .ok () engine') :
    ∃ engine₁, (onQueues (QueueM.detach source flow)).run engine = .ok () engine₁
      ∧ (onQueues (QueueM.append target flow)).run engine₁ = .ok () engine' := by
  obtain ⟨queues, hrun, rfl⟩ := run_onQueues_eq_ok h
  obtain ⟨src, queues₁, hsrc, hrun⟩ := run_bind_eq_ok hrun
  obtain ⟨dst, queues₂, hdst, hrun⟩ := run_bind_eq_ok hrun
  obtain ⟨⟨⟩, queues₃, hrequire, hrun⟩ := run_bind_eq_ok hrun
  obtain ⟨⟨⟩, queues₄, hdetach, happend⟩ := run_bind_eq_ok hrun
  -- nothing changes before the flow leaves its queue
  cases hsrc
  cases hdst
  have hsame : queues₃ = engine.queues := by
    rw [QueueM.run_require] at hrequire
    split at hrequire
    · exact (EStateM.Result.ok.inj hrequire).2.symm
    · cases hrequire
  subst hsame
  exact ⟨_, run_onQueues engine hdetach, run_onQueues (engine.withQueues queues₄) happend⟩

end Engine

namespace Stage

open EStateM Engine

/-- Nobody disturbs the party on its way from one stage to another. -/
def Alone (worker : Worker) : Stage × Engine → Stage × Engine → Prop :=
  Relation.ReflTransGen fun before after =>
    (before.1.advance worker).run before.2 = .ok after.1 after.2

namespace Alone

variable {worker : Worker} {stage stage' : Stage} {engine engine' engine'' : Engine}
  {last : Stage × Engine}

/-- A first step. -/
theorem step (hstep : (stage.advance worker).run engine = .ok stage' engine')
    (h : Alone worker (stage', engine') last) : Alone worker (stage, engine) last :=
  Relation.ReflTransGen.head hstep h

theorem done : Alone worker (stage, engine) (stage, engine) := Relation.ReflTransGen.refl

theorem trans {first middle : Stage × Engine} (h : Alone worker first middle)
    (h' : Alone worker middle last) : Alone worker first last := Relation.ReflTransGen.trans h h'

end Alone

def ofPass (arrival : Arrival) : Pass → Stage
  | .done => idle
  | .retry _ => seeking arrival
  | .starved => waiting arrival

variable {worker : Worker} {arrival : Arrival} {pass : Pass} {engine engine' : Engine}
  {flow : FlowId}

/-! ### Packets -/

/-- A packet of a flow that the table names. -/
theorem alone_revisit (h : (worker.revisit arrival flow).run engine = .ok pass engine') :
    Alone worker (found arrival flow, engine) (ofPass arrival pass, engine') := by
  obtain ⟨engine₁, engine₂, hlock, hrun, rfl⟩ := run_locked_eq_ok h
  have hfound : ((found arrival flow).advance worker).run engine
      = .ok (holding arrival flow) engine₁ := by
    simp only [advance, run_bind, hlock, run_pure]
  obtain ⟨slot, engine₃, hslot, hrun⟩ := run_bind_eq_ok hrun
  cases hrecord : slot.record with
  | none =>
    simp only [hrecord, run_pure, EStateM.Result.ok.injEq] at hrun
    obtain ⟨rfl, rfl⟩ := hrun
    have hholding : ((holding arrival flow).advance worker).run engine₁
        = .ok (missing arrival flow) engine₃ := by
      simp only [advance, run_bind, hslot, hrecord, run_pure]
    exact .step hfound (.step hholding (.step rfl .done))
  | some record =>
    simp only [hrecord] at hrun
    by_cases hkey : record.key = arrival.key
    · simp only [hkey, ne_eq, not_true, if_false] at hrun
      obtain ⟨⟨before, after⟩, engine₄, haccount, hrun⟩ := run_bind_eq_ok hrun
      by_cases hstate : before = after
      · simp only [hstate, not_true, if_false, run_pure, EStateM.Result.ok.injEq] at hrun
        obtain ⟨rfl, rfl⟩ := hrun
        have hholding : ((holding arrival flow).advance worker).run engine₁
            = .ok (leaving flow) engine₄ := by
          simp only [advance, run_bind, hslot, hrecord, hkey, ne_eq, not_true, if_false, haccount,
            hstate, run_pure]
        exact .step hfound (.step hholding (.step rfl .done))
      · simp only [hstate, not_false_eq_true, if_true] at hrun
        obtain ⟨⟨⟩, engine₅, hrequeue, hrun⟩ := run_bind_eq_ok hrun
        obtain ⟨engine₆, hdetach, happend⟩ := run_requeue_eq_ok hrequeue
        simp only [run_bind, run_report, run_pure, EStateM.Result.ok.injEq] at hrun
        obtain ⟨rfl, rfl⟩ := hrun
        have hholding : ((holding arrival flow).advance worker).run engine₁
            = .ok (moving flow before after) engine₄ := by
          simp only [advance, run_bind, hslot, hrecord, hkey, ne_eq, not_true, if_false, haccount,
            hstate, not_false_eq_true, if_true, run_pure]
        have hmoving : ((moving flow before after).advance worker).run engine₄
            = .ok (placing flow before after) engine₆ := by
          simp only [advance, run_bind, hdetach, run_pure]
        have hplacing : ((placing flow before after).advance worker).run engine₆
            = .ok (leaving flow)
              { engine₅ with log := engine₅.log.push (.stateChanged worker.id flow before after) } := by
          simp only [advance, run_bind, happend, run_report, run_pure]
        exact .step hfound (.step hholding (.step hmoving (.step hplacing (.step rfl .done))))
    · simp only [hkey, ne_eq, not_false_eq_true, if_true, run_pure, EStateM.Result.ok.injEq] at hrun
      obtain ⟨rfl, rfl⟩ := hrun
      have hholding : ((holding arrival flow).advance worker).run engine₁
          = .ok (missing arrival flow) engine₃ := by
        simp only [advance, run_bind, hslot, hrecord, hkey, ne_eq, not_false_eq_true, if_true,
          run_pure]
      exact .step hfound (.step hholding (.step rfl .done))

/-- A slot that was taken gets a record, or is refused. -/
theorem alone_settle {bound : Bool}
    (h : (Worker.settle arrival flow).run engine = .ok bound engine') :
    Alone worker (taken arrival flow, engine)
      (if bound then counting flow else returning arrival flow, engine') := by
  obtain ⟨engine₁, engine₂, hlock, hrun, rfl⟩ := run_locked_eq_ok h
  have htaken : ((taken arrival flow).advance worker).run engine
      = .ok (binding arrival flow) engine₁ := by
    simp only [advance, run_bind, hlock, run_pure]
  obtain ⟨free, engine₃, hbind, hrun⟩ := run_bind_eq_ok hrun
  cases free with
  | false =>
    obtain ⟨rfl, rfl⟩ := EStateM.Result.ok.inj hrun
    have hbinding : ((binding arrival flow).advance worker).run engine₁
        = .ok (refused arrival flow) engine₃ := by
      simp only [advance, EStateM.run_bind, hbind, Bool.false_eq_true, if_false, run_pure]
    exact .step htaken (.step hbinding (.step rfl .done))
  | true =>
    obtain ⟨record, engine₄, hstart, hrun⟩ := run_bind_eq_ok hrun
    obtain ⟨⟨⟩, engine₅, hstore, hrun⟩ := run_bind_eq_ok hrun
    obtain ⟨⟨⟩, engine₆, henqueue, hrun⟩ := run_bind_eq_ok hrun
    obtain ⟨rfl, rfl⟩ := EStateM.Result.ok.inj hrun
    have hbinding : ((binding arrival flow).advance worker).run engine₁
        = .ok (storing arrival flow) engine₃ := by
      simp only [advance, EStateM.run_bind, hbind, if_true, run_pure]
    have hstoring : ((storing arrival flow).advance worker).run engine₃
        = .ok (publishing flow record) engine₅ := by
      simp only [advance, run_bind, hstart, hstore, run_pure]
    have hpublishing : ((publishing flow record).advance worker).run engine₅
        = .ok (created flow) engine₆ := by
      simp only [advance, run_bind, henqueue, run_pure]
    exact .step htaken (.step hbinding (.step hstoring (.step hpublishing (.step rfl .done))))

/-- A packet for which a slot was taken. -/
theorem alone_adopt (h : (worker.adopt arrival flow).run engine = .ok pass engine') :
    Alone worker (taken arrival flow, engine) (ofPass arrival pass, engine') := by
  obtain ⟨bound, engine₁, hsettle, hrun⟩ := run_bind_eq_ok h
  refine (alone_settle hsettle).trans ?_
  cases bound with
  | false =>
    obtain ⟨⟨⟩, engine₂, hback, hrun⟩ := run_bind_eq_ok hrun
    obtain ⟨rfl, rfl⟩ := EStateM.Result.ok.inj hrun
    have hreturning : ((returning arrival flow).advance worker).run engine₁
        = .ok (seeking arrival) engine₂ := by
      simp only [advance, run_bind, hback, run_pure]
    exact .step hreturning .done
  | true =>
    obtain ⟨rfl, rfl⟩ := EStateM.Result.ok.inj hrun
    exact .step rfl .done

/-- One pass over the table. -/
theorem alone_pass (h : (worker.pass arrival).run engine = .ok pass engine') :
    Alone worker (seeking arrival, engine) (ofPass arrival pass, engine') := by
  obtain ⟨named, engine₁, hfind, hrun⟩ := run_bind_eq_ok h
  obtain ⟨hlookup, rfl⟩ := EStateM.Result.ok.inj hfind
  have hseeking := run_seeking worker arrival engine
  rw [hlookup] at hseeking
  cases named with
  | some flow => exact .step hseeking (alone_revisit hrun)
  | none =>
    obtain ⟨spare, engine₁, hspare, hrun⟩ := run_bind_eq_ok hrun
    refine .step hseeking ?_
    cases spare with
    | some flow =>
      have hneeding : ((needing arrival).advance worker).run engine
          = .ok (taken arrival flow) engine₁ := by
        simp only [advance, run_bind, hspare, run_pure]
      exact .step hneeding (alone_adopt hrun)
    | none =>
      obtain ⟨rfl, rfl⟩ := EStateM.Result.ok.inj hrun
      have hneeding : ((needing arrival).advance worker).run engine
          = .ok (waiting arrival) engine₁ := by
        simp only [advance, run_bind, hspare, run_pure]
      exact .step hneeding .done

/-- What follows the wait for a slot. -/
theorem alone_resume (h : (worker.resume arrival).run engine = .ok pass engine') :
    Alone worker (waiting arrival, engine) (ofPass arrival pass, engine') := by
  obtain ⟨spare, engine₁, hspare, hrun⟩ := run_bind_eq_ok h
  cases spare with
  | some flow =>
    have hwaiting : ((waiting arrival).advance worker).run engine
        = .ok (taken arrival flow) engine₁ := by
      simp only [advance, run_bind, hspare, run_pure]
    exact .step hwaiting (alone_adopt hrun)
  | none =>
    obtain ⟨⟨⟩, engine₂, hdrop, hrun⟩ := run_bind_eq_ok hrun
    obtain ⟨rfl, rfl⟩ := EStateM.Result.ok.inj hrun
    have hwaiting : ((waiting arrival).advance worker).run engine
        = .ok (dropping arrival) engine₁ := by
      simp only [advance, run_bind, hspare, run_pure]
    have hdropping : ((dropping arrival).advance worker).run engine₁ = .ok idle engine₂ := by
      simp only [advance, run_bind, hdrop, run_pure]
    exact .step hwaiting (.step hdropping .done)

/-- Nobody starves who has a slot. -/
theorem adopt_ne_starved (h : (worker.adopt arrival flow).run engine = .ok pass engine') :
    pass ≠ .starved := by
  obtain ⟨bound, engine₁, -, hrun⟩ := run_bind_eq_ok h
  cases bound with
  | false =>
    obtain ⟨⟨⟩, engine₂, -, hrun⟩ := run_bind_eq_ok hrun
    cases hrun
    simp
  | true =>
    cases hrun
    simp

/-- The wait for a slot is not repeated. -/
theorem resume_ne_starved (h : (worker.resume arrival).run engine = .ok pass engine') :
    pass ≠ .starved := by
  obtain ⟨spare, engine₁, -, hrun⟩ := run_bind_eq_ok h
  cases spare with
  | some flow => exact adopt_ne_starved hrun
  | none =>
    obtain ⟨⟨⟩, engine₂, -, hrun⟩ := run_bind_eq_ok hrun
    cases hrun
    simp

/-- A worker that tracks an arrival makes the steps of a lone party. -/
theorem run_track (h : (worker.track arrival).run engine = .ok () engine') :
    Alone worker (seeking arrival, engine) (idle, engine') := by
  obtain ⟨pass, engine₁, hpass, hrun⟩ := run_bind_eq_ok h
  refine (alone_pass hpass).trans ?_
  cases pass with
  | done =>
    cases hrun
    exact .done
  | retry flow => cases hrun
  | starved =>
    obtain ⟨pass, engine₂, hresume, hrun⟩ := run_bind_eq_ok hrun
    refine (alone_resume hresume).trans ?_
    cases pass with
    | done =>
      cases hrun
      exact .done
    | retry flow => cases hrun
    | starved => exact absurd rfl (resume_ne_starved hresume)

/-! ### Sweeps -/

/-- A slot that was taken out is put into the spare queue and unlocked. -/
theorem alone_putAside {tour : Tour} (h : (Manager.putAside flow).run engine = .ok () engine') :
    Alone worker (aside tour flow, engine) (visiting tour, engine') := by
  unfold EStateM.run Manager.putAside at h
  cases happend : onQueues (QueueM.append spareQueue flow) engine with
  | error fault engine₁ =>
    rw [happend] at h
    cases h
  | ok _ engine₁ =>
    rw [happend] at h
    obtain ⟨-, rfl⟩ := EStateM.Result.ok.inj h
    have haside : ((aside tour flow).advance worker).run engine
        = .ok (unlocking tour flow) engine₁ := by
      have hrun : (onQueues (QueueM.append spareQueue flow)).run engine = .ok () engine₁ := happend
      simp only [advance, run_bind, hrun, run_pure]
    exact .step haside (.step rfl .done)

/-- The visits of one queue. -/
theorem alone_sweepQueue {state : FlowState} {states : List FlowState} {harvest : Harvest}
    (tour : Tour) (hstates : tour.states = state :: states)
    (h : (tour.manager.sweepQueue tour.reason tour.clock.now state tour.visits tour.harvest).run
      engine = .ok harvest engine') :
    Alone worker (visiting tour, engine)
      (opening { tour with states, visits := 0, harvest }, engine') := by
  have hnext : ∀ tour : Tour, tour.states = state :: states →
      tour.next = { tour with states, visits := 0, harvest := tour.harvest } := by
    intro tour hstates
    rw [Tour.next, hstates]
    rfl
  generalize hvisits : tour.visits = visits at h
  induction visits generalizing tour engine with
  | zero =>
    obtain ⟨rfl, rfl⟩ := EStateM.Result.ok.inj h
    have hvisiting : ((visiting tour).advance worker).run engine
        = .ok (opening tour.next) engine := by
      simp only [advance, hstates, hvisits, run_pure]
    rw [← hnext tour hstates]
    exact .step hvisiting .done
  | succ visits ih =>
    have hafter : ∀ visit, (tour.after visit).visits = visits := by
      intro visit
      rw [Tour.after, hvisits]
      rfl
    obtain ⟨visit, engine₁, hvisit, hrun⟩ := run_bind_eq_ok h
    obtain ⟨seen, engine₂, hinspect, hvisit⟩ := run_bind_eq_ok hvisit
    cases seen with
    | nothing =>
      obtain ⟨rfl, rfl⟩ := EStateM.Result.ok.inj hvisit
      obtain ⟨rfl, rfl⟩ := EStateM.Result.ok.inj hrun
      have hvisiting : ((visiting tour).advance worker).run engine
          = .ok (opening tour.next) engine₂ := by
        simp only [advance, hstates, hvisits, run_bind, hinspect, run_pure]
      rw [← hnext tour hstates]
      exact .step hvisiting .done
    | busy =>
      obtain ⟨rfl, rfl⟩ := EStateM.Result.ok.inj hvisit
      have hvisiting : ((visiting tour).advance worker).run engine
          = .ok (visiting (tour.after .busy)) engine₂ := by
        simp only [advance, hstates, hvisits, run_bind, hinspect, run_pure]
      exact .step hvisiting (ih _ hstates (hafter _) hrun)
    | kept =>
      obtain ⟨rfl, rfl⟩ := EStateM.Result.ok.inj hvisit
      have hvisiting : ((visiting tour).advance worker).run engine
          = .ok (visiting (tour.after .kept)) engine₂ := by
        simp only [advance, hstates, hvisits, run_bind, hinspect, run_pure]
      exact .step hvisiting (ih _ hstates (hafter _) hrun)
    | taken flow record =>
      obtain ⟨⟨⟩, engine₃, haside, hvisit⟩ := run_bind_eq_ok hvisit
      obtain ⟨rfl, rfl⟩ := EStateM.Result.ok.inj hvisit
      have hvisiting : ((visiting tour).advance worker).run engine
          = .ok (aside (tour.after (.taken flow record)) flow) engine₂ := by
        simp only [advance, hstates, hvisits, run_bind, hinspect, run_pure]
      exact .step hvisiting ((alone_putAside haside).trans (ih _ hstates (hafter _) hrun))

/-- The visits of all queues that are not done. -/
theorem alone_sweepQueues {states : List FlowState} {harvest : Harvest} (tour : Tour)
    (hstates : tour.states = states)
    (h : (tour.manager.sweepQueues tour.reason tour.clock.now states tour.harvest).run engine
      = .ok harvest engine') :
    ∃ tour' : Tour, tour'.manager = tour.manager ∧ tour'.reason = tour.reason
      ∧ tour'.clock = tour.clock ∧ tour'.harvest = harvest
      ∧ Alone worker (opening tour, engine) (releasing tour' tour'.released, engine') := by
  induction states generalizing tour engine with
  | nil =>
    obtain ⟨rfl, rfl⟩ := EStateM.Result.ok.inj h
    have hopening : ((opening tour).advance worker).run engine
        = .ok (releasing tour tour.released) engine := by
      simp only [advance, hstates, run_pure]
    exact ⟨tour, rfl, rfl, rfl, rfl, .step hopening .done⟩
  | cons state states ih =>
    obtain ⟨queue, engine₁, hqueue, hrun⟩ := run_bind_eq_ok h
    obtain ⟨harvest', engine₂, hsweep, hrun⟩ := run_bind_eq_ok hrun
    have hopening : ((opening tour).advance worker).run engine
        = .ok (visiting { tour with visits := queue.length }) engine₁ := by
      simp only [advance, hstates, run_bind, hqueue, run_pure]
    have hvisiting : Alone worker (visiting { tour with visits := queue.length }, engine₁)
        (opening { tour with states, visits := 0, harvest := harvest' }, engine₂) :=
      alone_sweepQueue { tour with visits := queue.length } hstates hsweep
    obtain ⟨tour', hmanager, hreason, hclock, hharvest, hrest⟩ :=
      ih { tour with states, visits := 0, harvest := harvest' } rfl hrun
    exact ⟨tour', hmanager, hreason, hclock, hharvest, .step hopening (hvisiting.trans hrest)⟩

/-- The flows that are handed over. -/
theorem alone_releaseAll {tour : Tour} {flows : List ReleasedFlow}
    (h : (tour.manager.releaseAll flows).run engine = .ok () engine') :
    Alone worker (releasing tour flows, engine) (releasing tour [], engine') := by
  induction flows generalizing engine with
  | nil =>
    obtain ⟨-, rfl⟩ := EStateM.Result.ok.inj h
    exact .done
  | cons flow flows ih =>
    obtain ⟨⟨⟩, engine₁, hrelease, hrun⟩ := run_bind_eq_ok h
    have hreleasing : ((releasing tour (flow :: flows)).advance worker).run engine
        = .ok (releasing tour flows) engine₁ := by
      simp only [advance, run_bind, hrelease, run_pure]
    exact .step hreleasing (ih hrun)

/-- A manager that sweeps makes the steps of a lone party. -/
theorem run_sweep {manager : Manager} {reason : ReleaseReason} {result : Sweep}
    (h : (manager.sweep reason).run engine = .ok result engine') :
    Alone worker (opening (.start manager reason engine.clock), engine) (idle, engine') := by
  obtain ⟨before, engine₁, hget, hrun⟩ := run_bind_eq_ok h
  obtain ⟨rfl, rfl⟩ := EStateM.Result.ok.inj hget
  obtain ⟨harvest, engine₂, hsweep, hrun⟩ := run_bind_eq_ok hrun
  obtain ⟨⟨⟩, engine₃, hrelease, hrun⟩ := run_bind_eq_ok hrun
  obtain ⟨⟨⟩, engine₄, hreport, hrun⟩ := run_bind_eq_ok hrun
  obtain ⟨-, rfl⟩ := EStateM.Result.ok.inj hrun
  obtain ⟨tour, rfl, rfl, hclock, rfl, hopening⟩ : ∃ tour : Tour, tour.manager = manager
      ∧ tour.reason = reason ∧ tour.clock = engine.clock ∧ tour.harvest = harvest
      ∧ Alone worker (opening (.start manager reason engine.clock), engine)
        (releasing tour tour.released, engine₂) :=
    alone_sweepQueues (.start manager reason engine.clock) rfl hsweep
  have hreleasing : ((releasing tour []).advance worker).run engine₃ = .ok idle engine₄ := by
    simp only [advance, run_bind, hclock, Tour.released, hreport, run_pure]
  exact hopening.trans ((alone_releaseAll hrelease).trans (.step hreleasing .done))

end Stage

/-! ### In a system -/

namespace System

open EStateM Engine

variable {n : Nat} {system : System n} {party : Fin n} {engine' : Engine} {next : Stage}

/-- A step that comes to its end did not wait. -/
theorem waits_of_advance
    (h : ((system.stage party).advance ⟨party⟩).run system.engine = .ok next engine') :
    system.waits party = false := by
  by_contra hwaits
  rw [Bool.not_eq_false] at hwaits
  obtain ⟨flow, hwants, hheld⟩ := (Option.any_eq_true _ _).1 hwaits
  have hlock := run_lock_held (FlowTable.lt_capacity_of_heldAt hheld) hheld
  cases hstage : system.stage party <;> rw [hstage] at h hwants <;>
    simp only [Stage.wants, Option.some.injEq, reduceCtorEq] at hwants <;> subst hwants <;>
    simp only [Stage.advance, run_bind, hlock, reduceCtorEq] at h

theorem step_work
    (h : ((system.stage party).advance ⟨party⟩).run system.engine = .ok next engine') :
    system.step (.work party) = .ok (system.become party engine' next) := by
  simp only [step, waits_of_advance h, Bool.false_eq_true, if_false, h]

theorem advance_of_step {next : System n} (hwaits : system.waits party = false)
    (h : system.step (.work party) = .ok next) :
    ∃ stage engine, ((system.stage party).advance ⟨party⟩).run system.engine = .ok stage engine
      ∧ next = system.become party engine stage := by
  simp only [step, hwaits, Bool.false_eq_true, if_false] at h
  cases hrun : ((system.stage party).advance ⟨party⟩).run system.engine with
  | error fault engine =>
    rw [hrun] at h
    cases h
  | ok stage engine =>
    rw [hrun] at h
    cases h
    exact ⟨stage, engine, rfl, rfl⟩

/-- A party that alone makes steps goes the way of a lone party, and the others stay where they are. -/
theorem run_of_alone (system : System n) {first last : Stage × Engine}
    (h : Stage.Alone ⟨party⟩ first last) (hstage : system.stage party = first.1) (hengine : system.engine = first.2) :
    ∃ times, system.run (List.replicate times (.work party))
      = .ok (system.become party last.2 last.1) := by
  induction h using Relation.ReflTransGen.head_induction_on generalizing system with
  | refl =>
    refine ⟨0, ?_⟩
    rw [← hstage, ← hengine, become_self]
    rfl
  | head hstep _ ih =>
    rw [← hstage, ← hengine] at hstep
    obtain ⟨times, hrun⟩ := ih (system.become party _ _) (stage_become ..) rfl
    refine ⟨times + 1, ?_⟩
    rw [become_become] at hrun
    rw [List.replicate_succ, run_cons (step_work hstep)]
    exact hrun

/-- A worker that nobody disturbs does to the engine what `Worker.process` does. -/
theorem run_process {packet : Packet} (hidle : system.stage party = .idle)
    (h : (Worker.process ⟨party⟩ packet).run system.engine = .ok () engine') :
    ∃ times reached, system.run (.arrive party packet :: List.replicate times (.work party))
        = .ok reached ∧ reached.engine = engine' ∧ reached.stage = system.stage := by
  obtain ⟨arrival, engine₁, hdecode, hrun⟩ := run_bind_eq_ok h
  cases arrival with
  | none =>
    obtain ⟨-, rfl⟩ := EStateM.Result.ok.inj hrun
    refine ⟨0, { system with engine := engine₁ }, ?_, rfl, rfl⟩
    simp only [run, List.replicate_zero, List.foldlM_cons, step, hidle, hdecode]
    rfl
  | some arrival =>
    have hback : System.become { system.become party engine₁ (.seeking arrival) with
        arrived := arrival ::ₘ system.arrived } party engine' .idle
          = { system with engine := engine', arrived := arrival ::ₘ system.arrived } := by
      unfold become
      simp only [Function.update_idem, ← hidle, Function.update_eq_self]
    obtain ⟨times, hwork⟩ := run_of_alone { system.become party engine₁ (.seeking arrival) with
        arrived := arrival ::ₘ system.arrived } (Stage.run_track hrun)
      (stage_become system party engine₁ (.seeking arrival)) rfl
    rw [hback] at hwork
    refine ⟨times, { system with engine := engine', arrived := arrival ::ₘ system.arrived }, ?_, rfl,
      rfl⟩
    rw [run, List.foldlM_cons]
    simp only [step, hidle, hdecode]
    exact hwork

/-- A manager that nobody disturbs does to the engine what `Manager.sweep` does. -/
theorem run_sweep {manager : Manager} {reason : ReleaseReason} {result : Sweep}
    (hidle : system.stage party = .idle)
    (h : (manager.sweep reason).run system.engine = .ok result engine') :
    ∃ times, system.run (.sweep party manager reason :: List.replicate times (.work party))
      = .ok { system with engine := engine' } := by
  obtain ⟨times, hwork⟩ := run_of_alone (system.become party system.engine
    (.opening (.start manager reason system.engine.clock))) (Stage.run_sweep h) (stage_become ..) rfl
  refine ⟨times, ?_⟩
  rw [become_become, ← hidle, become_self] at hwork
  rw [run, List.foldlM_cons]
  simp only [step, hidle]
  exact hwork

end System

end FlowTracker
