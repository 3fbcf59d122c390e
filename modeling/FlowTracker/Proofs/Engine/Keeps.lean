import FlowTracker.Proofs.Engine.Programs

/-!
# What a program keeps

`program.Keeps inv post`: where the program comes to its end, an invariant that held before holds again
and the answer satisfies `post`.  A program in parts keeps what its parts keep, so a fact about the state
that only few programs change is proved along the text of all others, by one rule for each primitive.
-/

namespace FlowTracker

open Engine EStateM

variable {α β : Type} {inv : Engine → Prop} {post : α → Prop} {post' : β → Prop}

/-- The program answers as `post` says and keeps the invariant, unless it stops. -/
def EngineM.Keeps (program : EngineM α) (inv : Engine → Prop) (post : α → Prop) : Prop :=
  ∀ engine a engine', inv engine → program.run engine = .ok a engine' → post a ∧ inv engine'

namespace EngineM.Keeps

variable {program : EngineM α} {next : α → EngineM β} {flow : FlowId}

theorem bind (h : program.Keeps inv post) (hnext : ∀ a, post a → (next a).Keeps inv post') :
    EngineM.Keeps (program >>= next) inv post' := by
  intro engine b engine'' hinv hrun
  obtain ⟨a, engine', hfirst, hsecond⟩ := run_bind_eq_ok hrun
  obtain ⟨ha, hinv'⟩ := h engine a engine' hinv hfirst
  exact hnext a ha engine' b engine'' hinv' hsecond

theorem then_pure (h : program.Keeps inv post) {b : β} (hb : post' b) :
    EngineM.Keeps (program >>= fun _ => Pure.pure b) inv post' := by
  intro engine c engine'' hinv hrun
  obtain ⟨a, engine', hfirst, hsecond⟩ := run_bind_eq_ok hrun
  cases hsecond
  exact ⟨hb, (h engine a _ hinv hfirst).2⟩

theorem pure {a : α} (ha : post a) : EngineM.Keeps (Pure.pure a) inv post := by
  intro engine b engine' hinv hrun
  cases hrun
  exact ⟨ha, hinv⟩

theorem throw (fault : Fault) : EngineM.Keeps (MonadExcept.throw fault) inv post := by
  intro engine b engine' hinv hrun
  cases hrun

theorem get : EngineM.Keeps (MonadState.get : EngineM Engine) inv fun _ => True := by
  intro engine b engine' hinv hrun
  cases hrun
  exact ⟨trivial, hinv⟩

theorem modify {change : Engine → Engine} (h : ∀ engine, inv engine → inv (change engine)) :
    EngineM.Keeps (modify change) inv fun _ => True := by
  intro engine b engine' hinv hrun
  cases hrun
  exact ⟨trivial, h engine hinv⟩

theorem check (result : Except Fault α) : EngineM.Keeps (check result) inv fun _ => True := by
  cases result with
  | ok a => exact pure trivial
  | error fault => exact throw fault

theorem slot (flow : FlowId) : EngineM.Keeps (slot flow) inv fun _ => True :=
  get.bind fun _ _ => check _

theorem onQueues (program : QueueM 1 4 α)
    (h : ∀ engine queues, inv engine → inv (engine.withQueues queues)) :
    EngineM.Keeps (onQueues program) inv fun _ => True := by
  intro engine a engine' hinv hrun
  obtain ⟨queues, -, rfl⟩ := run_onQueues_eq_ok hrun
  exact ⟨trivial, h engine queues hinv⟩

theorem lock (flow : FlowId) (h : ∀ engine held, inv engine → inv (engine.withHeld flow held)) :
    EngineM.Keeps (lock flow) inv fun _ => True := by
  refine (slot flow).bind fun slot _ => ?_
  have htake : EngineM.Keeps (modifyTable (·.setHeld flow true)) inv fun _ => True :=
    modify fun engine hinv => h engine true hinv
  split
  · exact (throw (.stalled flow) : Keeps _ inv fun _ : Unit => False).bind
      fun _ hfalse => hfalse.elim
  · exact htake

theorem locked (hprogram : program.Keeps inv post)
    (h : ∀ engine held, inv engine → inv (engine.withHeld flow held)) :
    EngineM.Keeps (locked flow program) inv post := by
  intro engine a engine' hinv hrun
  obtain ⟨engine₁, engine₂, hlock, hprogram', rfl⟩ := run_locked_eq_ok hrun
  obtain ⟨-, hinv₁⟩ := lock flow h engine () engine₁ hinv hlock
  obtain ⟨ha, hinv₂⟩ := hprogram engine₁ a engine₂ hinv₁ hprogram'
  exact ⟨ha, h engine₂ false hinv₂⟩

end EngineM.Keeps

/-! ### Invariants that no table matters to -/

structure Engine.TableFree (inv : Engine → Prop) : Prop where
  same : ∀ engine engine' : Engine, inv engine → engine'.queues = engine.queues →
    engine'.wakeRequested = engine.wakeRequested → inv engine'

namespace Engine.TableFree

open EngineM

variable {worker : Worker} {arrival : Arrival} {flow : FlowId}

theorem keeps_account (h : TableFree inv) (record : FlowRecord) :
    Keeps (Worker.account arrival flow record) inv fun _ => True := by
  intro engine a engine' hinv hrun
  unfold EStateM.run Worker.account at hrun
  split at hrun
  · cases hrun
    exact ⟨trivial, h.same engine _ hinv rfl rfl⟩
  · cases hrun

/-- Besides the record and the log, a known conversation changes the queues of lifecycle states. -/
theorem keeps_revisit (h : TableFree inv)
    (hrequeue : ∀ before after : FlowState,
      Keeps (onQueues (QueueM.requeue flow (some before.queue) after.queue)) inv fun _ => True) :
    Keeps (worker.revisit arrival flow) inv (· ≠ .starved) := by
  apply Keeps.locked
  · refine (Keeps.slot flow).bind fun slot _ => ?_
    cases slot.record with
    | none => exact Keeps.pure (by simp)
    | some record =>
      simp only
      split
      · exact Keeps.pure (by simp)
      refine (h.keeps_account record).bind fun states _ => ?_
      split
      · refine (hrequeue _ _).bind fun _ _ => (Keeps.modify ?_).then_pure (by simp)
        exact fun engine hinv => h.same engine _ hinv rfl rfl
      · exact Keeps.pure (by simp)
  · exact fun engine _ hinv => h.same engine _ hinv rfl rfl

/-- Besides the table, a new conversation changes the queue of a lifecycle state. -/
theorem keeps_settle (h : TableFree inv)
    (henqueue : ∀ state : FlowState,
      Keeps (onQueues (QueueM.enqueue state.queue flow)) inv fun _ => True) :
    Keeps (Worker.settle arrival flow) inv fun _ => True := by
  have hchange (change : FlowTable → FlowTable) : Keeps (modifyTable change) inv fun _ => True :=
    Keeps.modify fun engine hinv => h.same engine _ hinv rfl rfl
  have hbind : Keeps (Engine.bind arrival.key flow) inv fun _ => True := by
    refine Keeps.get.bind fun engine _ => ?_
    split
    · exact Keeps.pure trivial
    · exact (hchange _).then_pure trivial
  apply Keeps.locked
  · refine hbind.bind fun bound _ => ?_
    split
    · exact Keeps.pure trivial
    · exact (Keeps.check _).bind fun record _ => (hchange _).bind fun _ _ =>
        (henqueue _).then_pure trivial
  · exact fun engine _ hinv => h.same engine _ hinv rfl rfl

end Engine.TableFree

end FlowTracker
