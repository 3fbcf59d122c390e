import FlowTracker.Engine.Manager
import FlowTracker.Proofs.Engine.Keeps

/-!
# Bindings and drops

Few parts of a program bind a conversation, and one part counts a dropped packet.  A `Steady` fact is one
that all the others keep, also those that unbind: that a conversation is not bound, or how many packets
were dropped.
-/

namespace FlowTracker

open EStateM EngineM

/-- A fact that depends on bindings and drops only, and outlives every unbinding. -/
structure Engine.Steady (inv : Engine → Prop) : Prop where
  same : ∀ engine engine' : Engine, inv engine →
    (∀ key, engine'.table.lookup key = engine.table.lookup key) →
    engine'.totals.tableFullDrops = engine.totals.tableFullDrops → inv engine'
  unbind : ∀ (engine : Engine) (key : FlowKey) (flow : FlowId), inv engine →
    inv (engine.withTable (engine.table.unbind key flow))

/-- What is not bound stays so when something else is unbound. -/
theorem FlowTable.lookup_unbind_none {table : FlowTable} {key : FlowKey}
    (h : table.lookup key = none) (key' : FlowKey) (flow : FlowId) :
    (table.unbind key' flow).lookup key = none := by
  by_cases hbound : table.lookup key' = some flow
  · rw [FlowTable.lookup_unbind _ hbound]
    split
    · rfl
    · exact h
  · have hother : table.isBound key' flow = false := by
      rw [FlowTable.isBound, beq_eq_false_iff_ne]
      exact hbound
    rw [FlowTable.unbind, hother]
    exact h

namespace Engine.Steady

theorem drops (count : UInt64) : Steady (·.totals.tableFullDrops = count) := by
  constructor
  · intro engine engine' hcount _ hsame
    exact hsame.trans hcount
  · exact fun _ _ _ hcount => hcount

theorem unbound (key : FlowKey) : Steady (·.table.lookup key = none) := by
  constructor
  · intro engine engine' hnone hsame _
    exact (hsame key).trans hnone
  · exact fun engine key' flow hnone => FlowTable.lookup_unbind_none hnone key' flow

variable {inv : Engine → Prop} {flow : FlowId}

theorem keeps_lock (h : Steady inv) : Keeps (lock flow) inv fun _ => True :=
  Keeps.lock flow fun engine _ hinv => h.same engine _ hinv (fun _ => rfl) rfl

theorem keeps_onQueues {α : Type} (h : Steady inv) (program : QueueM 1 4 α) :
    Keeps (onQueues program) inv fun _ => True :=
  Keeps.onQueues program fun engine _ hinv => h.same engine _ hinv (fun _ => rfl) rfl

theorem keeps_report (h : Steady inv) (event : Event) : Keeps (report event) inv fun _ => True :=
  Keeps.modify fun engine hinv => h.same engine _ hinv (fun _ => rfl) rfl

theorem keeps_setRecord (h : Steady inv) (record : Option FlowRecord) :
    Keeps (modifyTable (·.setRecord flow record)) inv fun _ => True :=
  Keeps.modify fun engine hinv => h.same engine _ hinv (fun _ => rfl) rfl

theorem keeps_takeSpare (h : Steady inv) : Keeps Worker.takeSpare inv fun _ => True := by
  refine (h.keeps_onQueues _).bind fun flow _ => ?_
  cases flow with
  | some flow => exact Keeps.pure trivial
  | none =>
    refine Keeps.then_pure (Keeps.modify ?_) trivial
    exact fun engine hinv => h.same engine _ hinv (fun _ => rfl) rfl

theorem keeps_account (h : Steady inv) (arrival : Arrival) (record : FlowRecord) :
    Keeps (Worker.account arrival flow record) inv fun _ => True := by
  intro engine answer engine' hinv hrun
  unfold EStateM.run Worker.account at hrun
  split at hrun
  · cases hrun
    exact ⟨trivial, h.same engine _ hinv (fun _ => rfl) rfl⟩
  · cases hrun

theorem keeps_decode (h : Steady inv) (worker : Worker) (packet : Packet) :
    Keeps (worker.decode packet) inv fun _ => True := by
  refine (Keeps.modify ?_).bind fun _ _ => Keeps.get.bind fun engine _ => (Keeps.check _).bind
    fun clock _ => (Keeps.modify ?_).bind fun _ _ => ?_
  · exact fun engine hinv => h.same engine _ hinv (fun _ => rfl) rfl
  · exact fun engine hinv => h.same engine _ hinv (fun _ => rfl) rfl
  · cases Frame.headers packet.frame with
    | ok headers => exact Keeps.pure trivial
    | error error =>
      refine (Keeps.modify ?_).bind fun _ _ => (h.keeps_report _).then_pure trivial
      exact fun engine hinv => h.same engine _ hinv (fun _ => rfl) rfl

theorem keeps_takeOut (h : Steady inv) (q : QueueIndex) (record : Option FlowRecord) :
    Keeps (Manager.takeOut q flow record) inv fun _ => True := by
  refine (h.keeps_setRecord none).bind fun _ _ => ?_
  cases record with
  | none => exact h.keeps_onQueues _
  | some record =>
    refine (Keeps.modify ?_).bind fun _ _ => h.keeps_onQueues _
    exact fun engine hinv => h.unbind engine record.key flow hinv

theorem keeps_inspectBottom (h : Steady inv) (manager : Manager) (reason : ReleaseReason)
    (now : Timestamp) (state : FlowState) :
    Keeps (manager.inspectBottom reason now state) inv fun _ => True := by
  refine (h.keeps_onQueues _).bind fun queue _ => ?_
  cases queue.bottom with
  | none => exact Keeps.pure trivial
  | some flow =>
    have htake : ∀ record, Keeps (do
        Manager.takeOut state.queue flow record
        lock flow
        return Visit.taken flow record) inv fun _ => True :=
      fun record => (h.keeps_takeOut _ record).bind fun _ _ => h.keeps_lock.then_pure trivial
    refine (Keeps.slot flow).bind fun slot _ => ?_
    split
    · exact (h.keeps_onQueues _).then_pure trivial
    cases slot.record with
    | none => exact htake none
    | some record =>
      simp only
      split
      · exact (Keeps.throw _ : Keeps _ inv fun _ : Unit => False).bind fun _ hfalse => hfalse.elim
      refine (Keeps.check _).bind fun kept _ => ?_
      split
      · exact (h.keeps_onQueues _).then_pure trivial
      · exact htake (some record)

theorem keeps_release (h : Steady inv) (manager : Manager) (flow : ReleasedFlow) :
    Keeps (manager.release flow) inv fun _ => True := by
  have hpush : Keeps (modify fun engine : Engine =>
      { engine with exported := engine.exported.push flow }) inv fun _ => True :=
    Keeps.modify fun engine hinv => h.same engine _ hinv (fun _ => rfl) rfl
  refine (Keeps.modify ?_).bind fun _ _ => ?_
  · intro engine hinv
    refine h.same engine _ hinv (fun _ => rfl) ?_
    cases flow.reason <;> rfl
  cases manager.exporter.limit with
  | none => exact hpush
  | some limit =>
    refine Keeps.get.bind fun engine _ => ?_
    split
    · exact hpush
    · exact Keeps.throw _

end Engine.Steady

end FlowTracker
