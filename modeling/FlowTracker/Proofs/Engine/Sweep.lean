import FlowTracker.Proofs.Engine.Process

/-!
# Sweeps among holders of payload locks

A sweep runs on an engine at rest while others may hold payload locks (`Engine.AmongHolders`).  It takes
a slot out exactly if nobody holds it and its record is to be released (`Manager.takes`).  The lemmas
go from one visit to a queue and to all queues: a queue that is visited as often as it is long is a list
of flows yet to be visited followed by those that stay, so every flow is visited once, the ones taken
out are spare afterwards, and the harvest has their records in the order of the visits.
-/

namespace FlowTracker

def Phase.spared (phase : FlowId → Phase) (flows : List FlowId) : FlowId → Phase :=
  fun flow => if flow ∈ flows then .spare else phase flow

theorem Phase.spared_nil (phase : FlowId → Phase) : Phase.spared phase [] = phase := by
  funext flow
  simp [Phase.spared]

theorem Phase.spared_update (phase : FlowId → Phase) (flow : FlowId) (flows : List FlowId) :
    Phase.spared (Function.update phase flow .spare) flows = Phase.spared phase (flow :: flows) := by
  funext flow'
  by_cases hflow : flow' = flow <;> simp [Phase.spared, Function.update, hflow]

theorem Phase.spared_append (phase : FlowId → Phase) (flows flows' : List FlowId) :
    Phase.spared (Phase.spared phase flows) flows' = Phase.spared phase (flows ++ flows') := by
  funext flow
  simp only [Phase.spared, List.mem_append]
  by_cases h : flow ∈ flows <;> by_cases h' : flow ∈ flows' <;> simp [h, h']

theorem FlowState.queue_injective {state state' : FlowState} (h : state.queue = state'.queue) :
    state = state' := by
  cases state <;> cases state' <;> first | rfl | exact absurd h (by decide)

theorem FlowState.queue_ne_spare (state : FlowState) : state.queue ≠ spareQueue := by
  cases state <;> decide

namespace Manager

/-- Whether a sweep at a clock of `micros` microseconds releases a record. -/
def releases (manager : Manager) (reason : ReleaseReason) (micros : Nat) (record : FlowRecord) :
    Bool :=
  match reason with
  | .shutdown => true
  | .timeout => decide (record.IdleAt micros (manager.timeouts.of record.state))

theorem keeps_eq (manager : Manager) (reason : ReleaseReason) (clock : PacketClock)
    {record : FlowRecord} (h : record.lastSeen.Fits) :
    manager.keeps reason clock.now record = .ok (!manager.releases reason clock.toNat record) := by
  cases reason with
  | shutdown => rfl
  | timeout =>
    unfold keeps releases
    simp only [FlowRecord.isIdle_eq h]
    rfl

/-- Whether a sweep takes a slot out of its queue. -/
def takes (manager : Manager) (reason : ReleaseReason) (clock : PacketClock)
    (busy : FlowId → Bool) (phase : FlowId → Phase) (flow : FlowId) : Bool :=
  !busy flow && (phase flow).record.any (manager.releases reason clock.toNat)

theorem free_of_takes {manager : Manager} {reason : ReleaseReason} {clock : PacketClock}
    {busy : FlowId → Bool} {phase : FlowId → Phase} {flow : FlowId}
    (h : manager.takes reason clock busy phase flow = true) : busy flow = false := by
  rw [takes, Bool.and_eq_true, Bool.not_eq_true'] at h
  exact h.1

end Manager

namespace Exporter

/-- The exporter takes so many flows before it gives up, if it ever does. -/
def Takes (exporter : Exporter) (count : Nat) : Prop :=
  ∀ limit, exporter.limit = some limit → count ≤ limit

variable {exporter : Exporter} {count count' : Nat}

theorem Takes.mono (h : exporter.Takes count) (hle : count' ≤ count) : exporter.Takes count' :=
  fun limit hlimit => Nat.le_trans hle (h limit hlimit)

theorem takes_of_unlimited (h : exporter.limit = none) (count : Nat) : exporter.Takes count := by
  intro limit hlimit
  rw [h] at hlimit
  cases hlimit

end Exporter

namespace Harvest

/-- The harvest after visits to slots, of which the ones taken out had these records. -/
def visiting (harvest : Harvest) (busy : FlowId → Bool) (flows : List FlowId)
    (records : List FlowRecord) : Harvest :=
  ⟨harvest.examined + flows.length, harvest.busy + flows.countP busy,
    records.reverse ++ harvest.records⟩

variable (harvest : Harvest) {busy : FlowId → Bool} {flow : FlowId} {flows flows' : List FlowId}
  {records records' : List FlowRecord} {record : FlowRecord}

theorem visiting_stays :
    visiting { harvest with
        examined := harvest.examined + 1
        busy := if busy flow then harvest.busy + 1 else harvest.busy } busy flows records
      = harvest.visiting busy (flow :: flows) records := by
  simp only [visiting, List.length_cons, List.countP_cons]
  congr 1
  · omega
  · split <;> omega

theorem visiting_takes (hfree : busy flow = false) :
    visiting ⟨harvest.examined + 1, harvest.busy, record :: harvest.records⟩ busy flows records
      = harvest.visiting busy (flow :: flows) (record :: records) := by
  simp only [visiting, List.length_cons, List.countP_cons, hfree, List.reverse_cons,
    List.append_assoc]
  congr 1
  omega

theorem visiting_append :
    (harvest.visiting busy flows records).visiting busy flows' records'
      = harvest.visiting busy (flows ++ flows') (records ++ records') := by
  rw [visiting, visiting, visiting, List.length_append, List.countP_append, List.reverse_append,
    List.append_assoc, Nat.add_assoc, Nat.add_assoc]

end Harvest

namespace Engine

open EStateM

/-! ### The bottom of a queue -/

section Inspect

variable {engine : Engine} {lineup : Lineup 1 4} {phase : FlowId → Phase} {flow : FlowId}
  {record : FlowRecord} {state : FlowState} {rest : List FlowId}

theorem run_bottom (h : Agrees engine.table engine.queues lineup phase)
    (hcons : lineup.flows state.queue = flow :: rest) :
    (onQueues (QueueM.queue state.queue)).run engine
        = .ok (engine.queues.queue state.queue) engine
      ∧ (engine.queues.queue state.queue).bottom = some flow
      ∧ (slot flow).run engine
        = .ok ⟨(phase flow).record, engine.table.heldAt flow⟩ engine := by
  have hmem : flow ∈ lineup.flows state.queue := by rw [hcons]; exact List.mem_cons_self
  have hin := Phase.ne_outside_of_queue ((h.mem_iff ..).1 hmem)
  refine ⟨run_onQueues engine (QueueM.run_queue _), ?_, ?_⟩
  · rw [(h.represents.chain state.queue).bottom_eq, hcons, List.head?_cons]
  · rw [run_slot (h.lt_size hin), h.record_eq]

theorem inspectBottom_nothing (h : Agrees engine.table engine.queues lineup phase)
    (hnil : lineup.flows state.queue = []) (manager : Manager) (reason : ReleaseReason)
    (now : Timestamp) :
    (manager.inspectBottom reason now state).run engine = .ok .nothing engine := by
  have hrun := run_onQueues engine (QueueM.run_queue state.queue)
  have hbottom := (h.represents.chain state.queue).bottom_eq
  rw [hnil, List.head?_nil] at hbottom
  simp only [Manager.inspectBottom, run_bind, hrun, hbottom, run_pure, withQueues_self]

/-- A slot whose payload lock is held is rotated to the top. -/
theorem inspectBottom_busy (h : Agrees engine.table engine.queues lineup phase)
    (hcons : lineup.flows state.queue = flow :: rest) (hheld : engine.table.heldAt flow = true)
    (manager : Manager) (reason : ReleaseReason) (now : Timestamp) :
    ∃ queues, (manager.inspectBottom reason now state).run engine
        = .ok .busy (engine.withQueues queues)
      ∧ Agrees engine.table queues (lineup.place state.queue (rest ++ [flow])) phase := by
  obtain ⟨hrun, hbottom, hslot⟩ := run_bottom h hcons
  obtain ⟨queues, hrotate, hagrees⟩ := h.rotate hcons
  refine ⟨queues, ?_, hagrees⟩
  simp only [Manager.inspectBottom, run_bind, hrun, hbottom, hslot, hheld, if_true,
    run_onQueues engine hrotate, run_pure]

/-- A slot whose record is not to be released is rotated to the top. -/
theorem inspectBottom_kept (h : Agrees engine.table engine.queues lineup phase)
    (hcons : lineup.flows state.queue = flow :: rest) (hfree : engine.table.heldAt flow = false)
    (hphase : phase flow = .tracked record) (hstate : record.state = state)
    {manager : Manager} {reason : ReleaseReason} {now : Timestamp}
    (hkeeps : manager.keeps reason now record = .ok true) :
    ∃ queues, (manager.inspectBottom reason now state).run engine
        = .ok .kept (engine.withQueues queues)
      ∧ Agrees engine.table queues (lineup.place state.queue (rest ++ [flow])) phase := by
  obtain ⟨hrun, hbottom, hslot⟩ := run_bottom h hcons
  obtain ⟨queues, hrotate, hagrees⟩ := h.rotate hcons
  rw [hphase, Phase.record] at hslot
  refine ⟨queues, ?_, hagrees⟩
  simp only [Manager.inspectBottom, run_bind, hrun, hbottom, hslot, hfree, Bool.false_eq_true,
    if_false, hstate, ne_eq, not_true, run_check_ok hkeeps, if_true, run_onQueues engine hrotate,
    run_pure]

/-- A slot whose record is to be released is emptied, unbound and taken out, and stays locked. -/
theorem inspectBottom_taken (h : Agrees engine.table engine.queues lineup phase)
    (hcons : lineup.flows state.queue = flow :: rest) (hfree : engine.table.heldAt flow = false)
    (hphase : phase flow = .tracked record) (hstate : record.state = state)
    {manager : Manager} {reason : ReleaseReason} {now : Timestamp}
    (hkeeps : manager.keeps reason now record = .ok false) :
    ∃ table queues, (manager.inspectBottom reason now state).run engine
        = .ok (.taken flow (some record)) { engine with table, queues }
      ∧ Agrees table queues (lineup.detach state.queue flow) (Function.update phase flow .taken)
      ∧ ∀ flow', table.heldAt flow'
        = if flow' = flow then true else engine.table.heldAt flow' := by
  have hin : phase flow ≠ .outside := by simp [hphase]
  have hlt := h.lt_size hin
  obtain ⟨hrun, hbottom, hslot⟩ := run_bottom h hcons
  rw [hphase, Phase.record] at hslot
  obtain ⟨queues, hdetach, hout⟩ := h.detach hphase (.unqueued record) (by simp)
    (congrArg (fun state => some (FlowState.queue state)) hstate) rfl rfl rfl
  have hclear := hout.clear (Function.update_self flow (Phase.unqueued record) phase)
  rw [Function.update_idem] at hclear
  have hempty : ∀ flow', ((engine.table.setRecord flow none).unbind record.key flow).heldAt flow'
      = engine.table.heldAt flow' := by
    intro flow'
    rw [FlowTable.heldAt_unbind, FlowTable.heldAt_setRecord]
  have hlt' : flow < ((engine.table.setRecord flow none).unbind record.key flow).capacity := by
    rwa [FlowTable.capacity_unbind, FlowTable.capacity_setRecord]
  have hmove := run_onQueues
    (engine.withTable ((engine.table.setRecord flow none).unbind record.key flow)) hdetach
  have hlock : (lock flow).run ((engine.withTable
      ((engine.table.setRecord flow none).unbind record.key flow)).withQueues queues) = _ :=
    run_lock hlt' (by rw [← hfree, ← hempty]; rfl)
  refine ⟨((engine.table.setRecord flow none).unbind record.key flow).setHeld flow true, queues,
    ?_, hclear.setHeld flow true, ?_⟩
  · simp only [Manager.inspectBottom, run_bind, hrun, hbottom, hslot, hfree, Bool.false_eq_true,
      if_false, hstate, ne_eq, not_true, run_check_ok hkeeps, Manager.takeOut, run_modifyTable,
      withTable_withTable, table_withTable, hmove, hlock, run_pure]
    rfl
  · intro flow'
    rw [FlowTable.heldAt_setHeld _ hlt', hempty]

/-- A slot that was taken out becomes the bottom of the spare queue and is unlocked. -/
theorem run_putAside (engine : Engine) (h : Agrees engine.table engine.queues lineup phase)
    (hphase : phase flow = .taken) :
    ∃ queues, (Manager.putAside flow).run engine
        = .ok () ((engine.withQueues queues).withHeld flow false)
      ∧ Agrees (engine.table.setHeld flow false) queues (lineup.append spareQueue flow)
        (Function.update phase flow .spare) := by
  obtain ⟨queues, happend, hagrees⟩ := h.append hphase .spare (by simp) rfl rfl rfl rfl
  have hmove := run_onQueues engine happend
  refine ⟨queues, ?_, hagrees.setHeld flow false⟩
  unfold EStateM.run at hmove ⊢
  unfold Manager.putAside
  rw [hmove]
  rfl

end Inspect

namespace AmongHolders

variable {engine engine' : Engine} {busy : FlowId → Bool} {lineup lineup' : Lineup 1 4}
  {phase : FlowId → Phase} {flow : FlowId} {manager : Manager} {reason : ReleaseReason}
  {clock : PacketClock} {state : FlowState}

/-- The members of the queue of a state track records of that state. -/
theorem tracked_of_mem (h : engine.AmongHolders busy lineup phase)
    (hmem : flow ∈ lineup.flows state.queue) :
    ∃ record, phase flow = .tracked record ∧ record.state = state := by
  have hqueue := (h.agrees.mem_iff ..).1 hmem
  have hsettled := h.settled flow
  cases hphase : phase flow with
  | outside => rw [hphase] at hqueue; cases hqueue
  | spare =>
    rw [hphase] at hqueue
    exact absurd (Option.some.inj hqueue).symm state.queue_ne_spare
  | tracked record =>
    rw [hphase] at hqueue
    exact ⟨record, rfl, FlowState.queue_injective (Option.some.inj hqueue)⟩
  | _ => rw [hphase] at hsettled; exact hsettled.elim

/-! ### One visit -/

/-- A slot that is not taken out is rotated to the top. -/
theorem visit_stays (h : engine.AmongHolders busy lineup phase) {rest : List FlowId}
    (hcons : lineup.flows state.queue = flow :: rest)
    (hstays : manager.takes reason clock busy phase flow = false) :
    ∃ engine', (manager.visit reason clock.now state).run engine
        = .ok (if busy flow then .busy else .kept) engine'
      ∧ engine'.AmongHolders busy (lineup.place state.queue (rest ++ [flow])) phase
      ∧ engine.SameReports engine' := by
  have hmem : flow ∈ lineup.flows state.queue := by rw [hcons]; exact List.mem_cons_self
  obtain ⟨record, hphase, hstate⟩ := h.tracked_of_mem hmem
  have hheld := h.held flow (by simp [hphase])
  cases hbusy : busy flow with
  | true =>
    rw [hbusy] at hheld
    obtain ⟨queues, hrun, hagrees⟩ := inspectBottom_busy h.agrees hcons hheld manager reason clock.now
    refine ⟨engine.withQueues queues, ?_, ⟨hagrees, h.settled, h.held, h.fits⟩, rfl, rfl, rfl⟩
    simp only [Manager.visit, run_bind, hrun, run_pure, if_true]
  | false =>
    rw [hbusy] at hheld
    have hreleases : manager.releases reason clock.toNat record = false := by
      simpa [Manager.takes, hbusy, hphase, Phase.record] using hstays
    have hkeeps := manager.keeps_eq reason clock (h.fits flow record (by rw [hphase]; rfl))
    rw [hreleases, Bool.not_false] at hkeeps
    obtain ⟨queues, hrun, hagrees⟩ := inspectBottom_kept h.agrees hcons hheld hphase hstate hkeeps
    refine ⟨engine.withQueues queues, ?_, ⟨hagrees, h.settled, h.held, h.fits⟩, rfl, rfl, rfl⟩
    simp only [Manager.visit, run_bind, hrun, run_pure, Bool.false_eq_true, if_false]

/-- A slot that is taken out is spare afterwards. -/
theorem visit_takes (h : engine.AmongHolders busy lineup phase) {rest : List FlowId}
    (hcons : lineup.flows state.queue = flow :: rest)
    (htakes : manager.takes reason clock busy phase flow = true) :
    ∃ engine' lineup' record, (phase flow).record = some record
      ∧ (manager.visit reason clock.now state).run engine = .ok (.taken flow (some record)) engine'
      ∧ engine'.AmongHolders busy lineup' (Function.update phase flow .spare)
      ∧ lineup'.flows state.queue = rest
      ∧ lineup'.flows spareQueue = flow :: lineup.flows spareQueue
      ∧ (∀ state', state' ≠ state → lineup'.flows state'.queue = lineup.flows state'.queue)
      ∧ engine.SameReports engine' := by
  have hmem : flow ∈ lineup.flows state.queue := by rw [hcons]; exact List.mem_cons_self
  obtain ⟨record, hphase, hstate⟩ := h.tracked_of_mem hmem
  have hrecord : (phase flow).record = some record := by rw [hphase]; rfl
  have hin : phase flow ≠ .outside := by simp [hphase]
  obtain ⟨hbusy, hreleases⟩ : busy flow = false ∧ manager.releases reason clock.toNat record = true := by
    simpa [Manager.takes, hrecord] using htakes
  have hheld := h.held flow hin
  rw [hbusy] at hheld
  have hkeeps := manager.keeps_eq reason clock (h.fits flow record hrecord)
  rw [hreleases, Bool.not_true] at hkeeps
  obtain ⟨table, queues, hrun, hagrees, hholds⟩ :=
    inspectBottom_taken h.agrees hcons hheld hphase hstate hkeeps
  obtain ⟨queues', hput, hagrees'⟩ :=
    run_putAside { engine with table, queues } hagrees (Function.update_self ..)
  rw [Function.update_idem] at hagrees'
  have hlt : flow < table.capacity := hagrees.lt_size (by simp)
  have hflows : ((lineup.detach state.queue flow).append spareQueue flow).flows state.queue
      = rest := by
    rw [Lineup.append, Lineup.flows_place_of_ne _ state.queue_ne_spare, Lineup.detach,
      Lineup.flows_place_self, hcons, List.erase_cons_head]
  have hspare : ((lineup.detach state.queue flow).append spareQueue flow).flows spareQueue
      = flow :: lineup.flows spareQueue := by
    rw [Lineup.append, Lineup.flows_place_self, Lineup.detach,
      Lineup.flows_place_of_ne _ state.queue_ne_spare.symm]
  refine ⟨{ engine with table := table.setHeld flow false, queues := queues' }, _, record, hrecord,
    ?_, h.update hagrees' trivial ?_ (by simp [Phase.record]), hflows, hspare, ?_, rfl, rfl, rfl⟩
  · simp only [Manager.visit, run_bind, hrun, hput, run_pure]
    rfl
  · intro flow' hin'
    rw [table.heldAt_setHeld hlt, hholds]
    by_cases hflow : flow' = flow
    · rw [if_pos hflow, hflow, hbusy]
    · rw [Function.update_of_ne hflow] at hin'
      rw [if_neg hflow, if_neg hflow, h.held flow' hin']
  · intro state' hne
    rw [Lineup.append, Lineup.flows_place_of_ne _ state'.queue_ne_spare, Lineup.detach,
      Lineup.flows_place_of_ne _ fun hq => hne (FlowState.queue_injective hq)]

/-! ### One queue -/

def recordsOf (phase : FlowId → Phase) (flows : List FlowId) : List FlowRecord :=
  flows.filterMap fun flow => (phase flow).record

theorem takes_eq {phase' : FlowId → Phase} (hsame : phase' flow = phase flow) :
    manager.takes reason clock busy phase' flow = manager.takes reason clock busy phase flow := by
  rw [Manager.takes, Manager.takes, hsame]

/-- What is taken of some slots depends on no other slot. -/
theorem takes_congr {phase' : FlowId → Phase} {flows : List FlowId}
    (hsame : ∀ flow ∈ flows, phase' flow = phase flow) :
    flows.filter (manager.takes reason clock busy phase')
      = flows.filter (manager.takes reason clock busy phase) := by
  apply List.filter_congr
  intro flow hmem
  exact takes_eq (hsame flow hmem)

theorem stays_congr {phase' : FlowId → Phase} {flows : List FlowId}
    (hsame : ∀ flow ∈ flows, phase' flow = phase flow) :
    (flows.filter fun flow => !manager.takes reason clock busy phase' flow)
      = flows.filter fun flow => !manager.takes reason clock busy phase flow := by
  apply List.filter_congr
  intro flow hmem
  exact congrArg not (takes_eq (hsame flow hmem))

theorem recordsOf_cons {record : FlowRecord} {flows : List FlowId}
    (hrecord : (phase flow).record = some record) :
    recordsOf phase (flow :: flows) = record :: recordsOf phase flows :=
  List.filterMap_cons_some hrecord

/-- Where every slot has a record, none is lost. -/
theorem map_record {flows : List FlowId} (hrecord : ∀ flow ∈ flows, (phase flow).record.isSome) :
    flows.map (fun flow => (phase flow).record) = (recordsOf phase flows).map some := by
  induction flows with
  | nil => rfl
  | cons flow flows ih =>
    obtain ⟨record, hsome⟩ := Option.isSome_iff_exists.1 (hrecord flow List.mem_cons_self)
    rw [recordsOf_cons hsome, List.map_cons, List.map_cons, hsome,
      ih fun flow' hmem => hrecord flow' (List.mem_cons_of_mem _ hmem)]

theorem recordsOf_congr {phase' : FlowId → Phase} {flows : List FlowId}
    (hsame : ∀ flow ∈ flows, phase' flow = phase flow) :
    recordsOf phase' flows = recordsOf phase flows := by
  apply List.filterMap_congr
  intro flow hmem
  rw [hsame flow hmem]

/-- A queue is visited as often as it has flows left to visit: the ones taken out become the bottom of
the spare queue, the others stand behind those that were visited before. -/
theorem sweepQueue (h : engine.AmongHolders busy lineup phase) (manager : Manager)
    (reason : ReleaseReason) (clock : PacketClock) (pending visited : List FlowId)
    (hflows : lineup.flows state.queue = pending ++ visited) (harvest : Harvest) :
    ∃ engine' lineup',
      (manager.sweepQueue reason clock.now state pending.length harvest).run engine
        = .ok (harvest.visiting busy pending (recordsOf phase
          (pending.filter (manager.takes reason clock busy phase)))) engine'
      ∧ engine'.AmongHolders busy lineup'
        (Phase.spared phase (pending.filter (manager.takes reason clock busy phase)))
      ∧ lineup'.flows state.queue
        = visited ++ pending.filter (fun flow => !manager.takes reason clock busy phase flow)
      ∧ lineup'.flows spareQueue = (pending.filter (manager.takes reason clock busy phase)).reverse
        ++ lineup.flows spareQueue
      ∧ (∀ state', state' ≠ state → lineup'.flows state'.queue = lineup.flows state'.queue)
      ∧ engine.SameReports engine' := by
  induction pending generalizing engine lineup phase visited harvest with
  | nil =>
    refine ⟨engine, lineup, rfl, ?_, ?_, rfl, fun _ _ => rfl, rfl, rfl, rfl⟩
    · rw [List.filter_nil, Phase.spared_nil]
      exact h
    · rw [hflows, List.filter_nil, List.nil_append, List.append_nil]
  | cons flow pending ih =>
    have hnodup := (h.agrees.represents.chain state.queue).nodup
    rw [hflows] at hnodup
    have hnot : flow ∉ pending := fun hmem =>
      (List.nodup_cons.1 hnodup).1 (List.mem_append_left _ hmem)
    cases htakes : manager.takes reason clock busy phase flow with
    | false =>
      obtain ⟨engine', hrun, h', hsame⟩ := h.visit_stays hflows htakes
      have hplace : (lineup.place state.queue ((pending ++ visited) ++ [flow])).flows state.queue
          = pending ++ (visited ++ [flow]) := by
        rw [Lineup.flows_place_self, List.append_assoc]
      obtain ⟨engine'', lineup'', hrun', h'', hqueue, hspare, hother, hsame'⟩ :=
        ih h' (visited ++ [flow]) hplace { harvest with
          examined := harvest.examined + 1
          busy := if busy flow then harvest.busy + 1 else harvest.busy }
      rw [Harvest.visiting_stays] at hrun'
      rw [List.filter_cons_of_neg (by simp [htakes])]
      refine ⟨engine'', lineup'', ?_, h'', ?_, ?_, ?_, hsame.trans hsame'⟩
      · rw [← hrun']
        cases hbusy : busy flow <;> rw [hbusy] at hrun <;>
          simp only [List.length_cons, Manager.sweepQueue, run_bind, hrun] <;> rfl
      · rw [hqueue, List.filter_cons_of_pos (by simp [htakes]), List.append_assoc]
        rfl
      · rw [hspare, Lineup.flows_place_of_ne _ state.queue_ne_spare.symm]
      · intro state' hne
        rw [hother state' hne,
          Lineup.flows_place_of_ne _ fun hq => hne (FlowState.queue_injective hq)]
    | true =>
      obtain ⟨engine', lineup', record, hrecord, hrun, h', hrest, hspare, hother, hsame⟩ :=
        h.visit_takes hflows htakes
      obtain ⟨engine'', lineup'', hrun', h'', hqueue, hspare', hother', hsame'⟩ :=
        ih h' visited hrest
          ⟨harvest.examined + 1, harvest.busy, record :: harvest.records⟩
      have hapart : ∀ flow' ∈ pending, Function.update phase flow .spare flow' = phase flow' :=
        fun flow' hmem => Function.update_of_ne (ne_of_mem_of_not_mem hmem hnot) ..
      have hfree : busy flow = false := Manager.free_of_takes htakes
      rw [takes_congr hapart,
        recordsOf_congr fun flow' hmem => hapart flow' (List.mem_of_mem_filter hmem),
        Harvest.visiting_takes harvest hfree] at hrun'
      rw [takes_congr hapart, Phase.spared_update] at h''
      rw [takes_congr hapart, hspare] at hspare'
      rw [stays_congr hapart] at hqueue
      rw [List.filter_cons_of_pos htakes]
      refine ⟨engine'', lineup'', ?_, h'', ?_, ?_, ?_, hsame.trans hsame'⟩
      · rw [recordsOf_cons hrecord, ← hrun']
        simp only [List.length_cons, Manager.sweepQueue, run_bind, hrun]
        rfl
      · rw [hqueue, List.filter_cons_of_neg (by simp [htakes])]
      · rw [hspare', List.reverse_cons, List.append_assoc]
        rfl
      · intro state' hne
        rw [hother' state' hne, hother state' hne]

/-! ### All queues -/

def members (lineup : Lineup 1 4) (states : List FlowState) : List FlowId :=
  states.flatMap fun state => lineup.flows state.queue

theorem members_cons (lineup : Lineup 1 4) (state : FlowState) (states : List FlowState) :
    members lineup (state :: states) = lineup.flows state.queue ++ members lineup states :=
  List.flatMap_cons ..

/-- The slots that leave are deleted from the queues of some states, and have become the bottom of the
spare queue one after the other. -/
structure Sheds (lineup lineup' : Lineup 1 4) (states : List FlowState) (leaves : FlowId → Bool) :
    Prop where
  swept_eq : ∀ state ∈ states, lineup'.flows state.queue
    = (lineup.flows state.queue).filter fun flow => !leaves flow
  other_eq : ∀ state, state ∉ states → lineup'.flows state.queue = lineup.flows state.queue
  spare_eq : lineup'.flows spareQueue
    = ((members lineup states).filter leaves).reverse ++ lineup.flows spareQueue

theorem sweepQueues (h : engine.AmongHolders busy lineup phase) (manager : Manager)
    (reason : ReleaseReason) (clock : PacketClock) (states : List FlowState)
    (hnodup : states.Nodup) (harvest : Harvest) :
    ∃ engine' lineup',
      (manager.sweepQueues reason clock.now states harvest).run engine
        = .ok (harvest.visiting busy (members lineup states) (recordsOf phase
          ((members lineup states).filter (manager.takes reason clock busy phase)))) engine'
      ∧ engine'.AmongHolders busy lineup' (Phase.spared phase
        ((members lineup states).filter (manager.takes reason clock busy phase)))
      ∧ Sheds lineup lineup' states (manager.takes reason clock busy phase)
      ∧ engine.SameReports engine' := by
  induction states generalizing engine lineup phase harvest with
  | nil =>
    refine ⟨engine, lineup, rfl, ?_, ⟨?_, fun _ _ => rfl, rfl⟩, rfl, rfl, rfl⟩
    · rw [members, List.flatMap_nil, List.filter_nil, Phase.spared_nil]
      exact h
    · intro state hmem
      cases hmem
  | cons state states ih =>
    obtain ⟨hnot, hnodup⟩ := List.nodup_cons.1 hnodup
    obtain ⟨engine', lineup', hrun, h', hqueue, hspare, hother, hsame⟩ :=
      h.sweepQueue manager reason clock (lineup.flows state.queue) [] (List.append_nil _).symm
        harvest
    obtain ⟨engine'', lineup'', hrun', h'', hsheds, hsame'⟩ := ih h' hnodup
      (harvest.visiting busy (lineup.flows state.queue) (recordsOf phase
        ((lineup.flows state.queue).filter (manager.takes reason clock busy phase))))
    have hsame_flows : ∀ state' ∈ states, lineup'.flows state'.queue = lineup.flows state'.queue :=
      fun state' hmem => hother state' (ne_of_mem_of_not_mem hmem hnot)
    have hmembers : members lineup' states = members lineup states :=
      List.flatMap_congr hsame_flows
    -- what the first queue has lost is in none of the later queues
    have hapart : ∀ flow ∈ members lineup states, Phase.spared phase ((lineup.flows state.queue).filter
        (manager.takes reason clock busy phase)) flow = phase flow := by
      intro flow hmem
      obtain ⟨state', hstate', hmem⟩ := List.mem_flatMap.1 hmem
      apply if_neg
      intro hmem'
      have hq := (h.agrees.mem_iff ..).1 hmem
      rw [(h.agrees.mem_iff ..).1 (List.mem_of_mem_filter hmem')] at hq
      exact hnot (FlowState.queue_injective (Option.some.inj hq) ▸ hstate')
    rw [hmembers, takes_congr hapart,
      recordsOf_congr fun flow hmem => hapart flow (List.mem_of_mem_filter hmem),
      Harvest.visiting_append] at hrun'
    rw [hmembers, takes_congr hapart, Phase.spared_append, ← List.filter_append] at h''
    have hspare' := hsheds.spare_eq
    rw [hmembers, takes_congr hapart, hspare] at hspare'
    rw [members_cons]
    refine ⟨engine'', lineup'', ?_, h'', ⟨?_, ?_, ?_⟩, hsame.trans hsame'⟩
    · have hbottom := run_onQueues engine (QueueM.run_queue state.queue)
      rw [List.filter_append, recordsOf, List.filterMap_append, ← recordsOf, ← recordsOf, ← hrun']
      simp only [Manager.sweepQueues, run_bind, hbottom,
        (h.agrees.represents.chain state.queue).length_eq, withQueues_self, hrun]
    · intro state' hmem
      rcases List.mem_cons.1 hmem with rfl | hmem
      · rw [hsheds.other_eq state' hnot, hqueue, List.nil_append]
      · rw [hsheds.swept_eq state' hmem, ← hsame_flows state' hmem]
        apply stays_congr
        intro flow hflow
        apply hapart
        rw [← hmembers]
        exact List.mem_flatMap.2 ⟨state', hmem, hflow⟩
    · intro state' hnot'
      rw [List.mem_cons, not_or] at hnot'
      rw [hsheds.other_eq state' hnot'.2, hother state' hnot'.1]
    · rw [hspare', members_cons, List.filter_append, List.reverse_append, List.append_assoc]

/-! ### Handing over -/

def exporting (engine : Engine) (flows : List ReleasedFlow) : Engine :=
  { engine with
    totals := flows.foldl (fun totals flow => totals.countReleased flow.reason) engine.totals
    exported := engine.exported ++ flows.toArray }

theorem run_releaseAll_takes (flows : List ReleasedFlow) (engine : Engine)
    (htakes : manager.exporter.Takes (engine.exported.size + flows.length)) :
    (manager.releaseAll flows).run engine = .ok () (exporting engine flows) := by
  induction flows generalizing engine with
  | nil => simp [Manager.releaseAll, exporting]
  | cons flow flows ih =>
    rw [List.length_cons] at htakes
    have hrest := ih { engine with
        totals := engine.totals.countReleased flow.reason
        exported := engine.exported.push flow } (by
      rw [Array.size_push]
      exact htakes.mono (by omega))
    cases hlimit : manager.exporter.limit with
    | none =>
      simp only [Manager.releaseAll, run_bind, Manager.release, run_modifyTotals, hlimit, run_modify,
        hrest]
      simp [exporting]
    | some limit =>
      have hroom : engine.exported.size < limit := Nat.lt_of_lt_of_le (by omega) (htakes limit hlimit)
      simp only [Manager.releaseAll, run_bind, Manager.release, run_modifyTotals, hlimit, run_get,
        hroom, if_true, run_modify, hrest]
      simp [exporting]

theorem run_releaseAll_unlimited (hlimit : manager.exporter.limit = none)
    (flows : List ReleasedFlow) (engine : Engine) :
    (manager.releaseAll flows).run engine = .ok () (exporting engine flows) :=
  run_releaseAll_takes flows engine (Exporter.takes_of_unlimited hlimit _)

/-- Handing flows over touches neither table nor queues, and fails only where the exporter does. -/
theorem run_releaseAll (manager : Manager) (flows : List ReleasedFlow) (engine : Engine) :
    ∃ engine', engine'.table = engine.table ∧ engine'.queues = engine.queues
      ∧ engine'.clock = engine.clock
      ∧ ((manager.releaseAll flows).run engine = .ok () engine'
        ∨ (manager.releaseAll flows).run engine = .error .exporter engine'
          ∧ manager.exporter.limit ≠ none) := by
  cases hlimit : manager.exporter.limit with
  | none =>
    exact ⟨exporting engine flows, rfl, rfl, rfl,
      Or.inl (run_releaseAll_unlimited hlimit flows engine)⟩
  | some limit =>
    induction flows generalizing engine with
    | nil => exact ⟨engine, rfl, rfl, rfl, Or.inl rfl⟩
    | cons flow flows ih =>
      by_cases hroom : engine.exported.size < limit
      · obtain ⟨engine', htable, hqueues, hclock, hrun⟩ := ih { engine with
          totals := engine.totals.countReleased flow.reason
          exported := engine.exported.push flow }
        refine ⟨engine', htable, hqueues, hclock, ?_⟩
        simpa only [Manager.releaseAll, run_bind, Manager.release, run_modifyTotals, hlimit,
          run_get, hroom, if_true, run_modify] using hrun
      · refine ⟨{ engine with totals := engine.totals.countReleased flow.reason }, rfl, rfl, rfl,
          Or.inr ⟨?_, by simp⟩⟩
        simp only [Manager.releaseAll, run_bind, Manager.release, run_modifyTotals, hlimit,
          run_get, hroom, if_false, run_throw]

/-! ### Sweeps -/

def swept (manager : Manager) (reason : ReleaseReason) (clock : PacketClock)
    (busy : FlowId → Bool) (lineup : Lineup 1 4) (phase : FlowId → Phase) : List FlowId :=
  (members lineup FlowState.all).filter (manager.takes reason clock busy phase)

def released (reason : ReleaseReason) (phase : FlowId → Phase) (flows : List FlowId) :
    List ReleasedFlow :=
  (recordsOf phase flows).map (ReleasedFlow.mk reason)

def finish (manager : Manager) (reason : ReleaseReason) (clock : PacketClock) (harvest : Harvest)
    (flows : List ReleasedFlow) : EngineM Sweep := do
  manager.releaseAll flows
  report (.swept reason clock harvest.examined harvest.busy flows.length)
  return ⟨harvest.examined, harvest.busy, flows.length⟩

theorem run_finish {harvest : Harvest} {flows : List ReleasedFlow}
    (hrelease : (manager.releaseAll flows).run engine = .ok () engine') :
    (finish manager reason clock harvest flows).run engine
      = .ok ⟨harvest.examined, harvest.busy, flows.length⟩ { engine' with
          log := engine'.log.push
            (.swept reason clock harvest.examined harvest.busy flows.length) } := by
  simp only [finish, run_bind, hrelease, run_report, run_pure]

/-- A sweep comes to the point where it hands over the flows that it has taken. -/
theorem run_sweep (h : engine.AmongHolders busy lineup phase) (manager : Manager)
    (reason : ReleaseReason) :
    ∃ engine' lineup',
      engine'.AmongHolders busy lineup'
        (Phase.spared phase (swept manager reason engine.clock busy lineup phase))
      ∧ Sheds lineup lineup' FlowState.all (manager.takes reason engine.clock busy phase)
      ∧ engine.SameReports engine'
      ∧ (manager.sweep reason).run engine = (finish manager reason engine.clock
          (Harvest.empty.visiting busy (members lineup FlowState.all)
            (recordsOf phase (swept manager reason engine.clock busy lineup phase)))
          (released reason phase (swept manager reason engine.clock busy lineup phase))).run
          engine' := by
  obtain ⟨engine', lineup', hrun, h', hsheds, hsame⟩ :=
    h.sweepQueues manager reason engine.clock FlowState.all (by decide) .empty
  refine ⟨engine', lineup', h', hsheds, hsame, ?_⟩
  rw [← swept] at hrun
  have hrecords : (Harvest.empty.visiting busy (members lineup FlowState.all) (recordsOf phase
      (swept manager reason engine.clock busy lineup phase))).records.reverse
      = recordsOf phase (swept manager reason engine.clock busy lineup phase) := by
    simp only [Harvest.visiting, Harvest.empty, List.append_nil, List.reverse_reverse]
  simp only [Manager.sweep, run_bind, run_get, hrun, hrecords]
  rfl

/-- A sweep comes to its end unless the exporter fails, and what it has taken is spare. -/
theorem sweep (h : engine.AmongHolders busy lineup phase) (manager : Manager)
    (reason : ReleaseReason) :
    ∃ engine' lineup', engine'.AmongHolders busy lineup'
        (Phase.spared phase (swept manager reason engine.clock busy lineup phase))
      ∧ engine'.clock = engine.clock
      ∧ ((∃ result, (manager.sweep reason).run engine = .ok result engine')
        ∨ (manager.sweep reason).run engine = .error .exporter engine'
          ∧ manager.exporter.limit ≠ none) := by
  obtain ⟨engine₁, lineup', h₁, -, hsame, hrun⟩ := h.run_sweep manager reason
  generalize Harvest.visiting _ _ _ _ = harvest at hrun
  obtain ⟨engine₂, htable, hqueues, hclock, hrelease | ⟨hrelease, hlimit⟩⟩ := run_releaseAll manager
    (released reason phase (swept manager reason engine.clock busy lineup phase)) engine₁
  · generalize released reason phase (swept manager reason engine.clock busy lineup phase) = flows
      at hrun hrelease
    refine ⟨{ engine₂ with
        log := engine₂.log.push (.swept reason engine.clock harvest.examined harvest.busy
          flows.length) },
      lineup', h₁.congr htable hqueues, hclock.trans hsame.clock_eq,
      Or.inl ⟨⟨harvest.examined, harvest.busy, flows.length⟩, hrun.trans (run_finish hrelease)⟩⟩
  · refine ⟨engine₂, lineup', h₁.congr htable hqueues, hclock.trans hsame.clock_eq,
      Or.inr ⟨?_, hlimit⟩⟩
    rw [hrun]
    simp only [finish, run_bind, hrelease]

/-- Every slot that is taken out has a record. -/
theorem map_record_swept (manager : Manager) (reason : ReleaseReason) (clock : PacketClock)
    (busy : FlowId → Bool) (lineup : Lineup 1 4) (phase : FlowId → Phase) :
    (swept manager reason clock busy lineup phase).map (fun flow => (phase flow).record)
      = (recordsOf phase (swept manager reason clock busy lineup phase)).map some := by
  apply map_record
  intro flow hmem
  have htakes := (List.mem_filter.1 hmem).2
  rw [Manager.takes, Bool.and_eq_true] at htakes
  exact Option.isSome_of_any htakes.2

theorem length_released (manager : Manager) (reason : ReleaseReason) (clock : PacketClock)
    (busy : FlowId → Bool) (lineup : Lineup 1 4) (phase : FlowId → Phase) :
    (released reason phase (swept manager reason clock busy lineup phase)).length
      = (swept manager reason clock busy lineup phase).length := by
  have hlength := congrArg List.length (map_record_swept manager reason clock busy lineup phase)
  rw [List.length_map, List.length_map] at hlength
  rw [released, List.length_map, hlength]

/-- A sweep hands over what it has taken and answers how many slots it has met, if the exporter takes
it all. -/
theorem sweep_answers (h : engine.AmongHolders busy lineup phase) {manager : Manager}
    {reason : ReleaseReason} (htakes : manager.exporter.Takes (engine.exported.size
      + (swept manager reason engine.clock busy lineup phase).length)) :
    ∃ engine' lineup', engine'.AmongHolders busy lineup'
        (Phase.spared phase (swept manager reason engine.clock busy lineup phase))
      ∧ Sheds lineup lineup' FlowState.all (manager.takes reason engine.clock busy phase)
      ∧ engine'.clock = engine.clock
      ∧ engine'.totals = (released reason phase
          (swept manager reason engine.clock busy lineup phase)).foldl
            (fun totals flow => totals.countReleased flow.reason) engine.totals
      ∧ engine'.exported = engine.exported ++ (released reason phase
          (swept manager reason engine.clock busy lineup phase)).toArray
      ∧ (manager.sweep reason).run engine = .ok ⟨(members lineup FlowState.all).length,
          (members lineup FlowState.all).countP busy,
          (swept manager reason engine.clock busy lineup phase).length⟩ engine' := by
  obtain ⟨engine₁, lineup', h₁, hsheds, hsame, hrun⟩ := h.run_sweep manager reason
  have hlength := length_released manager reason engine.clock busy lineup phase
  rw [← hlength, ← hsame.exported_eq] at htakes
  generalize released reason phase (swept manager reason engine.clock busy lineup phase) = flows
    at hrun hlength htakes ⊢
  have hrelease := run_releaseAll_takes flows engine₁ htakes
  have hfinish := hrun.trans (run_finish hrelease)
  simp only [Harvest.visiting, Harvest.empty, Nat.zero_add, hlength] at hfinish
  refine ⟨_, lineup', h₁.congr ?_ ?_, hsheds, ?_, ?_, ?_, hfinish⟩
  · rfl
  · rfl
  · exact hsame.clock_eq
  · rw [← hsame.totals_eq]
    rfl
  · rw [← hsame.exported_eq]
    rfl

theorem sweep_unlimited (h : engine.AmongHolders busy lineup phase) {manager : Manager}
    (hlimit : manager.exporter.limit = none) (reason : ReleaseReason) :
    ∃ engine' lineup' result, engine'.AmongHolders busy lineup'
        (Phase.spared phase (swept manager reason engine.clock busy lineup phase))
      ∧ engine'.clock = engine.clock
      ∧ engine'.totals = (released reason phase
          (swept manager reason engine.clock busy lineup phase)).foldl
            (fun totals flow => totals.countReleased flow.reason) engine.totals
      ∧ engine'.exported = engine.exported ++ (released reason phase
          (swept manager reason engine.clock busy lineup phase)).toArray
      ∧ (manager.sweep reason).run engine = .ok result engine' := by
  obtain ⟨engine', lineup', h', -, hclock, htotals, hexported, hrun⟩ :=
    h.sweep_answers (Exporter.takes_of_unlimited hlimit _)
  exact ⟨engine', lineup', _, h', hclock, htotals, hexported, hrun⟩

end AmongHolders

/-! ### Flushes -/

variable {engine engine' : Engine} {fault : Fault} {result : Sweep}

/-- A flush is a shutdown sweep and some reports. -/
theorem run_flush {manager : Manager}
    (hsweep : (manager.sweep .shutdown).run engine = .ok result engine') :
    ∃ log, manager.flush.run engine = .ok () { engine' with log } := by
  simp only [Manager.flush, run_bind, hsweep, run_get]
  split
  · cases manager.exporter.shutdownError with
    | none => exact ⟨_, rfl⟩
    | some error => exact ⟨_, rfl⟩
  · cases manager.exporter.shutdownError with
    | none => exact ⟨_, rfl⟩
    | some error => exact ⟨_, rfl⟩

theorem run_flush_error {manager : Manager}
    (hsweep : (manager.sweep .shutdown).run engine = .error fault engine') :
    manager.flush.run engine = .error fault engine' := by
  simp only [Manager.flush, run_bind, hsweep]

end Engine

end FlowTracker
