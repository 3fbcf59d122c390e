import FlowTracker.Proofs.Engine.Tallies

/-!
# Which flows a sweep releases

A sweep releases the flows that are due (`Engine.due`), and no others: nobody holds their payload locks,
and it is a shutdown, or the latest packet came later than the timeout after the last arrival that their
record counts.  What it leaves behind is told for the lists of all queues at once (`Engine.Releases`).
-/

namespace FlowTracker

/-- Whether a sweep releases a flow of this state, when the last arrival of the flow came at `last` and
the latest packet at `now`, in microseconds. -/
def Manager.expires (manager : Manager) (reason : ReleaseReason) (now last : Nat)
    (state : FlowState) : Bool :=
  match reason with
  | .shutdown => true
  | .timeout => decide ((manager.timeouts.of state).toNanos < (now - last) * 1000)

theorem Manager.releases_eq_expires (manager : Manager) (reason : ReleaseReason) (now : Nat)
    (record : FlowRecord) : manager.releases reason now record
      = manager.expires reason now record.lastSeen.micros record.state := by
  cases reason with
  | timeout => rfl
  | shutdown => rfl

theorem FlowState.eq_spare_or_queue (q : QueueIndex) :
    q = spareQueue ∨ ∃ state ∈ FlowState.all, q = FlowState.queue state := by
  revert q
  decide

namespace Engine

/-- A sweep at the packet time `now` has to release what is in a slot, as far as the arrivals tell that
were counted of its conversation. -/
def due (engine : Engine) (manager : Manager) (reason : ReleaseReason) (busy : FlowId → Bool)
    (now : Nat) (counted : FlowKey → List Arrival) (flow : FlowId) : Bool :=
  !busy flow && (engine.table.recordAt flow).any fun record =>
    manager.expires reason now (Timestamp.latest ((counted record.key).map Arrival.time)) record.state

/-- The flows that a sweep visits: the new ones, the established ones and the closed ones, each from the
bottom of their queue to the top. -/
def visits (flows : QueueIndex → List FlowId) : List FlowId :=
  FlowState.all.flatMap fun state => flows state.queue

/-- The queues after some flows have left theirs and have been put below the spare ones, one after the
other. -/
def shed (flows : QueueIndex → List FlowId) (leaves : FlowId → Bool) (q : QueueIndex) :
    List FlowId :=
  if q = spareQueue then ((visits flows).filter leaves).reverse ++ flows spareQueue
  else (flows q).filter fun flow => !leaves flow

structure Releases (engine engine' : Engine) (capacity : Nat) (flows : QueueIndex → List FlowId)
    (reason : ReleaseReason) (leaves : FlowId → Bool) : Prop where
  consistent : engine'.Consistent capacity (shed flows leaves)
  record_eq : ∀ flow, engine'.table.recordAt flow
    = if leaves flow then none else engine.table.recordAt flow
  held_eq : ∀ flow, flow < capacity → engine'.table.heldAt flow = engine.table.heldAt flow
  exported_eq : ∃ records : List FlowRecord,
    ((visits flows).filter leaves).map engine.table.recordAt = records.map some
      ∧ engine'.exported = engine.exported ++ (records.map (ReleasedFlow.mk reason)).toArray
  clock_eq : engine'.clock = engine.clock

variable {engine : Engine} {busy : FlowId → Bool} {lineup lineup' : Lineup 1 4}
  {phase : FlowId → Phase} {manager : Manager} {reason : ReleaseReason}

namespace AmongHolders

theorem Sheds.flows_eq {leaves : FlowId → Bool} (h : Sheds lineup lineup' FlowState.all leaves) :
    lineup'.flows = shed lineup.flows leaves := by
  funext q
  unfold shed
  rcases FlowState.eq_spare_or_queue q with rfl | ⟨state, hmem, rfl⟩
  · rw [if_pos rfl]
    exact h.spare_eq
  · rw [if_neg state.queue_ne_spare]
    exact h.swept_eq state hmem

/-- A sweep releases what it takes, if the exporter takes it too. -/
theorem sweep_releases (h : engine.AmongHolders busy lineup phase)
    (htakes : manager.exporter.Takes (engine.exported.size
      + (swept manager reason engine.clock busy lineup phase).length)) :
    ∃ engine', (manager.sweep reason).run engine = .ok ⟨engine.tracked,
        (visits lineup.flows).countP busy,
        (swept manager reason engine.clock busy lineup phase).length⟩ engine'
      ∧ engine.Releases engine' engine.table.capacity lineup.flows reason
        (manager.takes reason engine.clock busy phase) := by
  obtain ⟨engine', lineup', h', hsheds, hclock, -, hexported, hrun⟩ := h.sweep_answers htakes
  have hcapacity := h.agrees.capacity_congr h'.agrees h.swept_inside
  have hconsistent := h'.consistent hcapacity
  rw [hsheds.flows_eq] at hconsistent
  refine ⟨engine', ?_, hconsistent, ?_, ?_, ?_, hclock⟩
  · rw [h.tracked_eq]
    exact hrun
  · intro flow
    rw [h'.agrees.record_eq, h.agrees.record_eq]
    unfold Phase.spared
    by_cases hmem : flow ∈ swept manager reason engine.clock busy lineup phase
    · rw [if_pos hmem, if_pos (h.mem_swept_iff.1 hmem)]
      rfl
    · rw [if_neg hmem, if_neg fun htakes => hmem (h.mem_swept_iff.2 htakes)]
  · intro flow hlt
    have hin := (h.agrees.inside_iff flow).2 hlt
    rw [h.held flow hin]
    exact h'.held flow fun hout => hin ((h.swept_inside flow).1 hout)
  · refine ⟨_, ?_, hexported⟩
    rw [← map_record_swept]
    exact List.map_congr_left fun flow _ => h.agrees.record_eq flow

end AmongHolders

/-- What a sweep takes is what is due. -/
theorem Tallies.takes_eq_due {handled : List Packet} {counted : FlowKey → List Arrival}
    (h : engine.Tallies phase handled counted) (hrest : engine.AtRest lineup phase)
    (hnormal : ∀ packet ∈ handled, packet.time.IsNormal) :
    manager.takes reason engine.clock busy phase = engine.due manager reason busy
      (Timestamp.latest (handled.map Packet.time)) counted := by
  funext flow
  unfold Manager.takes due
  rw [hrest.agrees.record_eq]
  cases hrecord : (phase flow).record with
  | none => rw [Option.any_none, Option.any_none]
  | some record =>
    have hcounts := h.counts flow record ((hrest.settled flow).eq_tracked hrecord)
    have htimes : ∀ arrival ∈ counted record.key, arrival.time.IsNormal := by
      intro arrival hmem
      obtain ⟨packet, hpacket, harrival⟩ := h.handled_of_mem record.key arrival hmem
      rw [Packet.time_of_arrival harrival]
      exact hnormal packet hpacket
    have hlast := (hcounts.lastSeen_eq htimes).2
    rw [Option.any_some, Option.any_some, Manager.releases_eq_expires, h.clock_eq, hlast]

/-- Whatever packets, sweeps and flushes a fresh engine has seen, its records count the arrivals of their
conversations, and a sweep visits every tracked flow once and releases those that are due, whichever
payload locks others hold meanwhile. -/
theorem performAll_sweep_exact {capacity : Nat} (h : capacity < QueueStore.handleLimit)
    (calls : List EngineCall)
    (htimes : ∀ packet ∈ EngineCall.packets calls, packet.time.IsNormal ∧ packet.time.Fits) :
    ∃ engine flows, fresh capacity = .ok engine ∧
      let reached := engine.performAll calls
      let counted := fun key => tally key engine calls []
      let now := Timestamp.latest ((EngineCall.packets calls).map Packet.time)
      reached.Consistent capacity flows ∧
      (∀ flow record, reached.table.recordAt flow = some record →
        record.Counts (counted record.key)) ∧
      ∀ (manager : Manager) (reason : ReleaseReason) (busy : FlowId → Bool),
        let leaves := reached.due manager reason busy now counted
        let leaving := (visits flows).filter leaves
        manager.exporter.Takes (reached.exported.size + leaving.length) →
        ∃ engine', (manager.sweep reason).run (reached.withHolders busy)
            = .ok ⟨reached.tracked, (visits flows).countP busy, leaving.length⟩ engine'
          ∧ (reached.withHolders busy).Releases engine' capacity flows reason leaves := by
  obtain ⟨engine, lineup, hfresh, hrest, hcapacity, hclock, -⟩ := fresh_atRest h
  obtain ⟨lineup', phase, hrest', hsame, htallies⟩ := (Tallies.start capacity hclock).performAll hrest
    fun packet hmem => (htimes packet hmem).2
  rw [List.nil_append] at htallies
  have hreached : (engine.performAll calls).table.capacity = capacity :=
    (hrest.agrees.capacity_congr hrest'.agrees hsame).trans hcapacity
  refine ⟨engine, lineup'.flows, hfresh, hrest'.consistent hreached, ?_, ?_⟩
  · intro flow record hrecord
    rw [hrest'.agrees.record_eq] at hrecord
    exact htallies.counts flow record ((hrest'.settled flow).eq_tracked hrecord)
  · intro manager reason busy leaves leaving htakes
    have hheld := hrest'.withHolders busy
    have hleaves : manager.takes reason (engine.performAll calls).clock busy phase = leaves :=
      htallies.takes_eq_due hrest' fun packet hmem => (htimes packet hmem).1
    have hleaving : AmongHolders.swept manager reason (engine.performAll calls).clock busy lineup'
        phase = leaving := congrArg (fun p => (visits lineup'.flows).filter p) hleaves
    rw [← hleaving] at htakes
    obtain ⟨engine', hrun, hreleases⟩ := hheld.sweep_releases htakes
    refine ⟨engine', ?_, ?_⟩
    · rw [← hleaving]
      exact hrun
    · rw [← hleaves, ← hreached, ← FlowTable.capacity_withHolders _ busy]
      exact hreleases

/-- Two slots after a packet of a flow, a packet that cannot be read but moves the clock, and a sweep
that meets the flow held. -/
theorem performAll_sweep_exact_of_two :
    let manager : Manager := ⟨⟨⟨5, 0⟩, ⟨5, 0⟩, ⟨5, 0⟩⟩, .reliable⟩
    let busy : FlowId → Bool := fun flow => flow == 0
    let calls : List EngineCall := [.process ⟨0⟩ (.bareAt 1), .process ⟨0⟩ ⟨⟨9, 0⟩, [0]⟩,
      .sweep manager .timeout busy]
    (∀ packet ∈ EngineCall.packets calls, packet.time.IsNormal ∧ packet.time.Fits) ∧
    ∃ engine flows result engine', fresh 2 = .ok engine ∧
      (manager.sweep .timeout).run ((engine.performAll calls).withHolders fun flow => flow == 1)
        = .ok result engine' ∧
      ((engine.performAll calls).withHolders fun flow => flow == 1).Releases engine' 2 flows .timeout
        ((engine.performAll calls).due manager .timeout (fun flow => flow == 1) 9000000
          fun key => tally key engine calls []) := by
  intro manager busy calls
  have htimes : ∀ packet ∈ EngineCall.packets calls, packet.time.IsNormal ∧ packet.time.Fits := by
    decide
  obtain ⟨engine, flows, hfresh, -, -, hsweep⟩ :=
    performAll_sweep_exact (by decide : 2 < QueueStore.handleLimit) calls htimes
  have hnow : Timestamp.latest ((EngineCall.packets calls).map Packet.time) = 9000000 := by decide
  obtain ⟨engine', hrun, hreleases⟩ := hsweep manager .timeout (fun flow => flow == 1)
    (Exporter.takes_of_unlimited rfl _)
  rw [hnow] at hreleases
  exact ⟨htimes, engine, flows, _, engine', hfresh, hrun, hreleases⟩

end Engine

end FlowTracker
