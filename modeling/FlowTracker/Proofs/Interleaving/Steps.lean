import FlowTracker.Proofs.Interleaving.Ledger

/-!
# Every step keeps a system in order

A step of a party comes to its end, unless it waits for a payload lock, and leaves a system that is
sound and balanced again (`System.Advances`).  There is one lemma for each stage; the first section has
the kinds of steps that most of them are.
-/

namespace FlowTracker.System

open EStateM Engine

variable {n : Nat}

def InOrder (system : System n) : Prop :=
  ∃ lineup phase ledger, system.Sound lineup phase ∧ system.Balanced phase ledger

/-- The next step of the party comes to its end and leaves a system in order. -/
def Advances (system : System n) (party : Fin n) : Prop :=
  ∃ next engine', ((system.stage party).advance ⟨party⟩).run system.engine = .ok next engine'
    ∧ engine'.table.capacity = system.engine.table.capacity
    ∧ engine'.totals.packets = system.engine.totals.packets
    ∧ (system.become party engine' next).InOrder

def HasRoom (system : System n) : Prop :=
  system.arrived.card < Word.count ∧ Arrival.octets system.arrived < Word.count

namespace Sound

variable {system : System n} {lineup lineup' : Lineup 1 4} {phase : FlowId → Phase}
  {ledger : Ledger} {party : Fin n} {stage : Stage} {flow : FlowId}
  {arrival : Arrival} {record : FlowRecord} {old new : Phase}

theorem suits_of (h : system.Sound lineup phase) (hstage : system.stage party = stage) :
    stage.Suits phase := hstage ▸ h.suits party

/-! ### Kinds of steps -/

/-- A step that changes at most the order in a queue. -/
theorem turning (h : system.Sound lineup phase) (hb : system.Balanced phase ledger)
    (hstage : system.stage party = stage) (engine' : Engine) (next : Stage)
    (hrun : (stage.advance ⟨party⟩).run system.engine = .ok next engine')
    (hagrees : Agrees engine'.table engine'.queues lineup' phase)
    (htable : engine'.table = system.engine.table)
    (hexported : engine'.exported = system.engine.exported)
    (hintake : engine'.totals.intake = system.engine.totals.intake)
    (hsuits : next.Suits phase) (hhand : next.hand = stage.hand) (hlock : next.lock = stage.lock)
    (harrival : next.arrival = stage.arrival) (hpending : next.pending = stage.pending) :
    system.Advances party := by
  subst hstage
  refine ⟨next, engine', hrun, congrArg _ htable, congrArg Prod.fst hintake, lineup', phase, ledger,
    ?_, ?_⟩
  · exact h.stay hagrees (fun flow => by rw [htable]) hsuits hhand hlock
  · exact hb.keep (fun _ => rfl) (congrArg _ htable) hexported hintake harrival (by rw [hpending])

/-- A step that changes neither table nor queues. -/
theorem quiet (h : system.Sound lineup phase) (hb : system.Balanced phase ledger)
    (hstage : system.stage party = stage) (engine' : Engine) (next : Stage)
    (hrun : (stage.advance ⟨party⟩).run system.engine = .ok next engine')
    (htable : engine'.table = system.engine.table) (hqueues : engine'.queues = system.engine.queues)
    (hexported : engine'.exported = system.engine.exported)
    (hintake : engine'.totals.intake = system.engine.totals.intake)
    (hsuits : next.Suits phase) (hhand : next.hand = stage.hand) (hlock : next.lock = stage.lock)
    (harrival : next.arrival = stage.arrival) (hpending : next.pending = stage.pending) :
    system.Advances party := by
  subst hstage
  have hagrees : Agrees engine'.table engine'.queues lineup phase := by
    rw [htable, hqueues]
    exact h.agrees
  exact h.turning hb rfl engine' next hrun hagrees htable hexported hintake hsuits hhand hlock
    harrival hpending

/-- A step that takes a payload lock that is free. -/
theorem locking (h : system.Sound lineup phase) (hb : system.Balanced phase ledger)
    (hstage : system.stage party = stage) (next : Stage)
    (hwants : stage.wants = some flow)
    (hfree : system.engine.table.heldAt flow = false)
    (hrun : (Engine.lock flow).run system.engine = .ok () (system.engine.withHeld flow true) →
      (stage.advance ⟨party⟩).run system.engine
        = .ok next (system.engine.withHeld flow true))
    (hnone : stage.lock = none) (hlock : next.lock = some flow)
    (hsuits : next.Suits phase) (hhand : next.hand = stage.hand)
    (harrival : next.arrival = stage.arrival) (hpending : next.pending = stage.pending) :
    system.Advances party := by
  subst hstage
  have hin := (h.suits party).wants_inside hwants
  have hcapacity : (system.engine.withHeld flow true).table.capacity
      = system.engine.table.capacity := FlowTable.capacity_setHeld ..
  refine ⟨next, _, hrun (run_lock (h.agrees.lt_size hin) hfree), hcapacity, rfl, lineup, phase,
    ledger, h.acquire hin hfree hnone hlock hsuits hhand, ?_⟩
  exact hb.keep (fun _ => rfl) hcapacity rfl rfl harrival (by rw [hpending])

/-- A step that gives a payload lock back. -/
theorem unlocking (h : system.Sound lineup phase) (hb : system.Balanced phase ledger)
    (hstage : system.stage party = stage) (next : Stage)
    (hrun : (stage.advance ⟨party⟩).run system.engine
      = .ok next (system.engine.withHeld flow false))
    (hlock : stage.lock = some flow) (hnone : next.lock = none)
    (hsuits : next.Suits phase) (hhand : next.hand = stage.hand)
    (harrival : next.arrival = stage.arrival) (hpending : next.pending = stage.pending) :
    system.Advances party := by
  subst hstage
  have hcapacity : (system.engine.withHeld flow false).table.capacity
      = system.engine.table.capacity := FlowTable.capacity_setHeld ..
  refine ⟨next, _, hrun, hcapacity, rfl, lineup, phase, ledger,
    h.release hlock hnone hsuits hhand, ?_⟩
  exact hb.keep (fun _ => rfl) hcapacity rfl rfl harrival (by rw [hpending])

/-- A step that changes the phase of one slot and no record. -/
theorem reworking (h : system.Sound lineup phase) (hb : system.Balanced phase ledger)
    (hstage : system.stage party = stage) (engine' : Engine) (next : Stage)
    (hrun : (stage.advance ⟨party⟩).run system.engine = .ok next engine')
    (hagrees : Agrees engine'.table engine'.queues lineup' (Function.update phase flow new))
    (hheld : ∀ flow, engine'.table.heldAt flow = system.engine.table.heldAt flow)
    (hexported : engine'.exported = system.engine.exported)
    (hintake : engine'.totals.intake = system.engine.totals.intake)
    (hphase : phase flow = old) (hin : old ≠ .outside) (hnew : new ≠ .outside)
    (hrecord : new.record = old.record) (hsuits : next.Suits (Function.update phase flow new))
    (hbefore : stage.hand = some flow ∨ stage.hand = none ∧ old.IsSettled)
    (hafter : next.hand = some flow ∨ next.hand = none ∧ new.IsSettled)
    (hlock : next.lock = stage.lock) (harrival : next.arrival = stage.arrival)
    (hpending : next.pending = stage.pending) : system.Advances party := by
  subst hstage hphase
  have hcapacity := h.agrees.capacity_congr hagrees (.update hin hnew)
  refine ⟨next, engine', hrun, hcapacity, congrArg Prod.fst hintake, lineup', _, ledger,
    h.rework hagrees hheld hin hnew ?_ hsuits hbefore hafter hlock,
    hb.keep ?_ hcapacity hexported hintake harrival (by rw [hpending])⟩
  · intro record hnew
    rw [hrecord] at hnew
    exact h.fits flow record hnew
  · intro flow'
    by_cases hflow : flow' = flow
    · rw [hflow, Function.update_self, hrecord]
    · rw [Function.update_of_ne hflow]

/-- A step that accounts the party's arrival in a slot. -/
theorem accounting (h : system.Sound lineup phase) (hb : system.Balanced phase ledger)
    (hstage : system.stage party = stage) (engine' : Engine) (next : Stage)
    (hrun : (stage.advance ⟨party⟩).run system.engine = .ok next engine')
    (hagrees : Agrees engine'.table engine'.queues lineup' (Function.update phase flow new))
    (hheld : ∀ flow, engine'.table.heldAt flow = system.engine.table.heldAt flow)
    (hexported : engine'.exported = system.engine.exported)
    (hintake : engine'.totals.intake = system.engine.totals.intake)
    (hphase : phase flow = old) (hin : old ≠ .outside) (hnew : new ≠ .outside)
    (hrecord : new.record = some record) (hfits : record.lastSeen.Fits)
    (hcarries : record.Carries (ledger.history flow ++ [arrival]))
    (hsuits : next.Suits (Function.update phase flow new))
    (hbefore : stage.hand = some flow ∨ stage.hand = none ∧ old.IsSettled)
    (hafter : next.hand = some flow ∨ next.hand = none ∧ new.IsSettled)
    (hlock : next.lock = stage.lock)
    (harrival : stage.arrival = some arrival) (hnone : next.arrival = none)
    (hpending : next.pending = stage.pending) : system.Advances party := by
  subst hstage hphase
  have hcapacity := h.agrees.capacity_congr hagrees (.update hin hnew)
  refine ⟨next, engine', hrun, hcapacity, congrArg Prod.fst hintake, lineup', _, ledger.account flow arrival,
    h.rework hagrees hheld hin hnew ?_ hsuits hbefore hafter hlock,
    hb.account (h.agrees.lt_size hin) ?_ ?_ hcarries hcapacity hexported hintake harrival hnone
      (by rw [hpending])⟩
  · intro record' hrecord'
    rw [hrecord] at hrecord'
    rwa [← Option.some.inj hrecord']
  · intro flow' hne
    rw [Function.update_of_ne hne]
  · rw [Function.update_self, hrecord]

/-! ### A known conversation -/

theorem advances_seeking (h : system.Sound lineup phase) (hb : system.Balanced phase ledger)
    (hstage : system.stage party = .seeking arrival) : system.Advances party := by
  have hfits : arrival.time.Fits := h.suits_of hstage
  cases hlookup : system.engine.table.lookup arrival.key with
  | some flow =>
    have hin := Phase.ne_outside_of_key ((h.agrees.lookup_iff ..).1 hlookup)
    refine h.quiet hb hstage system.engine (.found arrival flow) ?_ rfl rfl rfl rfl ⟨hfits, hin⟩
      rfl rfl rfl rfl
    rw [Stage.run_seeking, hlookup]
  | none =>
    refine h.quiet hb hstage system.engine (.needing arrival) ?_ rfl rfl rfl rfl hfits rfl rfl rfl
      rfl
    rw [Stage.run_seeking, hlookup]

theorem advances_found (h : system.Sound lineup phase) (hb : system.Balanced phase ledger)
    (hstage : system.stage party = .found arrival flow)
    (hfree : system.engine.table.heldAt flow = false) : system.Advances party := by
  have hsuits := h.suits_of hstage
  refine h.locking hb hstage (.holding arrival flow) rfl hfree ?_ rfl rfl hsuits rfl rfl rfl
  intro hlock
  simp only [Stage.advance, run_bind, hlock, run_pure]

/-- A slot in somebody's hand is empty or locked. -/
theorem settled_of_free (h : system.Sound lineup phase)
    (hfree : system.engine.table.heldAt flow = false) (hfull : phase flow ≠ .taken) :
    (phase flow).IsSettled := by
  by_contra hunsettled
  obtain ⟨party, hhand⟩ := h.owned flow hunsettled
  rcases (h.suits party).guarded hhand with htaken | hlock
  · exact hfull htaken
  · rw [(h.held_iff flow).2 ⟨party, hlock⟩] at hfree
    cases hfree

/-- A slot that a party has locked, and has not in its hand, is empty or in nobody's. -/
theorem settled_of_lock (h : system.Sound lineup phase) (hstage : system.stage party = stage)
    (hlock : stage.lock = some flow) (hhand : stage.hand = none) (hfull : phase flow ≠ .taken) :
    (phase flow).IsSettled := by
  subst hstage
  by_contra hunsettled
  obtain ⟨party', hhand'⟩ := h.owned flow hunsettled
  rcases (h.suits party').guarded hhand' with htaken | hlock'
  · exact hfull htaken
  · rw [h.lock_apart _ _ _ hlock' hlock, hhand] at hhand'
    cases hhand'

/-- Where everything that arrived can be counted, a record has room for an arrival on its way. -/
theorem hasRoom_of_carries (h : system.Sound lineup phase) (hb : system.Balanced phase ledger)
    (hroom : system.HasRoom) (hin : phase flow ≠ .outside)
    (hrecord : (phase flow).record = some record) (hstage : system.stage party = stage)
    (harrival : stage.arrival = some arrival) :
    (record.direction arrival.headers).HasRoom arrival.size := by
  subst hstage
  obtain ⟨rest, hrest⟩ := Multiset.le_iff_exists_add.1
    (hb.history_le_arrived (h.agrees.lt_size hin) harrival)
  obtain ⟨hcard, hoctets⟩ := hroom
  rw [hrest] at hcard hoctets
  have hatMost := (hb.carries flow record hrecord).atMost
  refine hatMost.hasRoom ?_ ?_
  · rw [Multiset.card_add, Multiset.card_add, Multiset.coe_card, Multiset.card_singleton] at hcard
    omega
  · simp only [Arrival.octets, Multiset.map_add, Multiset.sum_add, Multiset.map_singleton,
      Multiset.sum_singleton] at hoctets ⊢
    omega

theorem advances_holding (h : system.Sound lineup phase) (hb : system.Balanced phase ledger)
    (hroom : system.HasRoom) (hstage : system.stage party = .holding arrival flow) :
    system.Advances party := by
  obtain ⟨hfits, hin⟩ := h.suits_of hstage
  have hslot := run_slot (h.agrees.lt_size hin)
  rw [h.agrees.record_eq] at hslot
  -- the slot has another conversation or none
  have hmissing : ((Stage.holding arrival flow).advance ⟨party⟩).run system.engine
      = .ok (.missing arrival flow) system.engine → system.Advances party := fun hrun =>
    h.quiet hb hstage system.engine (.missing arrival flow) hrun rfl rfl rfl rfl ⟨hfits, hin⟩ rfl
      rfl rfl rfl
  cases hrecord : (phase flow).record with
  | none =>
    apply hmissing
    simp only [Stage.advance, run_bind, hslot, hrecord, run_pure]
  | some record =>
    rw [hrecord] at hslot
    by_cases hkey : record.key = arrival.key
    · have hsettled := h.settled_of_lock hstage rfl rfl (Phase.ne_taken_of_record hrecord)
      have hphase := hsettled.eq_tracked hrecord
      have haccount := Worker.run_account system.engine flow
        (h.hasRoom_of_carries hb hroom hin hrecord hstage rfl)
      have hcarries := (hb.carries flow record hrecord).counted hkey
      have hafter : (record.counted arrival.headers arrival.time arrival.size).lastSeen.Fits :=
        FlowRecord.fits_counted (h.fits flow record hrecord) hfits
      have hcounted := record.key_counted arrival.headers arrival.time arrival.size
      generalize record.counted arrival.headers arrival.time arrival.size = after at *
      by_cases hstate : record.state = after.state
      · have hagrees := h.agrees.setRecord hphase (.tracked after) (by simp) (by simp)
          (congrArg some hcounted)
          (congrArg (fun state => some (FlowState.queue state)) hstate.symm)
        refine h.accounting hb hstage
          (system.engine.withTable (system.engine.table.setRecord flow (some after)))
          (.leaving flow) ?_ hagrees (FlowTable.heldAt_setRecord _ _ _) rfl rfl hphase (by simp)
          (by simp) rfl hafter hcarries (by simp [Stage.Suits]) (Or.inr ⟨rfl, trivial⟩)
          (Or.inr ⟨rfl, trivial⟩) rfl rfl rfl rfl
        simp only [Stage.advance, run_bind, hslot, hkey, ne_eq, not_true, if_false, haccount, hstate,
          run_pure]
      · have hagrees := h.agrees.setRecord hphase (.misplaced record.state after) (by simp)
          (by simp) (congrArg some hcounted) rfl
        refine h.accounting hb hstage
          (system.engine.withTable (system.engine.table.setRecord flow (some after)))
          (.moving flow record.state after.state) ?_ hagrees (FlowTable.heldAt_setRecord _ _ _) rfl
          rfl hphase (by simp) (by simp) rfl hafter hcarries ⟨after, Function.update_self .., rfl⟩
          (Or.inr ⟨rfl, trivial⟩) (Or.inl rfl) rfl rfl rfl rfl
        simp only [Stage.advance, run_bind, hslot, hkey, ne_eq, not_true, if_false, haccount, hstate,
          not_false_eq_true, if_true, run_pure]
    · apply hmissing
      simp only [Stage.advance, run_bind, hslot, hkey, ne_eq, not_false_eq_true, if_true, run_pure]

theorem advances_moving (h : system.Sound lineup phase) (hb : system.Balanced phase ledger)
    {before after : FlowState} (hstage : system.stage party = .moving flow before after) :
    system.Advances party := by
  obtain ⟨record, hphase, hstate⟩ := h.suits_of hstage
  obtain ⟨queues, hdetach, hagrees⟩ := h.agrees.detach hphase (.unqueued record) (by simp) rfl rfl
    rfl rfl
  refine h.reworking hb hstage (system.engine.withQueues queues) (.placing flow before after) ?_
    hagrees (fun _ => rfl) rfl rfl hphase (by simp) (by simp) rfl
    ⟨record, Function.update_self .., hstate⟩ (Or.inl rfl) (Or.inl rfl) rfl rfl rfl
  simp only [Stage.advance, run_bind, run_onQueues system.engine hdetach, run_pure]

theorem advances_placing (h : system.Sound lineup phase) (hb : system.Balanced phase ledger)
    {before after : FlowState} (hstage : system.stage party = .placing flow before after) :
    system.Advances party := by
  obtain ⟨record, hphase, rfl⟩ := h.suits_of hstage
  obtain ⟨queues, happend, hagrees⟩ := h.agrees.append hphase (.tracked record) (by simp) rfl rfl
    rfl rfl
  refine h.reworking hb hstage
    { system.engine with
      queues
      log := system.engine.log.push (.stateChanged party flow before record.state) }
    (.leaving flow) ?_ hagrees (fun _ => rfl) rfl rfl hphase (by simp) (by simp) rfl
    (by simp [Stage.Suits]) (Or.inl rfl) (Or.inr ⟨rfl, trivial⟩) rfl rfl rfl
  simp only [Stage.advance, run_bind, run_onQueues system.engine happend, run_report, run_pure]
  rfl

theorem advances_leaving (h : system.Sound lineup phase) (hb : system.Balanced phase ledger)
    (hstage : system.stage party = .leaving flow) : system.Advances party :=
  h.unlocking hb hstage .idle rfl rfl rfl trivial rfl rfl rfl

theorem advances_missing (h : system.Sound lineup phase) (hb : system.Balanced phase ledger)
    (hstage : system.stage party = .missing arrival flow) : system.Advances party := by
  obtain ⟨hfits, -⟩ := h.suits_of hstage
  exact h.unlocking hb hstage (.seeking arrival) rfl rfl rfl hfits rfl rfl rfl

/-! ### An unknown conversation -/

/-- A step that takes the bottom of the spare queue. -/
theorem taking (h : system.Sound lineup phase) (hb : system.Balanced phase ledger)
    (hstage : system.stage party = stage) {rest : List FlowId}
    (hcons : lineup.flows spareQueue = flow :: rest)
    (hrun : ∀ engine', (onQueues (QueueM.dequeue spareQueue)).run system.engine
        = .ok (some flow) engine' →
      (stage.advance ⟨party⟩).run system.engine = .ok (.taken arrival flow) engine')
    (hfits : arrival.time.Fits) (hhand : stage.hand = none) (hlock : stage.lock = none)
    (harrival : stage.arrival = some arrival) (hpending : stage.pending = []) :
    system.Advances party := by
  obtain ⟨hspare, queues, hdequeue, hagrees⟩ := h.agrees.takeSpare hcons
  exact h.reworking hb hstage (system.engine.withQueues queues) (.taken arrival flow)
    (hrun _ (run_onQueues system.engine hdequeue)) hagrees (fun _ => rfl) rfl rfl hspare (by simp)
    (by simp) rfl ⟨hfits, Function.update_self ..⟩ (Or.inr ⟨hhand, trivial⟩) (Or.inl rfl)
    hlock.symm harrival.symm hpending.symm

theorem advances_needing (h : system.Sound lineup phase) (hb : system.Balanced phase ledger)
    (hstage : system.stage party = .needing arrival) : system.Advances party := by
  have hfits : arrival.time.Fits := h.suits_of hstage
  cases hspare : lineup.flows spareQueue with
  | cons flow rest =>
    refine h.taking hb hstage hspare ?_ hfits rfl rfl rfl rfl
    intro engine' htake
    simp only [Stage.advance, Worker.takeSpare, run_bind, htake, run_pure]
  | nil =>
    have htake := run_onQueues system.engine (h.agrees.represents.dequeue_nil hspare)
    rw [withQueues_self] at htake
    refine h.quiet hb hstage { system.engine with wakeRequested := true } (.waiting arrival) ?_ rfl
      rfl rfl rfl hfits rfl rfl rfl rfl
    simp only [Stage.advance, Worker.takeSpare, run_bind, htake, Worker.requestSweep, run_modify,
      run_pure]

theorem advances_waiting (h : system.Sound lineup phase) (hb : system.Balanced phase ledger)
    (hstage : system.stage party = .waiting arrival) : system.Advances party := by
  have hfits : arrival.time.Fits := h.suits_of hstage
  cases hspare : lineup.flows spareQueue with
  | cons flow rest =>
    refine h.taking hb hstage hspare ?_ hfits rfl rfl rfl rfl
    intro engine' htake
    simp only [Stage.advance, Worker.awaitSpare, run_bind, htake, run_pure]
  | nil =>
    have htake := run_onQueues system.engine (h.agrees.represents.dequeue_nil hspare)
    rw [withQueues_self] at htake
    refine h.quiet hb hstage system.engine (.dropping arrival) ?_ rfl rfl rfl rfl hfits rfl rfl rfl
      rfl
    simp only [Stage.advance, Worker.awaitSpare, run_bind, htake, run_pure]

theorem advances_dropping (h : system.Sound lineup phase) (hb : system.Balanced phase ledger)
    (hroom : system.HasRoom) (hstage : system.stage party = .dropping arrival) :
    system.Advances party := by
  have harrival : (system.stage party).arrival = some arrival := by rw [hstage]; rfl
  have hcard := Multiset.card_le_card (hb.dropped_le_arrived harrival)
  rw [Multiset.card_add, Multiset.card_singleton] at hcard
  refine ⟨.idle, { system.engine with
      totals := { system.engine.totals with
        tableFullDrops := system.engine.totals.tableFullDrops + 1 }
      log := system.engine.log.push (.tableFull party arrival.headers.tuple) },
    ?_, rfl, rfl, lineup, phase, ledger.drop arrival, ?_, ?_⟩
  · rw [hstage]
    simp only [Stage.advance, Worker.drop, run_bind, run_modifyTotals, run_report, run_pure]
  · exact h.stay h.agrees (fun _ => rfl) trivial (by rw [hstage]; rfl) (by rw [hstage]; rfl)
  · exact hb.drop rfl rfl rfl (Nat.lt_of_le_of_lt hcard hroom.1) harrival rfl
      (by rw [hstage]; rfl)

theorem advances_taken (h : system.Sound lineup phase) (hb : system.Balanced phase ledger)
    (hstage : system.stage party = .taken arrival flow)
    (hfree : system.engine.table.heldAt flow = false) : system.Advances party := by
  have hsuits := h.suits_of hstage
  refine h.locking hb hstage (.binding arrival flow) rfl hfree ?_ rfl rfl hsuits rfl rfl rfl
  intro hlock
  simp only [Stage.advance, run_bind, hlock, run_pure]

theorem advances_binding (h : system.Sound lineup phase) (hb : system.Balanced phase ledger)
    (hstage : system.stage party = .binding arrival flow) : system.Advances party := by
  obtain ⟨hfits, hphase⟩ := h.suits_of hstage
  cases hlookup : system.engine.table.lookup arrival.key with
  | none =>
    have hbind := run_bind_free flow hlookup
    refine h.reworking hb hstage
      (system.engine.withTable (system.engine.table.insert arrival.key flow))
      (.storing arrival flow) ?_ (h.agrees.insert hphase hlookup) (fun _ => rfl) rfl rfl hphase
      (by simp) (by simp) rfl ⟨hfits, Function.update_self ..⟩ (Or.inl rfl) (Or.inl rfl) rfl rfl rfl
    simp only [Stage.advance, EStateM.run_bind, hbind, if_true, run_pure]
  | some holder =>
    have hbind : (Engine.bind arrival.key flow).run system.engine = .ok false system.engine :=
      run_bind_bound hlookup
    refine h.quiet hb hstage system.engine (.refused arrival flow) ?_ rfl rfl rfl rfl
      ⟨hfits, hphase⟩ rfl rfl rfl rfl
    simp only [Stage.advance, EStateM.run_bind, hbind, Bool.false_eq_true, if_false, run_pure]

theorem advances_storing (h : system.Sound lineup phase) (hb : system.Balanced phase ledger)
    (hstage : system.stage party = .storing arrival flow) : system.Advances party := by
  obtain ⟨hfits, hphase⟩ := h.suits_of hstage
  have hstart := FlowRecord.start_eq arrival.headers arrival.time arrival.size
  have hkey := FlowRecord.key_first arrival.headers arrival.time arrival.size
  have hempty := hb.empty flow (by rw [hphase]; rfl)
  have hcarries := FlowRecord.carries_first arrival
  have hlast : (FlowRecord.first arrival.headers arrival.time arrival.size).lastSeen.Fits :=
    FlowRecord.fits_counted hfits hfits
  generalize FlowRecord.first arrival.headers arrival.time arrival.size = record at *
  have hagrees := h.agrees.setRecord hphase (.unqueued record) (by simp) (by simp)
    (congrArg some hkey) rfl
  refine h.accounting hb hstage
    (system.engine.withTable (system.engine.table.setRecord flow (some record)))
    (.publishing flow record) ?_ hagrees (FlowTable.heldAt_setRecord _ _ _) rfl rfl hphase
    (by simp) (by simp) rfl hlast (by rwa [hempty]) (Function.update_self ..) (Or.inl rfl)
    (Or.inl rfl) rfl rfl rfl rfl
  simp only [Stage.advance, run_bind, run_check_ok hstart, run_modifyTable, run_pure]

theorem advances_publishing (h : system.Sound lineup phase) (hb : system.Balanced phase ledger)
    (hstage : system.stage party = .publishing flow record) : system.Advances party := by
  have hphase : phase flow = .unqueued record := h.suits_of hstage
  obtain ⟨queues, henqueue, hagrees⟩ := h.agrees.enqueue hphase (.tracked record) (by simp) rfl rfl
    rfl rfl
  refine h.reworking hb hstage (system.engine.withQueues queues) (.created flow) ?_ hagrees
    (fun _ => rfl) rfl rfl hphase (by simp) (by simp) rfl (by simp [Stage.Suits]) (Or.inl rfl)
    (Or.inr ⟨rfl, trivial⟩) rfl rfl rfl
  simp only [Stage.advance, run_bind, run_onQueues system.engine henqueue, run_pure]

theorem advances_created (h : system.Sound lineup phase) (hb : system.Balanced phase ledger)
    (hstage : system.stage party = .created flow) : system.Advances party :=
  h.unlocking hb hstage (.counting flow) rfl rfl rfl trivial rfl rfl rfl

theorem advances_counting (h : system.Sound lineup phase) (hb : system.Balanced phase ledger)
    (hstage : system.stage party = .counting flow) : system.Advances party := by
  refine h.quiet hb hstage
    { system.engine with
      totals := { system.engine.totals with
        flowsCreated := system.engine.totals.flowsCreated + 1 }
      log := system.engine.log.push (.flowCreated party flow) }
    .idle ?_ rfl rfl rfl rfl trivial rfl rfl rfl rfl
  simp only [Stage.advance, run_bind, run_modifyTotals, run_report, run_pure]

theorem advances_refused (h : system.Sound lineup phase) (hb : system.Balanced phase ledger)
    (hstage : system.stage party = .refused arrival flow) : system.Advances party := by
  have hsuits := h.suits_of hstage
  exact h.unlocking hb hstage (.returning arrival flow) rfl rfl rfl hsuits rfl rfl rfl

theorem advances_returning (h : system.Sound lineup phase) (hb : system.Balanced phase ledger)
    (hstage : system.stage party = .returning arrival flow) : system.Advances party := by
  obtain ⟨hfits, hphase⟩ := h.suits_of hstage
  obtain ⟨queues, henqueue, hagrees⟩ := h.agrees.enqueue hphase .spare (by simp) rfl rfl rfl rfl
  refine h.reworking hb hstage (system.engine.withQueues queues) (.seeking arrival) ?_ hagrees
    (fun _ => rfl) rfl rfl hphase (by simp) (by simp) rfl hfits (Or.inl rfl)
    (Or.inr ⟨rfl, trivial⟩) rfl rfl rfl
  simp only [Stage.advance, Worker.giveBack, run_bind, run_onQueues system.engine henqueue,
    run_pure]

/-! ### Sweeps -/

theorem advances_opening (h : system.Sound lineup phase) (hb : system.Balanced phase ledger)
    {tour : Tour} (hstage : system.stage party = .opening tour) : system.Advances party := by
  have hlimit : tour.manager.exporter.limit = none := h.suits_of hstage
  cases hstates : tour.states with
  | nil =>
    refine h.quiet hb hstage system.engine (.releasing tour tour.released) ?_ rfl rfl rfl rfl hlimit
      rfl rfl rfl rfl
    simp only [Stage.advance, hstates, run_pure]
  | cons state rest =>
    refine h.quiet hb hstage system.engine
      (.visiting { tour with visits := (system.engine.queues.queue state.queue).length })
      ?_ rfl rfl rfl rfl hlimit rfl rfl rfl rfl
    simp only [Stage.advance, hstates, run_bind,
      run_onQueues system.engine (QueueM.run_queue state.queue), withQueues_self, run_pure]

/-- A slot in the queue of a state whose payload lock is free tracks a record of that state. -/
theorem tracked_of_free (h : system.Sound lineup phase) {state : FlowState}
    (hmem : flow ∈ lineup.flows state.queue) (hfree : system.engine.table.heldAt flow = false) :
    ∃ record, phase flow = .tracked record ∧ record.state = state := by
  have hqueue := (h.agrees.mem_iff ..).1 hmem
  have hsettled := h.settled_of_free hfree (by rintro htaken; rw [htaken] at hqueue; cases hqueue)
  cases hphase : phase flow with
  | outside => rw [hphase] at hqueue; cases hqueue
  | spare =>
    rw [hphase] at hqueue
    exact absurd (Option.some.inj hqueue).symm state.queue_ne_spare
  | tracked record =>
    rw [hphase] at hqueue
    exact ⟨record, rfl, FlowState.queue_injective (Option.some.inj hqueue)⟩
  | _ => rw [hphase] at hsettled; exact hsettled.elim

/-- A visit that takes the record out of its slot. -/
theorem advances_visiting_taken (h : system.Sound lineup phase) (hb : system.Balanced phase ledger)
    {tour : Tour} (hstage : system.stage party = .visiting tour) {state : FlowState}
    {states : List FlowState} (hstates : tour.states = state :: states) {visits : Nat}
    (hvisits : tour.visits = visits + 1) {rest : List FlowId}
    (hcons : lineup.flows state.queue = flow :: rest)
    (hfree : system.engine.table.heldAt flow = false) (hphase : phase flow = .tracked record)
    (hstate : record.state = state)
    (hkeeps : tour.manager.keeps tour.reason tour.clock.now record = .ok false) :
    system.Advances party := by
  have hlimit : tour.manager.exporter.limit = none := h.suits_of hstage
  have hhand : (system.stage party).hand = none := by rw [hstage]; rfl
  have hlock : (system.stage party).lock = none := by rw [hstage]; rfl
  have harrival : (system.stage party).arrival = none := by rw [hstage]; rfl
  have hpending : (system.stage party).pending = tour.released := by rw [hstage]; rfl
  have hin : phase flow ≠ .outside := by simp [hphase]
  obtain ⟨table, queues, hrun, hagrees, hholds⟩ :=
    inspectBottom_taken h.agrees hcons hfree hphase hstate hkeeps
  have hcapacity := h.agrees.capacity_congr hagrees (.update hin (by simp))
  refine ⟨.aside (tour.after (.taken flow (some record))) flow,
    { system.engine with table, queues }, ?_, hcapacity, rfl, lineup.detach state.queue flow,
    Function.update phase flow .taken, ledger.release flow ⟨tour.reason, record⟩, ?_, ?_⟩
  · rw [hstage]
    simp only [Stage.advance, hstates, hvisits, run_bind, hrun, run_pure]
  · refine h.change hagrees hin (by simp) (by simp [Phase.record])
      ⟨hlimit, Function.update_self ..⟩ (Or.inr ⟨hhand, by rw [hphase]; trivial⟩) (Or.inl rfl)
      ?_ ?_
    · intro flow'
      show table.heldAt flow' = _
      rw [hholds, hlock]
      simp [Stage.lock, @eq_comm _ flow]
    · intro flow' hlock'
      obtain rfl := Option.some.inj hlock'
      exact Or.inr hfree
  · refine hb.release tour.reason (h.agrees.lt_size hin) ?_ (by rw [hphase]; rfl)
      (by rw [Function.update_self]; rfl) hcapacity rfl rfl harrival.symm ?_
    · intro flow' hne
      rw [Function.update_of_ne hne]
    · rw [hpending]
      simp [Stage.pending, Tour.released, Tour.after, Harvest.after,
        ← Multiset.singleton_add, ← Multiset.coe_add, add_comm]

/-- A visit to the bottom of a queue that is not empty. -/
theorem advances_visiting_cons (h : system.Sound lineup phase) (hb : system.Balanced phase ledger)
    {tour : Tour} (hstage : system.stage party = .visiting tour) {state : FlowState}
    {states : List FlowState} (hstates : tour.states = state :: states) {visits : Nat}
    (hvisits : tour.visits = visits + 1) {rest : List FlowId}
    (hcons : lineup.flows state.queue = flow :: rest) : system.Advances party := by
  have hlimit : tour.manager.exporter.limit = none := h.suits_of hstage
  cases hheld : system.engine.table.heldAt flow with
  | true =>
    obtain ⟨queues, hrun, hagrees⟩ := inspectBottom_busy h.agrees hcons hheld tour.manager
      tour.reason tour.clock.now
    refine h.turning hb hstage (system.engine.withQueues queues) (.visiting (tour.after .busy)) ?_
      hagrees rfl rfl rfl hlimit rfl rfl rfl rfl
    simp only [Stage.advance, hstates, hvisits, run_bind, hrun, run_pure]
  | false =>
    have hmem : flow ∈ lineup.flows state.queue := by rw [hcons]; exact List.mem_cons_self
    obtain ⟨record, hphase, hstate⟩ := h.tracked_of_free hmem hheld
    have hkeeps := tour.manager.keeps_eq tour.reason tour.clock
      (h.fits flow record (by rw [hphase]; rfl))
    cases hreleases : tour.manager.releases tour.reason tour.clock.toNat record with
    | false =>
      rw [hreleases, Bool.not_false] at hkeeps
      obtain ⟨queues, hrun, hagrees⟩ :=
        inspectBottom_kept h.agrees hcons hheld hphase hstate hkeeps
      refine h.turning hb hstage (system.engine.withQueues queues) (.visiting (tour.after .kept)) ?_
        hagrees rfl rfl rfl hlimit rfl rfl rfl rfl
      simp only [Stage.advance, hstates, hvisits, run_bind, hrun, run_pure]
    | true =>
      rw [hreleases, Bool.not_true] at hkeeps
      exact h.advances_visiting_taken hb hstage hstates hvisits hcons hheld hphase hstate hkeeps

theorem advances_visiting (h : system.Sound lineup phase) (hb : system.Balanced phase ledger)
    {tour : Tour} (hstage : system.stage party = .visiting tour) : system.Advances party := by
  have hlimit : tour.manager.exporter.limit = none := h.suits_of hstage
  -- the queue is done, as often as it is to be visited still
  have hdone : ((Stage.visiting tour).advance ⟨party⟩).run system.engine
      = .ok (.opening tour.next) system.engine → system.Advances party := fun hrun =>
    h.quiet hb hstage system.engine (.opening tour.next) hrun rfl rfl rfl rfl hlimit rfl rfl rfl rfl
  cases hstates : tour.states with
  | nil =>
    apply hdone
    simp only [Stage.advance, hstates, run_pure]
  | cons state states =>
    cases hvisits : tour.visits with
    | zero =>
      apply hdone
      simp only [Stage.advance, hstates, hvisits, run_pure]
    | succ visits =>
      cases hflows : lineup.flows state.queue with
      | nil =>
        have hrun := inspectBottom_nothing h.agrees hflows tour.manager tour.reason tour.clock.now
        apply hdone
        simp only [Stage.advance, hstates, hvisits, run_bind, hrun, run_pure]
      | cons flow rest => exact h.advances_visiting_cons hb hstage hstates hvisits hflows

theorem advances_aside (h : system.Sound lineup phase) (hb : system.Balanced phase ledger)
    {tour : Tour} (hstage : system.stage party = .aside tour flow) : system.Advances party := by
  obtain ⟨hlimit, hphase⟩ := h.suits_of hstage
  obtain ⟨queues, happend, hagrees⟩ := h.agrees.append hphase .spare (by simp) rfl rfl rfl rfl
  refine h.reworking hb hstage (system.engine.withQueues queues) (.unlocking tour flow) ?_ hagrees
    (fun _ => rfl) rfl rfl hphase (by simp) (by simp) rfl ⟨hlimit, by simp⟩ (Or.inl rfl)
    (Or.inr ⟨rfl, trivial⟩) rfl rfl rfl
  simp only [Stage.advance, run_bind, run_onQueues system.engine happend, run_pure]

theorem advances_unlocking (h : system.Sound lineup phase) (hb : system.Balanced phase ledger)
    {tour : Tour} (hstage : system.stage party = .unlocking tour flow) : system.Advances party := by
  obtain ⟨hlimit, -⟩ := h.suits_of hstage
  exact h.unlocking hb hstage (.visiting tour) rfl rfl rfl hlimit rfl rfl rfl

theorem advances_releasing (h : system.Sound lineup phase) (hb : system.Balanced phase ledger)
    {tour : Tour} {flows : List ReleasedFlow} (hstage : system.stage party = .releasing tour flows) :
    system.Advances party := by
  have hlimit : tour.manager.exporter.limit = none := h.suits_of hstage
  cases flows with
  | nil =>
    refine h.quiet hb hstage
      { system.engine with
        log := system.engine.log.push (.swept tour.reason tour.clock tour.harvest.examined
          tour.harvest.busy tour.released.length) }
      .idle ?_ rfl rfl rfl rfl trivial rfl rfl rfl rfl
    simp only [Stage.advance, run_bind, run_report, run_pure]
  | cons flow rest =>
    have hpending : ((system.stage party).pending : Multiset ReleasedFlow)
        = flow ::ₘ ((Stage.releasing tour rest).pending : Multiset ReleasedFlow) := by
      rw [hstage]
      rfl
    have hintake : (system.engine.totals.countReleased flow.reason).intake
        = system.engine.totals.intake := by
      cases flow.reason <;> rfl
    have hpackets := congrArg Prod.fst hintake
    refine ⟨.releasing tour rest, { system.engine with
        totals := system.engine.totals.countReleased flow.reason
        exported := system.engine.exported.push flow }, ?_, rfl, hpackets, lineup, phase, ledger,
      ?_, ?_⟩
    · rw [hstage]
      simp only [Stage.advance, Manager.release, run_bind, run_modifyTotals, hlimit, run_modify,
        run_pure]
    · exact h.stay h.agrees (fun _ => rfl) hlimit (by rw [hstage]; rfl) (by rw [hstage]; rfl)
    · exact hb.handOver rfl rfl hintake (by rw [hstage]; rfl) hpending

/-! ### All stages -/

/-- A party that does not wait for a payload lock can make its next step, and leaves a system in
order. -/
theorem advances (h : system.Sound lineup phase) (hb : system.Balanced phase ledger)
    (hroom : system.HasRoom) (hwaits : system.waits party = false) : system.Advances party := by
  have hfree : ∀ flow, (system.stage party).wants = some flow →
      system.engine.table.heldAt flow = false := by
    intro flow hwants
    rwa [waits, hwants, Option.any_some] at hwaits
  cases hstage : system.stage party with
  | idle =>
    exact h.quiet hb hstage system.engine .idle rfl rfl rfl rfl rfl trivial rfl rfl rfl rfl
  | seeking arrival => exact h.advances_seeking hb hstage
  | found arrival flow => exact h.advances_found hb hstage (hfree flow (by rw [hstage]; rfl))
  | holding arrival flow => exact h.advances_holding hb hroom hstage
  | moving flow before after => exact h.advances_moving hb hstage
  | placing flow before after => exact h.advances_placing hb hstage
  | leaving flow => exact h.advances_leaving hb hstage
  | missing arrival flow => exact h.advances_missing hb hstage
  | needing arrival => exact h.advances_needing hb hstage
  | waiting arrival => exact h.advances_waiting hb hstage
  | dropping arrival => exact h.advances_dropping hb hroom hstage
  | taken arrival flow => exact h.advances_taken hb hstage (hfree flow (by rw [hstage]; rfl))
  | binding arrival flow => exact h.advances_binding hb hstage
  | storing arrival flow => exact h.advances_storing hb hstage
  | publishing flow record => exact h.advances_publishing hb hstage
  | created flow => exact h.advances_created hb hstage
  | counting flow => exact h.advances_counting hb hstage
  | refused arrival flow => exact h.advances_refused hb hstage
  | returning arrival flow => exact h.advances_returning hb hstage
  | opening tour => exact h.advances_opening hb hstage
  | visiting tour => exact h.advances_visiting hb hstage
  | aside tour flow => exact h.advances_aside hb hstage
  | unlocking tour flow => exact h.advances_unlocking hb hstage
  | releasing tour flows => exact h.advances_releasing hb hstage

end Sound

end FlowTracker.System
