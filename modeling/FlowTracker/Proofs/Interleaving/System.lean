import FlowTracker.Proofs.Interleaving.Stages

/-!
# Parties that share an engine

A `System` is an engine and the stages of any number of parties.  In each move one party takes a packet
up, starts a sweep or makes its next step; a party that waits for a payload lock does not move while
the lock is held.  Any party may do both; with packets for some and sweeps for one of the others they
are workers and a manager.

`System.Sound` is what holds between any two moves: table, queues and phases agree, what a party has in
hand has the phase that the party's stage says, each slot that is in no settled phase is in exactly one
hand, and the payload locks that are held are those of the parties, each held by one.  `Sound.advance` is
the one argument why a party keeps this while it changes nothing but what it has in hand or what is in
nobody's; the lemmas behind it are the kinds of steps that there are.
-/

namespace FlowTracker

structure System (n : Nat) where
  engine : Engine
  stage : Fin n → Stage
  /-- The packets that were decoded so far.  No step reads it. -/
  arrived : Multiset Arrival

inductive Move (n : Nat) where
  | arrive (party : Fin n) (packet : Packet)
  | sweep (party : Fin n) (manager : Manager) (reason : ReleaseReason)
  | work (party : Fin n)

namespace System

variable {n : Nat}

def start (n : Nat) (engine : Engine) : System n := ⟨engine, fun _ => .idle, 0⟩

def become (system : System n) (party : Fin n) (engine : Engine) (next : Stage) : System n :=
  { system with engine, stage := Function.update system.stage party next }

/-- The party waits for a payload lock that is held. -/
def waits (system : System n) (party : Fin n) : Bool :=
  (system.stage party).wants.any system.engine.table.heldAt

/-- One move.  A party that is not idle takes no packet and starts no sweep. -/
def step (system : System n) : Move n → Except Fault (System n)
  | .arrive party packet =>
    match system.stage party with
    | .idle =>
      match (Worker.decode ⟨party⟩ packet).run system.engine with
      | .ok (some arrival) engine =>
        .ok { system.become party engine (.seeking arrival) with
          arrived := arrival ::ₘ system.arrived }
      | .ok none engine => .ok { system with engine }
      | .error fault _ => .error fault
    | _ => .ok system
  | .sweep party manager reason =>
    match system.stage party with
    | .idle =>
      .ok (system.become party system.engine (.opening (.start manager reason system.engine.clock)))
    | _ => .ok system
  | .work party =>
    if system.waits party then .ok system
    else
      match ((system.stage party).advance ⟨party⟩).run system.engine with
      | .ok next engine => .ok (system.become party engine next)
      | .error fault _ => .error fault

def run (system : System n) (moves : List (Move n)) : Except Fault (System n) :=
  moves.foldlM step system

end System

/-! ### Stages and phases -/

/-- What a stage says of the phase of its slot; the time of its arrival fits, and its exporter takes
every flow. -/
def Stage.Suits (phase : FlowId → Phase) : Stage → Prop
  | idle | counting _ => True
  | seeking arrival | needing arrival | waiting arrival | dropping arrival => arrival.time.Fits
  | found arrival flow | holding arrival flow | missing arrival flow =>
    arrival.time.Fits ∧ phase flow ≠ .outside
  | leaving flow | created flow => phase flow ≠ .outside
  | moving flow before after =>
    ∃ record, phase flow = .misplaced before record ∧ record.state = after
  | placing flow _ after => ∃ record, phase flow = .unqueued record ∧ record.state = after
  | taken arrival flow | binding arrival flow | refused arrival flow | returning arrival flow =>
    arrival.time.Fits ∧ phase flow = .taken
  | storing arrival flow => arrival.time.Fits ∧ phase flow = .promised arrival.key
  | publishing flow record => phase flow = .unqueued record
  | opening tour | visiting tour | releasing tour _ => tour.manager.exporter.limit = none
  | aside tour flow => tour.manager.exporter.limit = none ∧ phase flow = .taken
  | unlocking tour flow => tour.manager.exporter.limit = none ∧ phase flow ≠ .outside

namespace Stage

variable {stage : Stage} {phase phase' : FlowId → Phase} {flow : FlowId}

/-- What is in hand is not settled. -/
theorem Suits.not_isSettled (h : stage.Suits phase) (hhand : stage.hand = some flow) :
    ¬ (phase flow).IsSettled := by
  cases stage <;> simp only [hand, Option.some.injEq, reduceCtorEq] at hhand <;> subst hhand <;>
    simp only [Suits] at h
  case moving => obtain ⟨record, hphase, -⟩ := h; simp [hphase, Phase.IsSettled]
  case placing => obtain ⟨record, hphase, -⟩ := h; simp [hphase, Phase.IsSettled]
  case publishing => simp [h, Phase.IsSettled]
  all_goals simp [h.2, Phase.IsSettled]

theorem hand_of_carried (h : stage.carried = some flow) : stage.hand = some flow := by
  cases stage <;> first | exact h | cases h

/-- What is in hand is carried if no queue has it. -/
theorem Suits.carried_iff (h : stage.Suits phase) (hhand : stage.hand = some flow) :
    stage.carried = some flow ↔ (phase flow).queue = none := by
  cases stage <;> simp only [hand, Option.some.injEq, reduceCtorEq] at hhand <;> subst hhand <;>
    simp only [Suits] at h
  case moving => obtain ⟨record, hphase, -⟩ := h; simp [hphase, Phase.queue, carried]
  case placing => obtain ⟨record, hphase, -⟩ := h; simp [hphase, Phase.queue, carried, hand]
  case publishing => simp [h, Phase.queue, carried, hand]
  all_goals simp [h.2, Phase.queue, carried, hand]

/-- Who holds a payload lock waits for none. -/
theorem wants_of_lock (h : stage.lock = some flow) : stage.wants = none := by
  cases stage <;> first | rfl | cases h

/-- What is in hand is empty and unbound, or its payload is locked. -/
theorem Suits.guarded (h : stage.Suits phase) (hhand : stage.hand = some flow) :
    phase flow = .taken ∨ stage.lock = some flow := by
  cases stage <;> simp only [hand, Option.some.injEq, reduceCtorEq] at hhand <;> subst hhand <;>
    simp only [Suits] at h
  case taken => exact Or.inl h.2
  case returning => exact Or.inl h.2
  all_goals exact Or.inr rfl

/-- What is locked is a slot. -/
theorem Suits.lock_inside (h : stage.Suits phase) (hlock : stage.lock = some flow) :
    phase flow ≠ .outside := by
  cases stage <;> simp only [lock, Option.some.injEq, reduceCtorEq] at hlock <;> subst hlock <;>
    simp only [Suits] at h
  case moving => obtain ⟨record, hphase, -⟩ := h; simp [hphase]
  case placing => obtain ⟨record, hphase, -⟩ := h; simp [hphase]
  case publishing => simp [h]
  case leaving => exact h
  case created => exact h
  case unlocking => exact h.2
  case holding => exact h.2
  case missing => exact h.2
  all_goals simp [h.2]

theorem Suits.wants_inside (h : stage.Suits phase) (hwants : stage.wants = some flow) :
    phase flow ≠ .outside := by
  cases stage <;> simp only [wants, Option.some.injEq, reduceCtorEq] at hwants <;> subst hwants <;>
    simp only [Suits] at h
  case found => exact h.2
  case taken => simp [h.2]

/-- A stage suits phases that are the same of what it has in hand. -/
theorem Suits.congr (h : stage.Suits phase) (hslots : Phase.SameSlots phase phase')
    (hhand : ∀ flow, stage.hand = some flow → phase' flow = phase flow) : stage.Suits phase' := by
  have hinside : ∀ {flow}, phase flow ≠ .outside → phase' flow ≠ .outside :=
    fun hin => mt (hslots _).1 hin
  cases stage <;> simp only [Suits] at h ⊢ <;>
    simp only [hand, Option.some.injEq, forall_eq', reduceCtorEq, false_implies,
      implies_true] at hhand
  case found => exact ⟨h.1, hinside h.2⟩
  case holding => exact ⟨h.1, hinside h.2⟩
  case missing => exact ⟨h.1, hinside h.2⟩
  case leaving => exact hinside h
  case created => exact hinside h
  case unlocking => exact ⟨h.1, hinside h.2⟩
  all_goals first | exact h | rw [hhand]; exact h

end Stage

namespace System

variable {n : Nat}

theorem stage_become (system : System n) (party : Fin n) (engine : Engine) (next : Stage) :
    (system.become party engine next).stage party = next := Function.update_self ..

theorem stage_become_of_ne (system : System n) {party party' : Fin n} (engine : Engine)
    (next : Stage) (hne : party' ≠ party) :
    (system.become party engine next).stage party' = system.stage party' :=
  Function.update_of_ne hne ..

theorem become_self (system : System n) (party : Fin n) (engine : Engine) :
    system.become party engine (system.stage party) = { system with engine } := by
  unfold become
  rw [Function.update_eq_self]

theorem become_become (system : System n) (party : Fin n) (engine engine' : Engine)
    (next next' : Stage) :
    (system.become party engine next).become party engine' next'
      = system.become party engine' next' := by
  unfold become
  rw [Function.update_idem]

theorem run_append {system reached : System n} {moves : List (Move n)}
    (h : system.run moves = .ok reached) (more : List (Move n)) :
    system.run (moves ++ more) = reached.run more := by
  unfold run at h ⊢
  rw [List.foldlM_append, h]
  rfl

theorem run_cons {system next : System n} {move : Move n} (h : system.step move = .ok next)
    (moves : List (Move n)) : system.run (move :: moves) = next.run moves := by
  unfold run
  rw [List.foldlM_cons, h]
  rfl

/-! ### Slots of one party -/

def Apart (system : System n) (has : Stage → Option FlowId) : Prop :=
  ∀ party party' flow, has (system.stage party) = some flow →
    has (system.stage party') = some flow → party = party'

/-- Parties stay apart where the one that moves takes nothing that another one has. -/
theorem Apart.become {system : System n} {has : Stage → Option FlowId} (h : system.Apart has)
    {party : Fin n} {next : Stage} (engine : Engine)
    (hnew : ∀ party' flow, party' ≠ party → has (system.stage party') = some flow →
      has next ≠ some flow) : (system.become party engine next).Apart has := by
  intro party₁ party₂ flow hhas₁ hhas₂
  by_cases hparty₁ : party₁ = party <;> by_cases hparty₂ : party₂ = party
  · rw [hparty₁, hparty₂]
  · rw [hparty₁, stage_become] at hhas₁
    rw [stage_become_of_ne _ _ _ hparty₂] at hhas₂
    exact absurd hhas₁ (hnew party₂ flow hparty₂ hhas₂)
  · rw [stage_become_of_ne _ _ _ hparty₁] at hhas₁
    rw [hparty₂, stage_become] at hhas₂
    exact absurd hhas₂ (hnew party₁ flow hparty₁ hhas₁)
  · rw [stage_become_of_ne _ _ _ hparty₁] at hhas₁
    rw [stage_become_of_ne _ _ _ hparty₂] at hhas₂
    exact h _ _ _ hhas₁ hhas₂

/-! ### Soundness -/

/-- What holds between any two moves. -/
structure Sound (system : System n) (lineup : Lineup 1 4) (phase : FlowId → Phase) : Prop where
  agrees : Agrees system.engine.table system.engine.queues lineup phase
  fits : ∀ flow record, (phase flow).record = some record → record.lastSeen.Fits
  suits : ∀ party, (system.stage party).Suits phase
  owned : ∀ flow, ¬ (phase flow).IsSettled → ∃ party, (system.stage party).hand = some flow
  hand_apart : system.Apart Stage.hand
  held_iff : ∀ flow, system.engine.table.heldAt flow = true
    ↔ ∃ party, (system.stage party).lock = some flow
  lock_apart : system.Apart Stage.lock

namespace Sound

variable {system : System n} {lineup lineup' : Lineup 1 4} {phase phase' : FlowId → Phase}
  {party : Fin n} {engine' : Engine} {next : Stage} {flow : FlowId} {new : Phase}

/-- A party keeps the system sound while it changes nothing but what it has in hand or what is in
nobody's hand, and says so in its next stage. -/
theorem advance (h : system.Sound lineup phase)
    (hagrees : Agrees engine'.table engine'.queues lineup' phase')
    (hfits : ∀ flow record, (phase' flow).record = some record → record.lastSeen.Fits)
    (hslots : Phase.SameSlots phase phase') (hsuits : next.Suits phase')
    (hmine : ∀ flow, phase' flow ≠ phase flow →
      (system.stage party).hand = some flow ∨ (phase flow).IsSettled)
    (howned : ∀ flow, (system.stage party).hand = some flow ∨ (phase flow).IsSettled →
      ¬ (phase' flow).IsSettled → next.hand = some flow)
    (htaken : ∀ flow, next.hand = some flow →
      (system.stage party).hand = some flow ∨ (phase flow).IsSettled)
    (hheld : ∀ flow, engine'.table.heldAt flow
      = if next.lock = some flow then true
        else if (system.stage party).lock = some flow then false
        else system.engine.table.heldAt flow)
    (hfree : ∀ flow, next.lock = some flow →
      (system.stage party).lock = some flow ∨ system.engine.table.heldAt flow = false) :
    (system.become party engine' next).Sound lineup' phase' := by
  have hothers : ∀ party' flow, party' ≠ party → (system.stage party').hand = some flow →
      (system.stage party).hand ≠ some flow ∧ ¬ (phase flow).IsSettled :=
    fun party' flow hne hhand => ⟨fun hmine => hne (h.hand_apart _ _ _ hhand hmine),
      (h.suits _).not_isSettled hhand⟩
  refine ⟨hagrees, hfits, ?_, ?_, ?_, ?_, ?_⟩
  · intro party'
    by_cases hparty : party' = party
    · subst hparty
      rwa [stage_become]
    · rw [stage_become_of_ne _ _ _ hparty]
      apply (h.suits party').congr hslots
      intro flow hhand
      by_contra hchanged
      obtain ⟨hnot, hunsettled⟩ := hothers party' flow hparty hhand
      exact (hmine flow hchanged).elim hnot hunsettled
  · intro flow hunsettled
    by_cases hown : (system.stage party).hand = some flow ∨ (phase flow).IsSettled
    · exact ⟨party, by rw [stage_become]; exact howned flow hown hunsettled⟩
    · obtain ⟨hnot, hbefore⟩ := not_or.1 hown
      obtain ⟨party', hhand⟩ := h.owned flow hbefore
      have hne : party' ≠ party := fun heq => hnot (heq ▸ hhand)
      exact ⟨party', by rwa [stage_become_of_ne _ _ _ hne]⟩
  · apply h.hand_apart.become
    intro party' flow hne hhand htake
    obtain ⟨hnot, hunsettled⟩ := hothers party' flow hne hhand
    exact (htaken flow htake).elim hnot hunsettled
  · intro flow
    show engine'.table.heldAt flow = true ↔ _
    rw [hheld]
    by_cases hlock : next.lock = some flow
    · rw [if_pos hlock]
      exact ⟨fun _ => ⟨party, by rwa [stage_become]⟩, fun _ => rfl⟩
    · have hbecome : (∃ party', ((system.become party engine' next).stage party').lock = some flow)
          ↔ ∃ party', party' ≠ party ∧ (system.stage party').lock = some flow := by
        apply exists_congr
        intro party'
        by_cases hparty : party' = party
        · subst hparty
          rw [stage_become]
          simp [hlock]
        · rw [stage_become_of_ne _ _ _ hparty]
          simp [hparty]
      rw [if_neg hlock, hbecome]
      by_cases hgiven : (system.stage party).lock = some flow
      · rw [if_pos hgiven]
        constructor
        · intro hfalse
          cases hfalse
        · rintro ⟨party', hne, hlock'⟩
          exact absurd (h.lock_apart _ _ _ hlock' hgiven) hne
      · rw [if_neg hgiven, h.held_iff]
        apply exists_congr
        intro party'
        constructor
        · intro hlock'
          exact ⟨fun heq => hgiven (heq ▸ hlock'), hlock'⟩
        · rintro ⟨-, hlock'⟩
          exact hlock'
  · apply h.lock_apart.become
    intro party' flow hne hlock htake
    rcases hfree flow htake with hmine | hfree
    · exact hne (h.lock_apart _ _ _ hlock hmine)
    · rw [(h.held_iff flow).2 ⟨party', hlock⟩] at hfree
      cases hfree

/-! ### Kinds of steps -/

/-- A step that changes no phase. -/
theorem relock (h : system.Sound lineup phase)
    (hagrees : Agrees engine'.table engine'.queues lineup' phase) (hsuits : next.Suits phase)
    (hhand : next.hand = (system.stage party).hand)
    (hheld : ∀ flow, engine'.table.heldAt flow
      = if next.lock = some flow then true
        else if (system.stage party).lock = some flow then false
        else system.engine.table.heldAt flow)
    (hfree : ∀ flow, next.lock = some flow →
      (system.stage party).lock = some flow ∨ system.engine.table.heldAt flow = false) :
    (system.become party engine' next).Sound lineup' phase := by
  refine h.advance hagrees h.fits (.refl phase) hsuits ?_ ?_ ?_ hheld hfree
  · exact fun flow hchanged => absurd rfl hchanged
  · intro flow hown hunsettled
    rw [hhand]
    exact hown.resolve_right hunsettled
  · intro flow htake
    rw [hhand] at htake
    exact Or.inl htake

theorem heldAt_eq (h : system.Sound lineup phase)
    (hlock : next.lock = (system.stage party).lock) (flow : FlowId) :
    system.engine.table.heldAt flow
      = if next.lock = some flow then true
        else if (system.stage party).lock = some flow then false
        else system.engine.table.heldAt flow := by
  rw [hlock]
  by_cases hmine : (system.stage party).lock = some flow
  · rw [if_pos hmine]
    exact (h.held_iff flow).2 ⟨party, hmine⟩
  · rw [if_neg hmine, if_neg hmine]

/-- A step that changes no phase and no payload lock. -/
theorem stay (h : system.Sound lineup phase)
    (hagrees : Agrees engine'.table engine'.queues lineup' phase)
    (hheld : ∀ flow, engine'.table.heldAt flow = system.engine.table.heldAt flow)
    (hsuits : next.Suits phase) (hhand : next.hand = (system.stage party).hand)
    (hlock : next.lock = (system.stage party).lock) :
    (system.become party engine' next).Sound lineup' phase :=
  h.relock hagrees hsuits hhand (fun flow => (hheld flow).trans (h.heldAt_eq hlock flow))
    fun _ hmine => Or.inl (hlock ▸ hmine)

/-- A step that takes a payload lock. -/
theorem acquire (h : system.Sound lineup phase) (hin : phase flow ≠ .outside)
    (hfree : system.engine.table.heldAt flow = false) (hnone : (system.stage party).lock = none)
    (hlock : next.lock = some flow) (hsuits : next.Suits phase)
    (hhand : next.hand = (system.stage party).hand) :
    (system.become party (system.engine.withHeld flow true) next).Sound lineup phase := by
  refine h.relock (h.agrees.setHeld flow true) hsuits hhand ?_ ?_
  · intro flow'
    show (system.engine.table.setHeld flow true).heldAt flow' = _
    rw [FlowTable.heldAt_setHeld _ (h.agrees.lt_size hin), hlock, hnone]
    simp [@eq_comm _ flow]
  · intro flow' hlock'
    rw [hlock] at hlock'
    exact Or.inr (Option.some.inj hlock' ▸ hfree)

/-- A step that gives a payload lock back. -/
theorem release (h : system.Sound lineup phase) (hlock : (system.stage party).lock = some flow)
    (hnone : next.lock = none) (hsuits : next.Suits phase)
    (hhand : next.hand = (system.stage party).hand) :
    (system.become party (system.engine.withHeld flow false) next).Sound lineup phase := by
  have hin := (h.suits party).lock_inside hlock
  refine h.relock (h.agrees.setHeld flow false) hsuits hhand ?_ ?_
  · intro flow'
    show (system.engine.table.setHeld flow false).heldAt flow' = _
    rw [FlowTable.heldAt_setHeld _ (h.agrees.lt_size hin), hlock, hnone]
    simp [@eq_comm _ flow]
  · intro flow' hlock'
    rw [hnone] at hlock'
    cases hlock'

/-- A step that changes the phase of one slot, which was in the party's hand or in nobody's and is in
the party's hand afterwards or in nobody's. -/
theorem change (h : system.Sound lineup phase)
    (hagrees : Agrees engine'.table engine'.queues lineup' (Function.update phase flow new))
    (hin : phase flow ≠ .outside) (hnew : new ≠ .outside)
    (hfits : ∀ record, new.record = some record → record.lastSeen.Fits)
    (hsuits : next.Suits (Function.update phase flow new))
    (hbefore : (system.stage party).hand = some flow
      ∨ (system.stage party).hand = none ∧ (phase flow).IsSettled)
    (hafter : next.hand = some flow ∨ next.hand = none ∧ new.IsSettled)
    (hheld : ∀ flow, engine'.table.heldAt flow
      = if next.lock = some flow then true
        else if (system.stage party).lock = some flow then false
        else system.engine.table.heldAt flow)
    (hfree : ∀ flow, next.lock = some flow →
      (system.stage party).lock = some flow ∨ system.engine.table.heldAt flow = false) :
    (system.become party engine' next).Sound lineup' (Function.update phase flow new) := by
  have hmine : (system.stage party).hand = some flow ∨ (phase flow).IsSettled :=
    hbefore.imp_right And.right
  have hother : ∀ flow', flow' ≠ flow → (system.stage party).hand ≠ some flow' := by
    intro flow' hne hhand
    rcases hbefore with hbefore | ⟨hbefore, -⟩
    · rw [hbefore] at hhand
      exact hne (Option.some.inj hhand).symm
    · rw [hbefore] at hhand
      cases hhand
  refine h.advance hagrees ?_ (.update hin hnew) hsuits ?_ ?_ ?_ hheld hfree
  · intro flow' record hrecord
    by_cases hflow : flow' = flow
    · rw [hflow, Function.update_self] at hrecord
      exact hfits record hrecord
    · rw [Function.update_of_ne hflow] at hrecord
      exact h.fits flow' record hrecord
  · intro flow' hchanged
    by_cases hflow : flow' = flow
    · rw [hflow]
      exact hmine
    · rw [Function.update_of_ne hflow] at hchanged
      exact absurd rfl hchanged
  · intro flow' hown hunsettled
    by_cases hflow : flow' = flow
    · rw [hflow, Function.update_self] at hunsettled
      rw [hflow]
      exact hafter.resolve_right fun hsettled => hunsettled hsettled.2
    · rw [Function.update_of_ne hflow] at hunsettled
      exact absurd hown (not_or.2 ⟨hother flow' hflow, hunsettled⟩)
  · intro flow' htake
    rcases hafter with hafter | ⟨hafter, -⟩
    · rw [hafter] at htake
      obtain rfl := Option.some.inj htake
      exact hmine
    · rw [hafter] at htake
      cases htake

/-- A step that changes the phase of one slot and no payload lock. -/
theorem rework (h : system.Sound lineup phase)
    (hagrees : Agrees engine'.table engine'.queues lineup' (Function.update phase flow new))
    (hheld : ∀ flow, engine'.table.heldAt flow = system.engine.table.heldAt flow)
    (hin : phase flow ≠ .outside) (hnew : new ≠ .outside)
    (hfits : ∀ record, new.record = some record → record.lastSeen.Fits)
    (hsuits : next.Suits (Function.update phase flow new))
    (hbefore : (system.stage party).hand = some flow
      ∨ (system.stage party).hand = none ∧ (phase flow).IsSettled)
    (hafter : next.hand = some flow ∨ next.hand = none ∧ new.IsSettled)
    (hlock : next.lock = (system.stage party).lock) :
    (system.become party engine' next).Sound lineup' (Function.update phase flow new) :=
  h.change hagrees hin hnew hfits hsuits hbefore hafter
    (fun flow => (hheld flow).trans (h.heldAt_eq hlock flow))
    fun _ hmine => Or.inl (hlock ▸ hmine)

end Sound

end System

end FlowTracker
