import FlowTracker.Proofs.Interleaving.Races
import FlowTracker.Proofs.Interleaving.Steps
import FlowTracker.Proofs.Engine.Fresh
import FlowTracker.Proofs.Map.Machine

/-!
# Runs of many parties

Whatever moves are made, in whatever order, from a fresh engine, every step comes to its end and leaves a
system in order.  `System.Consistent` says what that means for slots, queues, payload locks and arrivals
without phases, and the last section says it of every run in which times and totals fit 64 bits.
-/

namespace FlowTracker

/-! ### Moves -/

namespace Move

variable {n : Nat}

/-- A packet whose time fits, a sweep whose exporter takes every flow, or a step. -/
def IsReady : Move n → Prop
  | arrive _ packet => packet.time.Fits
  | sweep _ manager _ => manager.exporter.limit = none
  | work _ => True

instance (move : Move n) : Decidable move.IsReady :=
  match move with
  | arrive _ packet => inferInstanceAs (Decidable packet.time.Fits)
  | sweep _ manager _ => inferInstanceAs (Decidable (manager.exporter.limit = none))
  | work _ => inferInstanceAs (Decidable True)

def packet : Move n → Option Packet
  | arrive _ packet => some packet
  | _ => none

def packets (moves : List (Move n)) : List Packet := moves.filterMap packet

end Move

namespace System

open EStateM Engine

variable {n : Nat} {system : System n} {party : Fin n}

/-! ### One move -/

/-- There is as much of everything after a move as can be. -/
structure Follows (system system' : System n) (move : Move n) : Prop where
  capacity_eq : system'.engine.table.capacity = system.engine.table.capacity
  packets_le : system'.engine.totals.packets.toNat
    ≤ system.engine.totals.packets.toNat + (Move.packets [move]).length
  octets_le : Arrival.octets system'.arrived
    ≤ Arrival.octets system.arrived + Packet.octets (Move.packets [move])

theorem Follows.of_same {system' : System n} {move : Move n}
    (hcapacity : system'.engine.table.capacity = system.engine.table.capacity)
    (hpackets : system'.engine.totals.packets = system.engine.totals.packets)
    (harrived : system'.arrived = system.arrived) : system.Follows system' move := by
  refine ⟨hcapacity, ?_, ?_⟩
  · rw [hpackets]
    exact Nat.le_add_right ..
  · rw [harrived]
    exact Nat.le_add_right ..

/-- A party that is not idle takes no packet and starts no sweep. -/
theorem step_of_ne_idle (h : system.stage party ≠ .idle) :
    (∀ packet, system.step (.arrive party packet) = .ok system)
      ∧ ∀ manager reason, system.step (.sweep party manager reason) = .ok system := by
  cases hstage : system.stage party with
  | idle => exact absurd hstage h
  | _ =>
    constructor
    · intro packet
      simp only [System.step, hstage]
    · intro manager reason
      simp only [System.step, hstage]

/-- A packet is counted and moves the clock; one that can be read is on its way then. -/
theorem InOrder.arrive (h : system.InOrder) (party : Fin n) (packet : Packet)
    (hfits : packet.time.Fits) (hroom : system.engine.totals.packets.toNat + 1 < Word.count) :
    ∃ system', system.step (.arrive party packet) = .ok system' ∧ system'.InOrder
      ∧ system.Follows system' (.arrive party packet) := by
  by_cases hidle : system.stage party = .idle
  · obtain ⟨lineup, phase, ledger, hsound, hbalanced⟩ := h
    obtain ⟨clock, hclock, -⟩ := PacketClock.advance_of_fits system.engine.clock hfits
    have hpackets : (system.engine.totals.packets + 1).toNat
        ≤ system.engine.totals.packets.toNat + 1 := Nat.mod_le ..
    cases hheaders : Frame.headers packet.frame with
    | error error =>
      have hdecode := AtRest.run_decode_error system.engine ⟨party⟩ packet hclock hheaders
      refine ⟨{ system with
          engine := { system.engine with
            clock
            totals := { system.engine.totals.countPacket packet.size with
              undecodable := (system.engine.totals.countPacket packet.size).undecodable + 1 }
            log := system.engine.log.push (.undecodable party error) } },
        ?_, ⟨lineup, phase, ledger, ?_, ?_⟩, rfl, hpackets, Nat.le_add_right ..⟩
      · simp only [System.step, hidle, hdecode]
      · rw [← become_self system party]
        exact hsound.stay hsound.agrees (fun _ => rfl) (hsound.suits party) rfl rfl
      · rw [← become_self system party]
        exact hbalanced.skip rfl rfl rfl hroom rfl rfl
    | ok headers =>
      have hdecode := AtRest.run_decode_ok system.engine ⟨party⟩ packet hclock hheaders
      have hbecome : (system.become party (AtRest.clocked system.engine packet clock)
          (.seeking ⟨headers, packet.time, packet.size⟩)).Sound lineup phase :=
        hsound.stay hsound.agrees (fun _ => rfl) hfits (by rw [hidle]; rfl) (by rw [hidle]; rfl)
      refine ⟨{ system.become party (AtRest.clocked system.engine packet clock)
            (.seeking ⟨headers, packet.time, packet.size⟩) with
          arrived := ⟨headers, packet.time, packet.size⟩ ::ₘ system.arrived },
        ?_, ⟨lineup, phase, ledger, ?_, ?_⟩, rfl, hpackets, ?_⟩
      · simp only [System.step, hidle, hdecode]
      · exact ⟨hbecome.agrees, hbecome.fits, hbecome.suits, hbecome.owned, hbecome.hand_apart,
          hbecome.held_iff, hbecome.lock_apart⟩
      · exact hbalanced.arrive rfl rfl rfl hroom (by rw [hidle]; rfl) rfl (by rw [hidle]; rfl)
      · show Arrival.octets (_ ::ₘ system.arrived) ≤ _
        rw [Arrival.octets, Multiset.map_cons, Multiset.sum_cons, Nat.add_comm]
        exact Nat.add_le_add_left packet.size_le _
  · exact ⟨system, (step_of_ne_idle hidle).1 packet, h, .of_same rfl rfl rfl⟩

/-- A manager begins a sweep. -/
theorem InOrder.sweep (h : system.InOrder) (party : Fin n) (manager : Manager)
    (reason : ReleaseReason) (hlimit : manager.exporter.limit = none) :
    ∃ system', system.step (.sweep party manager reason) = .ok system' ∧ system'.InOrder
      ∧ system.Follows system' (.sweep party manager reason) := by
  by_cases hidle : system.stage party = .idle
  · obtain ⟨lineup, phase, ledger, hsound, hbalanced⟩ := h
    refine ⟨system.become party system.engine
      (.opening (.start manager reason system.engine.clock)), ?_,
      ⟨lineup, phase, ledger, ?_, ?_⟩, .of_same rfl rfl rfl⟩
    · simp only [System.step, hidle]
    · exact hsound.stay hsound.agrees (fun _ => rfl) hlimit (by rw [hidle]; rfl)
        (by rw [hidle]; rfl)
    · exact hbalanced.keep (fun _ => rfl) rfl rfl rfl (by rw [hidle]; rfl) (by rw [hidle]; rfl)
  · exact ⟨system, (step_of_ne_idle hidle).2 manager reason, h, .of_same rfl rfl rfl⟩

/-- A party waits or makes its next step. -/
theorem InOrder.work (h : system.InOrder) (party : Fin n)
    (hroom : Arrival.octets system.arrived < Word.count) :
    ∃ system', system.step (.work party) = .ok system' ∧ system'.InOrder
      ∧ system.Follows system' (.work party) := by
  cases hwaits : system.waits party with
  | true =>
    refine ⟨system, ?_, h, .of_same rfl rfl rfl⟩
    simp only [System.step, hwaits, if_true]
  | false =>
    obtain ⟨lineup, phase, ledger, hsound, hbalanced⟩ := h
    have hcard := Nat.lt_of_le_of_lt hbalanced.count.card_le system.engine.totals.packets.toNat_lt
    obtain ⟨next, engine', hrun, hcapacity, hpackets, horder⟩ :=
      hsound.advances hbalanced ⟨hcard, hroom⟩ hwaits
    refine ⟨system.become party engine' next, ?_, horder, .of_same hcapacity hpackets rfl⟩
    simp only [System.step, hwaits, Bool.false_eq_true, if_false, hrun]

/-- A move leads from a system in order to a system in order. -/
theorem InOrder.step (h : system.InOrder) {move : Move n} (hready : move.IsReady)
    (hpackets : system.engine.totals.packets.toNat + (Move.packets [move]).length < Word.count)
    (hoctets : Arrival.octets system.arrived < Word.count) :
    ∃ system', system.step move = .ok system' ∧ system'.InOrder ∧ system.Follows system' move := by
  cases move with
  | arrive party packet => exact h.arrive party packet hready hpackets
  | sweep party manager reason => exact h.sweep party manager reason hready
  | work party => exact h.work party hoctets

/-! ### All moves -/

/-- Moves lead from a system in order to systems in order only. -/
theorem InOrder.run (h : system.InOrder) {moves : List (Move n)}
    (hready : ∀ move ∈ moves, move.IsReady)
    (hpackets : system.engine.totals.packets.toNat + (Move.packets moves).length < Word.count)
    (hoctets : Arrival.octets system.arrived + Packet.octets (Move.packets moves) < Word.count) :
    ∃ reached, system.run moves = .ok reached ∧ reached.InOrder
      ∧ reached.engine.table.capacity = system.engine.table.capacity
      ∧ Arrival.octets reached.arrived < Word.count := by
  induction moves generalizing system with
  | nil => exact ⟨system, rfl, h, rfl, Nat.lt_of_le_of_lt (Nat.le_add_right ..) hoctets⟩
  | cons move moves ih =>
    have hsplit : Move.packets (move :: moves) = Move.packets [move] ++ Move.packets moves :=
      List.filterMap_append (l := [move])
    rw [hsplit, List.length_append] at hpackets
    rw [hsplit, Packet.octets, List.map_append, List.sum_append] at hoctets
    obtain ⟨system', hstep, h', hfollows⟩ :=
      h.step (hready move List.mem_cons_self) (by omega) (by omega)
    have hpackets' := hfollows.packets_le
    have hoctets' := hfollows.octets_le
    rw [Packet.octets] at hoctets'
    obtain ⟨reached, hrun, hreached, hsame, hroom⟩ := ih h'
      (fun move' hmem => hready move' (List.mem_cons_of_mem _ hmem)) (by omega)
      (by rw [Packet.octets]; omega)
    refine ⟨reached, ?_, hreached, hsame.trans hfollows.capacity_eq, hroom⟩
    rw [run_cons hstep]
    exact hrun

/-- Before the first move, over an engine whose slots are all spare. -/
theorem start_inOrder {engine : Engine} {lineup : Lineup 1 4} {phase : FlowId → Phase}
    (h : engine.AtRest lineup phase) (hempty : ∀ flow, (phase flow).record = none)
    (htotals : engine.totals = .zero) (hexported : engine.exported = #[]) :
    (start n engine).InOrder := by
  refine ⟨lineup, phase, .empty, ⟨h.agrees, h.fits, fun _ => trivial, ?_, ?_, ?_, ?_⟩,
    ⟨?_, fun _ _ => rfl, ?_, ?_, ?_, ?_⟩⟩
  · exact fun flow hunsettled => absurd (h.settled flow) hunsettled
  · exact fun party party' flow hhand => nomatch hhand
  · intro flow
    show engine.table.heldAt flow = true ↔ _
    rw [AtRest.free h flow]
    constructor
    · intro hfalse
      cases hfalse
    · rintro ⟨party, hlock⟩
      cases hlock
  · exact fun party party' flow hlock => nomatch hlock
  · intro flow record hrecord
    rw [hempty flow] at hrecord
    cases hrecord
  · exact fun entry hmem => absurd hmem (Multiset.notMem_zero entry)
  · show (0 : Multiset ReleasedFlow) = (engine.exported.toList : Multiset ReleasedFlow) + _
    rw [hexported]
    simp [start, Stage.pending]
  · show (0 : Multiset Arrival) = _
    rw [Ledger.total_empty]
    simp [start, Stage.inFlight, Stage.arrival]
  · show engine.totals.Count 0 0
    rw [htotals]
    exact ⟨rfl, rfl⟩

/-- From a fresh engine every run leads to a system in order. -/
theorem run_inOrder {capacity : Nat} (h : capacity < QueueStore.handleLimit)
    {moves : List (Move n)} (hready : ∀ move ∈ moves, move.IsReady)
    (hpackets : (Move.packets moves).length < Word.count)
    (hbytes : Packet.octets (Move.packets moves) < Word.count) :
    ∃ engine, fresh capacity = .ok engine ∧ ∃ reached, (start n engine).run moves = .ok reached
      ∧ reached.InOrder ∧ reached.engine.table.capacity = capacity
      ∧ Arrival.octets reached.arrived < Word.count := by
  obtain ⟨engine, lineup, hfresh, hrest, hcapacity, -, htotals, hexported⟩ := fresh_atRest h
  have hstart : (start n engine).InOrder :=
    start_inOrder hrest (record_freshPhase capacity) htotals hexported
  have hzero : (start n engine).engine.totals.packets.toNat = 0 := by
    show engine.totals.packets.toNat = 0
    rw [htotals]
    rfl
  obtain ⟨reached, hrun, hreached, hsame, hroom⟩ := hstart.run hready (by omega)
    (by show 0 + _ < _; omega)
  exact ⟨engine, hfresh, reached, hrun, hreached, hsame.trans hcapacity, hroom⟩

/-! ### What a run leaves -/

/-- What can be seen between two moves.  The members of each queue, bottom first, are `flows`, and the
arrivals are where `ledger` says. -/
structure Consistent (system : System n) (capacity : Nat) (flows : QueueIndex → List FlowId)
    (ledger : Ledger) : Prop where
  reads : ∀ q, system.engine.queues.ReadsAs q (flows q)
  capacity_eq : system.engine.table.capacity = capacity
  slots_only : ∀ q, ∀ flow ∈ flows q, flow < capacity
  /-- Each slot is in exactly one queue or in the hand of exactly one party. -/
  one_place : ∀ flow, flow < capacity →
    (∃! q, flow ∈ flows q) ∧ (∀ party, (system.stage party).carried ≠ some flow)
    ∨ (∀ q, flow ∉ flows q) ∧ ∃! party, (system.stage party).carried = some flow
  one_holder : ∀ flow, system.engine.table.heldAt flow = true
    ↔ ∃! party, (system.stage party).lock = some flow
  /-- A party that waits for a payload lock waits for one that does not wait. -/
  holder_moves : ∀ party, system.waits party = true → ∃ holder,
    (system.stage holder).lock = (system.stage party).wants ∧ system.waits holder = false
  queued : ∀ flow record, system.engine.table.recordAt flow = some record →
    system.engine.table.heldAt flow = false → flow ∈ flows record.state.queue
  bound : ∀ flow record, system.engine.table.recordAt flow = some record →
    system.engine.table.lookup record.key = some flow
  one_slot : ∀ flow flow' record record', system.engine.table.recordAt flow = some record →
    system.engine.table.recordAt flow' = some record' → record.key = record'.key → flow = flow'
  carries : ∀ flow record, system.engine.table.recordAt flow = some record →
    record.Carries (ledger.history flow)
  empty : ∀ flow, system.engine.table.recordAt flow = none → ledger.history flow = []
  released_carries : ∀ entry ∈ ledger.released, entry.1.record.Carries entry.2
  released_eq : ledger.released.map Prod.fst = (system.engine.exported.toList : Multiset ReleasedFlow)
    + ∑ party, ((system.stage party).pending : Multiset ReleasedFlow)
  arrived_eq : system.arrived = ∑ party, (system.stage party).inFlight + ledger.inSlots capacity
    + ledger.gone + ledger.dropped
  dropped_eq : system.engine.totals.tableFullDrops.toNat = ledger.dropped.card
  packets_eq : system.engine.totals.packets.toNat
    = system.arrived.card + system.engine.totals.undecodable.toNat
  at_rest : (∀ party, system.stage party = .idle) → system.engine.Consistent capacity flows

namespace Sound

variable {lineup : Lineup 1 4} {phase : FlowId → Phase} {flow : FlowId}

theorem one_place (h : system.Sound lineup phase) (hin : phase flow ≠ .outside) :
    (∃! q, flow ∈ lineup.flows q) ∧ (∀ party, (system.stage party).carried ≠ some flow)
    ∨ (∀ q, flow ∉ lineup.flows q) ∧ ∃! party, (system.stage party).carried = some flow := by
  simp only [h.agrees.mem_iff]
  cases hqueue : (phase flow).queue with
  | some q =>
    refine Or.inl ⟨⟨q, rfl, fun q' hq' => (Option.some.inj hq').symm⟩, ?_⟩
    intro party hcarried
    rw [(h.suits party).carried_iff (Stage.hand_of_carried hcarried), hqueue] at hcarried
    cases hcarried
  | none =>
    have hunsettled : ¬ (phase flow).IsSettled := by
      intro hsettled
      cases hphase : phase flow <;> rw [hphase] at hin hqueue hsettled <;>
        simp_all [Phase.queue, Phase.IsSettled]
    obtain ⟨party, hhand⟩ := h.owned flow hunsettled
    refine Or.inr ⟨?_, party, ((h.suits party).carried_iff hhand).2 hqueue, ?_⟩
    · intro q hq
      cases hq
    · intro party' hcarried
      exact h.hand_apart party' party flow (Stage.hand_of_carried hcarried) hhand

theorem one_holder (h : system.Sound lineup phase) (flow : FlowId) :
    system.engine.table.heldAt flow = true ↔ ∃! party, (system.stage party).lock = some flow := by
  rw [h.held_iff]
  constructor
  · rintro ⟨party, hlock⟩
    exact ⟨party, hlock, fun party' hlock' => h.lock_apart _ _ _ hlock' hlock⟩
  · rintro ⟨party, hlock, -⟩
    exact ⟨party, hlock⟩

theorem holder_moves (h : system.Sound lineup phase) (hwaits : system.waits party = true) :
    ∃ holder, (system.stage holder).lock = (system.stage party).wants
      ∧ system.waits holder = false := by
  unfold waits at hwaits
  obtain ⟨flow, hwants, hheld⟩ := (Option.any_eq_true _ _).1 hwaits
  obtain ⟨holder, hlock⟩ := (h.held_iff flow).1 hheld
  refine ⟨holder, hlock.trans hwants.symm, ?_⟩
  unfold waits
  rw [Stage.wants_of_lock hlock]
  rfl

/-- Where nobody has anything to do, nobody has anything in hand. -/
theorem atRest (h : system.Sound lineup phase) (hidle : ∀ party, system.stage party = .idle) :
    system.engine.AtRest lineup phase := by
  refine ⟨h.agrees, ?_, ?_, h.fits⟩
  · intro flow
    by_contra hunsettled
    obtain ⟨party, hhand⟩ := h.owned flow hunsettled
    rw [hidle party] at hhand
    cases hhand
  · intro flow _
    by_contra hheld
    obtain ⟨party, hlock⟩ := (h.held_iff flow).1 (Bool.not_eq_false _ ▸ hheld)
    rw [hidle party] at hlock
    cases hlock

end Sound

theorem InOrder.consistent {capacity : Nat} (h : system.InOrder)
    (hcapacity : system.engine.table.capacity = capacity) :
    ∃ flows ledger, system.Consistent capacity flows ledger := by
  subst hcapacity
  obtain ⟨lineup, phase, ledger, hsound, hbalanced⟩ := h
  have hrecord := hsound.agrees.record_eq
  refine ⟨lineup.flows, ledger, fun q => (hsound.agrees.represents.chain q).readsAs, rfl, ?_, ?_,
    hsound.one_holder, fun party => hsound.holder_moves, ?_, ?_, ?_, ?_, ?_,
    hbalanced.released_carries, hbalanced.released_eq, ?_, hbalanced.count.dropped_eq,
    hbalanced.count.packets_eq,
    fun hidle => (hsound.atRest hidle).consistent rfl⟩
  · intro q flow hmem
    exact hsound.agrees.lt_size (Phase.ne_outside_of_queue ((hsound.agrees.mem_iff ..).1 hmem))
  · intro flow hlt
    exact hsound.one_place ((hsound.agrees.inside_iff flow).2 hlt)
  · intro flow record hsome hfree
    rw [hrecord] at hsome
    have hphase := (hsound.settled_of_free hfree (Phase.ne_taken_of_record hsome)).eq_tracked hsome
    rw [hsound.agrees.mem_iff, hphase]
    rfl
  · intro flow record hsome
    rw [hrecord] at hsome
    exact (hsound.agrees.lookup_iff ..).2 (Phase.key_of_record hsome)
  · intro flow flow' record record' hsome hsome' hkey
    rw [hrecord] at hsome hsome'
    have hkey' := Phase.key_of_record hsome'
    rw [← hkey] at hkey'
    exact hsound.agrees.eq_of_key (Phase.key_of_record hsome) hkey'
  · intro flow record hsome
    rw [hrecord] at hsome
    exact hbalanced.carries flow record hsome
  · intro flow hnone
    rw [hrecord] at hnone
    exact hbalanced.empty flow hnone
  · rw [hbalanced.arrived_eq, Ledger.total]
    abel

/-- Whatever packets and sweeps any number of parties take up, and in whatever order they make their
steps, no step stops, each slot is in one queue or in one hand, a record that nobody has locked is in the
queue of its state and bound, no two slots hold records of one conversation, and each packet that can be
read is accounted in one record or counted as dropped, unless it is still on its way. -/
theorem run_consistent {capacity : Nat} (h : capacity < QueueStore.handleLimit) (n : Nat)
    (moves : List (Move n)) (hready : ∀ move ∈ moves, move.IsReady)
    (hpackets : (Move.packets moves).length < Word.count)
    (hbytes : Packet.octets (Move.packets moves) < Word.count) :
    ∃ engine, fresh capacity = .ok engine ∧ ∃ reached, (start n engine).run moves = .ok reached
      ∧ ∃ flows ledger, reached.Consistent capacity flows ledger := by
  obtain ⟨engine, hfresh, reached, hrun, hreached, hcapacity, -⟩ :=
    run_inOrder (n := n) h hready hpackets hbytes
  exact ⟨engine, hfresh, reached, hrun, hreached.consistent hcapacity⟩

theorem packets_rivals (first late : Fin n) (packet packet' : Packet) (times times' : Nat) :
    Move.packets (rivals first late packet packet' times times') = [packet, packet'] := by
  simp [rivals, Move.packets, Move.packet, List.filterMap_cons, List.filterMap_append]

theorem isReady_of_mem_rivals {first late : Fin n} {packet packet' : Packet} {times times' : Nat}
    (hfits : packet.time.Fits) (hfits' : packet'.time.Fits) :
    ∀ move ∈ rivals first late packet packet' times times', move.IsReady := by
  intro move hmem
  simp only [rivals, List.cons_append, List.nil_append, List.mem_cons, List.mem_append,
    List.mem_replicate] at hmem
  rcases hmem with rfl | rfl | rfl | rfl | rfl | rfl | ⟨-, rfl⟩ | ⟨-, rfl⟩
  case inl => exact hfits
  case inr.inr.inr.inl => exact hfits'
  all_goals exact trivial

/-- Two workers over two slots start one flow.  Both packets are in one record then. -/
theorem run_rivals_fresh : ∃ engine times times' reached slot record, fresh 2 = .ok engine
    ∧ (start 2 engine).run (rivals 0 1 (.bareAt 1) (.bareAt 2) times times') = .ok reached
    ∧ (∀ party, reached.stage party = .idle)
    ∧ reached.engine.table.recordAt slot = some record ∧ record.toServer.packets.toNat = 2
    ∧ ∀ slot', slot' ≠ slot → reached.engine.table.recordAt slot' = none := by
  have hlimit : 2 < QueueStore.handleLimit := by decide
  obtain ⟨engine, lineup, hfresh, hrest, -⟩ := fresh_atRest hlimit
  obtain ⟨slot, slot', hspare⟩ := List.length_eq_two.1 hrest.spare_perm.length_eq
  obtain ⟨headers, hheaders, hcount⟩ : ∃ headers,
      Frame.headers (Packet.bareAt 1).frame = .ok headers
      ∧ ((FlowRecord.first headers (Packet.bareAt 1).time (Packet.bareAt 1).size).counted headers
        (Packet.bareAt 2).time (Packet.bareAt 2).size).toServer.packets.toNat = 2 := by
    refine ⟨_, rfl, ?_⟩
    decide +kernel
  have hne : (1 : Fin 2) ≠ 0 := by decide
  have hfits : (Packet.bareAt 1).time.Fits := by decide
  have hfits' : (Packet.bareAt 2).time.Fits := by decide
  have hsizes : (Packet.bareAt 1).size.toNat + (Packet.bareAt 2).size.toNat < Word.count := by decide
  obtain ⟨times, times', reached, lineup', hrun, hstage, hreached⟩ :=
    run_rivals (start 2 engine) hrest hspare hne rfl rfl hfits hfits' hheaders hheaders rfl
      (hrest.lookup_fresh _) hsizes
  refine ⟨engine, times, times', reached, slot, _, hfresh, hrun, fun party => ?_, ?_, hcount, ?_⟩
  · rw [hstage]
    rfl
  · rw [hreached.agrees.record_eq, Function.update_self]
    rfl
  · intro slot'' hne
    rw [hreached.agrees.record_eq, Function.update_of_ne hne, record_freshPhase]

/-- Two workers start the same flow, and the second gives its slot back.  While a manager sweeps, some
are still at work in the end; without it, all are idle, and both packets are in one record. -/
theorem run_consistent_of_race :
    (∃ engine, fresh 2 = .ok engine ∧ ∃ reached, (start 3 engine).run [
        .arrive 0 (.bareAt 1), .arrive 1 (.bareAt 2), .work 0, .work 1, .work 0, .work 1, .work 0,
        .work 1, .work 0, .work 1, .work 0, .work 1,
        .sweep 2 ⟨⟨⟨9, 0⟩, ⟨9, 0⟩, ⟨9, 0⟩⟩, .reliable⟩ .shutdown, .work 0, .work 2, .work 2, .work 1,
        .work 0, .work 1, .work 2, .work 1] = .ok reached
      ∧ ∃ flows ledger, reached.Consistent 2 flows ledger)
    ∧ ∃ engine, fresh 2 = .ok engine ∧ ∃ times times' reached slot record,
      (start 2 engine).run (rivals 0 1 (.bareAt 1) (.bareAt 2) times times') = .ok reached
      ∧ (∀ party, reached.stage party = .idle)
      ∧ reached.engine.table.recordAt slot = some record ∧ record.toServer.packets.toNat = 2
      ∧ (∀ slot', slot' ≠ slot → reached.engine.table.recordAt slot' = none)
      ∧ ∃ flows ledger, reached.Consistent 2 flows ledger := by
  constructor
  · exact run_consistent (by decide) 3 [
      .arrive 0 (.bareAt 1), .arrive 1 (.bareAt 2), .work 0, .work 1, .work 0, .work 1, .work 0,
      .work 1, .work 0, .work 1, .work 0, .work 1,
      .sweep 2 ⟨⟨⟨9, 0⟩, ⟨9, 0⟩, ⟨9, 0⟩⟩, .reliable⟩ .shutdown, .work 0, .work 2, .work 2, .work 1,
      .work 0, .work 1, .work 2, .work 1]
      (by decide) (by decide) (by decide)
  · obtain ⟨engine, times, times', reached, slot, record, hfresh, hrun, hends⟩ := run_rivals_fresh
    have hlimit : 2 < QueueStore.handleLimit := by decide
    obtain ⟨engine', hfresh', reached', hrun', hconsistent⟩ := run_consistent hlimit 2
      (rivals 0 1 (.bareAt 1) (.bareAt 2) times times') (isReady_of_mem_rivals (by decide) (by decide))
      (by rw [packets_rivals]; decide) (by rw [packets_rivals]; decide)
    obtain rfl := Except.ok.inj (hfresh.symm.trans hfresh')
    obtain rfl := Except.ok.inj (hrun.symm.trans hrun')
    obtain ⟨hidle, hrecord, htwo, hothers⟩ := hends
    exact ⟨engine, hfresh, times, times', reached, slot, record, hrun, hidle, hrecord, htwo, hothers,
      hconsistent⟩

end System

end FlowTracker
