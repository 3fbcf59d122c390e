import FlowTracker.Proofs.Interleaving.Alone
import FlowTracker.Proofs.Interleaving.Runs
import FlowTracker.Proofs.Engine.Keeps

/-!
# Parties that finish

A worker whose answer of the table is out of date asks again, so a packet might be on its way for ever.
It is not: the answer gets out of date when another party binds or unbinds a conversation, and each such
change uses up something that is there only once, a packet that is not accounted yet or a visit of a
sweep.  Between two changes every step brings its party nearer to its end.

`System.ahead` counts both, so each step of a party that does not wait makes it smaller
(`InOrder.nears`).  While somebody waits for a payload lock, the holder does not wait, so in a round in
which every party moves somebody makes a step until all are idle.
-/

namespace FlowTracker

open Engine EStateM EngineM

/-! ### What is left of a stage -/

/-- The steps that are left of a tour whose current queue is still to be visited.  A visit takes three
steps at most, and one more hands over what it took. -/
def Tour.steps (capacity : Nat) (tour : Tour) : Nat :=
  4 * tour.visits + (4 * capacity + 2) * (tour.states.length - 1) + tour.released.length + 3

namespace Stage

/-- What is left to do, whatever others do in between: a packet is to be accounted once, and a sweep
never goes back. -/
def duties (capacity : Nat) : Stage → Nat
  | seeking _ | found .. | holding .. | missing .. | needing _ | waiting _ | taken .. | binding ..
  | refused .. | returning .. => 1
  | opening tour => (4 * capacity + 2) * tour.states.length + tour.released.length + 2
  | visiting tour => tour.steps capacity
  | unlocking tour _ => tour.steps capacity + 1
  | aside tour _ => tour.steps capacity + 2
  | releasing _ flows => flows.length + 1
  | _ => 0

def detour : Option FlowId → Nat
  | none => 5
  | some _ => 6

/-- The steps to the end or to the place where the packet is accounted, while the table answers so.  They
are more where an earlier answer was another one. -/
def way (answer : FlowKey → Option FlowId) : Stage → Nat
  | seeking arrival => detour (answer arrival.key)
  | found arrival flow =>
    if answer arrival.key = some flow then 5 else detour (answer arrival.key) + 3
  | holding arrival flow =>
    if answer arrival.key = some flow then 4 else detour (answer arrival.key) + 2
  | missing arrival _ => detour (answer arrival.key) + 1
  | needing arrival => if answer arrival.key = none then 4 else 12
  | waiting arrival => if answer arrival.key = none then 3 else 11
  | taken arrival _ => if answer arrival.key = none then 2 else 10
  | binding arrival _ => if answer arrival.key = none then 1 else 9
  | refused arrival _ => detour (answer arrival.key) + 2
  | returning arrival _ => detour (answer arrival.key) + 1
  | storing .. => 4
  | moving .. | publishing .. => 3
  | placing .. | created _ => 2
  | leaving _ | counting _ | dropping _ => 1
  | _ => 0

theorem detour_le (answer : Option FlowId) : detour answer ≤ 6 := by
  cases answer <;> simp [detour]

theorem way_le (answer : FlowKey → Option FlowId) (stage : Stage) : stage.way answer ≤ 12 := by
  have hdetour : ∀ arrival : Arrival, detour (answer arrival.key) ≤ 6 := fun _ => detour_le _
  cases stage <;> simp only [way] <;> (try split) <;> grind

/-! ### One step -/

/-- The step gets something done, or brings the party nearer and leaves the answers of the table as they
are. -/
def Nears (capacity : Nat) (engine engine' : Engine) (stage next : Stage) : Prop :=
  next.duties capacity < stage.duties capacity
    ∨ next.duties capacity = stage.duties capacity
      ∧ engine'.table.lookup = engine.table.lookup
      ∧ next.way engine.table.lookup < stage.way engine.table.lookup

variable {worker : Worker} {capacity : Nat} {engine engine' : Engine} {stage next : Stage}

def Quiet {α : Type} (program : EngineM α) : Prop :=
  ∀ answers, Keeps program (fun engine => engine.table.lookup = answers) fun _ => True

theorem quiet_onQueues {α : Type} (program : QueueM 1 4 α) : Quiet (onQueues program) :=
  fun _ => Keeps.onQueues program fun _ _ hinv => hinv

theorem quiet_lock (flow : FlowId) : Quiet (Engine.lock flow) :=
  fun _ => Keeps.lock flow fun _ _ hinv => hinv

theorem quiet_check {α : Type} (result : Except Fault α) : Quiet (check result) :=
  fun _ => Keeps.check result

theorem Quiet.eq {α : Type} {program : EngineM α} (h : Quiet program) {a : α}
    (hrun : program.run engine = .ok a engine') : engine'.table.lookup = engine.table.lookup :=
  (h _ engine a engine' rfl hrun).2

theorem nears_of_quiet {α : Type} {program : EngineM α} {answer : α → Stage} (hquiet : Quiet program)
    (h : (program >>= fun a => pure (answer a)).run engine = .ok next engine')
    (hduties : ∀ a, (answer a).duties capacity = stage.duties capacity)
    (hway : ∀ a, (answer a).way engine.table.lookup < stage.way engine.table.lookup) :
    Nears capacity engine engine' stage next := by
  obtain ⟨a, engine₁, hrun, hpure⟩ := run_bind_eq_ok h
  cases hpure
  exact Or.inr ⟨hduties a, hquiet.eq hrun, hway a⟩

variable {arrival : Arrival} {flow : FlowId} {record : FlowRecord} {tour : Tour}

theorem nears_seeking (h : ((seeking arrival).advance worker).run engine = .ok next engine') :
    Nears capacity engine engine' (seeking arrival) next := by
  rw [run_seeking] at h
  cases h
  right
  cases hlookup : engine.table.lookup arrival.key with
  | none => exact ⟨rfl, rfl, by simp [way, detour, hlookup]⟩
  | some flow => exact ⟨rfl, rfl, by simp [way, detour, hlookup]⟩

/-- Whoever locks a slot to which the conversation is bound finds its record there. -/
theorem nears_holding (h : ((holding arrival flow).advance worker).run engine = .ok next engine')
    (hlt : flow < engine.table.capacity)
    (hbound : engine.table.lookup arrival.key = some flow →
      ∃ record, engine.table.recordAt flow = some record ∧ record.key = arrival.key) :
    Nears capacity engine engine' (holding arrival flow) next := by
  simp only [advance, run_bind, run_slot hlt] at h
  have hmissing : (∀ record, engine.table.recordAt flow = some record → record.key ≠ arrival.key) →
      Nears capacity engine engine (holding arrival flow) (missing arrival flow) := by
    intro hother
    have hunbound : engine.table.lookup arrival.key ≠ some flow := by
      intro hlookup
      obtain ⟨record, hrecord, hkey⟩ := hbound hlookup
      exact hother record hrecord hkey
    exact Or.inr ⟨rfl, rfl, by simp [way, hunbound]⟩
  cases hrecord : engine.table.recordAt flow with
  | none =>
    rw [hrecord] at h hmissing
    cases h
    refine hmissing fun record hsome => ?_
    cases hsome
  | some record =>
    simp only [hrecord, Option.some.injEq, forall_eq'] at h hmissing
    split at h
    · rename_i hkey
      cases h
      exact hmissing hkey
    · obtain ⟨⟨before, after⟩, engine₁, -, h⟩ := run_bind_eq_ok h
      cases h
      left
      split <;> exact Nat.zero_lt_one

theorem nears_needing (h : ((needing arrival).advance worker).run engine = .ok next engine') :
    Nears capacity engine engine' (needing arrival) next := by
  obtain ⟨spare, engine₁, htake, h⟩ := run_bind_eq_ok h
  obtain ⟨free, engine₂, hdequeue, htake⟩ := run_bind_eq_ok htake
  have hsame := (quiet_onQueues (QueueM.dequeue spareQueue)).eq hdequeue
  right
  cases free with
  | some flow =>
    cases htake
    cases h
    refine ⟨rfl, hsame, ?_⟩
    simp only [way]
    split <;> omega
  | none =>
    cases htake
    cases h
    refine ⟨rfl, hsame, ?_⟩
    simp only [way]
    split <;> omega

theorem nears_waiting (h : ((waiting arrival).advance worker).run engine = .ok next engine') :
    Nears capacity engine engine' (waiting arrival) next := by
  obtain ⟨spare, engine₁, hawait, h⟩ := run_bind_eq_ok h
  have hsame := (quiet_onQueues (QueueM.dequeue spareQueue)).eq hawait
  cases spare with
  | some flow =>
    cases h
    refine Or.inr ⟨rfl, hsame, ?_⟩
    simp only [way]
    split <;> omega
  | none =>
    cases h
    exact Or.inl Nat.zero_lt_one

theorem nears_binding (h : ((binding arrival flow).advance worker).run engine = .ok next engine') :
    Nears capacity engine engine' (binding arrival flow) next := by
  simp only [advance, EStateM.run_bind] at h
  cases hlookup : engine.table.lookup arrival.key with
  | none =>
    rw [run_bind_free flow hlookup] at h
    cases h
    exact Or.inl Nat.zero_lt_one
  | some holder =>
    rw [run_bind_bound hlookup] at h
    cases h
    exact Or.inr ⟨rfl, rfl, by simp [way, detour, hlookup]⟩

theorem nears_opening (h : ((opening tour).advance worker).run engine = .ok next engine')
    (hlength : ∀ q, (engine.queues.queue q).length ≤ capacity) :
    Nears capacity engine engine' (opening tour) next := by
  left
  cases hstates : tour.states with
  | nil =>
    simp only [advance, hstates] at h
    cases h
    simp [duties, hstates]
  | cons state states =>
    simp only [advance, hstates] at h
    cases h
    have hvisits := hlength state.queue
    simp only [duties, Tour.steps, Tour.released, hstates, List.length_cons, Nat.add_sub_cancel,
      Nat.mul_add]
    omega

theorem nears_visiting (h : ((visiting tour).advance worker).run engine = .ok next engine') :
    Nears capacity engine engine' (visiting tour) next := by
  left
  have hdone : (opening tour.next).duties capacity < (visiting tour).duties capacity := by
    simp only [duties, Tour.steps, Tour.next, Tour.released, List.length_tail]
    omega
  obtain ⟨manager, reason, clock, states, visits, harvest⟩ := tour
  rcases states with _ | ⟨state, states⟩
  · cases h
    exact hdone
  rcases visits with _ | visits
  · cases h
    exact hdone
  obtain ⟨visit, engine₁, -, h⟩ := run_bind_eq_ok h
  cases visit with
  | nothing =>
    cases h
    exact hdone
  | taken flow record =>
    cases h
    have hrecord : record.toList.length ≤ 1 := by cases record <;> simp
    simp only [duties, Tour.steps, Tour.after, Tour.released, Harvest.after, List.length_map,
      List.length_reverse, List.length_append]
    omega
  | busy =>
    cases h
    simp only [duties, Tour.steps, Tour.after, Tour.released, Harvest.after]
    omega
  | kept =>
    cases h
    simp only [duties, Tour.steps, Tour.after, Tour.released, Harvest.after]
    omega

/-- Every step of a party that is not idle brings it nearer to its end. -/
theorem nears (h : (stage.advance worker).run engine = .ok next engine') (hidle : stage ≠ idle)
    (hlength : ∀ q, (engine.queues.queue q).length ≤ capacity)
    (hholding : ∀ arrival flow, stage = holding arrival flow → flow < engine.table.capacity
      ∧ (engine.table.lookup arrival.key = some flow →
        ∃ record, engine.table.recordAt flow = some record ∧ record.key = arrival.key)) :
    Nears capacity engine engine' stage next := by
  cases stage with
  | idle => exact absurd rfl hidle
  | seeking arrival => exact nears_seeking h
  | found arrival flow =>
    refine nears_of_quiet (quiet_lock flow) h (fun _ => rfl) fun _ => ?_
    simp only [way]
    split <;> omega
  | holding arrival flow =>
    obtain ⟨hlt, hbound⟩ := hholding arrival flow rfl
    exact nears_holding h hlt hbound
  | moving flow before after =>
    exact nears_of_quiet (quiet_onQueues _) h (fun _ => rfl) fun _ => by simp [way]
  | placing flow before after =>
    obtain ⟨_, engine₁, happend, h⟩ := run_bind_eq_ok h
    have hsame := (quiet_onQueues (QueueM.append after.queue flow)).eq happend
    cases h
    exact Or.inr ⟨rfl, hsame, by simp [way]⟩
  | leaving flow => cases h; exact Or.inr ⟨rfl, rfl, by simp [way]⟩
  | missing arrival flow => cases h; exact Or.inr ⟨rfl, rfl, by simp [way]⟩
  | needing arrival => exact nears_needing h
  | waiting arrival => exact nears_waiting h
  | dropping arrival => cases h; exact Or.inr ⟨rfl, rfl, by simp [way]⟩
  | taken arrival flow =>
    refine nears_of_quiet (quiet_lock flow) h (fun _ => rfl) fun _ => ?_
    simp only [way]
    split <;> omega
  | binding arrival flow => exact nears_binding h
  | storing arrival flow =>
    obtain ⟨record, engine₁, hstart, h⟩ := run_bind_eq_ok h
    have hsame := (quiet_check _).eq hstart
    cases h
    exact Or.inr ⟨rfl, hsame, by simp [way]⟩
  | publishing flow record =>
    exact nears_of_quiet (quiet_onQueues _) h (fun _ => rfl) fun _ => by simp [way]
  | created flow => cases h; exact Or.inr ⟨rfl, rfl, by simp [way]⟩
  | counting flow => cases h; exact Or.inr ⟨rfl, rfl, by simp [way]⟩
  | refused arrival flow => cases h; exact Or.inr ⟨rfl, rfl, by simp [way]⟩
  | returning arrival flow =>
    exact nears_of_quiet (quiet_onQueues _) h (fun _ => rfl) fun _ => by simp [way]
  | opening tour => exact nears_opening h hlength
  | visiting tour => exact nears_visiting h
  | aside tour flow =>
    obtain ⟨_, engine₁, happend, h⟩ := run_bind_eq_ok h
    cases h
    exact Or.inl (by simp [duties])
  | unlocking tour flow => cases h; exact Or.inl (by simp [duties])
  | releasing tour flows =>
    cases flows with
    | nil => cases h; exact Or.inl (by simp [duties])
    | cons flow flows =>
      obtain ⟨_, engine₁, hrelease, h⟩ := run_bind_eq_ok h
      cases h
      exact Or.inl (by simp [duties])

end Stage

/-! ### One move -/

namespace System

variable {n : Nat} {system : System n} {party : Fin n} {capacity : Nat}

/-- How far the parties are from the end of everything that they have taken up. -/
def ahead (system : System n) (capacity : Nat) : Nat :=
  (12 * n + 1) * ∑ party, (system.stage party).duties capacity
    + ∑ party, (system.stage party).way system.engine.table.lookup

theorem ahead_become_lt {engine : Engine} {next : Stage}
    (h : Stage.Nears capacity system.engine engine (system.stage party) next) :
    (system.become party engine next).ahead capacity < system.ahead capacity := by
  have hduties := sum_become system party engine next (Stage.duties capacity)
  unfold ahead
  rcases h with hdone | ⟨hsame, hanswers, hnearer⟩
  · have hfewer : ∑ party', ((system.become party engine next).stage party').duties capacity + 1
        ≤ ∑ party', (system.stage party').duties capacity := by omega
    have hway : ∑ party', ((system.become party engine next).stage party').way
        (system.become party engine next).engine.table.lookup ≤ 12 * n := by
      refine (Finset.sum_le_card_nsmul _ _ 12 fun party' _ => Stage.way_le _ _).trans ?_
      simp [Nat.mul_comm]
    have hmul := Nat.mul_le_mul_left (12 * n + 1) hfewer
    rw [Nat.mul_succ] at hmul
    omega
  · have hway := sum_become system party engine next (Stage.way system.engine.table.lookup)
    have hanswers' : (system.become party engine next).engine.table.lookup
        = system.engine.table.lookup := hanswers
    rw [hsame, Nat.add_right_cancel_iff] at hduties
    rw [hduties, hanswers']
    omega

theorem nears_of_sound {lineup : Lineup 1 4} {phase : FlowId → Phase} {engine : Engine}
    {next : Stage} (h : system.Sound lineup phase)
    (hrun : ((system.stage party).advance ⟨party⟩).run system.engine = .ok next engine)
    (hidle : system.stage party ≠ .idle) :
    Stage.Nears system.engine.table.capacity system.engine engine (system.stage party) next := by
  refine Stage.nears hrun hidle ?_ ?_
  · intro q
    have hchain := h.agrees.represents.chain q
    rw [hchain.length_eq]
    have hsubset : lineup.flows q ⊆ List.range system.engine.table.capacity := by
      intro flow hmem
      have hin := Phase.ne_outside_of_queue ((h.agrees.mem_iff ..).1 hmem)
      exact List.mem_range.2 (h.agrees.lt_size hin)
    have hle := (hchain.nodup.subperm hsubset).length_le
    rwa [List.length_range] at hle
  · intro arrival flow hstage
    have hsuits := h.suits_of hstage
    refine ⟨h.agrees.lt_size hsuits.2, fun hlookup => ?_⟩
    have hkey := (h.agrees.lookup_iff ..).1 hlookup
    have hsettled := h.settled_of_lock hstage rfl rfl (by
      rintro htaken
      rw [htaken] at hkey
      cases hkey)
    cases hphase : phase flow with
    | tracked record =>
      rw [hphase] at hkey
      refine ⟨record, ?_, Option.some.inj hkey⟩
      rw [h.agrees.record_eq, hphase]
      rfl
    | outside => rw [hphase] at hkey; cases hkey
    | spare => rw [hphase] at hkey; cases hkey
    | _ => rw [hphase] at hsettled; exact hsettled.elim

/-! ### Rounds -/

/-- The party has nothing to do, or waits for a payload lock. -/
def Rests (system : System n) (party : Fin n) : Prop :=
  system.stage party = .idle ∨ system.waits party = true

theorem step_of_rests (h : system.Rests party) : system.step (.work party) = .ok system := by
  rcases h with hidle | hwaits
  · have hstep : ((system.stage party).advance ⟨party⟩).run system.engine
        = .ok (system.stage party) system.engine := by
      rw [hidle]
      rfl
    rw [step_work hstep, become_self]
  · simp only [step, hwaits, if_true]

/-- Whoever waits for a payload lock waits for somebody who does not rest. -/
theorem InOrder.idle_of_rests (h : system.InOrder) (hrests : ∀ party, system.Rests party)
    (party : Fin n) : system.stage party = .idle := by
  refine (hrests party).resolve_right fun hwaits => ?_
  obtain ⟨lineup, phase, ledger, hsound, -⟩ := h
  obtain ⟨holder, hlock, hmoves⟩ := hsound.holder_moves hwaits
  obtain ⟨flow, hwants, -⟩ := (Option.any_eq_true _ _).1 hwaits
  rw [hwants] at hlock
  rcases hrests holder with hidle | hwaits'
  · rw [hidle] at hlock
    cases hlock
  · rw [hwaits'] at hmoves
    cases hmoves

/-- Parties have made steps, and nobody has taken anything up. -/
structure Onward (system next : System n) : Prop where
  inOrder : next.InOrder
  arrived_eq : next.arrived = system.arrived
  capacity_eq : next.engine.table.capacity = system.engine.table.capacity

theorem Onward.trans {next last : System n} (h : system.Onward next) (h' : next.Onward last) :
    system.Onward last :=
  ⟨h'.inOrder, h'.arrived_eq.trans h.arrived_eq, h'.capacity_eq.trans h.capacity_eq⟩

/-- The step of a party that does not rest brings the end of everything nearer. -/
theorem InOrder.nears (h : system.InOrder) (hroom : Arrival.octets system.arrived < Word.count)
    (hmoves : ¬ system.Rests party) :
    ∃ next, system.step (.work party) = .ok next ∧ system.Onward next
      ∧ next.ahead system.engine.table.capacity < system.ahead system.engine.table.capacity := by
  obtain ⟨hidle, hwaits⟩ := not_or.1 hmoves
  rw [Bool.not_eq_true] at hwaits
  obtain ⟨next, hstep, horder, hfollows⟩ := h.work party hroom
  obtain ⟨lineup, phase, ledger, hsound, -⟩ := h
  obtain ⟨stage, engine, hrun, rfl⟩ := advance_of_step hwaits hstep
  exact ⟨_, hstep, ⟨horder, rfl, hfollows.capacity_eq⟩,
    ahead_become_lt (nears_of_sound hsound hrun hidle)⟩

/-- Some parties make a step, one after the other: nothing happens if all of them rest, and otherwise
the end comes nearer. -/
theorem InOrder.round (h : system.InOrder) (hroom : Arrival.octets system.arrived < Word.count)
    (parties : List (Fin n)) :
    ∃ next, system.run (parties.map .work) = .ok next ∧ system.Onward next
      ∧ (next = system ∧ (∀ party ∈ parties, system.Rests party)
        ∨ next.ahead system.engine.table.capacity < system.ahead system.engine.table.capacity) := by
  induction parties generalizing system with
  | nil => exact ⟨system, rfl, ⟨h, rfl, rfl⟩, Or.inl ⟨rfl, List.forall_mem_nil _⟩⟩
  | cons party parties ih =>
    by_cases hrests : system.Rests party
    · obtain ⟨next, hrun, honward, hends⟩ := ih h hroom
      refine ⟨next, (run_cons (step_of_rests hrests) _).trans hrun, honward, ?_⟩
      exact hends.imp_left fun hall => ⟨hall.1, List.forall_mem_cons.2 ⟨hrests, hall.2⟩⟩
    · obtain ⟨between, hstep, honward, hnearer⟩ := h.nears hroom hrests
      obtain ⟨next, hrun, honward', hends⟩ := ih honward.inOrder (honward.arrived_eq.symm ▸ hroom)
      refine ⟨next, (run_cons hstep _).trans hrun, honward.trans honward', Or.inr ?_⟩
      rw [honward.capacity_eq] at hends
      rcases hends with ⟨rfl, -⟩ | hless
      · exact hnearer
      · exact hless.trans hnearer

/-- In the course of enough rounds there is one before which all its parties rest. -/
theorem InOrder.stops (h : system.InOrder) (hroom : Arrival.octets system.arrived < Word.count)
    {rounds : List (List (Fin n))}
    (hmany : system.ahead system.engine.table.capacity < rounds.length) :
    ∃ earlier parties later reached, rounds = earlier ++ parties :: later
      ∧ system.run (earlier.flatten.map .work) = .ok reached ∧ system.Onward reached
      ∧ ∀ party ∈ parties, reached.Rests party := by
  induction rounds generalizing system with
  | nil => exact absurd hmany (Nat.not_lt_zero _)
  | cons parties rounds ih =>
    obtain ⟨next, hrun, honward, ⟨-, hrests⟩ | hnearer⟩ := h.round hroom parties
    · exact ⟨[], parties, rounds, system, rfl, rfl, ⟨h, rfl, rfl⟩, hrests⟩
    · rw [← honward.capacity_eq] at hnearer
      rw [List.length_cons, ← honward.capacity_eq] at hmany
      obtain ⟨earlier, parties', later, reached, rfl, hrun', honward', hrests⟩ :=
        ih honward.inOrder (honward.arrived_eq.symm ▸ hroom) (by omega)
      refine ⟨parties :: earlier, parties', later, reached, rfl, ?_, honward.trans honward', hrests⟩
      rw [List.flatten_cons, List.map_append, run_append hrun]
      exact hrun'

theorem run_of_rests {parties : List (Fin n)} (h : ∀ party ∈ parties, system.Rests party) :
    system.run (parties.map .work) = .ok system := by
  induction parties with
  | nil => rfl
  | cons party parties ih =>
    obtain ⟨hrests, h⟩ := List.forall_mem_cons.1 h
    exact (run_cons (step_of_rests hrests) _).trans (ih h)

/-- A party that nobody disturbs comes to the end of what it does, or to a payload lock that another
party holds. -/
theorem InOrder.rests (h : system.InOrder) (hroom : Arrival.octets system.arrived < Word.count)
    (party : Fin n) : ∃ times reached, system.run (List.replicate times (.work party)) = .ok reached
      ∧ reached.Rests party := by
  have hmany : system.ahead system.engine.table.capacity
      < (List.replicate (system.ahead system.engine.table.capacity + 1) [party]).length := by
    rw [List.length_replicate]
    exact Nat.lt_succ_self _
  obtain ⟨earlier, parties, later, reached, hsplit, hrun, -, hrests⟩ := h.stops hroom hmany
  obtain ⟨-, hearlier, htail⟩ := List.append_eq_replicate_iff.1 hsplit.symm
  obtain ⟨rfl, -⟩ : parties = [party] ∧ _ := List.cons.inj (htail.trans List.replicate_succ)
  refine ⟨earlier.length, reached, ?_, hrests party (List.mem_singleton_self party)⟩
  rw [hearlier] at hrun
  simpa using hrun

/-- After enough rounds in which every party makes a step, all parties are idle. -/
theorem InOrder.finish (h : system.InOrder) (hroom : Arrival.octets system.arrived < Word.count)
    {rounds : List (List (Fin n))} (hall : ∀ parties ∈ rounds, ∀ party, party ∈ parties)
    (hmany : system.ahead system.engine.table.capacity < rounds.length) :
    ∃ last, system.run (rounds.flatten.map .work) = .ok last ∧ system.Onward last
      ∧ ∀ party, last.stage party = .idle := by
  obtain ⟨earlier, parties, later, last, rfl, hrun, honward, hrests⟩ := h.stops hroom hmany
  have hrests' : ∀ party, last.Rests party := by
    intro party
    exact hrests party (hall parties (by simp) party)
  refine ⟨last, ?_, honward, honward.inOrder.idle_of_rests hrests'⟩
  rw [List.flatten_append, List.map_append, run_append hrun]
  exact run_of_rests fun party _ => hrests' party

/-- Whatever any number of parties have taken up, each of them comes to the end of it when the others
make no step, or to a payload lock that another one holds.  Once nobody takes anything up any more, they
all finish: after enough rounds in each of which every party makes a step, in whatever order, all are
idle, and each packet that can be read is accounted in one record or counted as dropped.  So no packet
stays on its way. -/
theorem run_finishes {capacity : Nat} (h : capacity < QueueStore.handleLimit) (n : Nat)
    (moves : List (Move n)) (hready : ∀ move ∈ moves, move.IsReady)
    (hpackets : (Move.packets moves).length < Word.count)
    (hbytes : Packet.octets (Move.packets moves) < Word.count) :
    ∃ engine, fresh capacity = .ok engine ∧ ∃ reached enough, (start n engine).run moves = .ok reached
      ∧ (∀ party, ∃ times alone, reached.run (List.replicate times (.work party)) = .ok alone
        ∧ alone.Rests party)
      ∧ ∀ rounds : List (List (Fin n)), (∀ parties ∈ rounds, ∀ party, party ∈ parties) →
        enough ≤ rounds.length → ∃ last, reached.run (rounds.flatten.map .work) = .ok last
          ∧ (∀ party, last.stage party = .idle) ∧ last.arrived = reached.arrived
          ∧ ∃ flows ledger, last.Consistent capacity flows ledger
            ∧ last.arrived = ledger.inSlots capacity + ledger.gone + ledger.dropped := by
  obtain ⟨engine, hfresh, reached, hrun, hreached, hcapacity, hroom⟩ :=
    run_inOrder (n := n) h hready hpackets hbytes
  refine ⟨engine, hfresh, reached, reached.ahead capacity + 1, hrun, hreached.rests hroom,
    fun rounds hall henough => ?_⟩
  subst hcapacity
  obtain ⟨last, hrun', honward, hidle⟩ := hreached.finish hroom hall henough
  obtain ⟨flows, ledger, hconsistent⟩ := honward.inOrder.consistent honward.capacity_eq
  refine ⟨last, hrun', hidle, honward.arrived_eq, flows, ledger, hconsistent, ?_⟩
  have hnone : ∀ party, (last.stage party).inFlight = 0 := by
    intro party
    rw [hidle party]
    rfl
  simpa [hnone] using hconsistent.arrived_eq

end System

end FlowTracker
