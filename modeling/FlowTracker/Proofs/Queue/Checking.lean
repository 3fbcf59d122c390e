import FlowTracker.Proofs.Checked.Arithmetic
import FlowTracker.Proofs.Queue.Chain

/-!
# The link check decides well-formedness

The link check compares two bounded walks with each other, with the ends and with the length, on cells
that may hold anything.  `QueueStore.check_decides` says that it finds nothing wrong exactly if the queue
is the chain of some list, and that it comes to a verdict whenever no link leaves the arena.

That a chain passes is read off its walks (`IsChain.check_eq`).  The converse rests on walks that end by
themselves: the links then lead from their start through just the flows that were met
(`QueueStore.Leads`), and a way that ends meets no flow twice, because from the same flow it would go on
alike.  So a walk of the right length excludes cycles, and two walks that are each other's reverse give
every flow both of its neighbours.
-/

namespace FlowTracker.QueueStore

variable {m n : Nat} {store : QueueStore m n} {q : Fin n} {arena : Fin m}
  {next : Links → Option FlowId} {start : Option FlowId} {flows flows' : List FlowId} {flow : FlowId}

/-! ### Ways through an arena -/

/-- From `start` on, the links lead through `flows` and end there. -/
inductive Leads (store : QueueStore m n) (arena : Fin m) (next : Links → Option FlowId) :
    Option FlowId → List FlowId → Prop
  | nil : Leads store arena next none []
  | cons {flow : FlowId} {links : Links} {rest : List FlowId}
      (hcell : store.cell? arena flow = some links) (hrest : Leads store arena next (next links) rest) :
      Leads store arena next (some flow) (flow :: rest)

namespace Leads

theorem start_eq (h : store.Leads arena next start flows) : start = flows.head? := by
  cases h with
  | nil => rfl
  | cons hcell hrest => rfl

/-- There is one way from a flow. -/
theorem unique (h : store.Leads arena next start flows) (h' : store.Leads arena next start flows') :
    flows = flows' := by
  induction h generalizing flows' with
  | nil =>
    cases h' with
    | nil => rfl
  | cons hcell hrest ih =>
    cases h' with
    | cons hcell' hrest' =>
      obtain rfl := Option.some.inj (hcell.symm.trans hcell')
      rw [ih hrest']

/-- The way goes on from each of its flows. -/
theorem drop {below above : List FlowId} (h : store.Leads arena next start (below ++ flow :: above)) :
    store.Leads arena next (some flow) (flow :: above) := by
  induction below generalizing start with
  | nil =>
    obtain rfl := h.start_eq
    exact h
  | cons other below ih =>
    cases h with
    | cons hcell hrest => exact ih hrest

/-- What the cell of a flow on the way links to. -/
theorem exists_cell {below above : List FlowId}
    (h : store.Leads arena next start (below ++ flow :: above)) :
    ∃ links, store.cell? arena flow = some links ∧ next links = above.head? := by
  cases h.drop with
  | cons hcell hrest => exact ⟨_, hcell, hrest.start_eq⟩

/-- A way that ends meets no flow twice. -/
theorem nodup (h : store.Leads arena next start flows) : flows.Nodup := by
  induction h with
  | nil => exact List.nodup_nil
  | @cons flow links rest hcell hrest ih =>
    refine List.nodup_cons.2 ⟨?_, ih⟩
    intro hmem
    obtain ⟨below, above, rfl⟩ := List.append_of_mem hmem
    -- from its second place the flow would lead through a shorter list than from its first
    have hsame := (Leads.cons hcell hrest).unique hrest.drop
    have hlength := congrArg List.length hsame
    simp only [List.length_cons, List.length_append] at hlength
    omega

end Leads

/-- A walk that ends before its last step has found the way. -/
theorem leads_of_walk {steps : Nat} (h : store.walk arena next steps start = .ok flows)
    (hlength : flows.length < steps) : store.Leads arena next start flows := by
  induction steps generalizing start flows with
  | zero => exact absurd hlength (Nat.not_lt_zero _)
  | succ steps ih =>
    cases start with
    | none =>
      obtain rfl : [] = flows := Except.ok.inj h
      exact .nil
    | some flow =>
      cases hcell : store.cell? arena flow with
      | none =>
        have hle : store.capacity arena ≤ flow := by
          rw [← Nat.not_lt, lt_capacity_iff, hcell]
          rintro ⟨links, hlinks⟩
          cases hlinks
        rw [walk, cell_of_capacity_le hle] at h
        cases h
      | some links =>
        rw [walk, cell_of_cell? hcell, bind_ok] at h
        obtain ⟨rest, hrest, h⟩ := exists_of_bind_eq_ok h
        obtain rfl : flow :: rest = flows := Except.ok.inj h
        exact .cons hcell (ih hrest (Nat.lt_of_succ_lt_succ hlength))

/-! ### What the check compares -/

theorem eq_of_firstDifference {expected found : List FlowId}
    (hlength : expected.length = found.length) (h : firstDifference expected found = none) :
    expected = found := by
  induction expected generalizing found with
  | nil => exact (List.length_eq_zero_iff.1 hlength.symm).symm
  | cons flow expected ih =>
    cases found with
    | nil => cases hlength
    | cons flow' found =>
      unfold firstDifference at h
      rw [List.zip_cons_cons, List.find?_cons] at h
      split at h
      · cases h
      · rename_i hsame
        rw [ih (Nat.succ.inj hlength) h, show flow = flow' by simpa using hsame]

theorem owner_of_firstForeign {members : List FlowId}
    (h : store.firstForeign q members = .ok none) (hmem : flow ∈ members) {links : Links}
    (hcell : store.cell? (store.queue q).arena flow = some links) : links.owner = some q.val := by
  induction members with
  | nil => cases hmem
  | cons other members ih =>
    unfold firstForeign at h
    obtain ⟨links', hother, h⟩ := exists_of_bind_eq_ok h
    split at h
    · rename_i howner
      rcases List.mem_cons.1 hmem with rfl | hmem
      · rw [cell_of_cell? hcell] at hother
        rw [Except.ok.inj hother]
        exact howner
      · exact ih h hmem
    · cases h

/-- Two ways that are each other's reverse, through flows that the queue owns, make a chain. -/
theorem isChain_of_leads
    (hup : store.Leads (store.queue q).arena Links.towardTop (store.queue q).bottom flows)
    (hdown : store.Leads (store.queue q).arena Links.towardBottom (store.queue q).top flows.reverse)
    (hlength : flows.length = (store.queue q).length)
    (howner : ∀ flow ∈ flows, ∀ links, store.cell? (store.queue q).arena flow = some links →
      links.owner = some q.val) : store.IsChain q flows := by
  refine ⟨hup.nodup, hup.start_eq, ?_, hlength.symm, ?_⟩
  · rw [hdown.start_eq, List.head?_reverse]
  · intro below flow above hsplit
    have hmem : flow ∈ flows := by
      rw [hsplit]
      exact List.mem_append_right _ List.mem_cons_self
    rw [hsplit] at hup
    rw [hsplit, List.reverse_append, List.reverse_cons, List.append_assoc, List.singleton_append]
      at hdown
    obtain ⟨links, hcell, habove⟩ := hup.exists_cell
    obtain ⟨links', hcell', hbelow⟩ := hdown.exists_cell
    obtain rfl := Option.some.inj (hcell.symm.trans hcell')
    rw [List.head?_reverse] at hbelow
    rw [hcell, ← habove, ← hbelow, ← howner flow hmem links hcell]

/-- What the check has found when it finds nothing wrong. -/
theorem walks_of_check (h : store.check q = .ok none) :
    ∃ down up, store.walkDown q = .ok down ∧ store.walkUp q = .ok up
      ∧ down.length = (store.queue q).length ∧ up.length = (store.queue q).length
      ∧ firstDifference down.reverse up = none ∧ store.firstForeign q down = .ok none := by
  unfold check at h
  simp only at h
  split at h
  · cases h
  obtain ⟨down, hdown, h⟩ := exists_of_bind_eq_ok h
  split at h
  · cases h
  rename_i htop
  obtain ⟨up, hup, h⟩ := exists_of_bind_eq_ok h
  split at h
  · cases h
  rename_i hbottom
  simp only [not_or, not_not] at htop hbottom
  cases hdifference : firstDifference down.reverse up with
  | some flow =>
    rw [hdifference] at h
    cases h
  | none =>
    rw [hdifference] at h
    obtain ⟨foreign, hforeign, h⟩ := exists_of_bind_eq_ok h
    cases foreign with
    | some flow => cases h
    | none => exact ⟨down, up, hdown, hup, htop.1, hbottom.1, hdifference, hforeign⟩

/-- A queue that passes the check is the chain of what the walk from its bottom meets. -/
theorem exists_isChain_of_check (h : store.check q = .ok none) : ∃ flows, store.IsChain q flows := by
  obtain ⟨down, up, hdown, hup, hlength, hlength', hdifference, hforeign⟩ := walks_of_check h
  have hreverse : down.reverse = up :=
    eq_of_firstDifference (by rw [List.length_reverse, hlength, hlength']) hdifference
  obtain rfl : down = up.reverse := by rw [← hreverse, List.reverse_reverse]
  refine ⟨up, isChain_of_leads (leads_of_walk hup (by omega)) (leads_of_walk hdown (by omega))
    hlength' ?_⟩
  intro flow hmem links hcell
  exact owner_of_firstForeign hforeign (List.mem_reverse.2 hmem) hcell

/-! ### Coming to a verdict -/

/-- The ends of the queue and all links of its arena are none or in range. -/
structure LinksInRange (store : QueueStore m n) (q : Fin n) : Prop where
  top_lt : ∀ flow ∈ (store.queue q).top, flow < store.capacity (store.queue q).arena
  bottom_lt : ∀ flow ∈ (store.queue q).bottom, flow < store.capacity (store.queue q).arena
  towardTop_lt : ∀ flow links, store.cell? (store.queue q).arena flow = some links →
    ∀ other ∈ links.towardTop, other < store.capacity (store.queue q).arena
  towardBottom_lt : ∀ flow links, store.cell? (store.queue q).arena flow = some links →
    ∀ other ∈ links.towardBottom, other < store.capacity (store.queue q).arena

/-- Where the links stay in the arena, a walk comes to its end and so stays there too. -/
theorem exists_walk (hnext : ∀ flow links, store.cell? arena flow = some links →
      ∀ other ∈ next links, other < store.capacity arena)
    (steps : Nat) (hstart : ∀ flow ∈ start, flow < store.capacity arena) :
    ∃ flows, store.walk arena next steps start = .ok flows
      ∧ ∀ flow ∈ flows, flow < store.capacity arena := by
  induction steps generalizing start with
  | zero => exact ⟨[], rfl, by simp⟩
  | succ steps ih =>
    cases start with
    | none => exact ⟨[], rfl, by simp⟩
    | some flow =>
      have hlt := hstart flow rfl
      obtain ⟨links, hcell⟩ := lt_capacity_iff.1 hlt
      obtain ⟨rest, hwalk, hrest⟩ := ih (hnext flow links hcell)
      refine ⟨flow :: rest, ?_, List.forall_mem_cons.2 ⟨hlt, hrest⟩⟩
      rw [walk, cell_of_cell? hcell, bind_ok, hwalk]
      rfl

theorem exists_firstForeign {members : List FlowId}
    (h : ∀ flow ∈ members, flow < store.capacity (store.queue q).arena) :
    ∃ foreign, store.firstForeign q members = .ok foreign := by
  induction members with
  | nil => exact ⟨none, rfl⟩
  | cons flow members ih =>
    obtain ⟨hlt, hmembers⟩ := List.forall_mem_cons.1 h
    obtain ⟨links, hcell⟩ := lt_capacity_iff.1 hlt
    obtain ⟨foreign, hforeign⟩ := ih hmembers
    unfold firstForeign
    rw [cell_of_cell? hcell, bind_ok]
    split
    · exact ⟨foreign, hforeign⟩
    · exact ⟨some flow, rfl⟩

theorem LinksInRange.exists_check (h : store.LinksInRange q) :
    ∃ verdict, store.check q = .ok verdict := by
  obtain ⟨down, hdown, hmembers⟩ :
      ∃ down, store.walkDown q = .ok down ∧ ∀ flow ∈ down, flow < _ :=
    exists_walk h.towardBottom_lt _ h.top_lt
  obtain ⟨up, hup, -⟩ : ∃ up, store.walkUp q = .ok up ∧ ∀ flow ∈ up, flow < _ :=
    exists_walk h.towardTop_lt _ h.bottom_lt
  obtain ⟨foreign, hforeign⟩ := exists_firstForeign hmembers
  unfold check
  simp only [hdown, hup, hforeign, bind_ok]
  split
  · exact ⟨_, rfl⟩
  split
  · exact ⟨_, rfl⟩
  split
  · exact ⟨_, rfl⟩
  split
  · exact ⟨_, rfl⟩
  cases foreign with
  | none => exact ⟨_, rfl⟩
  | some flow => exact ⟨_, rfl⟩

/-! ### The check -/

/-- A walk whose bound, one more than the queue is long, is a checked sum. -/
def checkedWalk (store : QueueStore m n) (q : Fin n) (next : Links → Option FlowId)
    (start : Option FlowId) : Except Fault (List FlowId) := do
  let steps ← Counter.add (store.queue q).length 1
  store.walk (store.queue q).arena next steps start

/-- The link check, with the bounds of the walks checked. -/
def checkedCheck (store : QueueStore m n) (q : Fin n) : Except Fault (Option LinkError) := do
  let queue := store.queue q
  if queue.top.isNone ≠ queue.bottom.isNone ∨ queue.top.isNone ≠ (queue.length == 0) then
    return some (.endsMismatch queue.length)
  let down ← store.checkedWalk q Links.towardBottom queue.top
  if down.length ≠ queue.length ∨ down.getLast? ≠ queue.bottom then
    return some (.topWalk queue.length down.length)
  let up ← store.checkedWalk q Links.towardTop queue.bottom
  if up.length ≠ queue.length ∨ up.getLast? ≠ queue.top then
    return some (.bottomWalk queue.length up.length)
  if let some flow := firstDifference down.reverse up then
    return some (.asymmetric flow)
  if let some flow := (← store.firstForeign q down) then
    return some (.foreignMember flow)
  return none

theorem checkedCheck_eq (h : (store.queue q).length + 1 < Word.count) :
    store.checkedCheck q = store.check q := by
  unfold checkedCheck check checkedWalk
  rw [Counter.add_of_lt h]
  rfl

/-- Whatever the cells hold, the check finds nothing wrong exactly if the queue is the chain of some
list: no flow stands twice in it, it has the length and the ends of the queue, and each of its flows is
linked to its two neighbours and owned by the queue.  Where no link leaves the arena there is a verdict,
and no bound of a walk goes over. -/
theorem check_decides (hlength : (store.queue q).length < Word.count - 1) :
    store.checkedCheck q = store.check q ∧
    (store.check q = .ok none ↔ ∃ flows, store.IsChain q flows) ∧
    (store.LinksInRange q → ∃ verdict, store.check q = .ok verdict) := by
  refine ⟨checkedCheck_eq (Nat.add_lt_of_lt_sub hlength), ⟨exists_isChain_of_check, ?_⟩,
    LinksInRange.exists_check⟩
  rintro ⟨flows, hchain⟩
  exact hchain.check_eq

/-- Two flows in the right order from the top, but from the bottom they lead round and round. -/
theorem check_decides_of_cycle :
    let store : QueueStore 1 1 :=
      ⟨#v[#[⟨some 1, none, some 0⟩, ⟨some 0, some 0, some 0⟩]], #v[⟨"new", 0, some 1, some 0, 2, 2⟩]⟩
    store.checkedCheck 0 = store.check 0 ∧ (¬ ∃ flows, store.IsChain 0 flows)
      ∧ ∃ verdict, store.check 0 = .ok verdict := by
  intro store
  have hcell : ∀ flow links, store.cell? 0 flow = some links →
      links = ⟨some 1, none, some 0⟩ ∨ links = ⟨some 0, some 0, some 0⟩ := by
    intro flow links hlinks
    rcases flow with _ | _ | flow
    · exact Or.inl (Option.some.inj hlinks).symm
    · exact Or.inr (Option.some.inj hlinks).symm
    · cases hlinks
  obtain ⟨hsame, hdecides, hanswers⟩ :=
    check_decides (by decide : (store.queue 0).length < Word.count - 1)
  refine ⟨hsame, ?_, hanswers ⟨by decide, by decide, ?_, ?_⟩⟩
  · have hverdict : store.check 0 = .ok (some (.bottomWalk 2 3)) := rfl
    rw [← hdecides, hverdict]
    rintro ⟨⟩
  · intro flow links hlinks
    rcases hcell flow links hlinks with rfl | rfl <;> decide
  · intro flow links hlinks
    rcases hcell flow links hlinks with rfl | rfl <;> decide

end FlowTracker.QueueStore
