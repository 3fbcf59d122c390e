import FlowTracker.Proofs.Interleaving.Ledger
import Mathlib.Data.Multiset.Lattice
import Mathlib.Order.Lattice.Nat

/-!
# Records as summaries

A record that is started with one packet and updated with others can be read off their list: each
direction has the packets of one endpoint, the newest time is the greatest, and the state says whether a
packet ended the conversation or came from the other endpoint (`FlowRecord.summary_eq`).  None of this
depends on the order of the packets.  Which packet was the first decides the tuple and the first time, and
so which endpoint is the client, but nothing else (`FlowRecord.Alike`).
-/

namespace FlowTracker

/-! ### Tuples of one conversation -/

theorem FiveTuple.eq_or_eq_reverse {tuple tuple' : FiveTuple} (h : tuple.key = tuple'.key) :
    tuple = tuple' ∨ tuple = tuple'.reverse := by
  obtain ⟨source, target, protocol⟩ := tuple
  obtain ⟨source', target', protocol'⟩ := tuple'
  unfold key at h
  unfold reverse
  split at h <;> split at h <;> cases h
  · exact .inl rfl
  · exact .inr rfl
  · exact .inr rfl
  · exact .inl rfl

theorem FiveTuple.reverse_of_self {tuple : FiveTuple} (h : tuple.source = tuple.target) :
    tuple.reverse = tuple := by
  obtain ⟨source, target, protocol⟩ := tuple
  cases h
  rfl

/-! ### The newest time -/

namespace Timestamp

def rank (time : Timestamp) : Nat := time.sec.toNat * 4294967296 + time.usec.toNat

variable {time time' : Timestamp}

theorem rank_injective (h : time.rank = time'.rank) : time = time' := by
  obtain ⟨sec, usec⟩ := time
  obtain ⟨sec', usec'⟩ := time'
  have := usec.toNat_lt
  have := usec'.toNat_lt
  unfold rank at h
  have hsec : sec = sec' := UInt64.toNat_inj.1 (by simp only at h; omega)
  have husec : usec = usec' := UInt32.toNat_inj.1 (by simp only at h; omega)
  rw [hsec, husec]

theorem isAfter_iff : time.isAfter time' = true ↔ time'.rank < time.rank := by
  have := time.usec.toNat_lt
  have := time'.usec.toNat_lt
  unfold isAfter compare rank
  rw [beq_iff_eq, Ordering.then_eq_gt, Std.compare_eq_gt, Std.compare_eq_gt, Std.compare_eq_iff_eq,
    UInt64.lt_iff_toNat_lt, UInt32.lt_iff_toNat_lt, ← UInt64.toNat_inj]
  omega

def later (time time' : Timestamp) : Timestamp := if time'.isAfter time then time' else time

theorem rank_later (time time' : Timestamp) :
    (later time time').rank = max time.rank time'.rank := by
  unfold later
  split
  · rename_i hafter
    rw [isAfter_iff] at hafter
    omega
  · rename_i hafter
    rw [isAfter_iff] at hafter
    omega

def newest (time : Timestamp) (arrivals : List Arrival) : Timestamp :=
  arrivals.foldl (fun time arrival => later time arrival.time) time

def newestRank (arrivals : List Arrival) : Nat :=
  ((arrivals : Multiset Arrival).map fun arrival => arrival.time.rank).sup

theorem rank_newest (time : Timestamp) (arrivals : List Arrival) :
    (newest time arrivals).rank = max time.rank (newestRank arrivals) := by
  induction arrivals generalizing time with
  | nil => exact (Nat.max_zero _).symm
  | cons arrival arrivals ih =>
    have hcons : newestRank (arrival :: arrivals) = max arrival.time.rank (newestRank arrivals) := by
      unfold newestRank
      rw [← Multiset.cons_coe, Multiset.map_cons, Multiset.sup_cons]
    rw [newest, List.foldl_cons, ← newest, ih, rank_later, hcons, Nat.max_assoc]

/-- It does not matter at which of the arrivals the search for the newest starts, and in which order it
goes on. -/
theorem newest_congr {first first' : Arrival} {arrivals arrivals' : List Arrival}
    (h : first ∈ arrivals) (h' : first' ∈ arrivals') (hperm : arrivals.Perm arrivals') :
    newest first.time arrivals = newest first'.time arrivals' := by
  have hle {first : Arrival} {arrivals : List Arrival} (h : first ∈ arrivals) :
      first.time.rank ≤ newestRank arrivals :=
    Multiset.le_sup (Multiset.mem_map_of_mem _ (Multiset.mem_coe.2 h))
  have hsame : newestRank arrivals = newestRank arrivals' := by
    unfold newestRank
    rw [Multiset.coe_eq_coe.2 hperm]
  apply rank_injective
  rw [rank_newest, rank_newest, Nat.max_eq_right (hle h), Nat.max_eq_right (hle h'), hsame]

end Timestamp

/-! ### Directions -/

namespace Direction

instance : RightCommutative fun (direction : Direction) (arrival : Arrival) =>
    direction.counted arrival.headers arrival.size where
  right_comm direction arrival arrival' := by
    unfold counted
    simp only [Direction.mk.injEq, true_and]
    constructor
    · rw [UInt64.add_assoc, UInt64.add_comm arrival.size, ← UInt64.add_assoc]
    · rw [UInt8.or_assoc, UInt8.or_comm arrival.headers.tcpFlags, ← UInt8.or_assoc]

def carrying (direction : Direction) (arrivals : List Arrival) : Direction :=
  arrivals.foldl (fun direction arrival => direction.counted arrival.headers arrival.size) direction

theorem carrying_perm (direction : Direction) {arrivals arrivals' : List Arrival}
    (h : arrivals.Perm arrivals') : direction.carrying arrivals = direction.carrying arrivals' :=
  h.foldl_eq direction

theorem carrying_filter_cons (direction : Direction) (p : Arrival → Bool) (arrival : Arrival)
    (arrivals : List Arrival) :
    (direction.carrying ([arrival].filter p)).carrying (arrivals.filter p)
      = direction.carrying ((arrival :: arrivals).filter p) := by
  change _ = direction.carrying (([arrival] ++ arrivals).filter p)
  rw [List.filter_append, carrying, carrying, carrying, List.foldl_append]

end Direction

/-! ### Lifecycle -/

/-- The state after packets of which some ended the conversation, or some came from the server. -/
def FlowState.after (state : FlowState) (closing answering : Bool) : FlowState :=
  match state with
  | .closed => .closed
  | .established => if closing then .closed else .established
  | .new => if closing then .closed else if answering then .established else .new

namespace FlowRecord

variable {record : FlowRecord} {arrival first first' : Arrival} {arrivals arrivals' : List Arrival}

def countedAll (record : FlowRecord) (arrivals : List Arrival) : FlowRecord :=
  arrivals.foldl (fun record arrival => record.counted arrival.headers arrival.time arrival.size) record

theorem after_nextState (headers : Headers) (closing answering : Bool) :
    (record.nextState headers).after closing answering
      = record.state.after (record.isClosing headers || closing)
        (!record.isToServer headers || answering) := by
  unfold nextState FlowState.after
  cases record.state <;> cases record.isClosing headers <;> cases record.isToServer headers <;>
    cases closing <;> cases answering <;> rfl

/-- Which packets are closing and which are answers does not change with the packets. -/
theorem counted_same (record : FlowRecord) (arrival : Arrival) :
    (record.counted arrival.headers arrival.time arrival.size).isClosing = record.isClosing
      ∧ (record.counted arrival.headers arrival.time arrival.size).isToServer
        = record.isToServer := by
  have htuple := record.tuple_counted arrival.headers arrival.time arrival.size
  constructor
  · funext headers
    rw [isClosing, htuple]
    rfl
  · funext headers
    rw [isToServer, htuple]
    rfl

theorem counted_eq_mk (record : FlowRecord) (arrival : Arrival) :
    record.counted arrival.headers arrival.time arrival.size = {
      state := record.nextState arrival.headers
      tuple := record.tuple
      firstSeen := record.firstSeen
      lastSeen := Timestamp.later record.lastSeen arrival.time
      toServer := record.toServer.carrying
        ([arrival].filter fun arrival => record.isToServer arrival.headers)
      toClient := record.toClient.carrying
        ([arrival].filter fun arrival => !record.isToServer arrival.headers) } := by
  unfold counted advanced withDirection direction
  cases hserver : record.isToServer arrival.headers with
  | true => simp [hserver, Direction.carrying, Timestamp.later]
  | false => simp [hserver, Direction.carrying, Timestamp.later]

/-- More packets, read off their list. -/
theorem countedAll_eq (record : FlowRecord) (arrivals : List Arrival) :
    record.countedAll arrivals = {
      state := record.state.after (arrivals.any fun arrival => record.isClosing arrival.headers)
        (arrivals.any fun arrival => !record.isToServer arrival.headers)
      tuple := record.tuple
      firstSeen := record.firstSeen
      lastSeen := Timestamp.newest record.lastSeen arrivals
      toServer := record.toServer.carrying
        (arrivals.filter fun arrival => record.isToServer arrival.headers)
      toClient := record.toClient.carrying
        (arrivals.filter fun arrival => !record.isToServer arrival.headers) } := by
  induction arrivals generalizing record with
  | nil =>
    obtain ⟨state, tuple, firstSeen, lastSeen, toServer, toClient⟩ := record
    cases state <;> rfl
  | cons arrival arrivals ih =>
    -- The record that has counted `arrival` sorts the others as `record` does: the tuple stays.
    obtain ⟨hclosing, hserver⟩ := record.counted_same arrival
    have hstep : record.countedAll (arrival :: arrivals)
        = (record.counted arrival.headers arrival.time arrival.size).countedAll arrivals := rfl
    rw [hstep, ih, hclosing, hserver, counted_eq_mk]
    simp only [after_nextState, Direction.carrying_filter_cons, List.any_cons]
    rfl

/-! ### Summaries -/

/-- The record that arrivals make if the first of them is `first`. -/
def summary (first : Arrival) (arrivals : List Arrival) : FlowRecord :=
  (blank first.headers first.time).countedAll arrivals

theorem replay_cons (first : Arrival) (arrivals : List Arrival) :
    replay (first :: arrivals) = some (summary first (first :: arrivals)) := rfl

def traffic (p : Arrival → Bool) (arrivals : List Arrival) : Direction :=
  Direction.empty.carrying (arrivals.filter p)

theorem traffic_perm (p : Arrival → Bool) (h : arrivals.Perm arrivals') :
    traffic p arrivals = traffic p arrivals' :=
  Direction.carrying_perm _ (h.filter p)

theorem traffic_congr {p p' : Arrival → Bool}
    (h : ∀ arrival ∈ arrivals, p arrival = p' arrival) : traffic p arrivals = traffic p' arrivals := by
  unfold traffic
  rw [List.filter_congr h]

def isFrom (source : Endpoint) (arrival : Arrival) : Bool := arrival.headers.tuple.source == source

def ends (protocol : Protocol) (arrival : Arrival) : Bool :=
  protocol == .tcp && (arrival.headers.tcpFlags &&& endingFlags) != 0

theorem summary_eq (first : Arrival) (arrivals : List Arrival) :
    summary first arrivals = {
      state := FlowState.new.after (arrivals.any (ends first.headers.tuple.protocol))
        (arrivals.any fun arrival => !isFrom first.headers.tuple.source arrival)
      tuple := first.headers.tuple
      firstSeen := first.time
      lastSeen := Timestamp.newest first.time arrivals
      toServer := traffic (isFrom first.headers.tuple.source) arrivals
      toClient := traffic (fun arrival => !isFrom first.headers.tuple.source arrival) arrivals } :=
  countedAll_eq ..

theorem summary_perm (h : arrivals.Perm arrivals') (hfirst : first ∈ arrivals) :
    summary first arrivals = summary first arrivals' := by
  rw [summary_eq, summary_eq, h.any_eq, h.any_eq, traffic_perm _ h, traffic_perm _ h,
    Timestamp.newest_congr hfirst (h.mem_iff.1 hfirst) h]

def reversed (record : FlowRecord) : FlowRecord :=
  { record with
    tuple := record.tuple.reverse
    toServer := record.toClient
    toClient := record.toServer }

/-- Two records of one conversation tell the same, but for the time of the first packet and for the end
that counts as the client. -/
structure Alike (record record' : FlowRecord) : Prop where
  state_eq : record.state = record'.state
  lastSeen_eq : record.lastSeen = record'.lastSeen
  direction_eq : ∀ headers : Headers, headers.tuple.key = record.key →
    record.direction headers = record'.direction headers
  same_or_reversed : record' = { record with firstSeen := record'.firstSeen }
    ∨ record' = { record.reversed with firstSeen := record'.firstSeen }

section Conversation

variable {key : FlowKey} (hkey : ∀ arrival ∈ arrivals, arrival.key = key)
include hkey

/-- Among packets of one conversation the ones that do not come from an end come from the other end. -/
theorem isFrom_target (hfirst : first.key = key)
    (hne : first.headers.tuple.source ≠ first.headers.tuple.target) (hmem : arrival ∈ arrivals) :
    isFrom first.headers.tuple.target arrival = !isFrom first.headers.tuple.source arrival := by
  have hsame : arrival.headers.tuple.key = first.headers.tuple.key :=
    (hkey arrival hmem).trans hfirst.symm
  unfold isFrom
  rcases FiveTuple.eq_or_eq_reverse hsame with heq | heq
  · rw [heq, beq_self_eq_true, beq_eq_false_iff_ne.2 hne]
    rfl
  · rw [heq, FiveTuple.reverse, beq_self_eq_true, beq_eq_false_iff_ne.2 hne.symm]
    rfl

/-- Either direction of a summary has the packets of one endpoint. -/
theorem direction_summary (hfirst : first ∈ arrivals) {headers : Headers}
    (hheaders : headers.tuple.key = key) :
    (summary first arrivals).direction headers = traffic (isFrom headers.tuple.source) arrivals := by
  have hfirstKey := hkey first hfirst
  have hsame : headers.tuple.key = first.headers.tuple.key := hheaders.trans hfirstKey.symm
  rw [summary_eq]
  unfold direction isToServer
  simp only
  by_cases hsource : headers.tuple.source = first.headers.tuple.source
  · rw [hsource, beq_self_eq_true, if_pos rfl]
  · rw [beq_eq_false_iff_ne.2 hsource, if_neg Bool.false_ne_true]
    rcases FiveTuple.eq_or_eq_reverse hsame with heq | heq
    · exact absurd (congrArg FiveTuple.source heq) hsource
    · have htarget : headers.tuple.source = first.headers.tuple.target := by rw [heq]; rfl
      rw [htarget] at hsource ⊢
      exact (traffic_congr fun _ hmem => isFrom_target hkey hfirstKey (Ne.symm hsource) hmem).symm

/-- Another first packet makes the same record, or the record from the other end. -/
theorem summary_first (hfirst : first ∈ arrivals) (hfirst' : first' ∈ arrivals) :
    summary first' arrivals = { summary first arrivals with firstSeen := first'.time }
      ∨ summary first' arrivals = { (summary first arrivals).reversed with firstSeen := first'.time } := by
  have hfirstKey := hkey first hfirst
  have hnewest := Timestamp.newest_congr hfirst' hfirst (.refl arrivals)
  rw [summary_eq, summary_eq, hnewest]
  rcases FiveTuple.eq_or_eq_reverse ((hkey first' hfirst').trans hfirstKey.symm) with heq | heq
  · rw [show first'.headers.tuple = first.headers.tuple from heq]
    exact .inl rfl
  by_cases hself : first.headers.tuple.source = first.headers.tuple.target
  · rw [show first'.headers.tuple = first.headers.tuple.reverse from heq,
      FiveTuple.reverse_of_self hself]
    exact .inl rfl
  · have hother (arrival : Arrival) (hmem : arrival ∈ arrivals) := isFrom_target hkey hfirstKey hself hmem
    have hserver : traffic (isFrom first.headers.tuple.target) arrivals
        = traffic (fun arrival => !isFrom first.headers.tuple.source arrival) arrivals :=
      traffic_congr hother
    have hclient : traffic (fun arrival => !isFrom first.headers.tuple.target arrival) arrivals
        = traffic (isFrom first.headers.tuple.source) arrivals := by
      apply traffic_congr
      intro arrival hmem
      rw [hother arrival hmem, Bool.not_not]
    -- Both ends have sent something, so either of the two first packets has been answered.
    have hanswered : (arrivals.any fun arrival => !isFrom first.headers.tuple.source arrival) = true := by
      refine List.any_eq_true.2 ⟨first', hfirst', ?_⟩
      rw [← hother first' hfirst']
      unfold isFrom
      rw [heq]
      exact beq_self_eq_true _
    have hanswered' : (arrivals.any fun arrival => !isFrom first.headers.tuple.target arrival) = true := by
      refine List.any_eq_true.2 ⟨first, hfirst, ?_⟩
      rw [hother first hfirst, Bool.not_not]
      exact beq_self_eq_true _
    rw [show first'.headers.tuple = first.headers.tuple.reverse from heq]
    unfold FiveTuple.reverse reversed
    simp only
    rw [hserver, hclient, hanswered, hanswered']
    exact .inr rfl

theorem summary_alike (hfirst : first ∈ arrivals) (hfirst' : first' ∈ arrivals) :
    (summary first arrivals).Alike (summary first' arrivals) := by
  have hrecordKey : (summary first arrivals).key = key := by
    rw [summary_eq]
    exact hkey first hfirst
  have hother := summary_first hkey hfirst hfirst'
  have htime : (summary first' arrivals).firstSeen = first'.time := by rw [summary_eq]
  refine ⟨?_, ?_, ?_, ?_⟩
  · rcases hother with heq | heq
    · rw [heq]
    · rw [heq]
      rfl
  · rcases hother with heq | heq
    · rw [heq]
    · rw [heq]
      rfl
  · intro headers hheaders
    rw [hrecordKey] at hheaders
    rw [direction_summary hkey hfirst hheaders, direction_summary hkey hfirst' hheaders]
  · rw [htime]
    exact hother

end Conversation

end FlowRecord

end FlowTracker
