import FlowTracker.Proofs.Records.Summary

/-!
# What a record says of its packets

`FlowRecord.follow` starts a record with one packet and updates it with others, as a worker does.
`FlowRecord.Summarises` is what the record has to say afterwards, in terms of the packets alone: which of
them it counts in which direction, what they add up to, which time is the newest, and what state they
leave.  For packets of one conversation whose totals fit 64 bits in either direction the record says
exactly this, and every update answers the state that its packets so far had left
(`FlowRecord.follow_summarises`).

A packet is taken for one of the client if it comes from the client's endpoint; nothing else of its tuple
is compared.  That this finds exactly the packets with the client's tuple is due to the key.
-/

namespace FlowTracker

/-! ### Directions -/

namespace Arrival

/-- The arrival travels as the first one of its conversation. -/
def IsRequest (first arrival : Arrival) : Prop := arrival.headers.tuple = first.headers.tuple

/-- The arrival travels from the server to the client, which are different endpoints. -/
def IsAnswer (first arrival : Arrival) : Prop :=
  first.headers.tuple.source ≠ first.headers.tuple.target
    ∧ arrival.headers.tuple.source = first.headers.tuple.target
    ∧ arrival.headers.tuple.target = first.headers.tuple.source
    ∧ arrival.headers.tuple.protocol = first.headers.tuple.protocol

instance (first : Arrival) : DecidablePred first.IsRequest :=
  fun _ => inferInstanceAs (Decidable (_ = _))

instance (first : Arrival) : DecidablePred first.IsAnswer :=
  fun _ => inferInstanceAs (Decidable (_ ≠ _ ∧ _ = _ ∧ _ = _ ∧ _ = _))

def IsEnding (arrival : Arrival) : Prop :=
  arrival.headers.tcpFlags &&& 0x01 ≠ 0 ∨ arrival.headers.tcpFlags &&& 0x04 ≠ 0

instance : DecidablePred IsEnding := fun _ => inferInstanceAs (Decidable (_ ≠ _ ∨ _ ≠ _))

def Fit (arrivals : List Arrival) : Prop :=
  arrivals.length < Word.count ∧ (arrivals.map fun arrival => arrival.size.toNat).sum < Word.count

instance : DecidablePred Fit := fun _ => inferInstanceAs (Decidable (_ < _ ∧ _ < _))

theorem Fit.sublist {arrivals arrivals' : List Arrival} (h : Fit arrivals)
    (hsub : arrivals'.Sublist arrivals) : Fit arrivals' := by
  constructor
  · exact Nat.lt_of_le_of_lt hsub.length_le h.1
  · exact Nat.lt_of_le_of_lt ((hsub.map _).sum_le_sum fun _ _ => Nat.zero_le _) h.2

variable {first arrival : Arrival}

theorem isFrom_source_iff (hkey : arrival.key = first.key) :
    FlowRecord.isFrom first.headers.tuple.source arrival = true ↔ first.IsRequest arrival := by
  rw [FlowRecord.isFrom, beq_iff_eq]
  constructor
  · intro hsource
    rcases FiveTuple.eq_or_eq_reverse hkey with heq | heq
    · exact heq
    · -- Only a tuple from an endpoint to itself is reversed and has the same source.
      have hself : first.headers.tuple.source = first.headers.tuple.target := by
        rw [← hsource, heq]
        rfl
      exact heq.trans (FiveTuple.reverse_of_self hself)
  · exact congrArg FiveTuple.source

theorem not_isFrom_source_iff (hkey : arrival.key = first.key) :
    (!FlowRecord.isFrom first.headers.tuple.source arrival) = true ↔ first.IsAnswer arrival := by
  rw [FlowRecord.isFrom, Bool.not_eq_true', beq_eq_false_iff_ne]
  constructor
  · intro hsource
    rcases FiveTuple.eq_or_eq_reverse hkey with heq | heq
    · exact absurd (congrArg FiveTuple.source heq) hsource
    · rw [heq] at hsource
      unfold IsAnswer
      rw [heq]
      exact ⟨Ne.symm hsource, rfl, rfl, rfl⟩
  · rintro ⟨hne, hsource, -, -⟩ hsame
    exact hne (hsame.symm.trans hsource)

section Filter

variable {arrivals : List Arrival} (hkey : ∀ arrival ∈ arrivals, arrival.key = first.key)
include hkey

theorem filter_isFrom : arrivals.filter (FlowRecord.isFrom first.headers.tuple.source)
    = arrivals.filter fun arrival => first.IsRequest arrival := by
  apply List.filter_congr
  intro arrival hmem
  apply Bool.eq_iff_iff.2
  rw [isFrom_source_iff (hkey arrival hmem), decide_eq_true_iff]

theorem filter_not_isFrom :
    arrivals.filter (fun arrival => !FlowRecord.isFrom first.headers.tuple.source arrival)
      = arrivals.filter fun arrival => first.IsAnswer arrival := by
  apply List.filter_congr
  intro arrival hmem
  apply Bool.eq_iff_iff.2
  rw [not_isFrom_source_iff (hkey arrival hmem), decide_eq_true_iff]

end Filter

theorem and_endingFlags_ne_zero_iff (flags : UInt8) :
    flags &&& endingFlags ≠ 0 ↔ flags &&& 0x01 ≠ 0 ∨ flags &&& 0x04 ≠ 0 := by
  have hsplit : flags &&& endingFlags = (flags &&& 0x01) ||| (flags &&& 0x04) :=
    UInt8.toBitVec_inj.1 (BitVec.and_or_distrib_left (x := flags.toBitVec) (y := 1#8) (z := 4#8))
  rw [hsplit, ne_eq, UInt8.or_eq_zero_iff, not_and_or]

theorem any_ends_iff (protocol : Protocol) (arrivals : List Arrival) :
    arrivals.any (FlowRecord.ends protocol) = true
      ↔ protocol = .tcp ∧ ∃ arrival ∈ arrivals, arrival.IsEnding := by
  rw [List.any_eq_true]
  constructor
  · rintro ⟨arrival, hmem, hends⟩
    rw [FlowRecord.ends, Bool.and_eq_true, beq_iff_eq, bne_iff_ne] at hends
    exact ⟨hends.1, arrival, hmem, (and_endingFlags_ne_zero_iff _).1 hends.2⟩
  · rintro ⟨rfl, arrival, hmem, hending⟩
    refine ⟨arrival, hmem, ?_⟩
    rw [FlowRecord.ends, Bool.and_eq_true, beq_iff_eq, bne_iff_ne]
    exact ⟨rfl, (and_endingFlags_ne_zero_iff _).2 hending⟩

end Arrival

namespace Direction

structure SumsUp (direction : Direction) (arrivals : List Arrival) : Prop where
  packets_eq : direction.packets.toNat = arrivals.length
  bytes_eq : direction.bytes.toNat = (arrivals.map fun arrival => arrival.size.toNat).sum
  tcpFlags_eq : direction.tcpFlags
    = (arrivals.map fun arrival => arrival.headers.tcpFlags).foldl (· ||| ·) 0

/-- What sums up arrivals has room for another one, if that fits too. -/
theorem SumsUp.hasRoom {direction : Direction} {arrivals : List Arrival} {arrival : Arrival}
    (h : direction.SumsUp arrivals) (hfit : Arrival.Fit (arrivals ++ [arrival])) :
    direction.HasRoom arrival.size := by
  obtain ⟨hpackets, hbytes⟩ := hfit
  rw [List.length_append, List.length_singleton] at hpackets
  rw [List.map_append, List.sum_append, List.map_singleton, List.sum_singleton] at hbytes
  constructor
  · rwa [h.packets_eq]
  · rwa [h.bytes_eq]

theorem sumsUp_carrying (arrivals : List Arrival) (hfit : Arrival.Fit arrivals) :
    (Direction.empty.carrying arrivals).SumsUp arrivals := by
  induction arrivals using List.reverseRecOn with
  | nil => exact ⟨rfl, rfl, rfl⟩
  | append_singleton arrivals arrival ih =>
    have hsums := ih (hfit.sublist (List.sublist_append_left ..))
    have hroom := hsums.hasRoom hfit
    have hlast : Direction.empty.carrying (arrivals ++ [arrival])
        = (Direction.empty.carrying arrivals).counted arrival.headers arrival.size := by
      rw [carrying, List.foldl_append]
      rfl
    rw [hlast]
    constructor
    · rw [List.length_append, List.length_singleton, ← hsums.packets_eq]
      exact Word.toNat_add hroom.1
    · rw [List.map_append, List.sum_append, List.map_singleton, List.sum_singleton, ← hsums.bytes_eq]
      exact Word.toNat_add hroom.2
    · rw [List.map_append, List.foldl_append, ← hsums.tcpFlags_eq]
      rfl

end Direction

/-! ### Times and states -/

/-- The time does not lie after the other one: the seconds decide, then the microseconds. -/
def Timestamp.UpTo (time time' : Timestamp) : Prop :=
  time.sec < time'.sec ∨ time.sec = time'.sec ∧ time.usec ≤ time'.usec

namespace Timestamp

variable {time time' : Timestamp} {arrivals : List Arrival} {arrival : Arrival}

theorem rank_le_iff : time.rank ≤ time'.rank ↔ time.UpTo time' := by
  have husec := time.usec.toNat_lt
  have husec' := time'.usec.toNat_lt
  unfold UpTo rank
  rw [UInt64.lt_iff_toNat_lt, UInt32.le_iff_toNat_le, ← UInt64.toNat_inj]
  omega

theorem upTo_newest_self (time : Timestamp) (arrivals : List Arrival) :
    time.UpTo (newest time arrivals) := by
  rw [← rank_le_iff, rank_newest]
  exact Nat.le_max_left ..

theorem upTo_newest (time : Timestamp) (h : arrival ∈ arrivals) :
    arrival.time.UpTo (newest time arrivals) := by
  rw [← rank_le_iff, rank_newest]
  apply Nat.le_trans _ (Nat.le_max_right ..)
  exact Multiset.le_sup (Multiset.mem_map_of_mem _ (Multiset.mem_coe.2 h))

theorem newest_eq_or_mem (time : Timestamp) (arrivals : List Arrival) :
    newest time arrivals = time ∨ ∃ arrival ∈ arrivals, newest time arrivals = arrival.time := by
  induction arrivals generalizing time with
  | nil => exact Or.inl rfl
  | cons arrival arrivals ih =>
    have hstep : newest time (arrival :: arrivals) = newest (later time arrival.time) arrivals := rfl
    rw [hstep]
    rcases ih (later time arrival.time) with heq | ⟨arrival', hmem, heq⟩
    · rw [heq]
      unfold later
      split
      · exact Or.inr ⟨arrival, List.mem_cons_self, rfl⟩
      · exact Or.inl rfl
    · exact Or.inr ⟨arrival', List.mem_cons_of_mem _ hmem, heq⟩

end Timestamp

namespace FlowState

/-- The state that arrivals leave: a TCP conversation is closed by FIN or RST, otherwise an answer
establishes it. -/
def ofHistory (first : Arrival) (arrivals : List Arrival) : FlowState :=
  if first.headers.tuple.protocol = .tcp ∧ ∃ arrival ∈ arrivals, arrival.IsEnding then .closed
  else if ∃ arrival ∈ arrivals, first.IsAnswer arrival then .established
  else .new

/-- A conversation stays in its state, or is established when it was new, or is closed. -/
inductive Advances : FlowState → FlowState → Prop where
  | stay (state : FlowState) : Advances state state
  | establish : Advances .new .established
  | closeNew : Advances .new .closed
  | closeEstablished : Advances .established .closed

theorem advances_nextState (record : FlowRecord) (headers : Headers) :
    record.state.Advances (record.nextState headers) := by
  unfold FlowRecord.nextState
  cases record.state with
  | closed => exact .stay _
  | established =>
    simp only [reduceCtorEq, if_false, decide_false, Bool.false_and, Bool.false_eq_true]
    split
    · exact .closeEstablished
    · exact .stay _
  | new =>
    simp only
    split
    · exact .closeNew
    · split
      · exact .establish
      · exact .stay _

end FlowState

/-! ### Records -/

namespace FlowRecord

def updateAll (record : FlowRecord) : List Arrival → Except Fault FlowRecord
  | [] => .ok record
  | arrival :: arrivals =>
    match (update arrival.headers arrival.time arrival.size).run record with
    | .ok _ after => after.updateAll arrivals
    | .error fault _ => .error fault

def follow (first : Arrival) (rest : List Arrival) : Except Fault FlowRecord := do
  (← start first.headers first.time first.size).updateAll rest

/-- The record says of arrivals, the first of them `first`, what they are. -/
structure Summarises (record : FlowRecord) (first : Arrival) (arrivals : List Arrival) : Prop where
  tuple_eq : record.tuple = first.headers.tuple
  firstSeen_eq : record.firstSeen = first.time
  toServer : record.toServer.SumsUp (arrivals.filter fun arrival => first.IsRequest arrival)
  toClient : record.toClient.SumsUp (arrivals.filter fun arrival => first.IsAnswer arrival)
  packets_eq : record.toServer.packets.toNat + record.toClient.packets.toNat = arrivals.length
  lastSeen_mem : ∃ arrival ∈ arrivals, record.lastSeen = arrival.time
  lastSeen_newest : ∀ arrival ∈ arrivals, arrival.time.UpTo record.lastSeen
  firstSeen_upTo : record.firstSeen.UpTo record.lastSeen
  state_eq : record.state = .ofHistory first arrivals

structure DirectionsFit (first : Arrival) (arrivals : List Arrival) : Prop where
  requests : Arrival.Fit (arrivals.filter fun arrival => first.IsRequest arrival)
  answers : Arrival.Fit (arrivals.filter fun arrival => first.IsAnswer arrival)

theorem DirectionsFit.sublist {first : Arrival} {arrivals arrivals' : List Arrival}
    (h : DirectionsFit first arrivals) (hsub : arrivals'.Sublist arrivals) :
    DirectionsFit first arrivals' :=
  ⟨h.requests.sublist (hsub.filter _), h.answers.sublist (hsub.filter _)⟩

section Conversation

variable {first : Arrival} {arrivals : List Arrival}
  (hkey : ∀ arrival ∈ arrivals, arrival.key = first.key) (hfit : DirectionsFit first arrivals)
include hkey hfit

theorem traffic_requests : (traffic (isFrom first.headers.tuple.source) arrivals).SumsUp
    (arrivals.filter fun arrival => first.IsRequest arrival) := by
  rw [traffic, Arrival.filter_isFrom hkey]
  exact Direction.sumsUp_carrying _ hfit.requests

theorem traffic_answers :
    (traffic (fun arrival => !isFrom first.headers.tuple.source arrival) arrivals).SumsUp
      (arrivals.filter fun arrival => first.IsAnswer arrival) := by
  rw [traffic, Arrival.filter_not_isFrom hkey]
  exact Direction.sumsUp_carrying _ hfit.answers

/-- What a summary says is what the packets of one conversation are. -/
theorem summarises_summary (hfirst : first ∈ arrivals) :
    (summary first arrivals).Summarises first arrivals := by
  have hserver := traffic_requests hkey hfit
  have hclient := traffic_answers hkey hfit
  rw [summary_eq]
  constructor
  · rfl
  · rfl
  · exact hserver
  · exact hclient
  · rw [hserver.packets_eq, hclient.packets_eq, ← Arrival.filter_isFrom hkey,
      ← Arrival.filter_not_isFrom hkey, ← List.countP_eq_length_filter,
      ← List.countP_eq_length_filter,
      List.length_eq_countP_add_countP (isFrom first.headers.tuple.source)]
    simp
  · rcases Timestamp.newest_eq_or_mem first.time arrivals with heq | hmem
    · exact ⟨first, hfirst, heq⟩
    · exact hmem
  · exact fun arrival hmem => Timestamp.upTo_newest first.time hmem
  · exact Timestamp.upTo_newest_self first.time arrivals
  · have hends := Arrival.any_ends_iff first.headers.tuple.protocol arrivals
    have hanswered : (arrivals.any fun arrival => !isFrom first.headers.tuple.source arrival) = true
        ↔ ∃ arrival ∈ arrivals, first.IsAnswer arrival := by
      rw [List.any_eq_true]
      exact exists_congr fun arrival => and_congr_right fun hmem =>
        Arrival.not_isFrom_source_iff (hkey arrival hmem)
    simp only [FlowState.after, FlowState.ofHistory, hends, hanswered]

end Conversation

section Updates

variable {first arrival : Arrival} {done : List Arrival}

theorem summary_concat (first : Arrival) (done : List Arrival) (arrival : Arrival) :
    summary first (done ++ [arrival])
      = (summary first done).counted arrival.headers arrival.time arrival.size := by
  rw [summary, countedAll, List.foldl_append]
  rfl

/-- A summary has room for another packet of the conversation, if that fits too. -/
theorem hasRoom_summary (hkey : ∀ arrival' ∈ done ++ [arrival], arrival'.key = first.key)
    (hfit : DirectionsFit first (done ++ [arrival])) :
    ((summary first done).direction arrival.headers).HasRoom arrival.size := by
  have hsub : done.Sublist (done ++ [arrival]) := List.sublist_append_left ..
  have hkeys := fun arrival' hmem => hkey arrival' (hsub.subset hmem)
  have hlast := hkey arrival (List.mem_append_right _ List.mem_cons_self)
  rw [summary_eq]
  -- The record compares the source alone; by the key this is the direction that the totals are about.
  change (if isFrom first.headers.tuple.source arrival then _ else _ : Direction).HasRoom _
  cases hfrom : isFrom first.headers.tuple.source arrival with
  | true =>
    have hrequest := (Arrival.isFrom_source_iff hlast).1 hfrom
    have hroom := hfit.requests
    rw [List.filter_append, List.filter_cons_of_pos (by simpa using hrequest)] at hroom
    rw [if_pos rfl]
    exact (traffic_requests hkeys (hfit.sublist hsub)).hasRoom hroom
  | false =>
    have hanswer := (Arrival.not_isFrom_source_iff hlast).1 (congrArg not hfrom)
    have hroom := hfit.answers
    rw [List.filter_append, List.filter_cons_of_pos (by simpa using hanswer)] at hroom
    rw [if_neg Bool.false_ne_true]
    exact (traffic_answers hkeys (hfit.sublist hsub)).hasRoom hroom

theorem update_summary (hkey : ∀ arrival' ∈ done ++ [arrival], arrival'.key = first.key)
    (hfit : DirectionsFit first (done ++ [arrival])) :
    (update arrival.headers arrival.time arrival.size).run (summary first done)
      = .ok (summary first done).state (summary first (done ++ [arrival])) := by
  rw [summary_concat]
  exact update_of_hasRoom arrival.time (hasRoom_summary hkey hfit)

theorem updateAll_summary (done arrivals : List Arrival)
    (hkey : ∀ arrival ∈ done ++ arrivals, arrival.key = first.key)
    (hfit : DirectionsFit first (done ++ arrivals)) :
    (summary first done).updateAll arrivals = .ok (summary first (done ++ arrivals)) := by
  induction arrivals generalizing done with
  | nil => rw [List.append_nil, updateAll]
  | cons arrival arrivals ih =>
    rw [List.append_cons] at hkey hfit ⊢
    have hsub : (done ++ [arrival]).Sublist (done ++ [arrival] ++ arrivals) :=
      List.sublist_append_left ..
    rw [updateAll, update_summary (fun arrival' hmem => hkey arrival' (hsub.subset hmem))
      (hfit.sublist hsub)]
    exact ih (done ++ [arrival]) hkey hfit

theorem follow_eq (rest : List Arrival) (hkey : ∀ arrival ∈ first :: rest, arrival.key = first.key)
    (hfit : DirectionsFit first (first :: rest)) :
    follow first rest = .ok (summary first (first :: rest)) := by
  rw [follow, start_eq, bind_ok]
  exact updateAll_summary [first] rest hkey hfit

end Updates

/-- A record that was started with the first packet of a conversation and updated with the others
summarises them, if the totals of either direction fit 64 bits.  It does so after each update, every
update answers the state that the record was in before it, and the state only advances. -/
theorem follow_summarises (first : Arrival) (rest : List Arrival)
    (hkey : ∀ arrival ∈ rest, arrival.key = first.key)
    (hrequests : Arrival.Fit ((first :: rest).filter fun arrival => first.IsRequest arrival))
    (hanswers : Arrival.Fit ((first :: rest).filter fun arrival => first.IsAnswer arrival)) :
    (∃ record, follow first rest = .ok record ∧ record.Summarises first (first :: rest)) ∧
    ∀ done arrival todo, rest = done ++ arrival :: todo → ∃ record after,
      follow first done = .ok record ∧ record.Summarises first (first :: done)
      ∧ (update arrival.headers arrival.time arrival.size).run record = .ok record.state after
      ∧ follow first (done ++ [arrival]) = .ok after ∧ record.state.Advances after.state := by
  have hfollow : ∀ done, done <+: rest → (∀ arrival ∈ first :: done, arrival.key = first.key)
      ∧ DirectionsFit first (first :: done)
      ∧ follow first done = .ok (summary first (first :: done)) := by
    intro done hprefix
    have hsub : (first :: done).Sublist (first :: rest) := hprefix.sublist.cons_cons first
    have hkeys : ∀ arrival ∈ first :: done, arrival.key = first.key := by
      intro arrival hmem
      rcases List.mem_cons.1 (hsub.subset hmem) with rfl | hmem
      · rfl
      · exact hkey arrival hmem
    have hfit := DirectionsFit.sublist ⟨hrequests, hanswers⟩ hsub
    exact ⟨hkeys, hfit, follow_eq done hkeys hfit⟩
  constructor
  · obtain ⟨hkeys, hfit, hrun⟩ := hfollow rest (List.prefix_refl rest)
    exact ⟨_, hrun, summarises_summary hkeys hfit List.mem_cons_self⟩
  · rintro done arrival todo rfl
    obtain ⟨hkeys, hfit, hrun⟩ := hfollow done (List.prefix_append ..)
    obtain ⟨hkeys', hfit', hrun'⟩ := hfollow (done ++ [arrival]) ⟨todo, by simp⟩
    refine ⟨_, _, hrun, summarises_summary hkeys hfit List.mem_cons_self,
      update_summary hkeys' hfit', hrun', ?_⟩
    have hlast := summary_concat first (first :: done) arrival
    rw [hlast]
    exact FlowState.advances_nextState ..

/-- A request, its answer at the same second and a request with FIN that was captured before both. -/
theorem follow_summarises_of_three :
    let client : Endpoint := ⟨.v4 0x0a000001, 40000⟩
    let server : Endpoint := ⟨.v4 0x0a000002, 80⟩
    let first : Arrival := ⟨⟨⟨client, server, .tcp⟩, 0x02⟩, ⟨5, 0⟩, 60⟩
    let rest : List Arrival := [⟨⟨⟨server, client, .tcp⟩, 0x12⟩, ⟨5, 7⟩, 70⟩,
      ⟨⟨⟨client, server, .tcp⟩, 0x11⟩, ⟨4, 9⟩, 80⟩]
    (∀ arrival ∈ rest, arrival.key = first.key) ∧ ∃ record,
      follow first rest = .ok record ∧ record.Summarises first (first :: rest)
      ∧ record = ⟨.closed, ⟨client, server, .tcp⟩, ⟨5, 0⟩, ⟨5, 7⟩, ⟨2, 140, 0x13⟩, ⟨1, 70, 0x12⟩⟩ := by
  intro client server first rest
  have hkey : ∀ arrival ∈ rest, arrival.key = first.key := by decide
  obtain ⟨⟨record, hrun, hsummary⟩, -⟩ := follow_summarises first rest hkey (by decide) (by decide)
  refine ⟨hkey, record, hrun, hsummary, ?_⟩
  have hvalue : follow first rest = .ok
      ⟨.closed, ⟨client, server, .tcp⟩, ⟨5, 0⟩, ⟨5, 7⟩, ⟨2, 140, 0x13⟩, ⟨1, 70, 0x12⟩⟩ := by
    rw [follow_eq rest (by decide) ⟨by decide, by decide⟩]
    decide
  rw [hvalue] at hrun
  exact (Except.ok.inj hrun).symm

end FlowRecord

end FlowTracker
