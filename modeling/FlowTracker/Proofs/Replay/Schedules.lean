import FlowTracker.Proofs.Replay.Captures
import FlowTracker.Proofs.Replay.Threads

/-!
# Schedules of a replay

At the end of a schedule each packet of the source has been handled by one worker, the packets of one
worker in their order (`Pipeline.Run.ends`).  With one worker and no sweep in between, nothing of the
schedule is left to see: it ends as `Replay.run` does (`Pipeline.Run.eq_run`), and where the worker has
room for all conversations of a capture no fault gets in the way (`Pipeline.schedules_of_capture`).
-/

namespace FlowTracker

/-! ### What a source hands out -/

namespace Source

/-- The source hands out `packets` and is `after` then. -/
inductive Hands (source : Source) : (packets : List Packet) → (after : Source) → Prop
  | nil : Hands source [] source
  | snoc {packets : List Packet} {packet : Packet} {between after : Source}
      (h : Hands source packets between) (hnext : between.next = .ok (some packet) after) :
      Hands source (packets ++ [packet]) after

/-- The source hands out `packets`, ends and is `last` then. -/
def Exhausts (source : Source) (packets : List Packet) (last : Source)
    (failure : Option CaptureError) : Prop :=
  ∃ between, source.Hands packets between ∧ between.next = last.ended failure

end Source

/-! ### What the flows show -/

namespace Pipeline

variable {n : Nat}

namespace Turn

def packet? : Turn n → Option (Fin n × Packet)
  | handle worker packet => some (worker, packet)
  | sweep => none

/-- Who handles which packet. -/
def handled (turns : List (Turn n)) : List (Fin n × Packet) := turns.filterMap packet?

theorem handled_concat (turns : List (Turn n)) (turn : Turn n) :
    handled (turns ++ [turn]) = handled turns ++ turn.packet?.toList := by
  rw [handled, List.filterMap_append]
  cases turn <;> rfl

end Turn

def Hand.packets : Hand → List Packet
  | busy packet => [packet]
  | _ => []

@[simp] theorem Hand.packets_after (before handled : Replay) :
    (after before handled).packets = [] := by
  unfold after
  split <;> rfl

theorem Hand.after_eq_fallen {before handled : Replay} :
    after before handled = .fallen ↔ handled.stopped ≠ before.stopped := by
  unfold after
  split <;> simp [*]

def Closing.closed (plan : ReplayPlan) (replay : Replay) : Closing → Replay
  | joining _ => replay
  | stopped => replay.stop plan
  | down => (replay.stop plan).tearDown

end Pipeline

namespace Replay

variable {n : Nat} {plan : ReplayPlan}

def afterTurn (plan : ReplayPlan) (replay : Replay) : Pipeline.Turn n → Replay
  | .handle worker packet => replay.handle plan ⟨worker⟩ packet
  | .sweep => replay.sweep plan

def afterTurns (plan : ReplayPlan) (replay : Replay) (turns : List (Pipeline.Turn n)) : Replay :=
  turns.foldl (afterTurn plan) replay

theorem stopped_onWorker {α : Type} (replay : Replay) (worker : Worker)
    (program : Worker → EngineM α) :
    replay.stopped ≤ (replay.onWorker worker program).2.stopped := by
  unfold onWorker
  cases program worker replay.engine with
  | ok a engine => exact Nat.le_refl _
  | error fault engine => exact Nat.le_succ _

theorem stopped_onManager {α : Type} (replay : Replay) (program : EngineM α) :
    (replay.onManager program).stopped = replay.stopped := by
  unfold onManager
  split
  · split <;> rfl
  · rfl

theorem stopped_handle (replay : Replay) (worker : Worker) (packet : Packet) :
    replay.stopped ≤ (replay.handle plan worker packet).stopped := by
  have hserve : ∀ between : Replay, (between.serve plan).stopped = between.stopped := by
    intro between
    unfold serve
    split
    · rfl
    · exact stopped_onManager between _
  have hbegin := stopped_onWorker replay worker (begin packet)
  unfold handle
  generalize replay.onWorker worker (begin packet) = answer at hbegin ⊢
  rcases answer with ⟨_ | _ | arrival, between⟩
  · exact hbegin
  · exact hbegin
  · have hfinish := stopped_onWorker (between.serve plan) worker (finish arrival)
    rw [hserve] at hfinish
    exact hbegin.trans hfinish

theorem afterTurns_concat (replay : Replay) (turns : List (Pipeline.Turn n)) (turn : Pipeline.Turn n) :
    replay.afterTurns plan (turns ++ [turn]) = (replay.afterTurns plan turns).afterTurn plan turn := by
  rw [afterTurns, List.foldl_append]
  rfl

end Replay

/-! ### What is left of a schedule -/

namespace Pipeline

variable {n : Nat} {plan : ReplayPlan} {p p' : Pipeline n} {turns : List (Turn n)}
  {turn : Option (Turn n)} {replay : Replay} {worker : Fin n}

/-- The reader has `packets` behind it, apart from the one that it sends. -/
def HasRead (p : Pipeline n) (source : Source) (packets : List Packet) : Prop :=
  match p.reader with
  | .reading => source.Hands packets p.replay.source ∧ p.replay.failure = none
  | .sending packet =>
    source.Hands (packets ++ [packet]) p.replay.source ∧ p.replay.failure = none
  | .closed =>
    source.Exhausts packets p.replay.source p.replay.failure
      ∨ (∀ worker, p.hand worker = .fallen)
        ∧ ∃ lost, source.Hands (packets ++ [lost]) p.replay.source

theorem HasRead.congr {source : Source} {packets : List Packet} (h : p.HasRead source packets)
    (hreader : p'.reader = p.reader) (hsource : p'.replay.source = p.replay.source)
    (hfailure : p'.replay.failure = p.replay.failure)
    (hfallen : (∀ worker, p.hand worker = .fallen) → ∀ worker, p'.hand worker = .fallen) :
    p'.HasRead source packets := by
  unfold HasRead at h ⊢
  rw [hreader, hsource, hfailure]
  cases hcase : p.reader with
  | reading => rwa [hcase] at h
  | sending packet => rwa [hcase] at h
  | closed =>
    rw [hcase] at h
    exact h.imp_right (And.imp_left hfallen)

/-- `taken` is who has received which packet. -/
structure Served (plan : ReplayPlan) (replay : Replay) (turns : List (Turn n)) (p : Pipeline n)
    (taken : List (Fin n × Packet)) : Prop where
  hasRead : p.HasRead replay.source (taken.map Prod.snd ++ p.channel)
  inOrder : ∀ worker, taken.filter (·.1 = worker)
    = (Turn.handled turns).filter (·.1 = worker) ++ (p.hand worker).packets.map (worker, ·)
  replay_eq : p.replay = (p.closing.closed plan (replay.afterTurns plan turns)).withSource
    p.replay.source p.replay.failure
  fallen : ∀ worker, p.hand worker = .fallen → 0 < p.replay.stopped

namespace Served

variable {taken : List (Fin n × Packet)} {packet : Packet}

theorem read (h : p.Served plan replay turns taken) {source : Source}
    {failure : Option CaptureError} {reader : Reader} {channel : List Packet}
    (hread : HasRead { p with replay := p.replay.withSource source failure, reader, channel }
      replay.source (taken.map Prod.snd ++ channel)) :
    Served plan replay turns { p with replay := p.replay.withSource source failure, reader, channel }
      taken := by
  have hsame := congrArg (Replay.withSource · source failure) h.replay_eq
  exact ⟨hread, h.inOrder, hsame, h.fallen⟩

theorem receive (h : p.Served plan replay turns taken) (hfree : p.hand worker = .free)
    {reader : Reader} {channel : List Packet}
    (hread : HasRead { p with reader, channel } replay.source
      (taken.map Prod.snd ++ packet :: channel)) :
    Served plan replay turns ({ p with reader, channel }.become worker (.busy packet))
      (taken ++ [(worker, packet)]) := by
  refine ⟨?_, ?_, h.replay_eq, ?_⟩
  · rw [List.map_append, List.append_assoc]
    refine hread.congr rfl rfl rfl fun hall => ?_
    rw [show p.hand worker = .fallen from hall worker] at hfree
    cases hfree
  · refine forall_become (motive := fun other hand =>
      (taken ++ [(worker, packet)]).filter (·.1 = other)
        = (Turn.handled turns).filter (·.1 = other) ++ hand.packets.map (other, ·)) ?_ ?_
    · have hbefore := h.inOrder worker
      rw [hfree] at hbefore
      simp [hbefore, Hand.packets]
    · intro other hne
      rw [← h.inOrder other, List.filter_append]
      simp [hne.symm]
  · exact forall_become (motive := fun _ hand => hand = .fallen → _) nofun
      fun other _ => h.fallen other

theorem leave (h : p.Served plan replay turns taken) (hfree : p.hand worker = .free) :
    Served plan replay turns (p.become worker .finished) taken := by
  refine ⟨?_, ?_, h.replay_eq, ?_⟩
  · refine h.hasRead.congr rfl rfl rfl fun hall => ?_
    rw [hall worker] at hfree
    cases hfree
  · refine forall_become (motive := fun other hand => taken.filter (·.1 = other)
      = (Turn.handled turns).filter (·.1 = other) ++ hand.packets.map (other, ·)) ?_
      fun other _ => h.inOrder other
    rw [h.inOrder worker, hfree]
    rfl
  · exact forall_become (motive := fun _ hand => hand = .fallen → _) nofun
      fun other _ => h.fallen other

theorem handle (h : p.Served plan replay turns taken) (hbusy : p.hand worker = .busy packet)
    {workers : Nat} (hclosing : p.closing = .joining workers) :
    Served plan replay (turns ++ [.handle worker packet])
      ({ p with replay := p.replay.handle plan ⟨worker⟩ packet }.become worker
        (.after p.replay (p.replay.handle plan ⟨worker⟩ packet))) taken := by
  have hsame : p.replay.handle plan ⟨worker⟩ packet = ((replay.afterTurns plan turns).handle plan
      ⟨worker⟩ packet).withSource p.replay.source p.replay.failure := by
    conv_lhs => rw [h.replay_eq, hclosing]
    exact Replay.handle_withSource ..
  have hstopped : p.replay.stopped ≤ (p.replay.handle plan ⟨worker⟩ packet).stopped :=
    Replay.stopped_handle ..
  refine ⟨?_, ?_, ?_, ?_⟩
  · refine h.hasRead.congr rfl ?_ ?_ fun hall => ?_
    · rw [replay_become, hsame]
      rfl
    · rw [replay_become, hsame]
      rfl
    · rw [hall worker] at hbusy
      cases hbusy
  · refine forall_become (motive := fun other hand => taken.filter (·.1 = other)
      = (Turn.handled (turns ++ [.handle worker packet])).filter (·.1 = other)
        ++ hand.packets.map (other, ·)) ?_ ?_
    · rw [h.inOrder worker, hbusy, Turn.handled_concat, Hand.packets_after]
      simp [Turn.packet?, Hand.packets]
    · intro other hne
      rw [h.inOrder other, Turn.handled_concat]
      simp [Turn.packet?, hne.symm]
  · rw [closing_become, hclosing, replay_become, Replay.afterTurns_concat, hsame]
    rfl
  · refine forall_become (motive := fun _ hand => hand = .fallen → _) (fun hfallen => ?_)
      fun other _ hfallen => (h.fallen other hfallen).trans_le hstopped
    rw [replay_become]
    exact Nat.zero_lt_of_lt (Nat.lt_of_le_of_ne hstopped (Ne.symm (Hand.after_eq_fallen.1 hfallen)))

/-- A step that only the replay shows. -/
theorem advance (h : p.Served plan replay turns taken) {turns' : List (Turn n)} {replay' : Replay}
    {closing : Closing} (hturns : Turn.handled turns' = Turn.handled turns)
    (hsame : replay' = (closing.closed plan (replay.afterTurns plan turns')).withSource p.replay.source
      p.replay.failure) (hstopped : replay'.stopped = p.replay.stopped) :
    Served plan replay turns' { p with replay := replay', closing } taken := by
  subst hsame
  refine ⟨h.hasRead.congr rfl rfl rfl fun hall => hall, fun worker => ?_, rfl, fun worker hfallen => ?_⟩
  · rw [hturns]
    exact h.inOrder worker
  · exact (h.fallen worker hfallen).trans_eq hstopped.symm

theorem step (h : p.Served plan replay turns taken) (horder : p.Orderly plan)
    (hstep : Step plan p turn p') :
    ∃ taken', p'.Served plan replay (turns ++ turn.toList) taken' := by
  have hread := h.hasRead
  unfold HasRead at hread
  cases hstep <;> simp only [Option.toList, List.append_nil]
  case read packet after hreader hnext =>
    rw [hreader] at hread
    exact ⟨taken, h.read ⟨.snoc hread.1 hnext, hread.2⟩⟩
  case close last failure hreader hnext =>
    rw [hreader] at hread
    exact ⟨taken, h.read (Or.inl ⟨p.replay.source, hread.1, hnext⟩)⟩
  case send packet worker hreader hroom hstays =>
    rw [hreader] at hread
    dsimp only at hread
    rw [List.append_assoc] at hread
    exact ⟨taken, h.read hread⟩
  case meet packet worker hreader hnone hfree =>
    have hchannel : p.channel = [] := by
      have hle := horder.channel_le
      rwa [hnone, Nat.le_zero, List.length_eq_zero_iff] at hle
    rw [hreader, hchannel, List.append_nil] at hread
    rw [hchannel]
    exact ⟨_, h.receive hfree hread⟩
  case hangUp packet hreader hgone =>
    rw [hreader] at hread
    have hfallen : ∀ worker, p.hand worker = .fallen := by
      intro worker
      refine (hgone worker).finished_or_fallen.resolve_left fun hfinished => ?_
      have hclosed := (horder.finished worker hfinished).1
      rw [hreader] at hclosed
      cases hclosed
    exact ⟨taken, h.read (Or.inr ⟨hfallen, packet, hread.1⟩)⟩
  case receive packet rest worker hfree hchannel =>
    have hread' := h.hasRead
    rw [hchannel] at hread'
    exact ⟨_, h.receive hfree hread'⟩
  case handle packet worker hbusy =>
    obtain ⟨workers, hclosing⟩ := horder.joining_of_stays (by rw [hbusy]; exact id)
    exact ⟨taken, h.handle hbusy hclosing⟩
  case leave worker hfree hreader hchannel => exact ⟨taken, h.leave hfree⟩
  case sweep workers hclosing =>
    refine ⟨taken, h.advance ?_ ?_ (Replay.stopped_onManager p.replay _)⟩
    · rw [Turn.handled_concat]
      exact List.append_nil _
    · rw [Replay.afterTurns_concat, hclosing]
      conv_lhs => rw [h.replay_eq, hclosing]
      exact Replay.onManager_withSource ..
  case join worker hreader hclosing hgone =>
    refine ⟨taken, h.advance rfl ?_ rfl⟩
    conv_lhs => rw [h.replay_eq, hclosing]
    rfl
  case stop hreader hclosing =>
    refine ⟨taken, h.advance rfl ?_ (Replay.stopped_onManager p.replay _)⟩
    conv_lhs => rw [h.replay_eq, hclosing]
    exact Replay.onManager_withSource ..
  case tearDown hclosing =>
    refine ⟨taken, h.advance rfl ?_ rfl⟩
    conv_lhs => rw [h.replay_eq, hclosing]
    rfl

end Served

theorem Served.start (hfailure : replay.failure = none) :
    (start replay : Pipeline n).Served plan replay [] [] := by
  refine ⟨⟨.nil, hfailure⟩, fun _ => rfl, rfl, fun worker hfallen => ?_⟩
  cases hfallen

namespace Run

theorem served (h : Run plan (start replay) turns p) (hfailure : replay.failure = none) :
    ∃ taken, p.Served plan replay turns taken := by
  induction h with
  | nil => exact ⟨[], .start hfailure⟩
  | snoc hrun hstep ih =>
    obtain ⟨taken, hserved⟩ := ih
    exact hserved.step (hrun.orderly (.start replay)) hstep

/-- At the end of a schedule each packet of the source has been handled once, by some worker, unless
faults have stopped all workers; and each worker has handled its packets in their order.  A failure of
the source changes nothing of that. -/
theorem ends (h : Run plan (start replay) turns p) (hfailure : replay.failure = none)
    (hdown : p.closing = .down) (hstays : p.hand worker ≠ .fallen) :
    ∃ packets, replay.source.Exhausts packets p.replay.source p.replay.failure
      ∧ ((Turn.handled turns).map Prod.snd).Perm packets
      ∧ (∀ worker, (((Turn.handled turns).filter (·.1 = worker)).map Prod.snd).Sublist packets)
      ∧ p.replay = ((replay.afterTurns plan turns).stop plan).tearDown.withSource p.replay.source
        p.replay.failure := by
  obtain ⟨taken, hserved⟩ := h.served hfailure
  have horder := h.orderly (.start replay)
  have hgone : ∀ worker, (p.hand worker).IsGone := by
    intro worker
    refine horder.gone worker ?_
    rw [hdown]
    exact worker.isLt
  have htaken : ∀ worker, taken.filter (·.1 = worker)
      = (Turn.handled turns).filter (·.1 = worker) := by
    intro worker
    rw [hserved.inOrder worker]
    rcases (hgone worker).finished_or_fallen with hhand | hhand <;>
      rw [hhand] <;> exact List.append_nil _
  obtain ⟨hclosed, hchannel⟩ :=
    horder.finished worker ((hgone worker).finished_or_fallen.resolve_right hstays)
  have hread := hserved.hasRead
  unfold HasRead at hread
  rw [hclosed, hchannel, List.append_nil] at hread
  have hreplay := hserved.replay_eq
  rw [hdown] at hreplay
  refine ⟨_, hread.resolve_right fun hall => hstays (hall.1 worker), ?_, fun worker => ?_, hreplay⟩
  · refine List.Perm.map _ (List.perm_iff_count.2 fun entry => ?_)
    have hcount := congrArg (List.count entry) (htaken entry.1)
    rw [List.count_filter (by simp), List.count_filter (by simp)] at hcount
    exact hcount.symm
  · rw [← htaken worker]
    exact List.filter_sublist.map _

end Run

end Pipeline

/-! ### One worker -/

namespace Replay

variable {plan : ReplayPlan} {replay : Replay} {source between last : Source} {packets : List Packet}
  {failure : Option CaptureError}

theorem stopped_handleAll (replay : Replay) (worker : Worker) (packets : List Packet) :
    replay.stopped ≤ (packets.foldl (handle plan worker) replay).stopped := by
  induction packets generalizing replay with
  | nil => exact Nat.le_refl _
  | cons packet packets ih => exact (stopped_handle replay worker packet).trans (ih _)

theorem failure_handleAll (replay : Replay) (worker : Worker) (packets : List Packet) :
    (packets.foldl (handle plan worker) replay).failure = replay.failure := by
  induction packets generalizing replay with
  | nil => rfl
  | cons packet packets ih => exact (ih _).trans (failure_handle replay worker packet)

/-- Where no fault stops the only worker, it has handled what the source has handed out so far. -/
theorem feed_of_hands (hworkers : plan.workers = 1) (hstopped : replay.stopped = 0)
    (hsteady : (feed plan source replay).stopped = 0) (h : source.Hands packets between) :
    (packets.foldl (handle plan ⟨0⟩) replay).stopped = 0
      ∧ feed plan source replay = feed plan between (packets.foldl (handle plan ⟨0⟩) replay) := by
  induction h with
  | nil => exact ⟨hstopped, rfl⟩
  | @snoc packets packet between after h hnext ih =>
    obtain ⟨hnone, hfeed⟩ := ih
    rw [List.foldl_append, List.foldl_cons, List.foldl_nil]
    generalize packets.foldl (handle plan ⟨0⟩) replay = replay' at hnone hfeed ⊢
    rw [feed_of_next _ hnext, hnone, hworkers] at hfeed
    simp only [if_true, Nat.lt_one_iff] at hfeed
    split at hfeed
    · rename_i hnone'
      exact ⟨hnone', hfeed⟩
    · rename_i hfell
      rw [hfeed] at hsteady
      exact absurd hsteady hfell

theorem feed_of_exhausts (hworkers : plan.workers = 1) (hstopped : replay.stopped = 0)
    (hfailure : replay.failure = none) (hsteady : (feed plan source replay).stopped = 0)
    (h : source.Exhausts packets last failure) :
    feed plan source replay = (packets.foldl (handle plan ⟨0⟩) replay).withSource last failure := by
  obtain ⟨between, hhands, hended⟩ := h
  rw [(feed_of_hands hworkers hstopped hsteady hhands).2, feed_of_next _ hended]
  cases failure with
  | none =>
    have hnone : (packets.foldl (handle plan ⟨0⟩) replay).failure = none :=
      (failure_handleAll ..).trans hfailure
    exact congrArg (withSource _ last) hnone
  | some error => rfl

theorem afterTurns_of_one {turns : List (Pipeline.Turn 1)} (hsweep : Pipeline.Turn.sweep ∉ turns)
    (replay : Replay) :
    replay.afterTurns plan turns
      = ((Pipeline.Turn.handled turns).map Prod.snd).foldl (handle plan ⟨0⟩) replay := by
  induction turns generalizing replay with
  | nil => rfl
  | cons turn turns ih =>
    obtain ⟨hturn, hturns⟩ := not_or.1 (List.mem_cons.not.1 hsweep)
    cases turn with
    | sweep => exact absurd rfl hturn
    | handle worker packet =>
      obtain rfl : worker = 0 := Subsingleton.elim ..
      exact ih hturns _

theorem start_eq_ok (h : start plan source = .ok replay) :
    replay.source = source ∧ replay.stopped = 0 ∧ replay.failure = none := by
  obtain ⟨engine, -, h⟩ := exists_of_bind_eq_ok h
  obtain ⟨⟨⟩, -, h⟩ := exists_of_bind_eq_ok h
  cases h
  exact ⟨rfl, rfl, rfl⟩

end Replay

namespace Pipeline

variable {plan : ReplayPlan} {p : Pipeline 1} {replay : Replay} {source : Source}
  {turns : List (Turn 1)}

theorem HasRead.exists_hands {n : Nat} {p : Pipeline n} {packets : List Packet}
    (h : p.HasRead source packets) : ∃ more between, source.Hands (packets ++ more) between := by
  unfold HasRead at h
  cases hreader : p.reader with
  | reading =>
    rw [hreader] at h
    exact ⟨[], _, (List.append_nil packets).symm ▸ h.1⟩
  | sending packet =>
    rw [hreader] at h
    exact ⟨[packet], _, h.1⟩
  | closed =>
    rw [hreader] at h
    rcases h with ⟨between, hhands, -⟩ | ⟨-, lost, hhands⟩
    · exact ⟨[], between, (List.append_nil packets).symm ▸ hhands⟩
    · exact ⟨[lost], _, hhands⟩

theorem filter_one (entries : List (Fin 1 × Packet)) : entries.filter (·.1 = 0) = entries :=
  List.filter_eq_self.2 fun _ _ => decide_eq_true (Subsingleton.elim ..)

/-- A schedule of one worker that no sweep comes in between ends as the schedule does in which each
packet is handled when it is read. -/
theorem Run.eq_run (hworkers : plan.workers = 1) (hstart : Replay.start plan source = .ok replay)
    (hsteady : (Replay.feed plan source replay).stopped = 0) (h : Run plan (start replay) turns p)
    (hsweep : Turn.sweep ∉ turns) (hdown : p.closing = .down) :
    Replay.run plan source = .ok p.replay := by
  obtain ⟨rfl, hstopped, hfailure⟩ := Replay.start_eq_ok hstart
  have hstays : p.hand 0 ≠ .fallen := by
    intro hfallen
    obtain ⟨taken, hserved⟩ := h.served hfailure
    have htaken : taken = Turn.handled turns := by
      have hinOrder := hserved.inOrder 0
      rw [filter_one, filter_one, hfallen] at hinOrder
      exact hinOrder.trans (List.append_nil _)
    obtain ⟨more, between, hhands⟩ := hserved.hasRead.exists_hands
    have hall := (Replay.feed_of_hands hworkers hstopped hsteady hhands).1
    rw [htaken, List.append_assoc, List.foldl_append, ← Replay.afterTurns_of_one hsweep] at hall
    have hnone : (replay.afterTurns plan turns).stopped ≤ 0 :=
      (Replay.stopped_handleAll ..).trans_eq hall
    have hsame : p.replay.stopped = ((replay.afterTurns plan turns).stop plan).stopped := by
      rw [hserved.replay_eq, hdown]
      rfl
    have hpositive := hserved.fallen 0 hfallen
    rw [hsame, Replay.stop, Replay.stopped_onManager] at hpositive
    exact Nat.not_lt_of_le hnone hpositive
  obtain ⟨packets, hexhausts, hperm, hsublist, hreplay⟩ := h.ends hfailure hdown hstays
  have hhanded : (Turn.handled turns).map Prod.snd = packets := by
    have hsublist' := hsublist 0
    rw [filter_one] at hsublist'
    exact hsublist'.eq_of_length hperm.length_eq
  have hfeed := Replay.feed_of_exhausts hworkers hstopped hfailure hsteady hexhausts
  rw [Replay.run, hstart, bind_ok, hfeed, ← hhanded, ← Replay.afterTurns_of_one hsweep, Replay.stop,
    Replay.onManager_withSource, hreplay]
  rfl

/-- One worker with room for all conversations of a capture.  A schedule that no sweep comes in between
can go on to its end from wherever it is, and the end is the one of `Replay.run`. -/
theorem schedules_of_capture (hworkers : plan.workers = 1)
    (hcapacity : plan.maxFlows < QueueStore.handleLimit) (hchannel : Replay.checkRoom plan = .ok ())
    {capture : Capture} (hfits : ∀ packet ∈ capture.readAll.handed, packet.time.Fits)
    (hpackets : capture.readAll.handed.length < Word.count)
    (hoctets : Packet.octets capture.readAll.handed < Word.count)
    (hroom : (Packet.keys capture.readAll.handed).card ≤ plan.maxFlows) :
    ∃ replay last, Replay.start plan (.capture capture) = .ok replay
      ∧ Replay.run plan (.capture capture) = .ok last
      ∧ ∀ turns (p : Pipeline 1), Run plan (start replay) turns p → Turn.sweep ∉ turns →
        (p.closing = .down → p.replay = last)
        ∧ ∃ turns' p', Run plan p turns' p' ∧ p'.closing = .down ∧ p'.replay = last := by
  obtain ⟨engine, lineup, hfresh, hsimulates⟩ := Engine.fresh_simulates hcapacity
  have hstart := Replay.start_of_fresh hfresh hchannel (.capture capture)
  obtain ⟨processed, -, -, -, -, -, hfeed⟩ :=
    Replay.feed_capture plan ⟨.capture capture, engine, 0, true, none⟩
      (hworkers.symm ▸ Nat.zero_lt_one) rfl hsimulates (Replay.unasked_of_fresh hfresh)
      (FlowMap.isSound_fresh _) (FlowMap.collects_fresh _) hfits hpackets hoctets hroom
  have hsteady : (Replay.feed plan (.capture capture)
      ⟨.capture capture, engine, 0, true, none⟩).stopped = 0 := by rw [hfeed]
  obtain ⟨turns, p, hrun, hdown, hsweep⟩ := Run.exists_down (.start _)
  have hlast := Run.eq_run hworkers hstart hsteady hrun hsweep hdown
  refine ⟨_, p.replay, hstart, hlast, fun turns' p' hrun' hsweep' => ⟨fun hdown' => ?_, ?_⟩⟩
  · have hlast' := hrun'.eq_run hworkers hstart hsteady hsweep' hdown'
    exact Except.ok.inj (hlast'.symm.trans hlast)
  · obtain ⟨turns'', p'', hrun'', hdown'', hsweep''⟩ := Run.exists_down (hrun'.orderly (.start _))
    have hsweeps : Turn.sweep ∉ turns' ++ turns'' := by
      rw [List.mem_append, not_or]
      exact ⟨hsweep', hsweep''⟩
    have hlast' := (hrun'.trans hrun'').eq_run hworkers hstart hsteady hsweeps hdown''
    exact ⟨turns'', p'', hrun'', hdown'', Except.ok.inj (hlast'.symm.trans hlast)⟩

end Pipeline

end FlowTracker
