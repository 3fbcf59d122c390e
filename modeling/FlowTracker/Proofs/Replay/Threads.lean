import FlowTracker.Proofs.Interleaving.Ledger
import FlowTracker.Replay.Run

/-!
# The threads of a replay

`Replay.run` handles each packet as soon as it is read.  In a `Pipeline` the reader, the workers and the
manager go on at their own pace: packets wait in the channel between reader and workers, the manager
sweeps whenever its interval is over, and the shutdown joins one thread after the other.  What a worker
does with one packet is one step here; `System` takes it apart.

No thread waits for ever.  Until the queues are torn down some thread can go on
(`Pipeline.Orderly.exists_step`), and between two sweeps there are only so many steps
(`Pipeline.Step.ahead_lt`), so every schedule comes to its end (`Pipeline.Run.exists_down`).
-/

namespace FlowTracker

/-- The answer of a source that has ended, or failed. -/
def Source.ended (last : Source) : (failure : Option CaptureError) → Source.Result
  | none => .ok none last
  | some error => .error error last

/-! ### The threads -/

namespace Pipeline

inductive Reader where
  | reading
  | sending (packet : Packet)
  | closed

inductive Hand where
  | free
  | busy (packet : Packet)
  /-- The worker has found the channel closed and empty. -/
  | finished
  /-- A fault has stopped the worker. -/
  | fallen

namespace Hand

def IsGone : Hand → Prop
  | finished | fallen => True
  | _ => False

theorem IsGone.finished_or_fallen {hand : Hand} (h : hand.IsGone) :
    hand = finished ∨ hand = fallen := by
  cases hand with
  | finished => exact Or.inl rfl
  | fallen => exact Or.inr rfl
  | _ => exact h.elim

/-- What a worker is at that has handled a packet. -/
def after (before handled : Replay) : Hand :=
  if handled.stopped = before.stopped then .free else .fallen

end Hand

inductive Closing where
  /-- So many of the workers have been joined. -/
  | joining (workers : Nat)
  /-- The manager has been joined. -/
  | stopped
  | down

/-- A step that the flows show. -/
inductive Turn (n : Nat) where
  | handle (worker : Fin n) (packet : Packet)
  | sweep

end Pipeline

namespace Replay

variable (plan : ReplayPlan) (replay : Replay)

/-- Lets the manager sweep, though nobody has asked for it. -/
def sweep : Replay := replay.onManager (plan.manager.sweep .timeout)

def withSource (source : Source) (failure : Option CaptureError) : Replay :=
  { replay with source, failure }

end Replay

/-- A replay with `n` workers.  The channel holds what was sent and not received yet. -/
structure Pipeline (n : Nat) where
  replay : Replay
  reader : Pipeline.Reader
  channel : List Packet
  hand : Fin n → Pipeline.Hand
  closing : Pipeline.Closing

namespace Pipeline

variable {n : Nat}

def start (replay : Replay) : Pipeline n := ⟨replay, .reading, [], fun _ => .free, .joining 0⟩

def become (p : Pipeline n) (worker : Fin n) (hand : Hand) : Pipeline n :=
  { p with hand := Function.update p.hand worker hand }

/-- One step of a thread.  Some are turns. -/
inductive Step (plan : ReplayPlan) (p : Pipeline n) : Option (Turn n) → Pipeline n → Prop
  | read {packet : Packet} {after : Source} (hreader : p.reader = .reading)
      (hnext : p.replay.source.next = .ok (some packet) after) :
      Step plan p none { p with
        replay := p.replay.withSource after p.replay.failure, reader := .sending packet }
  | close {last : Source} {failure : Option CaptureError} (hreader : p.reader = .reading)
      (hnext : p.replay.source.next = last.ended failure) :
      Step plan p none { p with replay := p.replay.withSource last failure, reader := .closed }
  | send {packet : Packet} {worker : Fin n} (hreader : p.reader = .sending packet)
      (hroom : p.channel.length < plan.channelCapacity) (hstays : ¬ (p.hand worker).IsGone) :
      Step plan p none { p with reader := .reading, channel := p.channel ++ [packet] }
  /-- A channel without places lets a packet through where a worker receives it. -/
  | meet {packet : Packet} {worker : Fin n} (hreader : p.reader = .sending packet)
      (hnone : plan.channelCapacity = 0) (hfree : p.hand worker = .free) :
      Step plan p none ({ p with reader := .reading }.become worker (.busy packet))
  | hangUp {packet : Packet} (hreader : p.reader = .sending packet)
      (hgone : ∀ worker, (p.hand worker).IsGone) : Step plan p none { p with reader := .closed }
  | receive {packet : Packet} {rest : List Packet} {worker : Fin n} (hfree : p.hand worker = .free)
      (hchannel : p.channel = packet :: rest) :
      Step plan p none ({ p with channel := rest }.become worker (.busy packet))
  | handle {packet : Packet} {worker : Fin n} (hbusy : p.hand worker = .busy packet) :
      Step plan p (some (.handle worker packet))
        ({ p with replay := p.replay.handle plan ⟨worker⟩ packet }.become worker
          (.after p.replay (p.replay.handle plan ⟨worker⟩ packet)))
  | leave {worker : Fin n} (hfree : p.hand worker = .free) (hreader : p.reader = .closed)
      (hchannel : p.channel = []) : Step plan p none (p.become worker .finished)
  | sweep {workers : Nat} (hclosing : p.closing = .joining workers) :
      Step plan p (some .sweep) { p with replay := p.replay.sweep plan }
  | join {worker : Fin n} (hreader : p.reader = .closed) (hclosing : p.closing = .joining worker)
      (hgone : (p.hand worker).IsGone) :
      Step plan p none { p with closing := .joining (worker + 1) }
  | stop (hreader : p.reader = .closed) (hclosing : p.closing = .joining n) :
      Step plan p none { p with replay := p.replay.stop plan, closing := .stopped }
  | tearDown (hclosing : p.closing = .stopped) :
      Step plan p none { p with replay := p.replay.tearDown, closing := .down }

inductive Run (plan : ReplayPlan) (p : Pipeline n) : List (Turn n) → Pipeline n → Prop
  | nil : Run plan p [] p
  | snoc {turns : List (Turn n)} {turn : Option (Turn n)} {p' p'' : Pipeline n}
      (h : Run plan p turns p') (hstep : Step plan p' turn p'') :
      Run plan p (turns ++ turn.toList) p''

end Pipeline

/-! ### The replay that the threads share -/

namespace Replay

variable {plan : ReplayPlan} {source : Source} {failure : Option CaptureError}

theorem withSource_self (replay : Replay) :
    replay.withSource replay.source replay.failure = replay := rfl

theorem onWorker_withSource {α : Type} (replay : Replay) (worker : Worker)
    (program : Worker → EngineM α) :
    (replay.withSource source failure).onWorker worker program
      = ((replay.onWorker worker program).1,
        (replay.onWorker worker program).2.withSource source failure) := by
  unfold onWorker withSource
  dsimp only
  split <;> rfl

theorem onManager_withSource {α : Type} (replay : Replay) (program : EngineM α) :
    (replay.withSource source failure).onManager program
      = (replay.onManager program).withSource source failure := by
  unfold onManager withSource
  dsimp only
  split
  · split <;> rfl
  · rfl

/-- A worker leaves the source alone. -/
theorem handle_withSource (replay : Replay) (worker : Worker) (packet : Packet) :
    (replay.withSource source failure).handle plan worker packet
      = (replay.handle plan worker packet).withSource source failure := by
  unfold handle
  rw [onWorker_withSource]
  rcases replay.onWorker worker (begin packet) with ⟨_ | _ | arrival, between⟩
  · rfl
  · rfl
  · simp only [serve]
    split
    · simp only [onWorker_withSource]
    · simp only [onManager_withSource, onWorker_withSource]

@[simp] theorem source_handle (replay : Replay) (worker : Worker) (packet : Packet) :
    (replay.handle plan worker packet).source = replay.source := by
  rw [← withSource_self replay, handle_withSource]
  rfl

@[simp] theorem failure_handle (replay : Replay) (worker : Worker) (packet : Packet) :
    (replay.handle plan worker packet).failure = replay.failure := by
  rw [← withSource_self replay, handle_withSource]
  rfl

end Replay

namespace Pipeline

/-- The steps that are left for the reader, and for the workers when a packet is sent. -/
def Reader.ahead (source : Source) : Reader → Nat
  | reading => 4 * source.size + 1
  | sending _ => 4 * source.size + 4
  | closed => 0

def Hand.ahead : Hand → Nat
  | free => 1
  | busy _ => 2
  | _ => 0

theorem Hand.ahead_after_le (before handled : Replay) : (after before handled).ahead ≤ 1 := by
  unfold after
  split
  · exact Nat.le_refl 1
  · exact Nat.zero_le 1

namespace Closing

def joined (n : Nat) : Closing → Nat
  | joining workers => workers
  | _ => n

def ahead (n : Nat) : Closing → Nat
  | joining workers => n - workers + 2
  | stopped => 1
  | down => 0

end Closing

variable {n : Nat} {plan : ReplayPlan} {p p' p'' : Pipeline n} {turns : List (Turn n)}
  {turn : Option (Turn n)} {replay : Replay} {worker : Fin n} {hand : Hand}

/-- What holds of each worker after one of them is at something else. -/
theorem forall_become {motive : Fin n → Hand → Prop} (hself : motive worker hand)
    (hother : ∀ other, other ≠ worker → motive other (p.hand other)) :
    ∀ other, motive other ((p.become worker hand).hand other) :=
  (Function.forall_update_iff p.hand motive).2 ⟨hself, hother⟩

@[simp] theorem replay_become : (p.become worker hand).replay = p.replay := rfl

@[simp] theorem reader_become : (p.become worker hand).reader = p.reader := rfl

@[simp] theorem channel_become : (p.become worker hand).channel = p.channel := rfl

@[simp] theorem closing_become : (p.become worker hand).closing = p.closing := rfl

theorem exists_read (hreader : p.reader = .reading) :
    ∃ turn p', Step plan p turn p' ∧ turn ≠ some .sweep := by
  cases hnext : p.replay.source.next with
  | error error last =>
    have hended : p.replay.source.next = last.ended (some error) := hnext
    exact ⟨none, _, .close hreader hended, nofun⟩
  | ok packet? last =>
    cases packet? with
    | none =>
      have hended : p.replay.source.next = last.ended none := hnext
      exact ⟨none, _, .close hreader hended, nofun⟩
    | some packet => exact ⟨none, _, .read hreader hnext, nofun⟩

/-! ### The order of the threads -/

/-- Workers leave a closed channel when it is empty, and are joined when they are gone. -/
structure Orderly (plan : ReplayPlan) (p : Pipeline n) : Prop where
  channel_le : p.channel.length ≤ plan.channelCapacity
  finished : ∀ worker, p.hand worker = .finished → p.reader = .closed ∧ p.channel = []
  joined_le : p.closing.joined n ≤ n
  gone : ∀ worker : Fin n, worker < p.closing.joined n → (p.hand worker).IsGone

namespace Orderly

/-- While the reader has not closed the channel no worker has finished. -/
theorem congr (h : p.Orderly plan) (hopen : p.reader ≠ .closed) {replay : Replay} {reader : Reader}
    {channel : List Packet} (hchannel : channel.length ≤ plan.channelCapacity) :
    Orderly plan { p with replay, reader, channel } :=
  ⟨hchannel, fun worker hfinished => absurd (h.finished worker hfinished).1 hopen, h.joined_le, h.gone⟩

theorem become (h : p.Orderly plan)
    (hfinished : hand = .finished → p.reader = .closed ∧ p.channel = [])
    (hgone : (p.hand worker).IsGone → hand.IsGone) : (p.become worker hand).Orderly plan := by
  refine ⟨h.channel_le, ?_, h.joined_le, ?_⟩
  · exact forall_become (motive := fun _ hand => hand = .finished → _) hfinished
      fun other _ => h.finished other
  · exact forall_become (motive := fun other hand => other < p.closing.joined n → hand.IsGone)
      (fun hlt => hgone (h.gone worker hlt)) fun other _ => h.gone other

theorem start (replay : Replay) : (start replay : Pipeline n).Orderly plan := by
  refine ⟨Nat.zero_le _, fun worker hfinished => ?_, Nat.zero_le n, fun worker hlt => ?_⟩
  · cases hfinished
  · exact absurd hlt (Nat.not_lt_zero _)

theorem step (h : p.Orderly plan) (hstep : Step plan p turn p') : p'.Orderly plan := by
  cases hstep with
  | read hreader hnext => exact h.congr (by rw [hreader]; exact nofun) h.channel_le
  | close hreader hnext => exact h.congr (by rw [hreader]; exact nofun) h.channel_le
  | send hreader hroom hstays =>
    refine h.congr (by rw [hreader]; exact nofun) ?_
    rw [List.length_append]
    exact hroom
  | meet hreader hnone hfree =>
    refine (h.congr (by rw [hreader]; exact nofun) h.channel_le).become nofun ?_
    rw [hfree]
    exact False.elim
  | hangUp hreader hgone => exact h.congr (by rw [hreader]; exact nofun) h.channel_le
  | receive hfree hchannel =>
    refine become ⟨?_, fun worker hfinished => ?_, h.joined_le, h.gone⟩ nofun ?_
    · have hle := h.channel_le
      rw [hchannel] at hle
      exact Nat.le_of_succ_le hle
    · have hempty := (h.finished worker hfinished).2
      rw [hchannel] at hempty
      cases hempty
    · rw [hfree]
      exact False.elim
  | handle hbusy =>
    refine become ⟨h.channel_le, h.finished, h.joined_le, h.gone⟩ ?_ ?_
    · unfold Hand.after
      split <;> exact nofun
    · rw [hbusy]
      exact False.elim
  | leave hfree hreader hchannel => exact h.become (fun _ => ⟨hreader, hchannel⟩) fun _ => trivial
  | sweep hclosing => exact ⟨h.channel_le, h.finished, h.joined_le, h.gone⟩
  | @join worker hreader hclosing hgone =>
    refine ⟨h.channel_le, h.finished, worker.isLt, fun worker' hlt => ?_⟩
    rcases Nat.lt_succ_iff_lt_or_eq.1 hlt with hlt | heq
    · exact h.gone worker' (by rw [hclosing]; exact hlt)
    · rwa [Fin.ext heq]
  | stop hreader hclosing =>
    refine ⟨h.channel_le, h.finished, Nat.le_refl n, fun worker _ => h.gone worker ?_⟩
    rw [hclosing]
    exact worker.isLt
  | tearDown hclosing =>
    refine ⟨h.channel_le, h.finished, Nat.le_refl n, fun worker _ => h.gone worker ?_⟩
    rw [hclosing]
    exact worker.isLt

/-- While a worker is not gone, the joins are not over. -/
theorem joining_of_stays (h : p.Orderly plan) (hstays : ¬ (p.hand worker).IsGone) :
    ∃ workers, p.closing = .joining workers := by
  cases hclosing : p.closing with
  | joining workers => exact ⟨workers, rfl⟩
  | _ => exact absurd (h.gone worker (by rw [hclosing]; exact worker.isLt)) hstays

/-- Until the queues are torn down some thread can go on, though nobody sweeps. -/
theorem exists_step (h : p.Orderly plan) (hup : p.closing ≠ .down) :
    ∃ turn p', Step plan p turn p' ∧ turn ≠ some .sweep := by
  by_cases hgone : ∀ worker, (p.hand worker).IsGone
  · cases hreader : p.reader with
    | reading => exact exists_read hreader
    | sending packet => exact ⟨none, _, .hangUp hreader hgone, nofun⟩
    | closed =>
      cases hclosing : p.closing with
      | joining workers =>
        have hle : workers ≤ n := by
          have hle := h.joined_le
          rwa [hclosing] at hle
        rcases Nat.lt_or_eq_of_le hle with hlt | rfl
        · have hturn : p.closing = .joining (⟨workers, hlt⟩ : Fin n) := hclosing
          exact ⟨none, _, .join hreader hturn (hgone _), nofun⟩
        · exact ⟨none, _, .stop hreader hclosing, nofun⟩
      | stopped => exact ⟨none, _, .tearDown hclosing, nofun⟩
      | down => exact absurd hclosing hup
  · obtain ⟨worker, hstays⟩ := not_forall.1 hgone
    cases hhand : p.hand worker with
    | finished =>
      rw [hhand] at hstays
      exact absurd trivial hstays
    | fallen =>
      rw [hhand] at hstays
      exact absurd trivial hstays
    | busy packet => exact ⟨_, _, .handle hhand, by simp⟩
    | free =>
      cases hchannel : p.channel with
      | cons packet rest => exact ⟨none, _, .receive hhand hchannel, nofun⟩
      | nil =>
        cases hreader : p.reader with
        | reading => exact exists_read hreader
        | closed => exact ⟨none, _, .leave hhand hreader hchannel, nofun⟩
        | sending packet =>
          rcases Nat.eq_zero_or_pos plan.channelCapacity with hnone | hroom
          · exact ⟨none, _, .meet hreader hnone hhand, nofun⟩
          · exact ⟨none, _, .send hreader (by rwa [hchannel]) hstays, nofun⟩

end Orderly

/-! ### Schedules end -/

/-- How far the threads are from the end at most. -/
def ahead (p : Pipeline n) : Nat :=
  p.reader.ahead p.replay.source + 2 * p.channel.length + ∑ worker, (p.hand worker).ahead
    + p.closing.ahead n

theorem sum_become (p : Pipeline n) {hand : Hand} (hhand : p.hand worker = hand) (next : Hand) :
    ∑ worker', ((p.become worker next).hand worker').ahead + hand.ahead
      = ∑ worker', (p.hand worker').ahead + next.ahead := by
  subst hhand
  have happly : (fun worker' => ((p.become worker next).hand worker').ahead)
      = Function.update (fun worker' => (p.hand worker').ahead) worker next.ahead := by
    funext worker'
    exact Function.apply_update (fun _ => Hand.ahead) p.hand worker next worker'
  rw [happly]
  exact sum_update_add (Finset.mem_univ worker) _ _

theorem Step.ahead_lt (h : Step plan p turn p') (hsweep : turn ≠ some .sweep) :
    p'.ahead < p.ahead := by
  unfold ahead
  cases h with
  | read hreader hnext =>
    have hsize := Source.size_next hnext
    simp only [hreader, Reader.ahead, Replay.withSource]
    omega
  | close hreader hnext =>
    simp only [hreader, Reader.ahead]
    omega
  | send hreader hroom hstays =>
    simp only [hreader, Reader.ahead, List.length_append, List.length_singleton]
    omega
  | @meet packet worker hreader hnone hfree =>
    have hsum := sum_become { p with reader := .reading } hfree (.busy packet)
    change _ + 1 = ∑ worker', (p.hand worker').ahead + 2 at hsum
    simp only [replay_become, reader_become, channel_become, closing_become, hreader, Reader.ahead]
    omega
  | hangUp hreader hgone =>
    simp only [hreader, Reader.ahead]
    omega
  | @receive packet rest worker hfree hchannel =>
    have hsum := sum_become { p with channel := rest } hfree (.busy packet)
    change _ + 1 = ∑ worker', (p.hand worker').ahead + 2 at hsum
    simp only [replay_become, reader_become, channel_become, closing_become, hchannel,
      List.length_cons]
    omega
  | @handle packet worker hbusy =>
    have hsum := sum_become { p with replay := p.replay.handle plan ⟨worker⟩ packet } hbusy
      (.after p.replay (p.replay.handle plan ⟨worker⟩ packet))
    have hafter := Hand.ahead_after_le p.replay (p.replay.handle plan ⟨worker⟩ packet)
    change _ + 2 = ∑ worker', (p.hand worker').ahead + _ at hsum
    simp only [replay_become, reader_become, channel_become, closing_become, Replay.source_handle]
    omega
  | @leave worker hfree hreader hchannel =>
    have hsum := sum_become p hfree .finished
    change _ + 1 = _ + 0 at hsum
    simp only [replay_become, reader_become, channel_become, closing_become]
    omega
  | sweep hclosing => exact absurd rfl hsweep
  | @join worker hreader hclosing hgone =>
    have hlt := worker.isLt
    simp only [hclosing, Closing.ahead]
    omega
  | stop hreader hclosing =>
    simp only [hreader, hclosing, Closing.ahead, Reader.ahead]
    omega
  | tearDown hclosing =>
    simp only [hclosing, Closing.ahead, Replay.tearDown]
    omega

/-- Without sweeps no schedule goes on for ever. -/
theorem Step.wellFounded : WellFounded fun p' p : Pipeline n =>
    ∃ turn, Step plan p turn p' ∧ turn ≠ some .sweep := by
  refine Subrelation.wf ?_ (measure ahead).wf
  rintro p' p ⟨turn, hstep, hsweep⟩
  exact hstep.ahead_lt hsweep

namespace Run

theorem one (h : Step plan p turn p') : Run plan p turn.toList p' := Run.snoc .nil h

theorem trans {turns' : List (Turn n)} (h : Run plan p turns p') (h' : Run plan p' turns' p'') :
    Run plan p (turns ++ turns') p'' := by
  induction h' with
  | nil => rwa [List.append_nil]
  | snoc _ hstep ih =>
    rw [← List.append_assoc]
    exact ih.snoc hstep

theorem orderly (h : Run plan p turns p') (horder : p.Orderly plan) : p'.Orderly plan := by
  induction h with
  | nil => exact horder
  | snoc _ hstep ih => exact ih.step hstep

/-- Every schedule can be brought to its end, and nobody has to sweep for it. -/
theorem exists_down (horder : p.Orderly plan) :
    ∃ turns p', Run plan p turns p' ∧ p'.closing = .down ∧ Turn.sweep ∉ turns := by
  have hends : WellFounded fun p' p : Pipeline n =>
    ∃ turn, Step plan p turn p' ∧ turn ≠ some .sweep := Step.wellFounded
  induction p using hends.induction with
  | _ p ih =>
    by_cases hdown : p.closing = .down
    · exact ⟨[], p, .nil, hdown, List.not_mem_nil⟩
    · obtain ⟨turn, p', hstep, hsweep⟩ := horder.exists_step hdown
      obtain ⟨turns, p'', hrun, hdown', hsweeps⟩ :=
        ih p' ⟨turn, hstep, hsweep⟩ (horder.step hstep)
      refine ⟨turn.toList ++ turns, p'', (one hstep).trans hrun, hdown', ?_⟩
      rw [List.mem_append, Option.mem_toList, not_or]
      exact ⟨hsweep, hsweeps⟩

end Run

end Pipeline

end FlowTracker
