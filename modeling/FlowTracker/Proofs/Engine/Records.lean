import FlowTracker.FlowRecord

/-!
# What a packet does to a record

Accounting a packet in a record either comes to its end or stops at a counter that is full.  In both
cases the record stays the record of its conversation; where it stops, its state and its times are
still the old ones.  A first packet is always accounted, so a conversation can always be started.
`FlowRecord.AtMost` bounds what a record has carried; a packet is accounted while the bounds fit.
-/

namespace FlowTracker

open EStateM

variable {headers : Headers} {time : Timestamp} {size : UInt64}

/-! ### Directions -/

namespace Direction

def HasRoom (direction : Direction) (size : UInt64) : Prop :=
  direction.packets.toNat + 1 < Word.count ∧ direction.bytes.toNat + size.toNat < Word.count

def counted (direction : Direction) (headers : Headers) (size : UInt64) : Direction :=
  ⟨direction.packets + 1, direction.bytes + size, direction.tcpFlags ||| headers.tcpFlags⟩

variable {direction : Direction}

theorem account_of_hasRoom (h : direction.HasRoom size) :
    (account headers size).run direction = .ok () (direction.counted headers size) := by
  have hpackets : Word.add direction.packets 1 = .ok (direction.packets + 1) := if_pos h.1
  have hbytes : Word.add direction.bytes size = .ok (direction.bytes + size) := if_pos h.2
  simp only [account, run_bind, run_get, run_modify, hpackets, hbytes]
  rfl

theorem account_of_not_hasRoom (headers : Headers) (h : ¬ direction.HasRoom size) :
    ∃ direction', (account headers size).run direction = .error .addOverflow direction' := by
  by_cases hpackets : direction.packets.toNat + 1 < Word.count
  · have hbytes : ¬ direction.bytes.toNat + size.toNat < Word.count := fun hb => h ⟨hpackets, hb⟩
    have hadd : Word.add direction.packets 1 = .ok (direction.packets + 1) := if_pos hpackets
    have hfull : Word.add direction.bytes size = .error .addOverflow := if_neg hbytes
    refine ⟨{ direction with packets := direction.packets + 1 }, ?_⟩
    simp only [account, run_bind, run_get, run_modify, hadd, hfull]
    rfl
  · have hfull : Word.add direction.packets 1 = .error .addOverflow := if_neg hpackets
    refine ⟨direction, ?_⟩
    simp only [account, run_bind, run_get, hfull]
    rfl

end Direction

/-! ### Records -/

namespace FlowRecord

variable {record : FlowRecord}

def direction (record : FlowRecord) (headers : Headers) : Direction :=
  if record.isToServer headers then record.toServer else record.toClient

def withDirection (record : FlowRecord) (headers : Headers) (direction : Direction) : FlowRecord :=
  if record.isToServer headers then { record with toServer := direction }
  else { record with toClient := direction }

/-- The record with a packet accounted in a direction that has it already. -/
def advanced (record : FlowRecord) (headers : Headers) (time : Timestamp)
    (direction : Direction) : FlowRecord :=
  { record.withDirection headers direction with
    lastSeen := if time.isAfter record.lastSeen then time else record.lastSeen
    state := record.nextState headers }

def counted (record : FlowRecord) (headers : Headers) (time : Timestamp) (size : UInt64) :
    FlowRecord :=
  record.advanced headers time ((record.direction headers).counted headers size)

theorem run_accountToServer (account : EStateM Fault Direction Unit) (record : FlowRecord) :
    (accountToServer account).run record = match account.run record.toServer with
      | .ok () toServer => .ok () { record with toServer }
      | .error fault toServer => .error fault { record with toServer } := rfl

theorem run_accountToClient (account : EStateM Fault Direction Unit) (record : FlowRecord) :
    (accountToClient account).run record = match account.run record.toClient with
      | .ok () toClient => .ok () { record with toClient }
      | .error fault toClient => .error fault { record with toClient } := rfl

/-- A packet is accounted in its direction first; the times and the state follow if it fits. -/
theorem run_update (record : FlowRecord) :
    (update headers time size).run record
      = match (Direction.account headers size).run (record.direction headers) with
        | .ok () direction => .ok record.state (record.advanced headers time direction)
        | .error fault direction => .error fault (record.withDirection headers direction) := by
  simp only [update, run_bind, run_get]
  cases hserver : record.isToServer headers with
  | true =>
    simp only [if_true, run_bind, run_accountToServer, direction, withDirection, advanced, hserver]
    cases (Direction.account headers size).run record.toServer with
    | error fault toServer => rfl
    | ok u toServer =>
      simp only [run_modify, run_pure]
      split <;> rfl
  | false =>
    simp only [Bool.false_eq_true, if_false, run_bind, run_accountToClient, direction,
      withDirection, advanced, hserver]
    cases (Direction.account headers size).run record.toClient with
    | error fault toClient => rfl
    | ok u toClient =>
      simp only [run_modify, run_pure]
      split <;> rfl

theorem update_of_hasRoom (time : Timestamp) (h : (record.direction headers).HasRoom size) :
    (update headers time size).run record
      = .ok record.state (record.counted headers time size) := by
  rw [run_update, Direction.account_of_hasRoom h]
  rfl

theorem withDirection_eq (record : FlowRecord) (headers : Headers) (direction : Direction) :
    (record.withDirection headers direction).state = record.state
      ∧ (record.withDirection headers direction).tuple = record.tuple
      ∧ (record.withDirection headers direction).lastSeen = record.lastSeen := by
  unfold withDirection
  split <;> exact ⟨rfl, rfl, rfl⟩

/-- Where a counter is full, the packet leaves the state and the times as they were. -/
theorem update_of_not_hasRoom (time : Timestamp) (h : ¬ (record.direction headers).HasRoom size) :
    ∃ record', (update headers time size).run record = .error .addOverflow record'
      ∧ record'.state = record.state ∧ record'.tuple = record.tuple
      ∧ record'.lastSeen = record.lastSeen := by
  obtain ⟨direction', hrun⟩ := Direction.account_of_not_hasRoom headers h
  refine ⟨record.withDirection headers direction', ?_, record.withDirection_eq headers direction'⟩
  rw [run_update, hrun]

theorem tuple_counted (record : FlowRecord) (headers : Headers) (time : Timestamp)
    (size : UInt64) : (record.counted headers time size).tuple = record.tuple :=
  (record.withDirection_eq headers _).2.1

theorem key_counted (record : FlowRecord) (headers : Headers) (time : Timestamp)
    (size : UInt64) : (record.counted headers time size).key = record.key := by
  unfold key
  rw [tuple_counted]

/-- The first packet of a conversation is always accounted. -/
theorem hasRoom_blank (headers : Headers) (time : Timestamp) (size : UInt64) :
    ((blank headers time).direction headers).HasRoom size := by
  have hempty : (blank headers time).direction headers = .empty := by
    unfold direction
    split <;> rfl
  rw [hempty]
  have hsize := size.toNat_lt
  constructor
  · decide
  · show 0 + size.toNat < Word.count
    simp only [Word.count]
    omega

def first (headers : Headers) (time : Timestamp) (size : UInt64) : FlowRecord :=
  (blank headers time).counted headers time size

theorem start_eq (headers : Headers) (time : Timestamp) (size : UInt64) :
    start headers time size = .ok (first headers time size) := by
  have hrun := update_of_hasRoom time (hasRoom_blank headers time size)
  unfold EStateM.run at hrun
  unfold start
  rw [hrun]
  rfl

theorem key_first (headers : Headers) (time : Timestamp) (size : UInt64) :
    (first headers time size).key = headers.tuple.key := key_counted ..

end FlowRecord

/-! ### What records carry -/

/-- The direction has carried no more than this. -/
def Direction.AtMost (direction : Direction) (packets bytes : Nat) : Prop :=
  direction.packets.toNat ≤ packets ∧ direction.bytes.toNat ≤ bytes

theorem Direction.AtMost.counted {direction : Direction} {packets bytes : Nat}
    (h : direction.AtMost packets bytes) (headers : Headers) (size : UInt64) :
    (direction.counted headers size).AtMost (packets + 1) (bytes + size.toNat) := by
  obtain ⟨hpackets, hbytes⟩ := h
  constructor
  · have hsum : (direction.packets + 1).toNat ≤ direction.packets.toNat + 1 := Nat.mod_le ..
    exact Nat.le_trans hsum (Nat.succ_le_succ hpackets)
  · have hsum : (direction.bytes + size).toNat ≤ direction.bytes.toNat + size.toNat :=
      Nat.mod_le ..
    exact Nat.le_trans hsum (Nat.add_le_add_right hbytes _)

def FlowRecord.AtMost (record : FlowRecord) (packets bytes : Nat) : Prop :=
  record.toServer.AtMost packets bytes ∧ record.toClient.AtMost packets bytes

namespace FlowRecord.AtMost

variable {record : FlowRecord} {packets bytes packets' bytes' : Nat} {headers : Headers}
  {size : UInt64}

theorem mono (h : record.AtMost packets bytes) (hpackets : packets ≤ packets')
    (hbytes : bytes ≤ bytes') : record.AtMost packets' bytes' :=
  ⟨⟨Nat.le_trans h.1.1 hpackets, Nat.le_trans h.1.2 hbytes⟩,
    ⟨Nat.le_trans h.2.1 hpackets, Nat.le_trans h.2.2 hbytes⟩⟩

theorem direction (h : record.AtMost packets bytes) (headers : Headers) :
    (record.direction headers).AtMost packets bytes := by
  unfold FlowRecord.direction
  split
  · exact h.1
  · exact h.2

theorem hasRoom (h : record.AtMost packets bytes) (hpackets : packets + 1 < Word.count)
    (hbytes : bytes + size.toNat < Word.count) : (record.direction headers).HasRoom size := by
  obtain ⟨hp, hb⟩ := h.direction headers
  exact ⟨Nat.lt_of_le_of_lt (Nat.succ_le_succ hp) hpackets,
    Nat.lt_of_le_of_lt (Nat.add_le_add_right hb _) hbytes⟩

theorem counted (h : record.AtMost packets bytes) (headers : Headers) (time : Timestamp)
    (size : UInt64) :
    (record.counted headers time size).AtMost (packets + 1) (bytes + size.toNat) := by
  have hmono := h.mono (Nat.le_add_right packets 1) (Nat.le_add_right bytes size.toNat)
  have hdirection := (h.direction headers).counted headers size
  unfold FlowRecord.counted advanced withDirection
  split
  · exact ⟨hdirection, hmono.2⟩
  · exact ⟨hmono.1, hdirection⟩

theorem blank (headers : Headers) (time : Timestamp) : (blank headers time).AtMost 0 0 :=
  ⟨⟨Nat.le_refl 0, Nat.le_refl 0⟩, ⟨Nat.le_refl 0, Nat.le_refl 0⟩⟩

end FlowRecord.AtMost

end FlowTracker
