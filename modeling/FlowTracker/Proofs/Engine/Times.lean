import FlowTracker.Engine.Manager

/-!
# Times as numbers

A capture time is a number of microseconds (`Timestamp.micros`), and it fits the packet clock if that
number is below 2^64.  Read through it the clock is a maximum, the time between two captures is a
difference, and a record is idle if the difference between the clock and its newest packet exceeds the
timeout.
-/

namespace FlowTracker

theorem bind_ok {ε α β : Type} (a : α) (f : α → Except ε β) : (Except.ok a >>= f) = f a := rfl

theorem bind_error {ε α β : Type} (e : ε) (f : α → Except ε β) :
    (Except.error e >>= f) = Except.error e := rfl

theorem exists_of_bind_eq_ok {ε α β : Type} {x : Except ε α} {f : α → Except ε β} {b : β}
    (h : (x >>= f) = .ok b) : ∃ a, x = .ok a ∧ f a = .ok b := by
  cases x with
  | error e => cases h
  | ok a => exact ⟨a, rfl, h⟩

namespace Timestamp

def micros (time : Timestamp) : Nat := time.sec.toNat * 1000000 + time.usec.toNat

def Fits (time : Timestamp) : Prop := time.micros < Word.count

instance (time : Timestamp) : Decidable time.Fits :=
  inferInstanceAs (Decidable (time.micros < Word.count))

def IsNormal (time : Timestamp) : Prop := time.usec < 1000000

instance : DecidablePred IsNormal := fun _ => inferInstanceAs (Decidable (_ < _))

variable {time earlier : Timestamp}

theorem isNormal_iff : time.IsNormal ↔ time.usec.toNat < 1000000 := by
  have hmillion : (1000000 : UInt32).toNat = 1000000 := by decide
  unfold IsNormal
  rw [UInt32.lt_iff_toNat_lt, hmillion]

theorem toNat_million : (1000000 : UInt64).toNat = 1000000 := by decide

theorem toMicros_of_fits (h : time.Fits) : time.toMicros = .ok (UInt64.ofNat time.micros) := by
  have hbound := h
  unfold Fits micros at hbound
  have hsec : (1000000 : UInt64).toNat * time.sec.toNat < Word.count := by
    rw [toNat_million, Nat.mul_comm]
    exact Nat.lt_of_le_of_lt (Nat.le_add_right ..) hbound
  have hmul : Word.mul 1000000 time.sec = .ok (1000000 * time.sec) := if_pos hsec
  have hprod := Word.mul_eq_ok hmul
  rw [toNat_million, Nat.mul_comm] at hprod
  have hsum : (1000000 * time.sec).toNat + time.usec.toUInt64.toNat < Word.count := by
    rw [hprod, UInt32.toNat_toUInt64]
    exact hbound
  have hadd : Word.add (1000000 * time.sec) time.usec.toUInt64
      = .ok (1000000 * time.sec + time.usec.toUInt64) := if_pos hsum
  have htotal := Word.add_eq_ok hadd
  have hvalue : 1000000 * time.sec + time.usec.toUInt64 = UInt64.ofNat time.micros := by
    apply UInt64.toNat_inj.1
    rw [htotal, hprod, UInt32.toNat_toUInt64, UInt64.toNat_ofNat_of_lt' h]
    rfl
  unfold toMicros
  rw [hmul, bind_ok, hadd, hvalue]

theorem toMicros_of_not_fits (h : ¬ time.Fits) : ∃ fault, time.toMicros = .error fault := by
  unfold Fits micros at h
  by_cases hsec : (1000000 : UInt64).toNat * time.sec.toNat < Word.count
  · have hmul : Word.mul 1000000 time.sec = .ok (1000000 * time.sec) := if_pos hsec
    have hsum : ¬ (1000000 * time.sec).toNat + time.usec.toUInt64.toNat < Word.count := by
      rw [Word.mul_eq_ok hmul, UInt32.toNat_toUInt64, toNat_million, Nat.mul_comm]
      exact h
    have hadd : Word.add (1000000 * time.sec) time.usec.toUInt64 = .error .addOverflow :=
      if_neg hsum
    refine ⟨.addOverflow, ?_⟩
    unfold toMicros
    rw [hmul, bind_ok, hadd]
  · have hmul : Word.mul 1000000 time.sec = .error .mulOverflow := if_neg hsec
    refine ⟨.mulOverflow, ?_⟩
    unfold toMicros
    rw [hmul, bind_error]

theorem overflow_of_toMicros {fault : Fault} (h : time.toMicros = .error fault) :
    fault = .addOverflow ∨ fault = .mulOverflow := by
  unfold toMicros at h
  cases hmul : Word.mul 1000000 time.sec with
  | error mulFault =>
    rw [hmul, bind_error] at h
    unfold Word.mul at hmul
    split at hmul
    · cases hmul
    · exact Or.inr ((Except.error.inj h).symm.trans (Except.error.inj hmul).symm)
  | ok product =>
    rw [hmul, bind_ok] at h
    unfold Word.add at h
    split at h
    · cases h
    · exact Or.inl (Except.error.inj h).symm

theorem micros_ofMicros (micros : UInt64) : (ofMicros micros).micros = micros.toNat := by
  have hrest : (micros % 1000000).toUInt32.toNat = micros.toNat % 1000000 := by
    rw [UInt64.toNat_toUInt32, UInt64.toNat_mod]
    show micros.toNat % 1000000 % 2 ^ 32 = _
    omega
  have hsec : (micros / 1000000).toNat = micros.toNat / 1000000 := UInt64.toNat_div ..
  show (micros / 1000000).toNat * 1000000 + (micros % 1000000).toUInt32.toNat = _
  rw [hrest, hsec]
  omega

theorem fits_ofMicros (micros : UInt64) : (ofMicros micros).Fits := by
  unfold Fits
  rw [micros_ofMicros]
  exact micros.toNat_lt

end Timestamp

theorem Span.toNanos_ofMicros (micros : UInt64) :
    (Span.ofMicros micros).toNanos = micros.toNat * 1000 := by
  have hsec : (micros / 1000000).toNat = micros.toNat / 1000000 := UInt64.toNat_div ..
  show (micros / 1000000).toNat * 1000000000 + micros.toNat % 1000000 * 1000 % 1000000000 = _
  rw [hsec]
  omega

namespace Timestamp

variable {time earlier : Timestamp}

/-- The time between two captures, if both fit. -/
theorem since_of_fits (h : time.Fits) (h' : earlier.Fits) :
    ∃ span, time.since earlier = .ok span ∧ span.toNanos = (time.micros - earlier.micros) * 1000 := by
  refine ⟨Span.ofMicros
    (Word.monus (UInt64.ofNat time.micros) (UInt64.ofNat earlier.micros)), ?_, ?_⟩
  · unfold since
    rw [toMicros_of_fits h, toMicros_of_fits h']
    rfl
  · rw [Span.toNanos_ofMicros, Word.toNat_monus, UInt64.toNat_ofNat_of_lt' h,
      UInt64.toNat_ofNat_of_lt' h']

end Timestamp

/-! ### The clock -/

namespace PacketClock

variable {time : Timestamp}

theorem advance_of_fits (clock : PacketClock) (h : time.Fits) :
    ∃ clock', advance clock time = .ok clock' ∧ clock'.toNat = max clock.toNat time.micros := by
  refine ⟨max clock (UInt64.ofNat time.micros), ?_, ?_⟩
  · unfold advance
    rw [Timestamp.toMicros_of_fits h]
    rfl
  · have hmicros : (UInt64.ofNat time.micros).toNat = time.micros := UInt64.toNat_ofNat_of_lt' h
    rw [Word.toNat_max, hmicros]

theorem advance_of_not_fits (clock : PacketClock) (h : ¬ time.Fits) :
    ∃ fault, advance clock time = .error fault := by
  obtain ⟨fault, hfault⟩ := Timestamp.toMicros_of_not_fits h
  refine ⟨fault, ?_⟩
  unfold advance
  rw [hfault]
  rfl

theorem overflow_of_advance {clock : PacketClock} {fault : Fault}
    (h : advance clock time = .error fault) : fault = .addOverflow ∨ fault = .mulOverflow := by
  unfold advance at h
  cases hmicros : time.toMicros with
  | error microsFault =>
    rw [hmicros, bind_error] at h
    exact Except.error.inj h ▸ Timestamp.overflow_of_toMicros hmicros
  | ok micros =>
    rw [hmicros] at h
    cases h

end PacketClock

/-! ### Idle records -/

namespace FlowRecord

/-- At a clock of `micros` microseconds the newest packet lies more than `timeout` back. -/
def IdleAt (record : FlowRecord) (micros : Nat) (timeout : Span) : Prop :=
  timeout.toNanos < (micros - record.lastSeen.micros) * 1000

instance (record : FlowRecord) (micros : Nat) (timeout : Span) :
    Decidable (record.IdleAt micros timeout) :=
  inferInstanceAs (Decidable (timeout.toNanos < (micros - record.lastSeen.micros) * 1000))

theorem isIdle_eq {record : FlowRecord} (h : record.lastSeen.Fits) (clock : PacketClock)
    (timeout : Span) :
    record.isIdle clock.now timeout = .ok (decide (record.IdleAt clock.toNat timeout)) := by
  obtain ⟨span, hsince, hspan⟩ := Timestamp.since_of_fits (Timestamp.fits_ofMicros clock) h
  rw [Timestamp.micros_ofMicros] at hspan
  have hiff : timeout < span ↔ record.IdleAt clock.toNat timeout := by
    show timeout.toNanos < span.toNanos ↔ _
    rw [hspan]
    rfl
  unfold isIdle PacketClock.now
  rw [hsince]
  show Except.ok (decide (timeout < span)) = _
  rw [decide_eq_decide.2 hiff]

end FlowRecord

end FlowTracker
