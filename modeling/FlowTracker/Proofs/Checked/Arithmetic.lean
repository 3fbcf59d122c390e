import FlowTracker.Capture.Erf
import FlowTracker.Proofs.Engine.Times
import Mathlib.Algebra.Ring.Nat

/-!
# Checked counters and capture times

The counters of a reader are 64-bit words too, although they are kept as natural numbers: a sum that
leaves the words and a difference below zero are faults (`Counter.add`, `Counter.sub`).  The conversion
of capture times multiplies, adds and subtracts words; with each of these steps checked it never faults,
because a fraction has 32 bits, and the time that it yields fits the packet clock.
-/

namespace FlowTracker

def Word.sub (a b : UInt64) : Except Fault UInt64 :=
  if b ≤ a then .ok (a - b) else .error .subOverflow

namespace Counter

def add (a b : Nat) : Except Fault Nat :=
  if a + b < Word.count then .ok (a + b) else .error .addOverflow

def sub (a b : Nat) : Except Fault Nat :=
  if b ≤ a then .ok (a - b) else .error .subOverflow

variable {a b c : Nat}

theorem add_of_lt (h : a + b < Word.count) : add a b = .ok (a + b) := if_pos h

theorem sub_of_le (h : b ≤ a) : sub a b = .ok (a - b) := if_pos h

theorem add_eq_ok (h : add a b = .ok c) : c = a + b := by
  unfold add at h
  split at h
  · exact (Except.ok.inj h).symm
  · cases h

theorem sub_eq_ok (h : sub a b = .ok c) : c = a - b := by
  unfold sub at h
  split at h
  · exact (Except.ok.inj h).symm
  · cases h

end Counter

namespace ErfHeader

/-- The capture time, with each step on words checked. -/
def checkedTimestamp (fixed : UInt64) : Except Fault Timestamp := do
  let scaled ← Word.mul (fixed &&& 0xffffffff) 1000000
  let rounded ← Word.add scaled 0x80000000
  let micros := rounded >>> 32
  if 1000000 ≤ micros then
    let rest ← Word.sub micros 1000000
    let seconds ← Word.add (fixed >>> 32) 1
    return ⟨seconds, rest.toUInt32⟩
  else return ⟨fixed >>> 32, micros.toUInt32⟩

theorem toNat_fraction (fixed : UInt64) : (fixed &&& 0xffffffff).toNat = fixed.toNat % 2 ^ 32 := by
  have hmask : (0xffffffff : UInt64).toNat = 2 ^ 32 - 1 := by decide
  rw [UInt64.toNat_and, hmask, Nat.and_two_pow_sub_one_eq_mod]

theorem toNat_shiftRight_half (word : UInt64) : (word >>> 32).toNat = word.toNat / 2 ^ 32 := by
  have hwidth : (32 : UInt64).toNat % 64 = 32 := by decide
  rw [UInt64.toNat_shiftRight, hwidth, Nat.shiftRight_eq_div_pow]

theorem toNat_fraction_lt (fixed : UInt64) : (fixed &&& 0xffffffff).toNat < 2 ^ 32 := by
  rw [toNat_fraction]
  exact Nat.mod_lt _ (by decide)

theorem toNat_seconds_lt (fixed : UInt64) : (fixed >>> 32).toNat < 2 ^ 32 := by
  have hlt := fixed.toNat_lt
  rw [toNat_shiftRight_half]
  omega

theorem checkedTimestamp_eq (fixed : UInt64) : checkedTimestamp fixed = .ok (timestamp fixed) := by
  have hone : (1 : UInt64).toNat = 1 := by decide
  have hhalf : (0x80000000 : UInt64).toNat = 2 ^ 31 := by decide
  have hfraction := toNat_fraction_lt fixed
  have hseconds := toNat_seconds_lt fixed
  have hproduct : (fixed &&& 0xffffffff).toNat * (1000000 : UInt64).toNat < 2 ^ 52 := by
    rw [Timestamp.toNat_million]
    omega
  have hscaled : Word.mul (fixed &&& 0xffffffff) 1000000
      = .ok ((fixed &&& 0xffffffff) * 1000000) := by
    apply if_pos
    unfold Word.count
    omega
  have hrounded : Word.add ((fixed &&& 0xffffffff) * 1000000) 0x80000000
      = .ok ((fixed &&& 0xffffffff) * 1000000 + 0x80000000) := by
    have htoNat := Word.mul_eq_ok hscaled
    apply if_pos
    unfold Word.count
    omega
  have hcarry : Word.add (fixed >>> 32) 1 = .ok (fixed >>> 32 + 1) := by
    apply if_pos
    unfold Word.count
    omega
  have hrest (micros : UInt64) (hsecond : 1000000 ≤ micros) :
      Word.sub micros 1000000 = .ok (micros - 1000000) := if_pos hsecond
  unfold checkedTimestamp timestamp
  rw [hscaled, bind_ok, hrounded, bind_ok]
  simp only
  split
  · rename_i hsecond
    rw [hrest _ hsecond, bind_ok, hcarry]
    rfl
  · rfl

theorem toNat_timestamp_sec_le (fixed : UInt64) : (timestamp fixed).sec.toNat ≤ 2 ^ 32 := by
  have hone : (1 : UInt64).toNat = 1 := by decide
  have hseconds := toNat_seconds_lt fixed
  have hcarry : (fixed >>> 32 + 1).toNat = (fixed >>> 32).toNat + 1 := by
    apply Word.toNat_add
    unfold Word.count
    omega
  by_cases hsecond : (1000000 : UInt64) ≤ ((fixed &&& 0xffffffff) * 1000000 + 0x80000000) >>> 32
  · have hsec : (timestamp fixed).sec = fixed >>> 32 + 1 := congrArg Timestamp.sec (if_pos hsecond)
    rw [hsec, hcarry]
    omega
  · have hsec : (timestamp fixed).sec = fixed >>> 32 := congrArg Timestamp.sec (if_neg hsecond)
    rw [hsec]
    omega

/-- Every capture time fits the packet clock. -/
theorem timestamp_fits (fixed : UInt64) : (timestamp fixed).Fits := by
  have hseconds := toNat_timestamp_sec_le fixed
  have hmicros := (timestamp fixed).usec.toNat_lt
  unfold Timestamp.Fits Timestamp.micros Word.count
  omega

end ErfHeader

end FlowTracker
