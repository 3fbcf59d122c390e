import FlowTracker.Fault

/-!
# Checked 64-bit arithmetic

Counters and times are 64-bit words.  A sum or product that does not fit is a `Fault`, never a
wrapped word; the lemmas read each operation through `UInt64.toNat`, where it is the sum or product
of natural numbers.
-/

namespace FlowTracker.Word

def count : Nat := 18446744073709551616

/-- The sum of two words, if it fits. -/
def add (a b : UInt64) : Except Fault UInt64 :=
  if a.toNat + b.toNat < count then .ok (a + b) else .error .addOverflow

def mul (a b : UInt64) : Except Fault UInt64 :=
  if a.toNat * b.toNat < count then .ok (a * b) else .error .mulOverflow

/-- The difference of two words, or zero where it would be negative. -/
def monus (a b : UInt64) : UInt64 :=
  if b ≤ a then a - b else 0

theorem add_eq_ok {a b c : UInt64} (h : add a b = .ok c) : c.toNat = a.toNat + b.toNat := by
  unfold add at h
  split at h
  · cases h
    rw [UInt64.toNat_add]
    exact Nat.mod_eq_of_lt ‹_›
  · cases h

theorem mul_eq_ok {a b c : UInt64} (h : mul a b = .ok c) : c.toNat = a.toNat * b.toNat := by
  unfold mul at h
  split at h
  · cases h
    rw [UInt64.toNat_mul]
    exact Nat.mod_eq_of_lt ‹_›
  · cases h

theorem toNat_add {a b : UInt64} (h : a.toNat + b.toNat < count) :
    (a + b).toNat = a.toNat + b.toNat := Nat.mod_eq_of_lt h

theorem toNat_max (a b : UInt64) : (max a b).toNat = max a.toNat b.toNat := by
  show (if a ≤ b then b else a).toNat = _
  split
  · rename_i hle
    rw [UInt64.le_iff_toNat_le] at hle
    omega
  · rename_i hle
    rw [UInt64.le_iff_toNat_le] at hle
    omega

theorem toNat_monus (a b : UInt64) : (monus a b).toNat = a.toNat - b.toNat := by
  unfold monus
  split
  · rename_i h
    exact UInt64.toNat_sub_of_le _ _ h
  · rename_i h
    have : a.toNat < b.toNat := by
      rw [UInt64.le_iff_toNat_le] at h
      omega
    simp only [UInt64.toNat_zero]
    omega

end FlowTracker.Word
