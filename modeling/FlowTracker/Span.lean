import FlowTracker.Word

/-!
# Spans of time

A span is a count of whole seconds and a rest of nanoseconds below one second.  Spans are compared as
counts of nanoseconds.
-/

namespace FlowTracker

def nanosPerSecond : Nat := 1000000000

structure Span where
  secs : UInt64
  nanos : Fin 1000000000
  deriving DecidableEq, Repr, Inhabited

namespace Span

def zero : Span := ⟨0, 0⟩

def ofSecs (secs : UInt64) : Span := ⟨secs, 0⟩

def ofMicros (micros : UInt64) : Span :=
  ⟨micros / 1000000, Fin.ofNat _ (micros.toNat % 1000000 * 1000)⟩

/-- Seconds and any number of nanoseconds; what exceeds a second is carried. -/
def ofParts (secs : UInt64) (nanos : UInt32) : Except Fault Span :=
  let carried := secs.toNat + nanos.toNat / nanosPerSecond
  if carried < Word.count then
    .ok ⟨UInt64.ofNat carried, Fin.ofNat _ nanos.toNat⟩
  else .error .spanOverflow

def toNanos (span : Span) : Nat :=
  span.secs.toNat * nanosPerSecond + span.nanos.val

/-- The whole microseconds of the part below one second. -/
def subsecMicros (span : Span) : Nat := span.nanos.val / 1000

instance : LT Span := ⟨fun a b => a.toNanos < b.toNanos⟩

instance (a b : Span) : Decidable (a < b) :=
  inferInstanceAs (Decidable (a.toNanos < b.toNanos))

def isZero (span : Span) : Bool := span == zero

end Span

end FlowTracker
