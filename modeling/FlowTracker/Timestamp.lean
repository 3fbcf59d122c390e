import FlowTracker.Span

/-!
# Capture times

A capture time is a pair of whole seconds and microseconds.  Times are ordered by their seconds and
then their microseconds as they stand; the conversion to one count of microseconds is checked, because
not every pair fits 64 bits.
-/

namespace FlowTracker

/-- The time of a captured frame.  The microseconds may exceed a second. -/
structure Timestamp where
  sec : UInt64
  usec : UInt32
  deriving DecidableEq, Repr, Inhabited

namespace Timestamp

/-- The normalised time that lies `micros` microseconds after the epoch. -/
def ofMicros (micros : UInt64) : Timestamp :=
  ⟨micros / 1000000, (micros % 1000000).toUInt32⟩

/-- Microseconds since the epoch, if they fit. -/
def toMicros (time : Timestamp) : Except Fault UInt64 := do
  Word.add (← Word.mul 1000000 time.sec) time.usec.toUInt64

/-- The order of times: seconds first, then microseconds, without carrying. -/
def compare (a b : Timestamp) : Ordering :=
  (Ord.compare a.sec b.sec).then (Ord.compare a.usec b.usec)

def isAfter (a b : Timestamp) : Bool := a.compare b == .gt

/-- The time elapsed since `earlier`, nothing if `earlier` lies ahead. -/
def since (time earlier : Timestamp) : Except Fault Span := do
  let now ← time.toMicros
  let past ← earlier.toMicros
  return Span.ofMicros (Word.monus now past)

end Timestamp

end FlowTracker
