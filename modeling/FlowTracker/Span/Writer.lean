import FlowTracker.Span

/-!
# Writing spans

A span is written as its non-zero parts, the largest first: years, months and days in words, the parts
below a day in short units.  A year is 365.25 days and a month 30.44 days.
-/

namespace FlowTracker.Span

def secondsPerYear : Nat := 31557600

def secondsPerMonth : Nat := 2630016

def secondsPerDay : Nat := 86400

/-- A part in words, with an `s` for more than one. -/
def longPart (name : String) (n : Nat) : List String :=
  if n = 0 then [] else [toString n ++ name ++ if 1 < n then "s" else ""]

def shortPart (unit : String) (n : Nat) : List String :=
  if n = 0 then [] else [toString n ++ unit]

/-- The non-zero parts of a span. -/
def parts (span : Span) : List String :=
  let secs := span.secs.toNat
  let inYear := secs % secondsPerYear
  let inMonth := inYear % secondsPerMonth
  let inDay := inMonth % secondsPerDay
  let nanos := span.nanos.val
  longPart "year" (secs / secondsPerYear) ++ longPart "month" (inYear / secondsPerMonth)
    ++ longPart "day" (inMonth / secondsPerDay) ++ shortPart "h" (inDay / 3600)
    ++ shortPart "m" (inDay % 3600 / 60) ++ shortPart "s" (inDay % 60)
    ++ shortPart "ms" (nanos / 1000000) ++ shortPart "us" (nanos / 1000 % 1000)
    ++ shortPart "ns" (nanos % 1000)

def text (span : Span) : String :=
  if span.isZero then "0s" else String.intercalate " " span.parts

end FlowTracker.Span
