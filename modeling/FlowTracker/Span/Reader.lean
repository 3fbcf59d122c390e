import FlowTracker.Inspect
import FlowTracker.Span
import FlowTracker.Text

/-!
# Reading spans

A span is written as numbers with units, one behind the other: `1h 30m`, `2.5s`.  Blanks may stand
before and inside a number.  A number may have a decimal fraction, which has to come out exact.  All
arithmetic is on 64-bit words, and what does not fit is refused.
-/

namespace FlowTracker

/-- Why a text is no span.  Offsets are in octets. -/
inductive SpanError where
  | empty
  | expectedNumber (offset : Nat)
  | invalidCharacter (offset : Nat)
  /-- A number, a sum or a fraction does not fit. -/
  | imprecise
  | missingUnit (number : Nat)
  | unknownUnit (unit : String)
  /-- The nanoseconds fill up a second that the seconds have no room for. -/
  | fault (fault : Fault)
  deriving DecidableEq, Repr, Inhabited

def SpanError.message : SpanError → String
  | .empty => "value was empty"
  | .expectedNumber offset => "expected number at " ++ toString offset
  | .invalidCharacter offset => "invalid character at " ++ toString offset
  | .imprecise =>
      "number is too large or cannot be represented without a lack of precision "
        ++ "(values below 1ns are not supported)"
  | .missingUnit number =>
      "time unit needed, for example " ++ toString number ++ "sec or " ++ toString number ++ "ms"
  | .unknownUnit unit =>
      "unknown time unit " ++ (Inspect.quoted unit).inline
        ++ ", supported units: ns, us/µs, ms, sec, min, hours, days, weeks, months, years "
        ++ "(and few variations)"
  | .fault cause => cause.message

/-! ### Units -/

inductive TimeUnit where
  | nanosecond
  | microsecond
  | millisecond
  | second
  | minute
  | hour
  | day
  | week
  | month
  | year
  deriving DecidableEq, Repr, Inhabited

namespace TimeUnit

def names : List (TimeUnit × List String) := [
  (.nanosecond, ["nanos", "nsec", "ns"]),
  (.microsecond, ["usec", "us", "µs"]),
  (.millisecond, ["millis", "msec", "ms"]),
  (.second, ["seconds", "second", "secs", "sec", "s"]),
  (.minute, ["minutes", "minute", "min", "mins", "m"]),
  (.hour, ["hours", "hour", "hrs", "hr", "h"]),
  (.day, ["days", "day", "d"]),
  (.week, ["weeks", "week", "wks", "wk", "w"]),
  (.month, ["months", "month", "M"]),
  (.year, ["years", "year", "yrs", "yr", "y"])]

def ofName? (name : List Char) : Option TimeUnit :=
  (names.find? fun entry => entry.2.any fun known => known.toList == name).map Prod.fst

/-- Whether a unit is counted in nanoseconds; from a second on, units are counted in seconds. -/
def isSubsecond : TimeUnit → Bool
  | .nanosecond | .microsecond | .millisecond => true
  | _ => false

/-- The nanoseconds of a unit below a second, or the seconds of a unit from a second on. -/
def factor : TimeUnit → Nat
  | .nanosecond => 1
  | .microsecond => 1000
  | .millisecond => 1000000
  | .second => 1
  | .minute => 60
  | .hour => 3600
  | .day => 86400
  | .week => 604800
  | .month => 2630016
  | .year => 31557600

/-- Whether a fraction of a unit is counted in nanoseconds: up to minutes. -/
def hasFineFraction (unit : TimeUnit) : Bool :=
  unit.isSubsecond || unit == .second || unit == .minute

/-- What a fraction of a unit is a fraction of: nanoseconds up to minutes, seconds from hours on. -/
def fractionFactor : TimeUnit → Nat
  | .second => 1000000000
  | .minute => 60000000000
  | unit => unit.factor

end TimeUnit

/-! ### Sums -/

namespace Span

def narrow (n : Nat) : Except SpanError Nat :=
  if n < Word.count then .ok n else .error .imprecise

/-- Adds seconds and nanoseconds to a span.  Nanoseconds above a second are carried with a check;
exactly a second of them is left to the normalisation, which stops where it does not fit. -/
def addParts (span : Span) (secs nanos : Nat) : Except SpanError Span := do
  let nanos ← narrow (span.nanos.val + nanos)
  let carried := nanosPerSecond < nanos
  let secs ← narrow (if carried then secs + nanos / nanosPerSecond else secs)
  let secs ← narrow (span.secs.toNat + secs)
  let nanos := if carried then nanos % nanosPerSecond else nanos
  (ofParts (UInt64.ofNat secs) (UInt32.ofNat nanos)).mapError .fault

structure Fraction where
  numerator : Nat
  denominator : Nat
  deriving DecidableEq, Repr, Inhabited

/-- The exact value of a fraction of `whole`, or a refusal. -/
def Fraction.of (fraction : Fraction) (whole : Nat) : Except SpanError Nat := do
  let product ← narrow (fraction.numerator * whole)
  if product % fraction.denominator = 0 then return product / fraction.denominator
  else throw .imprecise

def addQuantity (span : Span) (number : Nat) (fraction : Option Fraction) (name : List Char) :
    Except SpanError Span := do
  let some unit := TimeUnit.ofName? name
    | throw (if name.isEmpty then .missingUnit number else .unknownUnit (String.ofList name))
  let whole ← narrow (number * unit.factor)
  let span ← if unit.isSubsecond then span.addParts 0 whole else span.addParts whole 0
  match fraction with
  | none => return span
  | some fraction =>
    if unit = .nanosecond then throw .imprecise
    let part ← fraction.of unit.fractionFactor
    if unit.hasFineFraction then span.addParts 0 part else span.addParts part 0

/-! ### The reader -/

def isUnitLetter (c : Char) : Bool :=
  ('a' ≤ c && c ≤ 'z') || ('A' ≤ c && c ≤ 'Z') || c == 'µ'

/-- Where the reader is between two characters. -/
inductive Phase where
  /-- Before a number; `offset` is where the reader began to look for it. -/
  | between (offset : Nat)
  /-- Inside the whole part of a number. -/
  | whole (number : Nat)
  /-- Behind the decimal point; `offset` is what a refusal names, and `leading` says that all digits
  so far were zeros. -/
  | fraction (number : Nat) (fraction : Fraction) (leading : Bool) (offset : Nat)
  /-- Inside a unit, whose letters are kept in reverse. -/
  | unit (number : Nat) (fraction : Option Fraction) (letters : List Char)
  deriving Repr, Inhabited

def Fraction.push (fraction : Fraction) (leading : Bool) (digit : Nat) :
    Except SpanError Fraction := do
  let denominator ← narrow (fraction.denominator * 10)
  if leading && digit = 0 then return { fraction with denominator }
  let numerator ← narrow (fraction.numerator * 10)
  return ⟨← narrow (numerator + digit), denominator⟩

/-- The phase after one character; `offset` is where the character starts. -/
def Phase.next (span : Span) (offset : Nat) (c : Char) : Phase → Except SpanError (Span × Phase)
  | .between looked =>
    if c.isDigit then .ok (span, .whole (Text.digitValue c))
    else if Text.isBlank c then .ok (span, .between looked)
    else .error (.expectedNumber looked)
  | .whole number =>
    if c.isDigit then do
      let tens ← narrow (number * 10)
      return (span, .whole (← narrow (tens + Text.digitValue c)))
    else if Text.isBlank c then .ok (span, .whole number)
    else if isUnitLetter c then .ok (span, .unit number none [c])
    else if c = '.' then .ok (span, .fraction number ⟨0, 1⟩ true offset)
    else .error (.invalidCharacter offset)
  | .fraction number part leading named =>
    if c.isDigit then do
      let digit := Text.digitValue c
      let longer ← part.push leading digit
      return (span, .fraction number longer (leading && digit = 0) (offset + c.utf8Size))
    else if Text.isBlank c then .ok (span, .fraction number part leading (offset + c.utf8Size))
    else if isUnitLetter c && part.denominator ≠ 1 then
      .ok (span, .unit number (some part) [c])
    else .error (.invalidCharacter named)
  | .unit number part letters =>
    if c.isDigit then do
      let span ← span.addQuantity number part letters.reverse
      return (span, .whole (Text.digitValue c))
    else if Text.isBlank c then do
      let span ← span.addQuantity number part letters.reverse
      return (span, .between (offset + c.utf8Size))
    else if isUnitLetter c then .ok (span, .unit number part (c :: letters))
    else .error (.invalidCharacter offset)

def Phase.finish (span : Span) : Phase → Except SpanError Span
  | .between _ => .ok span
  | .whole number => span.addQuantity number none []
  | .fraction number part _ named =>
    if part.denominator = 1 then .error (.invalidCharacter named)
    else span.addQuantity number (some part) []
  | .unit number part letters => span.addQuantity number part letters.reverse

def readFrom (span : Span) (offset : Nat) (phase : Phase) : List Char → Except SpanError Span
  | [] => phase.finish span
  | c :: rest => do
    let (span, phase) ← phase.next span offset c
    readFrom span (offset + c.utf8Size) phase rest

/-- Reads a span; the number zero needs no unit. -/
def ofChars (cs : List Char) : Except SpanError Span :=
  if cs = ['0'] then .ok zero
  else if cs.all Text.isBlank then .error .empty
  else readFrom zero 0 (.between 0) cs

def ofText (text : String) : Except SpanError Span := ofChars (Text.trim text.toList)

end Span

end FlowTracker
