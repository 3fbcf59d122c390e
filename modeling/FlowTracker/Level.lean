import FlowTracker.Text

/-!
# Log levels

The five levels of log events, from the rarest to the most frequent, and the texts that name them: a
word in any case, or the level's number.
-/

namespace FlowTracker

inductive Level where
  | error
  | warn
  | info
  | debug
  | trace
  deriving DecidableEq, Repr, Inhabited

namespace Level

def text : Level → String
  | .error => "ERROR"
  | .warn => "WARN"
  | .info => "INFO"
  | .debug => "DEBUG"
  | .trace => "TRACE"

/-- The level of a number: 1 is an error, 5 a trace. -/
def ofNumber? : Nat → Option Level
  | 1 => some .error
  | 2 => some .warn
  | 3 => some .info
  | 4 => some .debug
  | 5 => some .trace
  | _ => none

def ofName? : List Char → Option Level
  | ['E', 'R', 'R', 'O', 'R'] => some .error
  | ['W', 'A', 'R', 'N'] => some .warn
  | ['I', 'N', 'F', 'O'] => some .info
  | ['D', 'E', 'B', 'U', 'G'] => some .debug
  | ['T', 'R', 'A', 'C', 'E'] => some .trace
  | _ => none

/-- A number written with decimal digits, perhaps behind a plus sign. -/
def number? : List Char → Option Nat
  | '+' :: rest => Text.number? 10 rest
  | cs => Text.number? 10 cs

/-- Reads a level's number, or its name in any case. -/
def ofText? (text : String) : Option Level :=
  ((number? text.toList).bind ofNumber?).or (ofName? (text.toList.map Char.toUpper))

def unreadable : String :=
  "error parsing level: expected one of \"error\", \"warn\", \"info\", \"debug\", \"trace\", "
    ++ "or a number 1-5"

end Level

end FlowTracker
