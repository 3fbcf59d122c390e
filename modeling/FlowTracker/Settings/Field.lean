import FlowTracker.Level
import FlowTracker.Span.Reader
import FlowTracker.Span.Writer
import FlowTracker.Value

/-!
# Settings of single fields

How a log level and a span of time are read from a dynamic value.  A level is a text; a span is a
text, or a whole number of seconds that is not negative.
-/

namespace FlowTracker

/-- Reads a text; a single character is one. -/
def Value.readText (value : Value) (expected : String) : Except String String :=
  match value with
  | .text s => .ok s
  | .character c => .ok (String.singleton c)
  | value => .error (value.mismatch expected)

def Level.ofValue (value : Value) : Except String Level := do
  match Level.ofText? (← value.readText "a string") with
  | some level => return level
  | none => throw Level.unreadable

def Level.optionOfValue : Value → Except String (Option Level)
  | .null => .ok none
  | value => (Level.ofValue value).map some

inductive SpanValueError where
  /-- The value is neither a text nor a count of seconds. -/
  | kind
  | text (error : SpanError)
  deriving DecidableEq, Repr, Inhabited

def SpanValueError.message : SpanValueError → String
  | .kind => "data did not match any variant of untagged enum Raw"
  | .text error => error.message

def Span.ofValue : Value → Except SpanValueError Span
  | .integer n => if 0 ≤ n then .ok (Span.ofSecs (UInt64.ofNat n.toNat)) else .error .kind
  | .text text => (Span.ofText text).mapError .text
  | _ => .error .kind

end FlowTracker
