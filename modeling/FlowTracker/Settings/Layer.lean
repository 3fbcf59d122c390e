import FlowTracker.Value

/-!
# Layers of settings

Settings come in layers, each of them a map.  A later layer is laid over an earlier one: two maps
under one key are joined in the same way, and of any other two values the later one counts.
-/

namespace FlowTracker

abbrev Layer := List (String × Value)

namespace Layer

mutual

/-- A value under the value of a later layer. -/
def overlayValue (lower upper : Value) : Value :=
  match lower, upper with
  | .map lower, .map upper => .map (overlay lower upper)
  | _, upper => upper
  termination_by sizeOf upper

def overlay (lower upper : Layer) : Layer :=
  match upper with
  | [] => lower
  | (key, value) :: rest =>
    match lower.lookup key with
    | some below => overlay (Value.putEntry lower key (overlayValue below value)) rest
    | none => overlay (Value.putEntry lower key value) rest
  termination_by sizeOf upper

end

end Layer

end FlowTracker
