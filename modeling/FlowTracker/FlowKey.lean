import FlowTracker.Frame

/-!
# Flow keys

A conversation has one key for both of its directions: the lower endpoint comes first, whichever of
the two sent the packet.
-/

namespace FlowTracker

/-- The identity of a conversation. -/
structure FlowKey where
  lower : Endpoint
  upper : Endpoint
  protocol : Protocol
  deriving DecidableEq, Hashable, Repr, Inhabited

def FiveTuple.key (tuple : FiveTuple) : FlowKey :=
  if tuple.source.rank ≤ tuple.target.rank then ⟨tuple.source, tuple.target, tuple.protocol⟩
  else ⟨tuple.target, tuple.source, tuple.protocol⟩

/-- The same conversation seen from the other end. -/
def FiveTuple.reverse (tuple : FiveTuple) : FiveTuple :=
  ⟨tuple.target, tuple.source, tuple.protocol⟩

namespace FlowKey

def inspectEndpoint (endpoint : Endpoint) : Inspect :=
  .tuple "" [.atom endpoint.address.text, .nat endpoint.port.toNat]

def inspect (key : FlowKey) : Inspect :=
  .record "FlowKey" [
    ("lo", inspectEndpoint key.lower),
    ("hi", inspectEndpoint key.upper),
    ("protocol", key.protocol.inspect)]

end FlowKey

end FlowTracker
