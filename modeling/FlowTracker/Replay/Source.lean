import FlowTracker.Capture.Erf
import FlowTracker.Engine.Worker

/-!
# Packet sources

A replay takes its packets from a source: a capture, or a list of packets that may end in a failure.
A source counts what it hands out.
-/

namespace FlowTracker

structure PacketList where
  packets : List Packet
  /-- What the list ends in, if not well. -/
  failure : Option CaptureError
  /-- The packets so far. -/
  count : Nat
  /-- The octets of the packets so far. -/
  bytes : Nat
  deriving DecidableEq, Repr, Inhabited

inductive Source where
  | capture (capture : Capture)
  | list (list : PacketList)
  deriving Repr

namespace Source

def ofList (packets : List Packet) (failure : Option CaptureError) : Source :=
  .list ⟨packets, failure, 0, 0⟩

def packetCount : Source → Nat
  | .capture reading => reading.packets
  | .list listing => listing.count

/-- The octets of the packets so far, as the source counts them. -/
def byteCount : Source → Nat
  | .capture reading => reading.bytes
  | .list listing => listing.bytes

/-- How much is still to come. -/
def size : Source → Nat
  | .capture reading => reading.delivery.size
  | .list listing => listing.packets.length

/-- What asking a source ends with: a packet, `none` at the end or an error, and the source after
it. -/
abbrev Result := EStateM.Result CaptureError Source (Option Packet)

def nextOfList (listing : PacketList) : Result :=
  match listing.packets, listing.failure with
  | packet :: rest, failure =>
    .ok (some packet)
      (.list ⟨rest, failure, listing.count + 1, listing.bytes + packet.frame.length⟩)
  | [], some error => .error error (.list listing)
  | [], none => .ok none (.list listing)

def next : Source → Result
  | .capture reading =>
    match reading.next with
    | .ok (some (time, frame)) after => .ok (some ⟨time, frame⟩) (.capture after)
    | .ok none after => .ok none (.capture after)
    | .error error after => .error error (.capture after)
  | .list listing => nextOfList listing

/-- Every packet uses the source up. -/
theorem size_next {source after : Source} {packet : Packet}
    (h : source.next = .ok (some packet) after) : after.size < source.size := by
  cases source with
  | capture reading =>
    simp only [next] at h
    split at h <;> cases h
    rename_i hnext
    exact Capture.size_next hnext
  | list listing =>
    simp only [next, nextOfList] at h
    split at h <;> cases h
    rename_i hpackets
    simp [size, hpackets]

end Source

end FlowTracker
