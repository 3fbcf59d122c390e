import FlowTracker.Address
import FlowTracker.Inspect
import FlowTracker.Protocol

/-!
# Ethernet frames

`Frame.headers` reads a captured frame down to its transport ports: link layer, at most one VLAN
tag, an internet header of version 4 or 6, and the first octets of the transport header.  Each layer
takes the octets that the layers before it left and returns what it leaves itself, so a layer that
runs past the captured octets sees an empty string and reports it as too short.
-/

namespace FlowTracker

structure Endpoint where
  address : Address
  port : UInt16
  deriving DecidableEq, Hashable, Repr, Inhabited

namespace Endpoint

/-- The position of an endpoint in the order of all endpoints: by address, then by port. -/
def rank (endpoint : Endpoint) : Nat :=
  endpoint.address.rank * 65536 + endpoint.port.toNat

theorem rank_injective {a b : Endpoint} (h : a.rank = b.rank) : a = b := by
  obtain ⟨address, port⟩ := a
  obtain ⟨address', port'⟩ := b
  have := port.toNat_lt
  have := port'.toNat_lt
  simp only [rank] at h
  have ha : address = address' := Address.rank_injective (by omega)
  have hp : port = port' := UInt16.toNat_inj.1 (by omega)
  rw [ha, hp]

end Endpoint

/-- The two endpoints and the protocol of a packet, in the packet's own direction.  A control message
carries its type and code in the source port. -/
structure FiveTuple where
  source : Endpoint
  target : Endpoint
  protocol : Protocol
  deriving DecidableEq, Hashable, Repr, Inhabited

/-- What the flow table needs to know of a frame. -/
structure Headers where
  tuple : FiveTuple
  /-- The flag octet of a TCP header, zero for other protocols. -/
  tcpFlags : UInt8
  deriving DecidableEq, Repr, Inhabited

inductive FrameError where
  | tooShort
  | invalidHeader
  | unsupportedEtherType (number : UInt16)
  deriving DecidableEq, Repr, Inhabited

def FrameError.message : FrameError → String
  | .tooShort => "packet too short"
  | .invalidHeader => "invalid header"
  | .unsupportedEtherType number =>
      "unsupported ether type 0x" ++ Octets.hexText 4 number.toNat

namespace Frame

/-- A big-endian number of 16 bits that starts at `start`. -/
def word (octets : Octets) (start : Nat) : UInt16 :=
  UInt16.ofNat (octets.field start 2).bigEndian

def octet (octets : Octets) (start : Nat) : UInt8 := octets.getD start 0

/-- Refuses a string of fewer than `size` octets. -/
def require (octets : Octets) (size : Nat) : Except FrameError Unit :=
  if octets.length < size then .error .tooShort else .ok ()

/-! ### Layers -/

/-- The Ethernet header: two addresses of six octets and the ether type. -/
def link (octets : Octets) : Except FrameError (EtherType × Octets) := do
  require octets 14
  return (EtherType.ofNumber (word octets 12), octets.drop 14)

/-- A VLAN tag: two octets of tag control and the ether type behind it. -/
def vlanTag (octets : Octets) : Except FrameError (EtherType × Octets) := do
  require octets 4
  return (EtherType.ofNumber (word octets 2), octets.drop 4)

/-- The internet header of version 4.  Its length is a count of 32-bit words in the first octet, and
at least five of them; only the first twenty octets have to be present. -/
def internet4 (octets : Octets) : Except FrameError (Address × Address × Protocol × Octets) := do
  require octets 20
  if octet octets 0 >>> 4 ≠ 4 then throw .invalidHeader
  let size := (octet octets 0 &&& 0x0f).toNat * 4
  if size < 20 then throw .invalidHeader
  return (Address.v4OfOctets (octets.field 12 4), Address.v4OfOctets (octets.field 16 4),
    Protocol.ofNumber (octet octets 9), octets.drop size)

/-- The internet header of version 6.  Extension headers are not walked: the next header is taken as
the protocol. -/
def internet6 (octets : Octets) : Except FrameError (Address × Address × Protocol × Octets) := do
  require octets 40
  if octet octets 0 >>> 4 ≠ 6 then throw .invalidHeader
  return (Address.v6OfOctets (octets.field 8 16), Address.v6OfOctets (octets.field 24 16),
    Protocol.ofNumber (octet octets 6), octets.drop 40)

def transport (protocol : Protocol) (octets : Octets) :
    Except FrameError (UInt16 × UInt16 × UInt8) :=
  match protocol with
  | .tcp => do
    require octets 14
    return (word octets 0, word octets 2, octet octets 13)
  | .udp => do
    require octets 4
    return (word octets 0, word octets 2, 0)
  | .icmp | .icmp6 => do
    require octets 2
    return (word octets 0, 0, 0)
  | .other _ => return (0, 0, 0)

def internet (etherType : EtherType) (octets : Octets) :
    Except FrameError (Address × Address × Protocol × Octets) :=
  match etherType with
  | .ipv4 => internet4 octets
  | .ipv6 => internet6 octets
  | .vlan | .other _ => .error (.unsupportedEtherType etherType.number)

/-- Reads a frame down to its transport ports. -/
def headers (frame : Octets) : Except FrameError Headers := do
  let (outer, behindLink) ← link frame
  let (etherType, behindTag) ← match outer with
    | .vlan => vlanTag behindLink
    | _ => .ok (outer, behindLink)
  let (source, target, protocol, payload) ← internet etherType behindTag
  let (sourcePort, targetPort, tcpFlags) ← transport protocol payload
  return ⟨⟨⟨source, sourcePort⟩, ⟨target, targetPort⟩, protocol⟩, tcpFlags⟩

end Frame

/-! ### Structural text -/

def Protocol.inspect : Protocol → Inspect
  | .icmp => .atom "Icmp"
  | .tcp => .atom "Tcp"
  | .udp => .atom "Udp"
  | .icmp6 => .atom "Ipv6Icmp"
  | .other number => .tuple "Other" [.nat number.toNat]

def EtherType.inspect : EtherType → Inspect
  | .ipv4 => .atom "Ipv4"
  | .ipv6 => .atom "Ipv6"
  | .vlan => .atom "Vlan"
  | .other number => .tuple "Other" [.nat number.toNat]

def FiveTuple.inspect (tuple : FiveTuple) : Inspect :=
  .record "FiveTuple" [
    ("src_ip", .atom tuple.source.address.text),
    ("dst_ip", .atom tuple.target.address.text),
    ("src_port", .nat tuple.source.port.toNat),
    ("dst_port", .nat tuple.target.port.toNat),
    ("protocol", tuple.protocol.inspect)]

end FlowTracker
