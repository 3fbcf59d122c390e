/-!
# Protocol numbers

The two numbers by which a frame names what it carries: the ether type of the link layer and the
protocol number of the internet layer.
-/

namespace FlowTracker

inductive Protocol where
  | icmp
  | tcp
  | udp
  | icmp6
  | other (number : UInt8)
  deriving DecidableEq, Hashable, Repr, Inhabited

namespace Protocol

def ofNumber (number : UInt8) : Protocol :=
  if number = 1 then .icmp
  else if number = 6 then .tcp
  else if number = 17 then .udp
  else if number = 58 then .icmp6
  else .other number

def number : Protocol → UInt8
  | .icmp => 1
  | .tcp => 6
  | .udp => 17
  | .icmp6 => 58
  | .other number => number

theorem number_ofNumber (n : UInt8) : (ofNumber n).number = n := by
  unfold ofNumber
  repeat' split
  all_goals simp_all [number]

/-- The name of a protocol, or its number where it has none here. -/
def text : Protocol → String
  | .icmp => "icmp"
  | .tcp => "tcp"
  | .udp => "udp"
  | .icmp6 => "ipv6-icmp"
  | .other number => toString number.toNat

end Protocol

inductive EtherType where
  | ipv4
  | ipv6
  | vlan
  | other (number : UInt16)
  deriving DecidableEq, Repr, Inhabited

namespace EtherType

def ofNumber (number : UInt16) : EtherType :=
  if number = 0x0800 then .ipv4
  else if number = 0x86dd then .ipv6
  else if number = 0x8100 then .vlan
  else .other number

def number : EtherType → UInt16
  | .ipv4 => 0x0800
  | .ipv6 => 0x86dd
  | .vlan => 0x8100
  | .other number => number

theorem number_ofNumber (n : UInt16) : (ofNumber n).number = n := by
  unfold ofNumber
  repeat' split
  all_goals simp_all [number]

end EtherType

end FlowTracker
