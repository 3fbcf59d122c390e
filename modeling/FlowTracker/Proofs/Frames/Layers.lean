import FlowTracker.Proofs.Checked.Frames

/-!
# The layers of a frame, one by one

What each layer answers, as an equation with its checks in their order.  The link layer ends in the ether
type at position 12; behind it stands a datagram, or a tag and then a datagram (`Frame.datagram`).
-/

namespace FlowTracker

theorem EtherType.ofNumber_eq_vlan_iff {number : UInt16} :
    EtherType.ofNumber number = .vlan ↔ number = EtherType.vlan.number := by
  constructor
  · intro h
    rw [← number_ofNumber number, h]
  · rintro rfl
    rfl

namespace Frame

def datagram (etherType : EtherType) (octets : Octets) : Except FrameError Headers := do
  let (source, target, protocol, payload) ← internet etherType octets
  let (sourcePort, targetPort, tcpFlags) ← transport protocol payload
  return ⟨⟨⟨source, sourcePort⟩, ⟨target, targetPort⟩, protocol⟩, tcpFlags⟩

variable {octets frame : Octets}

theorem require_of_lt {size : Nat} (h : octets.length < size) :
    require octets size = .error .tooShort := if_pos h

/-! ### Internet -/

def announced (octets : Octets) : Nat := (octet octets 0 &&& 0x0f).toNat * 4

theorem internet4_of_le (h : 20 ≤ octets.length) : internet4 octets =
    if octet octets 0 >>> 4 ≠ 4 ∨ announced octets < 20 then .error .invalidHeader
    else .ok (Address.v4OfOctets (octets.field 12 4), Address.v4OfOctets (octets.field 16 4),
      Protocol.ofNumber (octet octets 9), octets.drop (announced octets)) := by
  unfold internet4 announced
  rw [require_of_le h]
  by_cases hversion : octet octets 0 >>> 4 ≠ 4
  · rw [if_pos (Or.inl hversion)]
    exact if_pos hversion
  by_cases hshort : (octet octets 0 &&& 0x0f).toNat * 4 < 20
  · rw [if_pos (Or.inr hshort)]
    exact (if_neg hversion).trans (if_pos hshort)
  · rw [if_neg (not_or.2 ⟨hversion, hshort⟩)]
    exact (if_neg hversion).trans (if_neg hshort)

theorem internet4_of_lt (h : octets.length < 20) : internet4 octets = .error .tooShort := by
  unfold internet4
  rw [require_of_lt h]
  rfl

theorem internet6_of_le (h : 40 ≤ octets.length) : internet6 octets =
    if octet octets 0 >>> 4 ≠ 6 then .error .invalidHeader
    else .ok (Address.v6OfOctets (octets.field 8 16), Address.v6OfOctets (octets.field 24 16),
      Protocol.ofNumber (octet octets 6), octets.drop 40) := by
  unfold internet6
  rw [require_of_le h]
  rfl

theorem internet6_of_lt (h : octets.length < 40) : internet6 octets = .error .tooShort := by
  unfold internet6
  rw [require_of_lt h]
  rfl

/-! ### Transport -/

def portsSize : Protocol → Nat
  | .tcp => 14
  | .udp => 4
  | .icmp | .icmp6 => 2
  | .other _ => 0

def ports : Protocol → Octets → UInt16 × UInt16 × UInt8
  | .tcp, octets => (word octets 0, word octets 2, octet octets 13)
  | .udp, octets => (word octets 0, word octets 2, 0)
  | .icmp, octets | .icmp6, octets => (word octets 0, 0, 0)
  | .other _, _ => (0, 0, 0)

theorem transport_eq (protocol : Protocol) (octets : Octets) : transport protocol octets = do
    require octets (portsSize protocol)
    return ports protocol octets := by
  cases protocol with
  | other number =>
    rw [portsSize, require_of_le (Nat.zero_le _)]
    rfl
  | _ => rfl

theorem transport_of_le {protocol : Protocol} (h : portsSize protocol ≤ octets.length) :
    transport protocol octets = .ok (ports protocol octets) := by
  rw [transport_eq, require_of_le h]
  rfl

theorem transport_of_lt {protocol : Protocol} (h : octets.length < portsSize protocol) :
    transport protocol octets = .error .tooShort := by
  rw [transport_eq, require_of_lt h]
  rfl

/-! ### Link and tag -/

def IsTagged (frame : Octets) : Prop := word frame 12 = EtherType.vlan.number

theorem headers_of_lt (h : frame.length < 14) : headers frame = .error .tooShort := by
  unfold headers link
  rw [require_of_lt h]
  rfl

theorem headers_untagged (h : 14 ≤ frame.length) (hplain : ¬ IsTagged frame) :
    headers frame = datagram (EtherType.ofNumber (word frame 12)) (frame.drop 14) := by
  have hother := mt EtherType.ofNumber_eq_vlan_iff.1 hplain
  unfold headers link
  rw [require_of_le h]
  cases hnumber : EtherType.ofNumber (word frame 12) with
  | vlan => exact absurd hnumber hother
  | ipv4 => rfl
  | ipv6 => rfl
  | other number => rfl

theorem headers_tagged_of_lt (h : 14 ≤ frame.length) (htag : IsTagged frame)
    (hshort : frame.length < 18) : headers frame = .error .tooShort := by
  have hleft : (frame.drop 14).length < 4 := by
    rw [List.length_drop]
    omega
  unfold headers link vlanTag
  rw [require_of_le h, EtherType.ofNumber_eq_vlan_iff.2 htag]
  show (require (frame.drop 14) 4 >>= _) >>= _ = _
  rw [require_of_lt hleft]
  rfl

theorem headers_tagged (h : 18 ≤ frame.length) (htag : IsTagged frame) :
    headers frame = datagram (EtherType.ofNumber (word frame 16)) (frame.drop 18) := by
  have hleft : 4 ≤ (frame.drop 14).length := by
    rw [List.length_drop]
    omega
  have hword : word (frame.drop 14) 2 = word frame 16 := by
    unfold word Octets.field
    rw [List.drop_drop]
  unfold headers link vlanTag
  rw [require_of_le (by omega), EtherType.ofNumber_eq_vlan_iff.2 htag]
  show (require (frame.drop 14) 4 >>= _) >>= _ = _
  rw [require_of_le hleft, ← hword]
  show datagram _ ((frame.drop 14).drop 4) = _
  rw [List.drop_drop]

end Frame

end FlowTracker
