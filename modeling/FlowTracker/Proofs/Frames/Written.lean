import FlowTracker.Proofs.Frames.Tags

/-!
# Written frames

A frame is written from its fields: hardware addresses, a tag or none, an internet header of either version
with any options, and a payload that has room for what its protocol reads.  Read back, it yields the
addresses, the protocol and the ports that were written (`EthernetFrame.headers_octets`).  Header and
payload are read back first, whatever stands before them; the tag then costs nothing.
-/

namespace FlowTracker

/-! ### Internet headers -/

/-- A header of version 4.  Its length counts words of four octets, those of the options too. -/
structure Header4 where
  source : BitVec 32
  target : BitVec 32
  number : UInt8
  words : Fin 16
  /-- What stands between length and protocol. -/
  service : Octets
  checksum : Octets
  options : Octets
  length_service : service.length = 8
  length_checksum : checksum.length = 2
  length_options : 20 + options.length = words.val * 4

structure Header6 where
  source : BitVec 128
  target : BitVec 128
  number : UInt8
  trafficClass : Fin 16
  /-- What stands between the first half octet of the traffic class and the protocol. -/
  label : Octets
  hopLimit : UInt8
  length_label : label.length = 5

namespace Address

theorem length_toOctets_v4 (bits : BitVec 32) : (v4 bits).toOctets.length = 4 :=
  Octets.length_ofBigEndian ..

theorem length_toOctets_v6 (bits : BitVec 128) : (v6 bits).toOctets.length = 16 :=
  Octets.length_ofBigEndian ..

theorem v4OfOctets_toOctets (bits : BitVec 32) : v4OfOctets (v4 bits).toOctets = v4 bits := by
  have hlt : bits.toNat < Octets.count 4 := bits.isLt
  rw [v4OfOctets, toOctets, Octets.bigEndian_ofBigEndian, Nat.mod_eq_of_lt hlt,
    BitVec.ofNat_toNat, BitVec.setWidth_eq]

theorem v6OfOctets_toOctets (bits : BitVec 128) : v6OfOctets (v6 bits).toOctets = v6 bits := by
  have hlt : bits.toNat < Octets.count 16 := bits.isLt
  rw [v6OfOctets, toOctets, Octets.bigEndian_ofBigEndian, Nat.mod_eq_of_lt hlt,
    BitVec.ofNat_toNat, BitVec.setWidth_eq]

end Address

/-- Two fields of one width behind a head. -/
theorem Octets.fields_append {head first second : Octets} {start width : Nat}
    (hhead : head.length = start) (hfirst : first.length = width) (hsecond : second.length = width)
    (rest : Octets) : field (head ++ first ++ second ++ rest) start width = first
      ∧ field (head ++ first ++ second ++ rest) (start + width) width = second := by
  constructor
  · rw [List.append_assoc, List.append_assoc]
    exact ErfHeader.field_append hhead hfirst _
  · rw [List.append_assoc]
    refine ErfHeader.field_append ?_ hsecond _
    rw [List.length_append, hhead, hfirst]

namespace Header4

variable (header : Header4) (payload : Octets)

def head : Octets :=
  UInt8.ofNat (4 * 16 + header.words.val)
    :: (header.service ++ header.number :: header.checksum)

def octets : Octets :=
  header.head ++ (Address.v4 header.source).toOctets ++ (Address.v4 header.target).toOctets
    ++ header.options

theorem length_head : header.head.length = 12 := by
  simp [head, header.length_service, header.length_checksum]

theorem length_octets : header.octets.length = header.words.val * 4 := by
  rw [← header.length_options]
  simp only [octets, List.length_append, header.length_head, Address.length_toOctets_v4]

/-- A version and a length in one octet. -/
theorem half_octets (words : Fin 16) : UInt8.ofNat (4 * 16 + words.val) >>> 4 = 4
    ∧ (UInt8.ofNat (4 * 16 + words.val) &&& 0x0f).toNat = words.val := by
  revert words
  decide

theorem octet_number : Frame.octet (header.octets ++ payload) 9 = header.number := by
  have hservice := header.length_service
  simp [Frame.octet, octets, head, hservice]

theorem fields_octets :
    Octets.field (header.octets ++ payload) 12 4 = (Address.v4 header.source).toOctets
    ∧ Octets.field (header.octets ++ payload) 16 4 = (Address.v4 header.target).toOctets := by
  rw [octets, List.append_assoc]
  exact Octets.fields_append header.length_head (Address.length_toOctets_v4 _)
    (Address.length_toOctets_v4 _) _

theorem internet4_octets : Frame.internet4 (header.octets ++ payload)
    = .ok (.v4 header.source, .v4 header.target, Protocol.ofNumber header.number, payload) := by
  obtain ⟨hversion, hwords⟩ := half_octets header.words
  have hsize : 20 ≤ (header.octets ++ payload).length := by
    rw [List.length_append, header.length_octets, ← header.length_options]
    omega
  have hannounced : Frame.announced (header.octets ++ payload) = header.octets.length := by
    rw [header.length_octets, ← hwords]
    rfl
  have hgood : ¬ (Frame.octet (header.octets ++ payload) 0 >>> 4 ≠ 4
      ∨ Frame.announced (header.octets ++ payload) < 20) := by
    rw [hannounced, header.length_octets, ← header.length_options]
    rintro (hother | hshort)
    · exact hother hversion
    · omega
  obtain ⟨hsource, htarget⟩ := header.fields_octets payload
  rw [Frame.internet4_of_le hsize, if_neg hgood, hsource, htarget, header.octet_number, hannounced,
    List.drop_left, Address.v4OfOctets_toOctets, Address.v4OfOctets_toOctets]

end Header4

namespace Header6

variable (header : Header6) (payload : Octets)

def head : Octets :=
  UInt8.ofNat (6 * 16 + header.trafficClass.val)
    :: (header.label ++ [header.number, header.hopLimit])

def octets : Octets :=
  header.head ++ (Address.v6 header.source).toOctets ++ (Address.v6 header.target).toOctets

theorem length_head : header.head.length = 8 := by
  simp [head, header.length_label]

theorem length_octets : header.octets.length = 40 := by
  simp only [octets, List.length_append, header.length_head, Address.length_toOctets_v6]

theorem octet_version : Frame.octet (header.octets ++ payload) 0 >>> 4 = 6 := by
  have hclass : ∀ trafficClass : Fin 16, UInt8.ofNat (6 * 16 + trafficClass.val) >>> 4 = 6 := by
    decide
  exact hclass header.trafficClass

theorem octet_number : Frame.octet (header.octets ++ payload) 6 = header.number := by
  have hlabel := header.length_label
  simp [Frame.octet, octets, head, hlabel]

theorem fields_octets :
    Octets.field (header.octets ++ payload) 8 16 = (Address.v6 header.source).toOctets
    ∧ Octets.field (header.octets ++ payload) 24 16 = (Address.v6 header.target).toOctets :=
  Octets.fields_append header.length_head (Address.length_toOctets_v6 _)
    (Address.length_toOctets_v6 _) _

theorem internet6_octets : Frame.internet6 (header.octets ++ payload)
    = .ok (.v6 header.source, .v6 header.target, Protocol.ofNumber header.number, payload) := by
  have hsize : 40 ≤ (header.octets ++ payload).length := by
    rw [List.length_append, header.length_octets]
    exact Nat.le_add_right ..
  have hgood : ¬ Frame.octet (header.octets ++ payload) 0 >>> 4 ≠ 6 :=
    not_not_intro (header.octet_version payload)
  obtain ⟨hsource, htarget⟩ := header.fields_octets payload
  rw [Frame.internet6_of_le hsize, if_neg hgood, hsource, htarget, header.octet_number,
    ← header.length_octets, List.drop_left, Address.v6OfOctets_toOctets, Address.v6OfOctets_toOctets]

end Header6

inductive InternetHeader where
  | v4 (header : Header4)
  | v6 (header : Header6)

namespace InternetHeader

def etherType : InternetHeader → EtherType
  | v4 _ => .ipv4
  | v6 _ => .ipv6

def octets : InternetHeader → Octets
  | v4 header => header.octets
  | v6 header => header.octets

def source : InternetHeader → Address
  | v4 header => .v4 header.source
  | v6 header => .v6 header.source

def target : InternetHeader → Address
  | v4 header => .v4 header.target
  | v6 header => .v6 header.target

def number : InternetHeader → UInt8
  | v4 header => header.number
  | v6 header => header.number

theorem ofNumber_etherType (header : InternetHeader) :
    EtherType.ofNumber header.etherType.number = header.etherType := by
  rcases header with header | header
  · rfl
  · rfl

theorem etherType_ne_vlan (header : InternetHeader) : header.etherType ≠ .vlan := by
  rcases header with header | header
  · exact nofun
  · exact nofun

theorem internet_octets (header : InternetHeader) (payload : Octets) :
    Frame.internet header.etherType (header.octets ++ payload)
      = .ok (header.source, header.target, Protocol.ofNumber header.number, payload) := by
  rcases header with header | header
  · exact header.internet4_octets payload
  · exact header.internet6_octets payload

end InternetHeader

/-! ### Frames -/

def Octets.pair (octets : Octets) (start : Nat) : UInt16 :=
  UInt16.ofNat ((octets.getD start 0).toNat * 256 + (octets.getD (start + 1) 0).toNat)

theorem Frame.word_eq_pair {octets : Octets} {start : Nat} (h : start + 2 ≤ octets.length) :
    Frame.word octets start = octets.pair start := by
  have hfield : octets.field start 2 = [octets[start], octets[start + 1]] := by
    rw [Octets.field, List.drop_eq_getElem_cons (by omega), List.take_succ_cons,
      List.drop_eq_getElem_cons (by omega), List.take_succ_cons, List.take_zero]
  have hoctet (i : Nat) (hi : i < octets.length) : octets.getD i 0 = octets[i] := by
    rw [List.getD_eq_getElem?_getD, List.getElem?_eq_getElem hi]
    rfl
  rw [Frame.word, hfield, Octets.pair, hoctet start (by omega), hoctet (start + 1) (by omega)]
  simp [Octets.bigEndian]

/-- A frame whose payload has room for the flags of a TCP header, for the ports of a UDP header, or for
type and code of a control message. -/
structure EthernetFrame where
  hardware : Octets
  tag? : Option UInt16
  internet : InternetHeader
  payload : Octets
  length_hardware : hardware.length = 12
  length_tcp : internet.number = 6 → 14 ≤ payload.length
  length_udp : internet.number = 17 → 4 ≤ payload.length
  length_control : internet.number = 1 ∨ internet.number = 58 → 2 ≤ payload.length

namespace EthernetFrame

variable (frame : EthernetFrame)

def untagged : Octets :=
  frame.hardware ++ Octets.ofBigEndian 2 frame.internet.etherType.number.toNat
    ++ (frame.internet.octets ++ frame.payload)

def octets : Octets :=
  match frame.tag? with
  | none => frame.untagged
  | some control => Frame.insertTag control frame.untagged

/-- The source port of TCP and UDP; a control message has its type and code there. -/
def sourcePort : UInt16 :=
  if frame.internet.number = 6 ∨ frame.internet.number = 17 ∨ frame.internet.number = 1
      ∨ frame.internet.number = 58 then
    frame.payload.pair 0
  else 0

def targetPort : UInt16 :=
  if frame.internet.number = 6 ∨ frame.internet.number = 17 then frame.payload.pair 2 else 0

def tcpFlags : UInt8 :=
  if frame.internet.number = 6 then frame.payload.getD 13 0 else 0

theorem transport_payload :
    Frame.transport (Protocol.ofNumber frame.internet.number) frame.payload
      = .ok (frame.sourcePort, frame.targetPort, frame.tcpFlags) := by
  unfold sourcePort targetPort tcpFlags
  by_cases htcp : frame.internet.number = 6
  · have hsize := frame.length_tcp htcp
    rw [htcp, ← Frame.word_eq_pair (by omega), ← Frame.word_eq_pair (by omega)]
    exact Frame.transport_of_le hsize
  by_cases hudp : frame.internet.number = 17
  · have hsize := frame.length_udp hudp
    rw [hudp, ← Frame.word_eq_pair (by omega), ← Frame.word_eq_pair (by omega)]
    exact Frame.transport_of_le hsize
  by_cases hicmp : frame.internet.number = 1
  · have hsize := frame.length_control (Or.inl hicmp)
    rw [hicmp, ← Frame.word_eq_pair (by omega)]
    exact Frame.transport_of_le hsize
  by_cases hicmp6 : frame.internet.number = 58
  · have hsize := frame.length_control (Or.inr hicmp6)
    rw [hicmp6, ← Frame.word_eq_pair (by omega)]
    exact Frame.transport_of_le hsize
  · simp only [Protocol.ofNumber, htcp, hudp, hicmp, hicmp6, if_false, or_self]
    rfl

theorem length_untagged : 14 ≤ frame.untagged.length := by
  simp only [untagged, List.length_append, frame.length_hardware, Octets.length_ofBigEndian]
  omega

theorem word_untagged : Frame.word frame.untagged 12 = frame.internet.etherType.number := by
  rw [Frame.word, untagged, List.append_assoc,
    ErfHeader.field_append frame.length_hardware (Octets.length_ofBigEndian ..),
    ErfHeader.ofNat_bigEndian]

theorem drop_untagged :
    frame.untagged.drop 14 = frame.internet.octets ++ frame.payload := by
  apply List.drop_left'
  rw [List.length_append, frame.length_hardware, Octets.length_ofBigEndian]

theorem not_isTagged_untagged : ¬ Frame.IsTagged frame.untagged := by
  intro htag
  apply frame.internet.etherType_ne_vlan
  rw [← frame.internet.ofNumber_etherType, ← word_untagged]
  exact EtherType.ofNumber_eq_vlan_iff.2 htag

/-- With a tag or without one, the datagram is read. -/
theorem headers_eq_datagram : Frame.headers frame.octets
    = Frame.datagram frame.internet.etherType (frame.internet.octets ++ frame.payload) := by
  have htype : EtherType.ofNumber (Frame.word frame.untagged 12) = frame.internet.etherType := by
    rw [word_untagged, frame.internet.ofNumber_etherType]
  unfold octets
  rcases frame.tag? with _ | control
  · rw [Frame.headers_untagged frame.length_untagged frame.not_isTagged_untagged, htype,
      drop_untagged]
  · rw [Frame.headers_insertTag_eq control frame.length_untagged, htype, drop_untagged]

/-- A written frame is read back: its addresses and protocol, the ports of TCP and UDP, type and code of a
control message, and the flags of TCP. -/
theorem headers_octets : Frame.headers frame.octets = .ok
    { tuple :=
        { source := ⟨frame.internet.source, frame.sourcePort⟩
          target := ⟨frame.internet.target, frame.targetPort⟩
          protocol := Protocol.ofNumber frame.internet.number }
      tcpFlags := frame.tcpFlags } := by
  rw [headers_eq_datagram, Frame.datagram, frame.internet.internet_octets frame.payload]
  show (Frame.transport _ _ >>= _) = _
  rw [frame.transport_payload]
  rfl

/-- A tagged TCP frame whose header has fifteen words. -/
theorem headers_octets_of_options :
    let header : Header4 := ⟨0x0a000001, 0x0a000002, 6, 15, List.replicate 8 1, [2, 3],
      List.replicate 40 4, by decide, by decide, by decide⟩
    let frame : EthernetFrame := ⟨List.replicate 12 5, some 0x2064, .v4 header,
      [0, 80, 0x9c, 0x40, 0, 0, 0, 0, 0, 0, 0, 0, 0x50, 0x12], by decide, by decide, by decide,
      by decide⟩
    Frame.headers frame.octets
      = .ok ⟨⟨⟨.v4 0x0a000001, 80⟩, ⟨.v4 0x0a000002, 40000⟩, .tcp⟩, 0x12⟩ := by
  intro header frame
  exact frame.headers_octets.trans (by decide)

end EthernetFrame

end FlowTracker
