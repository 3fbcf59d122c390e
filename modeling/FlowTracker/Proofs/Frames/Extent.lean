import FlowTracker.Proofs.Engine.Times
import FlowTracker.Proofs.Frames.Truncation

/-!
# How much of a frame is there

The headers of a frame declare where they end: behind the link header and the tag stands an internet
header whose size is announced in its first octet (version 4) or fixed (version 6), and behind it the
octets that are read of the transport header (`Frame.declared`).  A frame that is read holds all that was
asked for, and cut anywhere inside of it the frame is too short (`headers_complete`).

What is asked for is all that is declared, with one exception.  The options of a version 4 header are
asked for by nobody but the layer behind them; where the protocol has no ports there is no such layer, and
a frame that ends inside its options is read as if it were whole (`accepted_inside_options`).
-/

namespace FlowTracker

namespace Frame

/-! ### What the headers declare -/

/-- Where the datagram begins: behind the link header, and behind the tag if there is one. -/
def datagramStart (frame : Octets) : Nat :=
  if word frame 12 = EtherType.vlan.number then 18 else 14

def datagramType (frame : Octets) : EtherType :=
  EtherType.ofNumber (word frame (datagramStart frame - 2))

def fixedSize : EtherType → Nat
  | .ipv4 => 20
  | .ipv6 => 40
  | .vlan | .other _ => 0

def headerSize : EtherType → Octets → Nat
  | .ipv4, octets => announced octets
  | .ipv6, _ => 40
  | .vlan, _ | .other _, _ => 0

/-- Where the headers of a frame end. -/
def declared (frame : Octets) (protocol : Protocol) : Nat :=
  datagramStart frame + headerSize (datagramType frame) (frame.drop (datagramStart frame))
    + portsSize protocol

def HasOptions (frame : Octets) : Prop :=
  datagramType frame = .ipv4 ∧ 20 < announced (frame.drop (datagramStart frame))

def required (etherType : EtherType) (octets : Octets) (protocol : Protocol) : Nat :=
  if portsSize protocol = 0 then fixedSize etherType
  else headerSize etherType octets + portsSize protocol

def needed (frame : Octets) (protocol : Protocol) : Nat :=
  datagramStart frame + required (datagramType frame) (frame.drop (datagramStart frame)) protocol

variable {frame octets : Octets} {etherType : EtherType} {found : Headers} {length : Nat}

/-! ### Datagrams -/

section Internet

variable {source target : Address} {protocol : Protocol} {left : Octets}

theorem internet_of_lt (h : octets.length < fixedSize etherType) :
    internet etherType octets = .error .tooShort := by
  cases etherType with
  | ipv4 => exact internet4_of_lt h
  | ipv6 => exact internet6_of_lt h
  | vlan => exact absurd h (Nat.not_lt_zero _)
  | other number => exact absurd h (Nat.not_lt_zero _)

theorem internet_ne_tooShort (h : fixedSize etherType ≤ octets.length) :
    internet etherType octets ≠ .error .tooShort := by
  cases etherType with
  | ipv4 =>
    show internet4 octets ≠ _
    rw [internet4_of_le h]
    split <;> exact nofun
  | ipv6 =>
    show internet6 octets ≠ _
    rw [internet6_of_le h]
    split <;> exact nofun
  | vlan => exact nofun
  | other number => exact nofun

theorem fixedSize_le (h : internet etherType octets = .ok (source, target, protocol, left)) :
    fixedSize etherType ≤ octets.length := by
  rw [← Nat.not_lt]
  intro hshort
  rw [internet_of_lt hshort] at h
  cases h

/-- A header that is read is no shorter than its fixed part, and it leaves what stands behind it. -/
theorem internet_eq_ok (h : internet etherType octets = .ok (source, target, protocol, left)) :
    fixedSize etherType ≤ headerSize etherType octets
      ∧ left = octets.drop (headerSize etherType octets) := by
  have hfixed := fixedSize_le h
  cases etherType with
  | ipv4 =>
    change internet4 octets = _ at h
    rw [internet4_of_le hfixed] at h
    split at h
    · cases h
    · rename_i hgood
      cases h
      exact ⟨Nat.not_lt.1 (not_or.1 hgood).2, rfl⟩
  | ipv6 =>
    change internet6 octets = _ at h
    rw [internet6_of_le hfixed] at h
    split at h
    · cases h
    · cases h
      exact ⟨Nat.le_refl 40, rfl⟩
  | vlan => cases h
  | other number => cases h

theorem headerSize_take (hfixed : fixedSize etherType ≤ length)
    (h : fixedSize etherType ≤ octets.length) :
    headerSize etherType (octets.take length) = headerSize etherType octets := by
  cases etherType with
  | ipv4 =>
    have hfirst : octet (octets.take length) 0 = octet octets 0 := by
      apply octet_of_cut (List.take_prefix ..)
      rw [List.length_take]
      exact Nat.lt_of_lt_of_le (by decide) (Nat.le_min.2 ⟨hfixed, h⟩)
    show announced _ = announced _
    rw [announced, announced, hfirst]
  | _ => rfl

/-- Where the fixed part is still there, a cut header names the same and leaves what was not cut off. -/
theorem internet_take (h : internet etherType octets = .ok (source, target, protocol, left))
    (hlength : fixedSize etherType ≤ length) :
    internet etherType (octets.take length) = .ok (source, target, protocol,
      (octets.take length).drop (headerSize etherType octets)) := by
  have hthere : fixedSize etherType ≤ (octets.take length).length := by
    rw [List.length_take]
    exact Nat.le_min.2 ⟨hlength, fixedSize_le h⟩
  have hforetells := internet_foretells etherType (List.take_prefix length octets)
  rw [h] at hforetells
  generalize hcut : internet etherType (octets.take length) = cut at hforetells
  rcases hforetells with _ | error | hnames
  · exact absurd hcut (internet_ne_tooShort hthere)
  · rename_i found
    obtain ⟨source', target', protocol', left'⟩ := found
    obtain ⟨hsource, htarget, hprotocol, -⟩ := hnames
    obtain ⟨-, hleft⟩ := internet_eq_ok hcut
    rw [headerSize_take hlength (fixedSize_le h)] at hleft
    rw [show source' = source from hsource, show target' = target from htarget,
      show protocol' = protocol from hprotocol, hleft]

theorem datagram_of_lt (h : internet etherType octets = .ok (source, target, protocol, left))
    (hshort : left.length < portsSize protocol) : datagram etherType octets = .error .tooShort := by
  rw [datagram, h]
  show (transport protocol left >>= _) = _
  rw [transport_of_lt hshort]
  rfl

theorem datagram_of_le (h : internet etherType octets = .ok (source, target, protocol, left))
    (hlong : portsSize protocol ≤ left.length) :
    ∃ found, datagram etherType octets = .ok found ∧ found.tuple.protocol = protocol := by
  rw [datagram, h]
  show ∃ found, (transport protocol left >>= _) = _ ∧ _
  rw [transport_of_le hlong]
  exact ⟨_, rfl, rfl⟩

theorem exists_internet (h : datagram etherType octets = .ok found) : ∃ source target left,
    internet etherType octets = .ok (source, target, found.tuple.protocol, left)
      ∧ portsSize found.tuple.protocol ≤ left.length := by
  obtain ⟨⟨source, target, protocol, left⟩, hinternet, -⟩ := exists_of_bind_eq_ok h
  by_cases hshort : left.length < portsSize protocol
  · rw [datagram_of_lt hinternet hshort] at h
    cases h
  · obtain ⟨found', hfound, rfl⟩ := datagram_of_le hinternet (Nat.not_lt.1 hshort)
    rw [hfound] at h
    obtain rfl := Except.ok.inj h
    exact ⟨source, target, left, hinternet, Nat.not_lt.1 hshort⟩

end Internet

/-- A cut datagram is refused exactly if something that is asked for is missing. -/
theorem datagram_take (h : datagram etherType octets = .ok found) (length : Nat) :
    datagram etherType (octets.take length)
      = if length < required etherType octets found.tuple.protocol then .error .tooShort
        else .ok found := by
  obtain ⟨source, target, left, hinternet, hports⟩ := exists_internet h
  obtain ⟨hheader, hleft⟩ := internet_eq_ok hinternet
  have hsame := (datagram_foretells etherType (List.take_prefix length octets)).eq_or
  rw [h] at hsame
  unfold required
  by_cases hlength : length < fixedSize etherType
  · have hmissing : (octets.take length).length < fixedSize etherType :=
      Nat.lt_of_le_of_lt (List.length_take_le ..) hlength
    rw [if_pos (by split <;> omega), datagram, internet_of_lt hmissing]
    rfl
  have hcut := internet_take hinternet (Nat.not_lt.1 hlength)
  rw [hleft, List.length_drop] at hports
  have hleftLength : ((octets.take length).drop (headerSize etherType octets)).length
      = min length octets.length - headerSize etherType octets := by
    rw [List.length_drop, List.length_take]
  by_cases hshort : ((octets.take length).drop (headerSize etherType octets)).length
      < portsSize found.tuple.protocol
  · rw [datagram_of_lt hcut hshort, if_pos]
    rw [if_neg (by omega)]
    omega
  · obtain ⟨found', hfound, -⟩ := datagram_of_le hcut (Nat.not_lt.1 hshort)
    rw [hfound] at hsame ⊢
    rw [if_neg]
    · exact hsame.resolve_left nofun
    · split <;> omega

/-! ### Frames -/

/-- The reading of a datagram behind a link header that is all there. -/
theorem headers_eq_datagram (h : datagramStart frame ≤ frame.length) :
    headers frame = datagram (datagramType frame) (frame.drop (datagramStart frame)) := by
  unfold datagramType
  unfold datagramStart at h ⊢
  by_cases htag : word frame 12 = EtherType.vlan.number
  · rw [if_pos htag] at h ⊢
    exact headers_tagged h htag
  · rw [if_neg htag] at h ⊢
    exact headers_untagged h htag

theorem headers_of_lt_datagramStart (h : frame.length < datagramStart frame) :
    headers frame = .error .tooShort := by
  unfold datagramStart at h
  by_cases hlink : frame.length < 14
  · exact headers_of_lt hlink
  by_cases htag : word frame 12 = EtherType.vlan.number
  · rw [if_pos htag] at h
    exact headers_tagged_of_lt (Nat.not_lt.1 hlink) htag h
  · rw [if_neg htag] at h
    exact absurd h hlink

theorem datagramStart_le (h : headers frame = .ok found) : datagramStart frame ≤ frame.length := by
  rw [← Nat.not_lt]
  intro hshort
  rw [headers_of_lt_datagramStart hshort] at h
  cases h

theorem datagramStart_take (h : 14 ≤ length) (hframe : 14 ≤ frame.length) :
    datagramStart (frame.take length) = datagramStart frame := by
  have hword : word (frame.take length) 12 = word frame 12 := by
    apply word_of_cut (List.take_prefix ..)
    rw [List.length_take]
    exact Nat.le_min.2 ⟨h, hframe⟩
  unfold datagramStart
  rw [hword]

theorem le_datagramStart (frame : Octets) : 14 ≤ datagramStart frame := by
  unfold datagramStart
  split <;> decide

theorem datagramType_take (h : datagramStart frame ≤ length)
    (hframe : datagramStart frame ≤ frame.length) :
    datagramType (frame.take length) = datagramType frame := by
  have hle := le_datagramStart frame
  have hword : word (frame.take length) (datagramStart frame - 2)
      = word frame (datagramStart frame - 2) := by
    apply word_of_cut (List.take_prefix ..)
    rw [List.length_take]
    have hmin := Nat.le_min.2 ⟨h, hframe⟩
    omega
  unfold datagramType
  rw [datagramStart_take (Nat.le_trans hle h) (Nat.le_trans hle hframe), hword]

/-- A cut frame is refused exactly if something that is asked for is missing. -/
theorem headers_take (h : headers frame = .ok found) (length : Nat) :
    headers (frame.take length)
      = if length < needed frame found.tuple.protocol then .error .tooShort else .ok found := by
  have hlink := le_datagramStart frame
  have hframe := datagramStart_le h
  unfold needed
  by_cases hlength : length < datagramStart frame
  · rw [if_pos (Nat.lt_of_lt_of_le hlength (Nat.le_add_right ..))]
    have hcut : (frame.take length).length < datagramStart frame :=
      Nat.lt_of_le_of_lt (List.length_take_le ..) hlength
    by_cases hshort : length < 14
    · exact headers_of_lt (Nat.lt_of_le_of_lt (List.length_take_le ..) hshort)
    · apply headers_of_lt_datagramStart
      rwa [datagramStart_take (Nat.not_lt.1 hshort) (Nat.le_trans hlink hframe)]
  · have hlength := Nat.not_lt.1 hlength
    have hstart := datagramStart_take (Nat.le_trans hlink hlength) (Nat.le_trans hlink hframe)
    have hcut : datagramStart (frame.take length) ≤ (frame.take length).length := by
      rw [hstart, List.length_take]
      exact Nat.le_min.2 ⟨hlength, hframe⟩
    rw [headers_eq_datagram hframe] at h
    rw [headers_eq_datagram hcut, datagramType_take hlength hframe, hstart, List.drop_take,
      datagram_take h]
    have hbound : ∀ size,
        length - datagramStart frame < size ↔ length < datagramStart frame + size := by
      intro size
      omega
    simp only [hbound]

theorem fixedSize_eq_headerSize_iff (h : fixedSize etherType ≤ headerSize etherType octets) :
    fixedSize etherType = headerSize etherType octets
      ↔ ¬ (etherType = .ipv4 ∧ 20 < announced octets) := by
  cases etherType with
  | ipv4 =>
    change 20 ≤ announced octets at h
    show 20 = announced octets ↔ _
    simp only [true_and]
    omega
  | ipv6 => exact iff_of_true rfl (fun hoptions => nomatch hoptions.1)
  | vlan => exact iff_of_true rfl (fun hoptions => nomatch hoptions.1)
  | other number => exact iff_of_true rfl (fun hoptions => nomatch hoptions.1)

theorem needed_eq_declared_iff (h : headers frame = .ok found) :
    needed frame found.tuple.protocol = declared frame found.tuple.protocol
      ↔ portsSize found.tuple.protocol ≠ 0 ∨ ¬ HasOptions frame := by
  rw [headers_eq_datagram (datagramStart_le h)] at h
  obtain ⟨source, target, left, hinternet, -⟩ := exists_internet h
  have hsize := fixedSize_eq_headerSize_iff (internet_eq_ok hinternet).1
  unfold needed declared required HasOptions
  by_cases hports : portsSize found.tuple.protocol = 0
  · rw [if_pos hports, hports, Nat.add_zero, Nat.add_left_cancel_iff, hsize]
    simp only [ne_eq, not_true, false_or]
  · rw [if_neg hports, Nat.add_assoc]
    exact iff_of_true rfl (Or.inl hports)

/-- A frame that is read holds every octet that is asked for, and cut anywhere inside of them it is too
short.  They are all octets that the headers declare, unless the frame has options and a protocol
without ports. -/
theorem headers_complete (h : headers frame = .ok found) :
    needed frame found.tuple.protocol ≤ frame.length
    ∧ (∀ length, headers (frame.take length)
        = if length < needed frame found.tuple.protocol then .error .tooShort else .ok found)
    ∧ (needed frame found.tuple.protocol = declared frame found.tuple.protocol
        ↔ portsSize found.tuple.protocol ≠ 0 ∨ ¬ HasOptions frame) := by
  refine ⟨?_, headers_take h, needed_eq_declared_iff h⟩
  have hwhole := headers_take h frame.length
  rw [List.take_length, h] at hwhole
  split at hwhole
  · cases hwhole
  · exact Nat.not_lt.1 ‹_›

/-- A tagged UDP frame with options and four more octets than are asked for. -/
theorem headers_complete_of_options :
    let frame : Octets := List.replicate 12 0 ++ [0x81, 0x00, 0x00, 0x64, 0x08, 0x00,
      0x46, 0, 0, 32, 0, 0, 0, 0, 64, 17, 0, 0, 10, 0, 0, 1, 10, 0, 0, 2, 1, 1, 1, 1,
      0, 53, 20, 233, 0, 8, 0, 0]
    let found : Headers := ⟨⟨⟨.v4 0x0a000001, 53⟩, ⟨.v4 0x0a000002, 5353⟩, .udp⟩, 0⟩
    headers frame = .ok found
    ∧ headers (frame.take 46) = .ok found
    ∧ headers (frame.take 45) = .error .tooShort
    ∧ headers (frame.take 40) = .error .tooShort := by
  intro frame found
  have hfound : headers frame = .ok found := by decide
  obtain ⟨-, htake, -⟩ := headers_complete hfound
  refine ⟨hfound, ?_, ?_, ?_⟩
  · rw [htake, if_neg (by decide)]
  · rw [htake, if_pos (by decide)]
  · rw [htake, if_pos (by decide)]

/-- A frame of protocol 47 declares 38 octets; without its options, or cut inside of them, it is read
as if all were there. -/
theorem accepted_inside_options :
    let frame : Octets := List.replicate 12 0 ++ [0x08, 0x00,
      0x46, 0, 0, 24, 0, 0, 0, 0, 64, 47, 0, 0, 10, 0, 0, 1, 10, 0, 0, 2]
    let found : Headers := ⟨⟨⟨.v4 0x0a000001, 0⟩, ⟨.v4 0x0a000002, 0⟩, .other 47⟩, 0⟩
    headers frame = .ok found
    ∧ frame.length < declared frame found.tuple.protocol
    ∧ headers ((frame ++ [1, 1, 1, 1]).take 36) = .ok found
    ∧ 36 < declared (frame ++ [1, 1, 1, 1]) found.tuple.protocol := by
  decide

end Frame

end FlowTracker
