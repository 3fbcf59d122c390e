import FlowTracker.Proofs.Checked.Arithmetic

/-!
# Frames read with every access checked

`Frame.checkedHeaders` reads a frame by positions that are counted from its first octet.  An octet behind
the last one is a fault, and so is a position that leaves the 64-bit range.  `checkedHeaders_eq` says that
neither occurs and that `Frame.headers`, which passes on what a layer leaves, reads the same.
-/

namespace FlowTracker

namespace Frame

/-- A reading that may refuse the frame, and may fault. -/
abbrev Reading := ExceptT FrameError (Except Fault)

def octetAt (frame : Octets) (position : Nat) : Except Fault UInt8 :=
  match frame[position]? with
  | some found => .ok found
  | none => .error (.outOfBounds frame.length position)

def octetsAt (frame : Octets) : (position width : Nat) → Except Fault Octets
  | _, 0 => .ok []
  | position, width + 1 => do
    let first ← octetAt frame position
    let rest ← octetsAt frame (position + 1) width
    return first :: rest

def wordAt (frame : Octets) (position : Nat) : Except Fault UInt16 := do
  return UInt16.ofNat (← octetsAt frame position 2).bigEndian

def requireAt (frame : Octets) (position size : Nat) : Reading Unit := do
  if frame.length < (← Counter.add position size) then throw .tooShort

/-! ### Layers by position -/

def etherTypeAt (frame : Octets) (position size : Nat) : Reading (EtherType × Nat) := do
  requireAt frame position size
  let number ← wordAt frame (position + (size - 2))
  return (EtherType.ofNumber number, ← Counter.add position size)

def internet4At (frame : Octets) (position : Nat) :
    Reading (Address × Address × Protocol × Nat) := do
  requireAt frame position 20
  let first ← octetAt frame position
  if first >>> 4 ≠ 4 then throw .invalidHeader
  let size := (first &&& 0x0f).toNat * 4
  if size < 20 then throw .invalidHeader
  let protocol ← octetAt frame (position + 9)
  let source ← octetsAt frame (position + 12) 4
  let target ← octetsAt frame (position + 16) 4
  return (Address.v4OfOctets source, Address.v4OfOctets target, Protocol.ofNumber protocol,
    ← Counter.add position size)

def internet6At (frame : Octets) (position : Nat) :
    Reading (Address × Address × Protocol × Nat) := do
  requireAt frame position 40
  let first ← octetAt frame position
  if first >>> 4 ≠ 6 then throw .invalidHeader
  let protocol ← octetAt frame (position + 6)
  let source ← octetsAt frame (position + 8) 16
  let target ← octetsAt frame (position + 24) 16
  return (Address.v6OfOctets source, Address.v6OfOctets target, Protocol.ofNumber protocol,
    ← Counter.add position 40)

def internetAt (frame : Octets) (etherType : EtherType) (position : Nat) :
    Reading (Address × Address × Protocol × Nat) :=
  match etherType with
  | .ipv4 => internet4At frame position
  | .ipv6 => internet6At frame position
  | .vlan | .other _ => throw (.unsupportedEtherType etherType.number)

def portsAt (frame : Octets) (position : Nat) : Reading (UInt16 × UInt16) := do
  requireAt frame position 4
  return (← wordAt frame position, ← wordAt frame (position + 2))

def transportAt (frame : Octets) (protocol : Protocol) (position : Nat) :
    Reading (UInt16 × UInt16 × UInt8) :=
  match protocol with
  | .tcp => do
    requireAt frame position 14
    let (source, target) ← portsAt frame position
    return (source, target, ← octetAt frame (position + 13))
  | .udp => do
    let (source, target) ← portsAt frame position
    return (source, target, 0)
  | .icmp | .icmp6 => do
    requireAt frame position 2
    return (← wordAt frame position, 0, 0)
  | .other _ => return (0, 0, 0)

/-- Reads a frame down to its transport ports, with every access checked. -/
def checkedHeaders (frame : Octets) : Reading Headers := do
  let (outer, behindLink) ← etherTypeAt frame 0 14
  let (etherType, behindTag) ← match outer with
    | .vlan => etherTypeAt frame behindLink 4
    | _ => pure (outer, behindLink)
  let (source, target, protocol, payload) ← internetAt frame etherType behindTag
  let (sourcePort, targetPort, tcpFlags) ← transportAt frame protocol payload
  return ⟨⟨⟨source, sourcePort⟩, ⟨target, targetPort⟩, protocol⟩, tcpFlags⟩

/-! ### Accesses -/

section Accesses

variable {frame : Octets} {position start width : Nat}

theorem octetAt_eq (h : position + start < frame.length) :
    octetAt frame (position + start) = .ok (octet (frame.drop position) start) := by
  unfold octetAt octet
  rw [List.getElem?_eq_getElem h, List.getD_eq_getElem?_getD, List.getElem?_drop,
    List.getElem?_eq_getElem h]
  rfl

theorem octetsAt_eq (h : position + width ≤ frame.length) :
    octetsAt frame position width = .ok ((frame.drop position).take width) := by
  induction width generalizing position with
  | zero => rfl
  | succ width ih =>
    have hin : position < frame.length := by omega
    have hfirst : octetAt frame position = .ok frame[position] := by
      unfold octetAt
      rw [List.getElem?_eq_getElem hin]
    rw [octetsAt, hfirst, bind_ok, ih (by omega), bind_ok, List.drop_eq_getElem_cons hin,
      List.take_succ_cons]
    rfl

theorem fieldAt_eq (h : position + start + width ≤ frame.length) :
    octetsAt frame (position + start) width = .ok (Octets.field (frame.drop position) start width) := by
  rw [octetsAt_eq h, Octets.field, List.drop_drop]

theorem wordAt_eq (h : position + start + 2 ≤ frame.length) :
    wordAt frame (position + start) = .ok (word (frame.drop position) start) := by
  unfold wordAt
  rw [fieldAt_eq h]
  rfl

end Accesses

/-! ### Agreement -/

section Agreement

variable {α β γ δ : Type}

/-- The checked reading does not fault, and it refuses as the plain one does or finds what is related to
what that one finds. -/
inductive Agree (R : α → β → Prop) : Reading α → Except FrameError β → Prop where
  | refused (error : FrameError) : Agree R (throw error) (.error error)
  | found {a : α} {b : β} (h : R a b) : Agree R (pure a) (.ok b)

theorem Agree.bind {R : α → β → Prop} {S : γ → δ → Prop} {checked : Reading α}
    {plain : Except FrameError β} {k : α → Reading γ} {l : β → Except FrameError δ}
    (h : Agree R checked plain) (hk : ∀ a b, R a b → Agree S (k a) (l b)) :
    Agree S (checked >>= k) (plain >>= l) := by
  cases h with
  | refused error => exact .refused error
  | found h => exact hk _ _ h

theorem Agree.eq {checked : Reading α} {plain : Except FrameError α}
    (h : Agree Eq checked plain) : checked = ExceptT.mk (.ok plain) := by
  cases h with
  | refused error => rfl
  | found h =>
    subst h
    rfl

theorem Agree.eq_pure {R : α → β → Prop} {checked : Reading α} {b : β}
    (h : Agree R checked (.ok b)) : ∃ a, checked = pure a ∧ R a b := by
  cases h with
  | found h => exact ⟨_, rfl, h⟩

/-- Positions below a limit, and the octets behind them. -/
def Behind (frame : Octets) (limit : Nat) (found : α × Nat) (left : α × Octets) : Prop :=
  found.2 ≤ limit ∧ left = (found.1, frame.drop found.2)

variable {frame : Octets} {position size : Nat}

theorem requireAt_agree (hsize : 0 < size) (hlimit : position + size < Word.count) :
    Agree (fun _ _ => position + size ≤ frame.length) (requireAt frame position size)
      (require (frame.drop position) size) := by
  unfold requireAt require
  rw [Counter.add_of_lt hlimit]
  by_cases hshort : frame.length < position + size
  · have hleft : (frame.drop position).length < size := by
      rw [List.length_drop]
      omega
    rw [if_pos hleft]
    show Agree _ (if frame.length < position + size then _ else _) _
    rw [if_pos hshort]
    exact .refused _
  · have hleft : ¬ (frame.drop position).length < size := by
      rw [List.length_drop]
      omega
    rw [if_neg hleft]
    show Agree _ (if frame.length < position + size then _ else _) _
    rw [if_neg hshort]
    exact .found (Nat.not_lt.1 hshort)

theorem etherTypeAt_agree (hsize : 2 ≤ size) (hlimit : position + size < Word.count) :
    Agree (Behind frame (position + size)) (etherTypeAt frame position size) (do
      require (frame.drop position) size
      return (EtherType.ofNumber (word (frame.drop position) (size - 2)),
        (frame.drop position).drop size)) := by
  unfold etherTypeAt
  refine (requireAt_agree (by omega) hlimit).bind fun _ _ hlength => ?_
  rw [wordAt_eq (by omega), Counter.add_of_lt hlimit, List.drop_drop]
  exact .found ⟨Nat.le_refl _, rfl⟩

/-- What an internet layer finds, with the position of its payload, and the same with the payload. -/
def Carries (frame : Octets) (limit : Nat) (found : Address × Address × Protocol × Nat)
    (left : Address × Address × Protocol × Octets) : Prop :=
  found.2.2.2 ≤ limit ∧ left = (found.1, found.2.1, found.2.2.1, frame.drop found.2.2.2)

/-- A header of version 4 has at most fifteen words. -/
theorem internet4At_agree (hlimit : position + 60 < Word.count) :
    Agree (Carries frame (position + 60)) (internet4At frame position)
      (internet4 (frame.drop position)) := by
  unfold internet4At internet4
  refine (requireAt_agree (by decide) (by omega)).bind fun _ _ hlength => ?_
  rw [← Nat.add_zero position, octetAt_eq (by omega), Nat.add_zero]
  generalize hfirst : octet (frame.drop position) 0 = first
  have hwords : (first &&& 0x0f).toNat ≤ 15 := by
    rw [UInt8.toNat_and]
    exact Nat.and_le_right
  show Agree _ (if first >>> 4 ≠ 4 then _ else _) (if first >>> 4 ≠ 4 then _ else _)
  by_cases hversion : first >>> 4 ≠ 4
  · rw [if_pos hversion, if_pos hversion]
    exact .refused _
  rw [if_neg hversion, if_neg hversion]
  show Agree _ (if (first &&& 0x0f).toNat * 4 < 20 then _ else _)
    (if (first &&& 0x0f).toNat * 4 < 20 then _ else _)
  by_cases hsize : (first &&& 0x0f).toNat * 4 < 20
  · rw [if_pos hsize, if_pos hsize]
    exact .refused _
  rw [if_neg hsize, if_neg hsize, octetAt_eq (by omega), fieldAt_eq (by omega), fieldAt_eq (by omega),
    Counter.add_of_lt (by omega), List.drop_drop]
  exact .found ⟨by show position + _ ≤ _; omega, rfl⟩

theorem internet6At_agree (hlimit : position + 60 < Word.count) :
    Agree (Carries frame (position + 60)) (internet6At frame position)
      (internet6 (frame.drop position)) := by
  unfold internet6At internet6
  refine (requireAt_agree (by decide) (by omega)).bind fun _ _ hlength => ?_
  rw [← Nat.add_zero position, octetAt_eq (by omega), Nat.add_zero]
  generalize hfirst : octet (frame.drop position) 0 = first
  show Agree _ (if first >>> 4 ≠ 6 then _ else _) (if first >>> 4 ≠ 6 then _ else _)
  by_cases hversion : first >>> 4 ≠ 6
  · rw [if_pos hversion, if_pos hversion]
    exact .refused _
  rw [if_neg hversion, if_neg hversion, octetAt_eq (by omega), fieldAt_eq (by omega),
    fieldAt_eq (by omega), Counter.add_of_lt (by omega), List.drop_drop]
  exact .found ⟨by show position + _ ≤ _; omega, rfl⟩

theorem internetAt_agree (etherType : EtherType) (hlimit : position + 60 < Word.count) :
    Agree (Carries frame (position + 60)) (internetAt frame etherType position)
      (internet etherType (frame.drop position)) := by
  cases etherType with
  | ipv4 => exact internet4At_agree hlimit
  | ipv6 => exact internet6At_agree hlimit
  | vlan => exact .refused _
  | other number => exact .refused _

theorem portsAt_agree (hlimit : position + 4 < Word.count) :
    Agree (fun ports _ => ports = (word (frame.drop position) 0, word (frame.drop position) 2))
      (portsAt frame position) (require (frame.drop position) 4) := by
  unfold portsAt
  rw [← bind_pure (require (frame.drop position) 4)]
  refine (requireAt_agree (by decide) hlimit).bind fun _ _ hlength => ?_
  rw [← Nat.add_zero position, wordAt_eq (by omega), Nat.add_zero, wordAt_eq (by omega)]
  exact .found rfl

theorem require_of_le {octets : Octets} (h : size ≤ octets.length) :
    require octets size = .ok () := if_neg (Nat.not_lt.2 h)

theorem transportAt_agree (protocol : Protocol) (hlimit : position + 60 < Word.count) :
    Agree Eq (transportAt frame protocol position) (transport protocol (frame.drop position)) := by
  have hports : Agree _ (portsAt frame position) _ := portsAt_agree (by omega)
  have hcontrol : Agree Eq (do
        requireAt frame position 2
        return ((← wordAt frame position), (0 : UInt16), (0 : UInt8)))
      (do
        require (frame.drop position) 2
        return (word (frame.drop position) 0, (0 : UInt16), (0 : UInt8))) := by
    refine (requireAt_agree (by decide) (by omega)).bind fun _ _ hlength => ?_
    rw [← Nat.add_zero position, wordAt_eq (by omega), Nat.add_zero]
    exact .found rfl
  cases protocol with
  | tcp =>
    refine (requireAt_agree (by decide) (by omega)).bind fun _ _ hlength => ?_
    have hleft : 4 ≤ (frame.drop position).length := by
      rw [List.length_drop]
      omega
    rw [require_of_le hleft] at hports
    obtain ⟨_, hfound, rfl⟩ := hports.eq_pure
    rw [hfound, pure_bind, octetAt_eq (by omega)]
    exact .found rfl
  | udp =>
    refine hports.bind ?_
    rintro _ - rfl
    exact .found rfl
  | icmp => exact hcontrol
  | icmp6 => exact hcontrol
  | other number => exact .found rfl

theorem checkedHeaders_agree (frame : Octets) :
    Agree Eq (checkedHeaders frame) (headers frame) := by
  -- With a tag or without one, the internet layer is at a position below 18.
  have htail (found : EtherType × Nat) (left : EtherType × Octets) (h : Behind frame 18 found left) :
      Agree Eq (do
          let layer ← internetAt frame found.1 found.2
          let ports ← transportAt frame layer.2.2.1 layer.2.2.2
          return (⟨⟨⟨layer.1, ports.1⟩, ⟨layer.2.1, ports.2.1⟩, layer.2.2.1⟩, ports.2.2⟩ : Headers))
        (do
          let layer ← internet left.1 left.2
          let ports ← transport layer.2.2.1 layer.2.2.2
          return (⟨⟨⟨layer.1, ports.1⟩, ⟨layer.2.1, ports.2.1⟩, layer.2.2.1⟩, ports.2.2⟩ : Headers)) := by
    obtain ⟨hposition, rfl⟩ := h
    have hroom : found.2 + 60 < Word.count := by
      unfold Word.count
      omega
    refine (internetAt_agree found.1 hroom).bind ?_
    rintro ⟨source, target, protocol, payload⟩ - ⟨hpayload, rfl⟩
    have hroom' : payload + 60 < Word.count := by
      unfold Word.count
      simp only at hpayload
      omega
    refine (transportAt_agree protocol hroom').bind ?_
    rintro ⟨sourcePort, targetPort, tcpFlags⟩ - rfl
    exact .found rfl
  unfold checkedHeaders headers
  refine (etherTypeAt_agree (by decide) (by decide)).bind ?_
  rintro ⟨outer, behindLink⟩ - ⟨hlink, rfl⟩
  simp only at hlink
  cases outer with
  | vlan =>
    refine (etherTypeAt_agree (by decide) ?_).bind fun found left h => htail found left ⟨?_, h.2⟩
    · unfold Word.count
      omega
    · have := h.1
      omega
  | ipv4 => exact htail (.ipv4, behindLink) _ ⟨by simp only; omega, rfl⟩
  | ipv6 => exact htail (.ipv6, behindLink) _ ⟨by simp only; omega, rfl⟩
  | other number => exact htail (.other number, behindLink) _ ⟨by simp only; omega, rfl⟩

/-- No access leaves the frame, and the reading by positions finds what the reading by layers finds. -/
theorem checkedHeaders_eq (frame : Octets) :
    checkedHeaders frame = ExceptT.mk (.ok (headers frame)) :=
  (checkedHeaders_agree frame).eq

end Agreement

end Frame

end FlowTracker
