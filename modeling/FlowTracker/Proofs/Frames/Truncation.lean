import FlowTracker.Proofs.Capture.Format
import FlowTracker.Proofs.Frames.Layers
import Mathlib.Data.List.Infix

/-!
# Truncated frames

A frame that was cut says that it is too short or says what the whole frame says (`headers_truncated`).
Each layer asks for its length before it looks at a value, so it refuses a cut frame for its length or
looks at the same octets as in the whole frame; what it leaves is a beginning of what it leaves there.
`Foretells` relates the two readings, and it passes from one layer to the next.
-/

namespace FlowTracker

namespace Frame

variable {α β γ δ : Type}

/-- The first reading finds its octets too short, or it refuses them as the second one does, or both find
what is related. -/
inductive Foretells (R : α → β → Prop) : Except FrameError α → Except FrameError β → Prop where
  | tooShort (later : Except FrameError β) : Foretells R (.error .tooShort) later
  | refused (error : FrameError) : Foretells R (.error error) (.error error)
  | found {a : α} {b : β} (h : R a b) : Foretells R (.ok a) (.ok b)

namespace Foretells

theorem bind {R : α → β → Prop} {S : γ → δ → Prop} {early : Except FrameError α}
    {later : Except FrameError β} {k : α → Except FrameError γ} {l : β → Except FrameError δ}
    (h : Foretells R early later) (hk : ∀ a b, R a b → Foretells S (k a) (l b)) :
    Foretells S (early >>= k) (later >>= l) := by
  rcases h with _ | error | h
  · exact .tooShort _
  · exact .refused error
  · exact hk _ _ h

theorem eq_or {early later : Except FrameError α} (h : Foretells Eq early later) :
    early = .error .tooShort ∨ early = later := by
  rcases h with _ | error | rfl
  · exact Or.inl rfl
  · exact Or.inr rfl
  · exact Or.inr rfl

end Foretells

variable {cut whole : Octets}

/-! ### Octets that both frames have -/

section Octets

variable {start width : Nat}

theorem field_of_cut (h : cut <+: whole) (hwidth : start + width ≤ cut.length) :
    Octets.field cut start width = Octets.field whole start width := by
  rw [List.prefix_iff_eq_take.1 h]
  exact ErfHeader.field_take hwidth

theorem octet_of_cut (h : cut <+: whole) (hstart : start < cut.length) :
    octet cut start = octet whole start := by
  rw [List.prefix_iff_eq_take.1 h]
  exact ErfHeader.getD_take hstart

theorem word_of_cut (h : cut <+: whole) (hstart : start + 2 ≤ cut.length) :
    word cut start = word whole start := by
  unfold word
  rw [field_of_cut h hstart]

theorem ports_of_cut (h : cut <+: whole) {protocol : Protocol}
    (hsize : portsSize protocol ≤ cut.length) : ports protocol cut = ports protocol whole := by
  cases protocol with
  | tcp =>
    have hsource : word cut 0 = word whole 0 := word_of_cut h (Nat.le_trans (by decide) hsize)
    have htarget : word cut 2 = word whole 2 := word_of_cut h (Nat.le_trans (by decide) hsize)
    have hflags : octet cut 13 = octet whole 13 := octet_of_cut h hsize
    simp only [ports, hsource, htarget, hflags]
  | udp =>
    have hsource : word cut 0 = word whole 0 := word_of_cut h (Nat.le_trans (by decide) hsize)
    have htarget : word cut 2 = word whole 2 := word_of_cut h hsize
    simp only [ports, hsource, htarget]
  | icmp => simp only [ports, word_of_cut h hsize]
  | icmp6 => simp only [ports, word_of_cut h hsize]
  | other number => rfl

end Octets

/-! ### Layers -/

def Names (early later : Address × Address × Protocol × Octets) : Prop :=
  early.1 = later.1 ∧ early.2.1 = later.2.1 ∧ early.2.2.1 = later.2.2.1
    ∧ early.2.2.2 <+: later.2.2.2

theorem internet4_foretells (h : cut <+: whole) :
    Foretells Names (internet4 cut) (internet4 whole) := by
  by_cases hshort : cut.length < 20
  · rw [internet4_of_lt hshort]
    exact .tooShort _
  have hsize := Nat.not_lt.1 hshort
  have hfirst : octet cut 0 = octet whole 0 := octet_of_cut h (by omega)
  rw [internet4_of_le hsize, internet4_of_le (Nat.le_trans hsize h.length_le), announced, announced,
    hfirst, octet_of_cut h (by omega), field_of_cut h (by omega), field_of_cut h (by omega)]
  split
  · exact .refused _
  · -- The options may be cut off: then nothing is left of the cut frame.
    exact .found ⟨rfl, rfl, rfl, h.drop _⟩

theorem internet6_foretells (h : cut <+: whole) :
    Foretells Names (internet6 cut) (internet6 whole) := by
  by_cases hshort : cut.length < 40
  · rw [internet6_of_lt hshort]
    exact .tooShort _
  have hsize := Nat.not_lt.1 hshort
  have hfirst : octet cut 0 = octet whole 0 := octet_of_cut h (by omega)
  rw [internet6_of_le hsize, internet6_of_le (Nat.le_trans hsize h.length_le), hfirst,
    octet_of_cut h (by omega), field_of_cut h (by omega), field_of_cut h (by omega)]
  split
  · exact .refused _
  · exact .found ⟨rfl, rfl, rfl, h.drop _⟩

theorem internet_foretells (etherType : EtherType) (h : cut <+: whole) :
    Foretells Names (internet etherType cut) (internet etherType whole) := by
  cases etherType with
  | ipv4 => exact internet4_foretells h
  | ipv6 => exact internet6_foretells h
  | vlan => exact .refused _
  | other number => exact .refused _

theorem transport_foretells (protocol : Protocol) (h : cut <+: whole) :
    Foretells Eq (transport protocol cut) (transport protocol whole) := by
  by_cases hshort : cut.length < portsSize protocol
  · rw [transport_of_lt hshort]
    exact .tooShort _
  · have hsize := Nat.not_lt.1 hshort
    rw [transport_of_le hsize, transport_of_le (Nat.le_trans hsize h.length_le)]
    exact .found (ports_of_cut h hsize)

theorem datagram_foretells (etherType : EtherType) (h : cut <+: whole) :
    Foretells Eq (datagram etherType cut) (datagram etherType whole) := by
  apply (internet_foretells etherType h).bind
  rintro ⟨source, target, protocol, left⟩ ⟨source', target', protocol', left'⟩ hnames
  obtain ⟨rfl, rfl, rfl, hleft⟩ := hnames
  apply (transport_foretells protocol hleft).bind
  rintro found _ rfl
  exact .found rfl

theorem headers_foretells (h : cut <+: whole) : Foretells Eq (headers cut) (headers whole) := by
  have hle := h.length_le
  by_cases hlink : cut.length < 14
  · rw [headers_of_lt hlink]
    exact .tooShort _
  have htype : word cut 12 = word whole 12 := word_of_cut h (by omega)
  by_cases htag : IsTagged whole
  · have htag' : IsTagged cut := htype.trans htag
    by_cases hshort : cut.length < 18
    · rw [headers_tagged_of_lt (by omega) htag' hshort]
      exact .tooShort _
    · rw [headers_tagged (by omega) htag', headers_tagged (by omega) htag,
        word_of_cut h (by omega)]
      exact datagram_foretells _ (h.drop 18)
  · have hplain : ¬ IsTagged cut := fun htag' => htag (htype.symm.trans htag')
    rw [headers_untagged (by omega) hplain, headers_untagged (by omega) htag, htype]
    exact datagram_foretells _ (h.drop 14)

/-! ### Verdicts -/

/-- A frame is read without an access outside of it.  Of a part from its beginning the reading says that
it is too short, or it says the same as of the frame; so more octets behind a frame change nothing but
that it is too short, and a frame that was cut to any length is of the same flow if it can be read. -/
theorem headers_truncated (frame : Octets) :
    checkedHeaders frame = ExceptT.mk (.ok (headers frame))
    ∧ (∀ cut, cut <+: frame → headers cut = .error .tooShort ∨ headers cut = headers frame)
    ∧ (∀ more, headers frame ≠ .error .tooShort → headers (frame ++ more) = headers frame)
    ∧ ∀ length found, headers (frame.take length) = .ok found → headers frame = .ok found := by
  refine ⟨checkedHeaders_eq frame, ?_, ?_, ?_⟩
  · intro cut hcut
    exact (headers_foretells hcut).eq_or
  · intro more hlong
    have hmore := (headers_foretells (List.prefix_append frame more)).eq_or
    exact (hmore.resolve_left hlong).symm
  · intro length found hfound
    rcases (headers_foretells (List.take_prefix length frame)).eq_or with hshort | heq
    · rw [hshort] at hfound
      cases hfound
    · rw [← heq, hfound]

/-- A tagged UDP frame of 46 octets whose header has options, cut inside the options and filled up behind
the ports. -/
theorem headers_truncated_of_options :
    let frame : Octets := List.replicate 12 0 ++ [0x81, 0x00, 0x00, 0x64, 0x08, 0x00,
      0x46, 0, 0, 32, 0, 0, 0, 0, 64, 17, 0, 0, 10, 0, 0, 1, 10, 0, 0, 2, 1, 1, 1, 1, 0, 53, 20, 233]
    headers (frame.take 40) = .error .tooShort
    ∧ headers (frame ++ [7]) = headers frame
    ∧ headers (frame ++ [7]) = .ok
      ⟨⟨⟨.v4 0x0a000001, 53⟩, ⟨.v4 0x0a000002, 5353⟩, .udp⟩, 0⟩ := by
  intro frame
  obtain ⟨-, hcut, hmore, -⟩ := headers_truncated frame
  obtain ⟨-, -, -, hlength⟩ := headers_truncated (frame ++ [7])
  refine ⟨?_, hmore [7] (by decide), hlength 46 _ (by decide)⟩
  exact (hcut (frame.take 40) (List.take_prefix ..)).resolve_right (by decide)

end Frame

end FlowTracker
