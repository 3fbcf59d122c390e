import FlowTracker.Proofs.Capture.Records
import FlowTracker.Proofs.Frames.Layers

/-!
# Tagged frames

A tag behind the hardware addresses moves the rest of a frame by four octets.  Nothing that is read behind
the tag depends on where it stands, so the tag changes neither what is found nor why a frame is refused;
a second tag is refused as an ether type that is not supported (`headers_insertTag`).
-/

namespace FlowTracker

namespace Frame

def tag (control : UInt16) : Octets := [0x81, 0x00] ++ Octets.ofBigEndian 2 control.toNat

def insertTag (control : UInt16) (frame : Octets) : Octets :=
  frame.take 12 ++ tag control ++ frame.drop 12

@[simp] theorem length_tag (control : UInt16) : (tag control).length = 4 := by simp [tag]

variable {frame : Octets} (control : UInt16)

/-- The ether type at position 12 moves to position 16. -/
theorem drop_insertTag (h : 12 ≤ frame.length) :
    (insertTag control frame).drop 16 = frame.drop 12 := by
  apply List.drop_left'
  simp only [List.length_append, List.length_take, length_tag]
  omega

theorem length_insertTag (h : 12 ≤ frame.length) :
    (insertTag control frame).length = frame.length + 4 := by
  simp only [insertTag, List.length_append, List.length_take, List.length_drop, length_tag]
  omega

theorem word_insertTag (h : 12 ≤ frame.length) :
    word (insertTag control frame) 16 = word frame 12 := by
  unfold word Octets.field
  rw [drop_insertTag control h]

theorem drop_insertTag_datagram (h : 12 ≤ frame.length) :
    (insertTag control frame).drop 18 = frame.drop 14 := by
  rw [← List.drop_drop (i := 2) (j := 16), drop_insertTag control h, List.drop_drop]

theorem isTagged_insertTag (h : 12 ≤ frame.length) : IsTagged (insertTag control frame) := by
  have hfield : Octets.field (insertTag control frame) 12 2 = [0x81, 0x00] := by
    rw [insertTag, tag, List.append_assoc, List.append_assoc]
    exact ErfHeader.field_append (by rw [List.length_take]; omega) rfl _
  unfold IsTagged word
  rw [hfield]
  rfl

/-- Behind a tag a frame is read as without it. -/
theorem headers_insertTag_eq (h : 14 ≤ frame.length) : headers (insertTag control frame)
    = datagram (EtherType.ofNumber (word frame 12)) (frame.drop 14) := by
  have hlength : (insertTag control frame).length = frame.length + 4 :=
    length_insertTag control (by omega)
  rw [headers_tagged (by omega) (isTagged_insertTag control (by omega)),
    word_insertTag control (by omega), drop_insertTag_datagram control (by omega)]

/-- A tag in a frame that has none leaves the reading as it is, whatever it finds or refuses.  Where two
tags were inserted the inner one is refused. -/
theorem headers_insertTag (frame : Octets) (h : 12 ≤ frame.length) :
    ((14 ≤ frame.length → ¬ IsTagged frame) →
      ∀ control, headers (insertTag control frame) = headers frame)
    ∧ ∀ control control', headers (insertTag control (insertTag control' frame))
      = .error (.unsupportedEtherType 0x8100) := by
  constructor
  · intro hplain control
    by_cases hlink : frame.length < 14
    · -- With the tag the link layer is complete, and what is missing is the ether type behind the tag.
      have hlength := length_insertTag control h
      rw [headers_of_lt hlink,
        headers_tagged_of_lt (by omega) (isTagged_insertTag control h) (by omega)]
    · have hlink := Nat.not_lt.1 hlink
      rw [headers_insertTag_eq control hlink, headers_untagged hlink (hplain hlink)]
  · intro control control'
    have hlength := length_insertTag control' h
    have htype : word (insertTag control' frame) 12 = 0x8100 := isTagged_insertTag control' h
    rw [headers_insertTag_eq control (by omega), htype]
    rfl

/-- A control message, and a frame that ends inside its ether type. -/
theorem headers_insertTag_of_two :
    let frame : Octets := List.replicate 12 7 ++ [0x08, 0x00,
      0x45, 0, 0, 24, 0, 0, 0, 0, 64, 1, 0, 0, 10, 0, 0, 1, 10, 0, 0, 2, 8, 0, 1, 2]
    headers (insertTag 0x2064 frame) = headers frame
    ∧ headers frame = .ok ⟨⟨⟨.v4 0x0a000001, 2048⟩, ⟨.v4 0x0a000002, 0⟩, .icmp⟩, 0⟩
    ∧ headers (insertTag 1 (insertTag 2 frame)) = .error (.unsupportedEtherType 0x8100)
    ∧ headers (insertTag 0x2064 (frame.take 13)) = headers (frame.take 13) := by
  intro frame
  obtain ⟨htag, htwo⟩ := headers_insertTag frame (by decide)
  obtain ⟨hshort, -⟩ := headers_insertTag (frame.take 13) (by decide)
  refine ⟨htag ?_ 0x2064, by decide, htwo 1 2, hshort ?_ 0x2064⟩
  · intro _ hvlan
    exact absurd hvlan (by unfold IsTagged; decide)
  · intro hlong
    exact absurd hlong (by decide)

end Frame

end FlowTracker
