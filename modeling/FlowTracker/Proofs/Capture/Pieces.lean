import FlowTracker.Proofs.Capture.Records

/-!
# Captures in pieces

Two captures are alike if they differ at most in how the octets that come next are cut into pieces and
interrupted.  One call of `next` answers the same for both and leaves them alike, also after the end or an
error; by induction all calls answer the same.  With a failed read behind the octets the reading goes as
far as the octets themselves go (`Capture.calls_ignore_pieces`).
-/

namespace FlowTracker

/-- Both bring the same octets and then go on in the same way. -/
def Delivery.Alike (delivery delivery' : Delivery) : Prop :=
  ∃ pieces pieces' tail : Delivery, pieces.IsSound ∧ pieces'.IsSound
    ∧ pieces.octets = pieces'.octets ∧ delivery = pieces ++ tail ∧ delivery' = pieces' ++ tail

namespace Capture

def shown (capture : Capture) : Capture := { capture with delivery := [] }

structure Alike (capture capture' : Capture) : Prop where
  shown_eq : capture.shown = capture'.shown
  delivery : capture.delivery.Alike capture'.delivery

/-- Two readings with one answer that leave alike captures. -/
inductive Agree {α : Type} : CaptureResult α → CaptureResult α → Prop where
  | ok (a : α) {after after' : Capture} (h : after.Alike after') : Agree (.ok a after) (.ok a after')
  | error (error : CaptureError) {after after' : Capture} (h : after.Alike after') :
    Agree (.error error after) (.error error after')

theorem Agree.of_ok {α : Type} {a : α} {after : Capture} {result : CaptureResult α}
    (h : Agree (.ok a after) result) : ∃ after', result = .ok a after' ∧ after.Alike after' := by
  rcases h with ⟨_, hafter⟩
  exact ⟨_, rfl, hafter⟩

theorem Agree.of_error {α : Type} {error : CaptureError} {after : Capture} {result : CaptureResult α}
    (h : Agree (.error error after) result) :
    ∃ after', result = .error error after' ∧ after.Alike after' := by
  rcases h with _ | ⟨_, hafter⟩
  exact ⟨_, rfl, hafter⟩

namespace Alike

variable {capture capture' : Capture}

theorem view_eq {β : Type} (h : capture.Alike capture') (view : Capture → β)
    (hview : ∀ capture, view capture = view capture.shown) : view capture = view capture' := by
  rw [hview capture, hview capture', h.shown_eq]

theorem offset_eq (h : capture.Alike capture') : capture.offset = capture'.offset :=
  h.view_eq Capture.offset fun _ => rfl

/-- What changes nothing of the delivery, and does not look at it, keeps captures alike. -/
theorem congr (h : capture.Alike capture') (change : Capture → Capture)
    (hshown : ∀ capture, (change capture).shown = (change capture.shown).shown)
    (hdelivery : ∀ capture, (change capture).delivery = capture.delivery) :
    (change capture).Alike (change capture') := by
  constructor
  · rw [hshown capture, hshown capture', h.shown_eq]
  · rw [hdelivery, hdelivery]
    exact h.delivery

theorem read (h : capture.Alike capture') (want : Nat) :
    Agree (capture.read want) (capture'.read want) := by
  obtain ⟨hshown, pieces, pieces', tail, hsound, hsound', hoctets, hdelivery, hdelivery'⟩ := h
  obtain ⟨rest, hrest, hleft, hfill⟩ := Delivery.fill_append hsound want tail
  obtain ⟨rest', hrest', hleft', hfill'⟩ := Delivery.fill_append hsound' want tail
  rw [← hoctets] at hfill' hleft'
  unfold Capture.read
  rw [hdelivery, hdelivery', hfill, hfill']
  generalize Delivery.fill (want - pieces.octets.length) tail = asked
  have halike : Delivery.Alike (rest ++ asked.2) (rest' ++ asked.2) :=
    ⟨rest, rest', asked.2, hrest, hrest', hleft.trans hleft'.symm, rfl, rfl⟩
  rcases asked with ⟨error | found, left⟩
  · exact .error _ ⟨hshown, halike⟩
  · exact .ok _ ⟨hshown, halike⟩

theorem readBody (h : capture.Alike capture') (header : ErfHeader) :
    Agree (capture.readBody header) (capture'.readBody header) := by
  unfold Capture.readBody
  rw [← h.offset_eq]
  by_cases hlow : header.recordLength.toNat < ErfHeader.size
  · rw [if_pos hlow, if_pos hlow]
    exact .error _ h
  rw [if_neg hlow, if_neg hlow]
  have hread := h.read (header.recordLength.toNat - ErfHeader.size)
  generalize capture.read (header.recordLength.toNat - ErfHeader.size) = result at hread ⊢
  generalize capture'.read (header.recordLength.toNat - ErfHeader.size) = result' at hread ⊢
  rcases hread with ⟨body, hafter⟩ | ⟨error, hafter⟩
  · simp only
    split
    · exact .ok _ (hafter.congr
        (fun after => { after with offset := capture.offset + header.recordLength.toNat })
        (fun _ => rfl) (fun _ => rfl))
    · exact .error _ hafter
  · exact .error _ hafter

theorem readRecord (h : capture.Alike capture') :
    Agree capture.readRecord capture'.readRecord := by
  unfold Capture.readRecord
  rw [← h.offset_eq]
  have hread := h.read ErfHeader.size
  generalize capture.read ErfHeader.size = result at hread ⊢
  generalize capture'.read ErfHeader.size = result' at hread ⊢
  rcases hread with ⟨raw, hafter⟩ | ⟨error, hafter⟩
  · simp only
    by_cases hnone : raw.length = 0
    · rw [if_pos hnone, if_pos hnone]
      exact .ok _ hafter
    rw [if_neg hnone, if_neg hnone]
    by_cases hfull : raw.length = ErfHeader.size
    · rw [if_pos hfull, if_pos hfull]
      have hbody := hafter.readBody (.ofOctets raw)
      generalize Capture.readBody _ (.ofOctets raw) = result at hbody ⊢
      generalize Capture.readBody _ (.ofOctets raw) = result' at hbody ⊢
      rcases hbody with ⟨body, hlast⟩ | ⟨error, hlast⟩
      · exact .ok _ hlast
      · exact .error _ hlast
    · rw [if_neg hfull, if_neg hfull]
      exact .error _ hafter
  · exact .error _ hafter

theorem unpack (h : capture.Alike capture') (header : ErfHeader) (body : Octets) :
    Agree (capture.unpack header body) (capture'.unpack header body) := by
  unfold Capture.unpack
  by_cases hshort : body.length < ErfHeader.padding
  · rw [if_pos hshort, if_pos hshort, ← h.offset_eq]
    exact .error _ h
  · rw [if_neg hshort, if_neg hshort]
    refine .ok _ (h.congr (fun capture => { capture.reportFlags header with
      packets := capture.packets + 1
      bytes := capture.bytes + header.wireLength.toNat }) (fun capture => ?_) fun capture => ?_)
    · unfold reportFlags
      split <;> rfl
    · exact reportFlags_delivery header

/-- Alike captures answer a call alike. -/
theorem next (h : capture.Alike capture') : Agree capture.next capture'.next := by
  -- The induction is on the records that are passed over.
  induction capture using Capture.next.induct generalizing capture' with
  | case1 capture error after hrecord =>
    obtain ⟨after', hrecord', hafter⟩ := (hrecord ▸ h.readRecord).of_error
    rw [next_of_error hrecord, next_of_error hrecord']
    exact .error _ hafter
  | case2 capture after hrecord =>
    obtain ⟨after', hrecord', hafter⟩ := (hrecord ▸ h.readRecord).of_ok
    rw [next_of_none hrecord, next_of_none hrecord']
    exact .ok _ (hafter.congr
      (fun after => after.report
        (.captureEnded after.label after.packets after.bytes after.skipped))
      (fun _ => rfl) fun _ => rfl)
  | case3 capture header body after hrecord htype error last hunpack =>
    obtain ⟨after', hrecord', hafter⟩ := (hrecord ▸ h.readRecord).of_ok
    obtain ⟨last', hunpack', hlast⟩ := (hunpack ▸ hafter.unpack header body).of_error
    rw [next_of_record hrecord, next_of_record hrecord', if_pos htype, if_pos htype, hunpack, hunpack']
    exact .error _ hlast
  | case4 capture header body after hrecord htype packet last hunpack =>
    obtain ⟨after', hrecord', hafter⟩ := (hrecord ▸ h.readRecord).of_ok
    obtain ⟨last', hunpack', hlast⟩ := (hunpack ▸ hafter.unpack header body).of_ok
    rw [next_of_record hrecord, next_of_record hrecord', if_pos htype, if_pos htype, hunpack, hunpack']
    exact .ok _ hlast
  | case5 capture header body after hrecord htype ih =>
    obtain ⟨after', hrecord', hafter⟩ := (hrecord ▸ h.readRecord).of_ok
    rw [next_of_record hrecord, next_of_record hrecord', if_neg htype, if_neg htype]
    exact ih (hafter.congr (fun after => after.skip header) (fun _ => rfl) fun _ => rfl)

end Alike

/-! ### Calls -/

structure Call where
  answer : Except CaptureError (Option (Timestamp × Octets))
  packets : Nat
  bytes : Nat
  skipped : Nat
  deriving DecidableEq

def Call.of (answer : Except CaptureError (Option (Timestamp × Octets))) (after : Capture) : Call :=
  ⟨answer, after.packets, after.bytes, after.skipped⟩

def calls : Nat → Capture → List Call
  | 0, _ => []
  | count + 1, capture =>
    match capture.next with
    | .ok found after => .of (.ok found) after :: calls count after
    | .error error after => .of (.error error) after :: calls count after

theorem Alike.calls {capture capture' : Capture} (h : capture.Alike capture') (count : Nat) :
    Capture.calls count capture = Capture.calls count capture' := by
  induction count generalizing capture capture' with
  | zero => rfl
  | succ count ih =>
    have hnext := h.next
    unfold Capture.calls
    generalize capture.next = result at hnext ⊢
    generalize capture'.next = result' at hnext ⊢
    rcases hnext with ⟨found, hafter⟩ | ⟨error, hafter⟩
    · simp only
      rw [ih hafter, hafter.view_eq (Call.of (.ok found)) fun _ => rfl]
    · simp only
      rw [ih hafter, hafter.view_eq (Call.of (.error error)) fun _ => rfl]

open IsErfRecord (isEthernet packet)

/-- How the octets of a capture arrive does not show.  Two deliveries that bring the same octets, and then
go on in the same way, yield the same answers and counters call by call, after the end and after errors
too.  If a read fails behind the octets, the packets before the first error are those of the records that
begin the octets, and that error is a bad length that the octets show there, or else the failure. -/
theorem calls_ignore_pieces (octets : Octets) (label : String) :
    (∀ delivery delivery' : Delivery, delivery.IsSound → delivery'.IsSound →
      delivery.octets = octets → delivery'.octets = octets → ∀ (tail : Delivery) (count : Nat),
      (ofDelivery label (delivery ++ tail)).calls count
        = (ofDelivery label (delivery' ++ tail)).calls count)
    ∧ ∃ records rest, SplitsInto octets records rest
      ∧ ∀ delivery : Delivery, delivery.IsSound → delivery.octets = octets →
        ∀ (error : String) (more : Delivery),
        (ofDelivery label (delivery ++ .failure error :: more)).readAll.packets
          = (records.filter isEthernet).map packet
        ∧ (ofDelivery label (delivery ++ .failure error :: more)).readAll.ending
          = some (CaptureError.atFailure error records.flatten.length rest) := by
  constructor
  · intro delivery delivery' hsound hsound' hoctets hoctets' tail count
    have halike : Alike (ofDelivery label (delivery ++ tail)) (ofDelivery label (delivery' ++ tail)) :=
      ⟨rfl, delivery, delivery', tail, hsound, hsound', hoctets.trans hoctets'.symm, rfl, rfl⟩
    exact halike.calls count
  · obtain ⟨records, rest, hsplit⟩ := SplitsInto.exists_split octets
    refine ⟨records, rest, hsplit, ?_⟩
    intro delivery hsound hoctets error more
    have hahead : (ofDelivery label (delivery ++ .failure error :: more)).Ahead octets
        (.failure error :: more) := ⟨delivery, hsound, hoctets, rfl⟩
    obtain ⟨hpackets, hending⟩ := readAll_failure hahead hsplit
    refine ⟨hpackets, hending.trans ?_⟩
    rw [ofDelivery, Nat.zero_add]

/-- A packet and a record too short for its padding, both cut within their headers. -/
theorem calls_ignore_pieces_of_cut :
    let written : ErfRecord :=
      ⟨⟨0x180000000, ErfHeader.ethernet, 0, 20, 0, 5⟩, [0, 0, 7, 8], by decide, by decide⟩
    let bad : Octets := [0, 0, 0, 0, 0, 0, 0, 0, 2, 0, 0, 17, 0, 0, 0, 5, 0]
    let pieces : Delivery := [.data (written.octets.take 5), .interrupted,
      .data (written.octets.drop 5 ++ bad.take 3), .data (bad.drop 3)]
    (∀ (tail : Delivery) (count : Nat),
      (ofDelivery "capture" (pieces ++ tail)).calls count
        = (ofDelivery "capture" (.data (written.octets ++ bad) :: tail)).calls count)
    ∧ (ofDelivery "capture" (pieces ++ [.failure "gone"])).readAll.packets = [(⟨1, 500000⟩, [7])]
    ∧ (ofDelivery "capture" (pieces ++ [.failure "gone"])).readAll.ending
      = some (.badRecordLength 20 17) := by
  intro written bad pieces
  have hsound : pieces.IsSound := by
    intro error hmem
    simp [pieces] at hmem
  have hwhole : Delivery.IsSound [.data (written.octets ++ bad)] := by
    intro error hmem
    simp at hmem
  have hoctets : pieces.octets = written.octets ++ bad := by decide
  have hsplit : SplitsInto (written.octets ++ bad) [written.octets] bad := by
    refine ⟨rfl, ?_, ?_⟩
    · intro record hmem
      rw [List.mem_singleton.1 hmem]
      exact written.isErfRecord
    · intro record hrecord hpre
      exact absurd (IsErfRecord.starts_iff.1 ⟨record, hrecord, hpre⟩) (by decide)
  obtain ⟨hcalls, records, rest, hsplit', hfails⟩ :=
    calls_ignore_pieces (written.octets ++ bad) "capture"
  obtain ⟨rfl, rfl⟩ := hsplit'.unique hsplit
  obtain ⟨hpackets, hending⟩ := hfails pieces hsound hoctets "gone" []
  refine ⟨hcalls pieces _ hsound hwhole hoctets (List.append_nil _), hpackets.trans ?_, hending.trans ?_⟩
  · decide
  · decide

end Capture

end FlowTracker
