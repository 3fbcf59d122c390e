import FlowTracker.Proofs.Capture.Records
import FlowTracker.Proofs.Checked.Arithmetic

/-!
# Captures read with every counter checked

`Capture.checkedNext` reads the next packet as `Capture.next` does and checks each sum and difference of
offsets, lengths and counters.  A capture that has read `limit` octets at most, and will have, satisfies
`Capture.IsWithin`: every record moves the offset by the octets that it takes from the delivery, and adds
at most 65535 to the bytes.  For fewer than 2^48 octets no check fails, so that both readers do the same.
-/

namespace FlowTracker

namespace Capture

def checkedBody (capture : Capture) (header : ErfHeader) : Except Fault (CaptureResult Octets) :=
  if header.recordLength.toNat < ErfHeader.size then
    .ok (.error (.badRecordLength capture.offset header.recordLength) capture)
  else do
    let length ← Counter.sub header.recordLength.toNat ErfHeader.size
    match capture.read length with
    | .error error after => return .error error after
    | .ok body after =>
      if body.length = length then
        let offset ← Counter.add capture.offset header.recordLength.toNat
        return .ok body { after with offset }
      else return .error (.truncated capture.offset) after

def checkedRecord (capture : Capture) :
    Except Fault (CaptureResult (Option (ErfHeader × Octets))) :=
  match capture.read ErfHeader.size with
  | .error error after => .ok (.error error after)
  | .ok raw after =>
    if raw.length = 0 then .ok (.ok none after)
    else if raw.length = ErfHeader.size then do
      match ← after.checkedBody (.ofOctets raw) with
      | .error error last => return .error error last
      | .ok body last => return .ok (some (.ofOctets raw, body)) last
    else .ok (.error (.truncated capture.offset) after)

def checkedUnpack (capture : Capture) (header : ErfHeader) (body : Octets) :
    Except Fault (CaptureResult (Timestamp × Octets)) :=
  if body.length < ErfHeader.padding then do
    let offset ← Counter.sub capture.offset header.recordLength.toNat
    return .error (.badRecordLength offset header.recordLength) capture
  else do
    let packets ← Counter.add capture.packets 1
    let bytes ← Counter.add capture.bytes header.wireLength.toNat
    let time ← ErfHeader.checkedTimestamp header.time
    return .ok (time, (body.drop ErfHeader.padding).take header.frameLength)
      { capture.reportFlags header with packets, bytes }

variable {capture after : Capture} {header : ErfHeader} {body : Octets}

/-! ### Where no check fails -/

theorem checkedBody_eq_ok {result : CaptureResult Octets}
    (h : capture.checkedBody header = .ok result) : capture.readBody header = result := by
  unfold checkedBody at h
  unfold readBody
  by_cases hshort : header.recordLength.toNat < ErfHeader.size
  · rw [if_pos hshort] at h ⊢
    exact Except.ok.inj h
  rw [if_neg hshort, Counter.sub_of_le (Nat.not_lt.1 hshort), bind_ok] at h
  rw [if_neg hshort]
  cases hread : capture.read (header.recordLength.toNat - ErfHeader.size) with
  | error error after =>
    rw [hread] at h
    exact Except.ok.inj h
  | ok body after =>
    rw [hread] at h
    simp only at h ⊢
    split at h
    · rename_i hlength
      rw [if_pos hlength]
      cases hoffset : Counter.add capture.offset header.recordLength.toNat with
      | error fault =>
        rw [hoffset] at h
        cases h
      | ok offset =>
        rw [hoffset] at h
        rw [← Counter.add_eq_ok hoffset]
        exact Except.ok.inj h
    · rename_i hlength
      rw [if_neg hlength]
      exact Except.ok.inj h

theorem checkedRecord_eq_ok {result : CaptureResult (Option (ErfHeader × Octets))}
    (h : capture.checkedRecord = .ok result) : capture.readRecord = result := by
  unfold checkedRecord at h
  unfold readRecord
  cases hread : capture.read ErfHeader.size with
  | error error after =>
    rw [hread] at h
    exact Except.ok.inj h
  | ok raw after =>
    rw [hread] at h
    simp only at h ⊢
    split at h
    · rename_i hnone
      rw [if_pos hnone]
      exact Except.ok.inj h
    · rename_i hnone
      rw [if_neg hnone]
      split at h
      · rename_i hfull
        rw [if_pos hfull]
        cases hbody : after.checkedBody (.ofOctets raw) with
        | error fault =>
          rw [hbody] at h
          cases h
        | ok answer =>
          rw [hbody, bind_ok] at h
          rw [checkedBody_eq_ok hbody]
          cases answer with
          | error error last => exact Except.ok.inj h
          | ok body last => exact Except.ok.inj h
      · rename_i hfull
        rw [if_neg hfull]
        exact Except.ok.inj h

def checkedNext (capture : Capture) : Except Fault (CaptureResult (Option (Timestamp × Octets))) :=
  match _hrecord : capture.checkedRecord with
  | .error fault => .error fault
  | .ok (.error error after) => .ok (.error error after)
  | .ok (.ok none after) =>
    .ok (.ok none (after.report
      (.captureEnded after.label after.packets after.bytes after.skipped)))
  | .ok (.ok (some (header, body)) after) =>
    if header.type = ErfHeader.ethernet then do
      match ← after.checkedUnpack header body with
      | .error error last => return .error error last
      | .ok packet last => return .ok (some packet) last
    else
      match Counter.add after.skipped 1 with
      | .error fault => .error fault
      | .ok _ => (after.skip header).checkedNext
  termination_by capture.delivery.size
  decreasing_by
    have hsize := size_readRecord (checkedRecord_eq_ok _hrecord)
    exact hsize

theorem checkedNext_of_record (result : CaptureResult (Option (ErfHeader × Octets))) :
    capture.checkedRecord = .ok result → capture.checkedNext = match result with
      | .error error after => .ok (.error error after)
      | .ok none after => .ok (.ok none (after.report
          (.captureEnded after.label after.packets after.bytes after.skipped)))
      | .ok (some (header, body)) after =>
        if header.type = ErfHeader.ethernet then do
          match ← after.checkedUnpack header body with
          | .error error last => return .error error last
          | .ok packet last => return .ok (some packet) last
        else
          match Counter.add after.skipped 1 with
          | .error fault => .error fault
          | .ok _ => (after.skip header).checkedNext := by
  intro h
  rw [checkedNext]
  split <;> rename_i hrecord <;> rw [h] at hrecord <;> cases hrecord <;> rfl

theorem checkedNext_of_fault {fault : Fault} (h : capture.checkedRecord = .error fault) :
    capture.checkedNext = .error fault := by
  rw [checkedNext]
  split <;> rename_i hrecord <;> rw [h] at hrecord <;> cases hrecord
  rfl

theorem checkedUnpack_eq_ok {result : CaptureResult (Timestamp × Octets)}
    (h : capture.checkedUnpack header body = .ok result) : capture.unpack header body = result := by
  unfold checkedUnpack at h
  unfold unpack
  by_cases hshort : body.length < ErfHeader.padding
  · rw [if_pos hshort] at h ⊢
    cases hoffset : Counter.sub capture.offset header.recordLength.toNat with
    | error fault =>
      rw [hoffset] at h
      cases h
    | ok offset =>
      rw [hoffset] at h
      rw [← Counter.sub_eq_ok hoffset]
      exact Except.ok.inj h
  · rw [if_neg hshort, ErfHeader.checkedTimestamp_eq] at h
    rw [if_neg hshort]
    cases hpackets : Counter.add capture.packets 1 with
    | error fault =>
      rw [hpackets] at h
      cases h
    | ok packets =>
      cases hbytes : Counter.add capture.bytes header.wireLength.toNat with
      | error fault =>
        rw [hpackets, hbytes] at h
        cases h
      | ok bytes =>
        rw [hpackets, hbytes] at h
        rw [← Counter.add_eq_ok hpackets, ← Counter.add_eq_ok hbytes]
        exact Except.ok.inj h

theorem checkedNext_eq_ok {result : CaptureResult (Option (Timestamp × Octets))}
    (h : capture.checkedNext = .ok result) : capture.next = result := by
  induction hsize : capture.delivery.size using Nat.strongRecOn generalizing capture with
  | _ size ih =>
    cases hrecord : capture.checkedRecord with
    | error fault =>
      rw [checkedNext_of_fault hrecord] at h
      cases h
    | ok record =>
      rw [checkedNext_of_record record hrecord] at h
      have hread := checkedRecord_eq_ok hrecord
      cases record with
      | error error after => exact (next_of_error hread).trans (Except.ok.inj h)
      | ok found after =>
        cases found with
        | none => exact (next_of_none hread).trans (Except.ok.inj h)
        | some found =>
          obtain ⟨header, body⟩ := found
          have hless := size_readRecord hread
          rw [next_of_record hread]
          simp only at h
          split at h
          · rename_i htype
            rw [if_pos htype]
            cases hunpack : after.checkedUnpack header body with
            | error fault =>
              rw [hunpack] at h
              cases h
            | ok answer =>
              rw [hunpack, bind_ok] at h
              rw [checkedUnpack_eq_ok hunpack]
              cases answer with
              | error error last => exact Except.ok.inj h
              | ok packet last => exact Except.ok.inj h
          · rename_i htype
            rw [if_neg htype]
            split at h
            · cases h
            · exact ih _ (hsize ▸ hless) h rfl

/-! ### What a record takes -/

/-- The counters stay, the offset moves by `taken` octets, and the delivery loses as many. -/
structure Moves (capture after : Capture) (taken : Nat) : Prop where
  offset_eq : after.offset = capture.offset + taken
  size_eq : taken + after.delivery.size = capture.delivery.size
  packets_eq : after.packets = capture.packets
  bytes_eq : after.bytes = capture.bytes
  skipped_eq : after.skipped = capture.skipped

theorem read_eq_ok {want : Nat} {octets : Octets} (h : capture.read want = .ok octets after) :
    ∃ delivery, after = { capture with delivery }
      ∧ octets.length + delivery.size = capture.delivery.size := by
  have hsize := size_read h
  unfold read at h
  split at h
  · cases h
    exact ⟨_, rfl, hsize⟩
  · cases h

theorem readRecord_moves (h : capture.readRecord = .ok (some (header, body)) after) :
    ErfHeader.size + body.length = header.recordLength.toNat
      ∧ capture.Moves after header.recordLength.toNat := by
  unfold readRecord at h
  cases hraw : capture.read ErfHeader.size with
  | error error between =>
    rw [hraw] at h
    cases h
  | ok raw between =>
    rw [hraw] at h
    simp only at h
    split at h
    · cases h
    split at h
    · rename_i hfull
      obtain ⟨delivery, rfl, hsize⟩ := read_eq_ok hraw
      split at h
      · cases h
      · rename_i hbody
        cases h
        unfold readBody at hbody
        split at hbody
        · cases hbody
        rename_i hshort
        split at hbody
        · cases hbody
        · rename_i hread
          split at hbody
          · rename_i hlength
            cases hbody
            obtain ⟨delivery', rfl, hsize'⟩ := read_eq_ok hread
            refine ⟨by omega, rfl, ?_, rfl, rfl, rfl⟩
            simp only at hsize' ⊢
            omega
          · cases hbody
    · cases h

/-! ### No check fails -/

/-- What was read and what is to come are at most `limit` octets, and the counters belong to what was
read. -/
structure IsWithin (capture : Capture) (limit : Nat) : Prop where
  octets_le : capture.offset + capture.delivery.size ≤ limit
  counted_le : capture.packets + capture.skipped ≤ capture.offset
  bytes_le : capture.bytes ≤ 65535 * capture.packets

variable {limit : Nat}

theorem checkedBody_eq (h : capture.offset + ErfHeader.size + capture.delivery.size < Word.count)
    (header : ErfHeader) : capture.checkedBody header = .ok (capture.readBody header) := by
  unfold checkedBody readBody
  by_cases hshort : header.recordLength.toNat < ErfHeader.size
  · rw [if_pos hshort, if_pos hshort]
  rw [if_neg hshort, if_neg hshort, Counter.sub_of_le (Nat.not_lt.1 hshort), bind_ok]
  cases hread : capture.read (header.recordLength.toNat - ErfHeader.size) with
  | error error after => rfl
  | ok body after =>
    simp only
    split
    · rename_i hlength
      obtain ⟨delivery, rfl, hsize⟩ := read_eq_ok hread
      rw [Counter.add_of_lt (by omega)]
      rfl
    · rfl

theorem checkedRecord_eq (h : capture.offset + capture.delivery.size < Word.count) :
    capture.checkedRecord = .ok capture.readRecord := by
  unfold checkedRecord readRecord
  cases hread : capture.read ErfHeader.size with
  | error error after => rfl
  | ok raw after =>
    simp only
    split
    · rfl
    split
    · rename_i hfull
      obtain ⟨delivery, rfl, hsize⟩ := read_eq_ok hread
      rw [checkedBody_eq (by simp only; omega), bind_ok]
      cases readBody { capture with delivery } (.ofOctets raw) <;> rfl
    · rfl

theorem IsWithin.skip (h : capture.IsWithin limit)
    (hrecord : capture.readRecord = .ok (some (header, body)) after) :
    (after.skip header).IsWithin limit := by
  obtain ⟨hlength, hmoves⟩ := readRecord_moves hrecord
  obtain ⟨hoffset, hsize, hpackets, hbytes, hskipped⟩ := hmoves
  obtain ⟨hoctets, hcounted, hsum⟩ := h
  unfold ErfHeader.size at hlength
  refine ⟨?_, ?_, ?_⟩
  · show after.offset + after.delivery.size ≤ limit
    omega
  · show after.packets + (after.skipped + 1) ≤ after.offset
    omega
  · show after.bytes ≤ 65535 * after.packets
    rw [hbytes, hpackets]
    exact hsum

structure Pays (capture after : Capture) (limit : Nat) (packet : Timestamp × Octets) : Prop where
  within : after.IsWithin limit
  fits : packet.1.Fits
  room : capture.offset + 1 + packet.2.length ≤ after.offset

theorem checkedUnpack_eq (h : after.packets + 1 < Word.count)
    (hbytes : after.bytes + header.wireLength.toNat < Word.count)
    (hoffset : header.recordLength.toNat ≤ after.offset) :
    after.checkedUnpack header body = .ok (after.unpack header body) := by
  unfold checkedUnpack unpack
  split
  · rw [Counter.sub_of_le hoffset]
    rfl
  · rw [Counter.add_of_lt h, Counter.add_of_lt hbytes, ErfHeader.checkedTimestamp_eq]
    rfl

theorem IsWithin.unpack (h : capture.IsWithin limit)
    (hrecord : capture.readRecord = .ok (some (header, body)) after)
    {packet : Timestamp × Octets} {last : Capture}
    (hunpack : after.unpack header body = .ok packet last) : capture.Pays last limit packet := by
  obtain ⟨hlength, hmoves⟩ := readRecord_moves hrecord
  obtain ⟨hoffset, hsize, hpackets, hbytes, hskipped⟩ := hmoves
  obtain ⟨hoctets, hcounted, hsum⟩ := h
  unfold ErfHeader.size at hlength
  unfold Capture.unpack at hunpack
  split at hunpack
  · cases hunpack
  rename_i hroom
  have hwire := header.wireLength.toNat_lt
  have hframe : ((body.drop ErfHeader.padding).take header.frameLength).length
      ≤ body.length - ErfHeader.padding := by
    rw [List.length_take, List.length_drop]
    exact Nat.min_le_right ..
  cases hunpack
  refine ⟨⟨?_, ?_, ?_⟩, ErfHeader.timestamp_fits _, ?_⟩
  · simp only [reportFlags_delivery, reportFlags_offset]
    omega
  · simp only [reportFlags_offset, reportFlags_skipped]
    omega
  · simp only
    omega
  · simp only [reportFlags_offset]
    omega

theorem next_pays (h : capture.IsWithin limit) {packet : Timestamp × Octets}
    (hnext : capture.next = .ok (some packet) after) : capture.Pays after limit packet := by
  induction capture using next.induct with
  | case1 capture error after' hrecord =>
    rw [next_of_error hrecord] at hnext
    cases hnext
  | case2 capture after' hrecord =>
    rw [next_of_none hrecord] at hnext
    cases hnext
  | case3 capture header body after' hrecord htype error last hunpack =>
    rw [next_of_record hrecord, if_pos htype, hunpack] at hnext
    cases hnext
  | case4 capture header body after' hrecord htype packet' last hunpack =>
    rw [next_of_record hrecord, if_pos htype, hunpack] at hnext
    cases hnext
    exact h.unpack hrecord hunpack
  | case5 capture header body after' hrecord htype ih =>
    rw [next_of_record hrecord, if_neg htype] at hnext
    obtain ⟨hwithin, hfits, hroom⟩ := ih (h.skip hrecord) hnext
    have hoffset : after'.offset = capture.offset + header.recordLength.toNat :=
      (readRecord_moves hrecord).2.offset_eq
    have hstep : (after'.skip header).offset = after'.offset := rfl
    exact ⟨hwithin, hfits, by omega⟩

theorem IsWithin.checkedRecord_eq (h : capture.IsWithin limit) (hlimit : limit < 2 ^ 48) :
    capture.checkedRecord = .ok capture.readRecord := by
  have hoctets := h.octets_le
  apply Capture.checkedRecord_eq
  unfold Word.count
  omega

theorem IsWithin.checkedUnpack_eq (h : capture.IsWithin limit) (hlimit : limit < 2 ^ 48)
    (hrecord : capture.readRecord = .ok (some (header, body)) after) :
    after.checkedUnpack header body = .ok (after.unpack header body) := by
  obtain ⟨-, hoffset, hsize, hpackets, hbytes, hskipped⟩ := readRecord_moves hrecord
  obtain ⟨hoctets, hcounted, hsum⟩ := h
  have hwire := header.wireLength.toNat_lt
  apply Capture.checkedUnpack_eq
  · unfold Word.count
    omega
  · unfold Word.count
    omega
  · omega

/-- Below 2^48 octets no check of the reader fails. -/
theorem checkedNext_eq (h : capture.IsWithin limit) (hlimit : limit < 2 ^ 48) :
    capture.checkedNext = .ok capture.next := by
  -- The induction is on the records that are passed over; `IsWithin` holds behind each of them.
  induction capture using next.induct with
  | case1 capture error after' hrecord =>
    rw [next_of_error hrecord, checkedNext_of_record _ (h.checkedRecord_eq hlimit), hrecord]
  | case2 capture after' hrecord =>
    rw [next_of_none hrecord, checkedNext_of_record _ (h.checkedRecord_eq hlimit), hrecord]
  | case3 capture header body after' hrecord htype error last hunpack =>
    have hchecked := h.checkedUnpack_eq hlimit hrecord
    rw [next_of_record hrecord, if_pos htype, hunpack,
      checkedNext_of_record _ (h.checkedRecord_eq hlimit), hrecord]
    simp only
    rw [if_pos htype, hchecked, hunpack]
    rfl
  | case4 capture header body after' hrecord htype packet' last hunpack =>
    have hchecked := h.checkedUnpack_eq hlimit hrecord
    rw [next_of_record hrecord, if_pos htype, hunpack,
      checkedNext_of_record _ (h.checkedRecord_eq hlimit), hrecord]
    simp only
    rw [if_pos htype, hchecked, hunpack]
    rfl
  | case5 capture header body after' hrecord htype ih =>
    have hskip := h.skip hrecord
    have hskipped : after'.skipped + 1 < Word.count := by
      have hcounted : after'.packets + (after'.skipped + 1) ≤ after'.offset := hskip.counted_le
      have hoctets : after'.offset + after'.delivery.size ≤ limit := hskip.octets_le
      unfold Word.count
      omega
    rw [next_of_record hrecord, if_neg htype,
      checkedNext_of_record _ (h.checkedRecord_eq hlimit), hrecord]
    simp only
    rw [if_neg htype, Counter.add_of_lt hskipped, ih hskip]

theorem isWithin_ofDelivery (label : String) (delivery : Delivery) :
    (ofDelivery label delivery).IsWithin delivery.size := by
  refine ⟨?_, Nat.le_refl 0, Nat.le_refl 0⟩
  show 0 + delivery.size ≤ delivery.size
  omega

/-- All packets of a capture have times that fit, and their number and octets together are at most the
octets of the capture. -/
theorem readAll_within (h : capture.IsWithin limit) :
    (∀ packet ∈ capture.readAll.packets, packet.1.Fits)
      ∧ capture.offset + capture.readAll.packets.length
        + (capture.readAll.packets.map fun packet => packet.2.length).sum ≤ limit := by
  induction capture using readAll.induct with
  | case1 capture error last hnext =>
    have hoctets := h.octets_le
    have hstop : capture.next = stop (some error) last := hnext
    rw [readAll_of_stop hstop]
    refine ⟨fun packet hmem => absurd hmem List.not_mem_nil, ?_⟩
    simp only [List.length_nil, List.map_nil, List.sum_nil]
    omega
  | case2 capture last hnext =>
    have hoctets := h.octets_le
    have hstop : capture.next = stop none last := hnext
    rw [readAll_of_stop hstop]
    refine ⟨fun packet hmem => absurd hmem List.not_mem_nil, ?_⟩
    simp only [List.length_nil, List.map_nil, List.sum_nil]
    omega
  | case3 capture packet after hnext ih =>
    obtain ⟨hwithin, hfits, hroom⟩ := next_pays h hnext
    obtain ⟨hrest, hsum⟩ := ih hwithin
    rw [readAll_of_packet hnext]
    constructor
    · intro packet' hmem
      rcases List.mem_cons.1 hmem with rfl | hmem
      · exact hfits
      · exact hrest packet' hmem
    · simp only [List.length_cons, List.map_cons, List.sum_cons]
      omega

end Capture

end FlowTracker
