import FlowTracker.Proofs.Capture.Format
import Mathlib.Algebra.Ring.Nat

/-!
# What reading a capture yields

Pieces that do not fail are read as if their octets came in one piece, whatever comes behind them
(`Delivery.fill_append`).  So what `Capture.next` answers is decided by the octets that come next: it passes
over the records of other types, and hands out the frame of the first Ethernet record.  Where no record
begins, the length of the record that is not one is bad, whatever comes behind it; or octets are missing,
and then the end of the input or a failed read decides (`CaptureError.atRest`, `CaptureError.atFailure`).
-/

namespace FlowTracker

/-! ### Deliveries -/

namespace Delivery

def octets : Delivery → Octets
  | [] => []
  | .data octets :: rest => octets ++ Delivery.octets rest
  | .interrupted :: rest => Delivery.octets rest
  | .failure _ :: rest => Delivery.octets rest

def IsSound (delivery : Delivery) : Prop := ∀ error, .failure error ∉ delivery

theorem IsSound.tail {piece : Piece} {pieces : Delivery} (h : IsSound (piece :: pieces)) :
    IsSound pieces := fun error hmem => h error (List.mem_cons_of_mem _ hmem)

theorem length_octets (delivery : Delivery) : delivery.octets.length = delivery.size := by
  induction delivery with
  | nil => rfl
  | cons piece pieces ih =>
    cases piece with
    | data found => rw [octets, size, List.length_append, ih]
    | interrupted => exact ih
    | failure error => exact ih

section Fill

variable {want : Nat} {found : Octets} {pieces : Delivery}

theorem fill_data_of_le (h : want ≤ found.length) : fill want (.data found :: pieces)
    = (.ok (found.take want), .data (found.drop want) :: pieces) := by
  cases want with
  | zero => simp only [fill, List.take_zero, List.drop_zero]
  | succ want =>
    have hlong : want < (found.take (want + 1)).length := by
      rw [List.length_take]
      omega
    simp only [fill, hlong, if_true]

theorem fill_data_of_lt (h : found.length < want) : fill want (.data found :: pieces)
    = ((fill (want - found.length) pieces).1.map (found ++ ·),
      (fill (want - found.length) pieces).2) := by
  cases want with
  | zero => exact absurd h (Nat.not_lt_zero _)
  | succ want =>
    have htake : found.take (want + 1) = found := List.take_of_length_le (Nat.le_of_lt h)
    simp only [fill, htake, Nat.not_lt.2 (Nat.le_of_lt_succ h), if_false]

/-- The borders of the pieces leave no trace; what the pieces do not have is asked of the rest. -/
theorem fill_append (h : pieces.IsSound) (want : Nat) (tail : Delivery) :
    ∃ rest : Delivery, rest.IsSound ∧ rest.octets = pieces.octets.drop want
      ∧ fill want (pieces ++ tail)
        = ((fill (want - pieces.octets.length) tail).1.map (pieces.octets.take want ++ ·),
          rest ++ (fill (want - pieces.octets.length) tail).2) := by
  induction pieces generalizing want with
  | nil =>
    refine ⟨[], h, List.drop_nil.symm, ?_⟩
    simp only [octets, List.take_nil, List.nil_append, List.length_nil, Nat.sub_zero]
    rcases fill want tail with ⟨_ | found, left⟩ <;> rfl
  | cons piece pieces ih =>
    cases piece with
    | failure error => exact absurd List.mem_cons_self (h error)
    | interrupted =>
      cases want with
      | zero => exact ⟨.interrupted :: pieces, h, rfl, by simp [fill, Except.map]⟩
      | succ want =>
        obtain ⟨rest, hsound, hrest, hfill⟩ := ih h.tail (want + 1)
        refine ⟨rest, hsound, hrest, ?_⟩
        rw [List.cons_append, fill, hfill]
        rfl
    | data found =>
      by_cases hle : want ≤ found.length
      · have hnone : want - (found ++ Delivery.octets pieces).length = 0 := by
          rw [List.length_append]
          omega
        refine ⟨.data (found.drop want) :: pieces, ?_, ?_, ?_⟩
        · intro error hmem
          rcases List.mem_cons.1 hmem with heq | hmem
          · cases heq
          · exact h.tail error hmem
        · simp only [octets, List.drop_append_of_le_length hle]
        · rw [List.cons_append, fill_data_of_le hle, octets, hnone,
            List.take_append_of_le_length hle]
          simp only [fill, Except.map, List.append_nil, List.cons_append]
      · have hlt := Nat.not_le.1 hle
        have htake : found.take want = found := List.take_of_length_le (Nat.le_of_lt hlt)
        have hdrop : found.drop want = [] := List.drop_of_length_le (Nat.le_of_lt hlt)
        obtain ⟨rest, hsound, hrest, hfill⟩ := ih h.tail (want - found.length)
        refine ⟨rest, hsound, ?_, ?_⟩
        · rw [hrest, octets, List.drop_append, hdrop, List.nil_append]
        · rw [List.cons_append, fill_data_of_lt hlt, hfill, octets, List.take_append, htake,
            List.length_append, ← Nat.sub_sub]
          rcases fill (want - found.length - (octets pieces).length) tail with ⟨_ | more, left⟩
          · rfl
          · simp only [Except.map, List.append_assoc]

end Fill

/-- A delivery that does not fail is read as its octets. -/
theorem fill_eq {pieces : Delivery} (h : pieces.IsSound) (want : Nat) :
    ∃ rest, fill want pieces = (.ok (pieces.octets.take want), rest)
      ∧ rest.IsSound ∧ rest.octets = pieces.octets.drop want := by
  obtain ⟨rest, hsound, hrest, hfill⟩ := fill_append h want []
  have hend : fill (want - pieces.octets.length) [] = (.ok [], []) := by
    cases want - pieces.octets.length <;> simp only [fill]
  rw [hend, List.append_nil, List.append_nil] at hfill
  exact ⟨rest, hfill.trans (by simp only [Except.map, List.append_nil]), hsound, hrest⟩

end Delivery

/-! ### Records -/

/-- Why no record begins in the octets behind `offset`; `none` if there are no octets. -/
def CaptureError.atRest (offset : Nat) (rest : Octets) : Option CaptureError :=
  if rest = [] then none
  else if ErfHeader.size ≤ rest.length
      ∧ ((ErfHeader.ofOctets rest).recordLength.toNat < ErfHeader.size
        ∨ (ErfHeader.ofOctets rest).type = ErfHeader.ethernet
          ∧ (ErfHeader.ofOctets rest).recordLength.toNat < ErfHeader.size + ErfHeader.padding
          ∧ (ErfHeader.ofOctets rest).recordLength.toNat ≤ rest.length) then
    some (.badRecordLength offset (ErfHeader.ofOctets rest).recordLength)
  else some (.truncated offset)

/-- The error where a read fails behind these octets: a bad length that they already show, or the
failure. -/
def CaptureError.atFailure (error : String) (offset : Nat) (rest : Octets) : CaptureError :=
  match CaptureError.atRest offset rest with
  | some (.badRecordLength offset length) => .badRecordLength offset length
  | _ => .io error

namespace Capture

def Holds (capture : Capture) (octets : Octets) : Prop :=
  capture.delivery.IsSound ∧ capture.delivery.octets = octets

/-- The octets come next, and the tail comes behind them. -/
def Ahead (capture : Capture) (octets : Octets) (tail : Delivery) : Prop :=
  ∃ pieces : Delivery, pieces.IsSound ∧ pieces.octets = octets ∧ capture.delivery = pieces ++ tail

variable {capture : Capture} {octets : Octets} {tail : Delivery}

theorem holds_iff : capture.Holds octets ↔ capture.Ahead octets [] := by
  constructor
  · rintro ⟨hsound, hoctets⟩
    exact ⟨capture.delivery, hsound, hoctets, (List.append_nil _).symm⟩
  · rintro ⟨pieces, hsound, hoctets, hdelivery⟩
    rw [List.append_nil] at hdelivery
    rw [Holds, hdelivery]
    exact ⟨hsound, hoctets⟩

theorem read_ahead (h : capture.Ahead octets tail) {want : Nat} (hwant : want ≤ octets.length) :
    ∃ delivery, capture.read want = .ok (octets.take want) { capture with delivery }
      ∧ ({ capture with delivery } : Capture).Ahead (octets.drop want) tail := by
  obtain ⟨pieces, hsound, rfl, hdelivery⟩ := h
  obtain ⟨rest, hrest, hoctets, hfill⟩ := Delivery.fill_append hsound want tail
  have hnone : Delivery.fill 0 tail = (.ok [], tail) := by simp only [Delivery.fill]
  rw [Nat.sub_eq_zero_of_le hwant, hnone, ← hdelivery] at hfill
  refine ⟨rest ++ tail, ?_, rest, hrest, hoctets, rfl⟩
  unfold read
  rw [hfill]
  simp only [Except.map, List.append_nil]

/-- A read that needs an octet from behind a failure fails. -/
theorem read_failure {error : String} {more : Delivery}
    (h : capture.Ahead octets (.failure error :: more)) {want : Nat} (hwant : octets.length < want) :
    ∃ last, capture.read want = .error (.io error) last := by
  obtain ⟨pieces, hsound, rfl, hdelivery⟩ := h
  obtain ⟨rest, -, -, hfill⟩ := Delivery.fill_append hsound want (.failure error :: more)
  obtain ⟨missing, hmissing⟩ : ∃ missing, want - pieces.octets.length = missing + 1 :=
    ⟨want - pieces.octets.length - 1, by omega⟩
  rw [hmissing, Delivery.fill, ← hdelivery] at hfill
  refine ⟨{ capture with delivery := rest ++ more }, ?_⟩
  unfold read
  rw [hfill]
  rfl

theorem read_eq (h : capture.Holds octets) (want : Nat) :
    ∃ delivery, capture.read want = .ok (octets.take want) { capture with delivery }
      ∧ ({ capture with delivery } : Capture).Holds (octets.drop want) := by
  obtain ⟨hsound, rfl⟩ := h
  obtain ⟨rest, hfill, hrest, hoctets⟩ := Delivery.fill_eq hsound want
  refine ⟨rest, ?_, hrest, hoctets⟩
  unfold read
  rw [hfill]

/-- Reading behind a header. -/
theorem readRecord_header (h : capture.Ahead octets tail) (hsize : ErfHeader.size ≤ octets.length) :
    ∃ delivery, ({ capture with delivery } : Capture).Ahead (octets.drop ErfHeader.size) tail
      ∧ capture.readRecord
        = match ({ capture with delivery } : Capture).readBody (.ofOctets octets) with
          | .error error last => .error error last
          | .ok body last => .ok (some (.ofOctets octets, body)) last := by
  obtain ⟨delivery, hread, hrest⟩ := read_ahead h hsize
  have hlength : (octets.take ErfHeader.size).length = ErfHeader.size :=
    (List.length_take ..).trans (Nat.min_eq_left hsize)
  refine ⟨delivery, hrest, ?_⟩
  unfold readRecord
  rw [hread]
  simp only [hlength, ErfHeader.ofOctets_take (Nat.le_refl _), if_true]
  rfl

/-- No octets are left. -/
theorem readRecord_nil (h : capture.Holds []) :
    ∃ delivery, capture.readRecord = .ok none { capture with delivery } := by
  obtain ⟨delivery, hread, -⟩ := read_eq h ErfHeader.size
  refine ⟨delivery, ?_⟩
  unfold readRecord
  rw [hread]
  rfl

/-- The octets end inside of a header. -/
theorem readRecord_short (h : capture.Holds octets) (hne : octets ≠ [])
    (hshort : octets.length < ErfHeader.size) :
    ∃ delivery, capture.readRecord = .error (.truncated capture.offset) { capture with delivery } := by
  obtain ⟨delivery, hread, -⟩ := read_eq h ErfHeader.size
  have htake : octets.take ErfHeader.size = octets := List.take_of_length_le (Nat.le_of_lt hshort)
  have hpos : octets.length ≠ 0 := fun hzero => hne (List.length_eq_zero_iff.1 hzero)
  refine ⟨delivery, ?_⟩
  unfold readRecord
  rw [hread]
  simp only [htake, hpos, if_false, Nat.ne_of_lt hshort]

/-- The length field does not even cover the header. -/
theorem readRecord_bad (h : capture.Ahead octets tail) (hsize : ErfHeader.size ≤ octets.length)
    (hbad : (ErfHeader.ofOctets octets).recordLength.toNat < ErfHeader.size) :
    ∃ delivery, capture.readRecord = .error
      (.badRecordLength capture.offset (ErfHeader.ofOctets octets).recordLength)
      { capture with delivery } := by
  obtain ⟨delivery, -, hrecord⟩ := readRecord_header h hsize
  refine ⟨delivery, ?_⟩
  rw [hrecord]
  unfold readBody
  rw [if_pos hbad]

/-- The octets end inside of a body. -/
theorem readRecord_cut (h : capture.Holds octets) (hsize : ErfHeader.size ≤ octets.length)
    (hgood : ErfHeader.size ≤ (ErfHeader.ofOctets octets).recordLength.toNat)
    (hcut : octets.length < (ErfHeader.ofOctets octets).recordLength.toNat) :
    ∃ delivery, capture.readRecord = .error (.truncated capture.offset) { capture with delivery } := by
  obtain ⟨delivery, hrest, hrecord⟩ := readRecord_header (holds_iff.1 h) hsize
  obtain ⟨delivery', hread, -⟩ := read_eq (holds_iff.2 hrest)
    ((ErfHeader.ofOctets octets).recordLength.toNat - ErfHeader.size)
  have hlength : ((octets.drop ErfHeader.size).take
      ((ErfHeader.ofOctets octets).recordLength.toNat - ErfHeader.size)).length
      ≠ (ErfHeader.ofOctets octets).recordLength.toNat - ErfHeader.size := by
    rw [List.length_take, List.length_drop]
    omega
  refine ⟨delivery', ?_⟩
  rw [hrecord]
  unfold readBody
  rw [if_neg (Nat.not_lt.2 hgood), hread]
  simp only [hlength, if_false]

/-- All octets that the length field announces are there. -/
theorem readRecord_whole (h : capture.Ahead octets tail)
    (hgood : ErfHeader.size ≤ (ErfHeader.ofOctets octets).recordLength.toNat)
    (hall : (ErfHeader.ofOctets octets).recordLength.toNat ≤ octets.length) :
    ∃ delivery, capture.readRecord = .ok (some (.ofOctets octets,
        (octets.take (ErfHeader.ofOctets octets).recordLength.toNat).drop ErfHeader.size))
        { capture with
          delivery
          offset := capture.offset + (ErfHeader.ofOctets octets).recordLength.toNat }
      ∧ ({ capture with delivery } : Capture).Ahead
        (octets.drop (ErfHeader.ofOctets octets).recordLength.toNat) tail := by
  have hbody : (ErfHeader.ofOctets octets).recordLength.toNat - ErfHeader.size
      ≤ (octets.drop ErfHeader.size).length := by
    rw [List.length_drop]
    omega
  obtain ⟨delivery, hrest, hrecord⟩ := readRecord_header h (Nat.le_trans hgood hall)
  obtain ⟨delivery', hread, hlast⟩ := read_ahead hrest hbody
  have hlength : ((octets.drop ErfHeader.size).take
      ((ErfHeader.ofOctets octets).recordLength.toNat - ErfHeader.size)).length
      = (ErfHeader.ofOctets octets).recordLength.toNat - ErfHeader.size := by
    rw [List.length_take, Nat.min_eq_left hbody]
  refine ⟨delivery', ?_, ?_⟩
  · rw [hrecord]
    unfold readBody
    rw [if_neg (Nat.not_lt.2 hgood), hread]
    simp only [hlength, if_true, List.drop_take]
  · rw [List.drop_drop, Nat.add_sub_cancel' hgood] at hlast
    exact hlast

section Failure

variable {error : String} {more : Delivery}

theorem readRecord_failure_short (h : capture.Ahead octets (.failure error :: more))
    (hshort : octets.length < ErfHeader.size) :
    ∃ last, capture.readRecord = .error (.io error) last := by
  obtain ⟨last, hread⟩ := read_failure h hshort
  refine ⟨last, ?_⟩
  unfold readRecord
  rw [hread]

theorem readRecord_failure_cut (h : capture.Ahead octets (.failure error :: more))
    (hsize : ErfHeader.size ≤ octets.length)
    (hgood : ErfHeader.size ≤ (ErfHeader.ofOctets octets).recordLength.toNat)
    (hcut : octets.length < (ErfHeader.ofOctets octets).recordLength.toNat) :
    ∃ last, capture.readRecord = .error (.io error) last := by
  have hbody : (octets.drop ErfHeader.size).length
      < (ErfHeader.ofOctets octets).recordLength.toNat - ErfHeader.size := by
    rw [List.length_drop]
    omega
  obtain ⟨delivery, hrest, hrecord⟩ := readRecord_header h hsize
  obtain ⟨last, hread⟩ := read_failure hrest hbody
  refine ⟨last, ?_⟩
  rw [hrecord]
  unfold readBody
  rw [if_neg (Nat.not_lt.2 hgood), hread]

end Failure

end Capture

/-! ### Packets -/

def IsErfRecord.isEthernet (record : Octets) : Bool :=
  (ErfHeader.ofOctets record).type == ErfHeader.ethernet

/-- What is handed out for an Ethernet record: its time, and what follows the padding up to the frame
check sequence that the wire length includes. -/
def IsErfRecord.packet (record : Octets) : Timestamp × Octets :=
  (ErfHeader.timestamp (ErfHeader.ofOctets record).time,
    (record.drop (ErfHeader.size + ErfHeader.padding)).take
      (min ((ErfHeader.ofOctets record).recordLength.toNat - (ErfHeader.size + ErfHeader.padding))
        ((ErfHeader.ofOctets record).wireLength.toNat - ErfHeader.frameCheck)))

namespace Capture

open IsErfRecord (isEthernet packet)

structure Counts (capture after : Capture) (records : List Octets) : Prop where
  packets_eq : after.packets = capture.packets + (records.filter isEthernet).length
  bytes_eq : after.bytes = capture.bytes
    + ((records.filter isEthernet).map fun record =>
        (ErfHeader.ofOctets record).wireLength.toNat).sum
  skipped_eq : after.skipped = capture.skipped
    + (records.filter fun record => !isEthernet record).length

variable {capture after last : Capture} {octets record more rest : Octets} {tail : Delivery}

theorem Counts.append {records records' : List Octets} (h : capture.Counts after records)
    (h' : after.Counts last records') : capture.Counts last (records ++ records') := by
  refine ⟨?_, ?_, ?_⟩
  · rw [h'.packets_eq, h.packets_eq, Nat.add_assoc, ← List.length_append, ← List.filter_append]
  · rw [h'.bytes_eq, h.bytes_eq, Nat.add_assoc, ← List.sum_append, ← List.map_append,
      ← List.filter_append]
  · rw [h'.skipped_eq, h.skipped_eq, Nat.add_assoc, ← List.length_append, ← List.filter_append]

/-- `next` by the record that it reads first. -/
theorem next_of_readRecord (result : CaptureResult (Option (ErfHeader × Octets))) :
    capture.readRecord = result → capture.next = match result with
      | .error error after => .error error after
      | .ok none after => .ok none (after.report
          (.captureEnded after.label after.packets after.bytes after.skipped))
      | .ok (some (header, body)) after =>
        if header.type = ErfHeader.ethernet then
          match after.unpack header body with
          | .error error last => .error error last
          | .ok packet last => .ok (some packet) last
        else (after.skip header).next := by
  intro h
  rw [next]
  split <;> rename_i hrecord <;> rw [h] at hrecord <;> subst hrecord <;> rfl

theorem next_of_record {header : ErfHeader} {body : Octets}
    (h : capture.readRecord = .ok (some (header, body)) after) :
    capture.next = if header.type = ErfHeader.ethernet then
      match after.unpack header body with
      | .error error last => .error error last
      | .ok packet last => .ok (some packet) last
    else (after.skip header).next := next_of_readRecord _ h

theorem next_of_none (h : capture.readRecord = .ok none after) :
    capture.next = .ok none (after.report
      (.captureEnded after.label after.packets after.bytes after.skipped)) := next_of_readRecord _ h

theorem next_of_error {error : CaptureError} (h : capture.readRecord = .error error after) :
    capture.next = .error error after := next_of_readRecord _ h

/-- A record that begins the octets is the one that is read. -/
theorem readRecord_record (h : capture.Ahead (record ++ more) tail) (hrecord : IsErfRecord record) :
    ∃ delivery, capture.readRecord = .ok
        (some (.ofOctets record, record.drop ErfHeader.size))
        { capture with delivery, offset := capture.offset + record.length }
      ∧ ({ capture with delivery } : Capture).Ahead more tail := by
  have hheader := hrecord.ofOctets_append more
  have hlength := hrecord.length_eq
  have hgood : ErfHeader.size ≤ (ErfHeader.ofOctets (record ++ more)).recordLength.toNat := by
    rw [hheader, ← hlength]
    exact hrecord.size_le
  have hall : (ErfHeader.ofOctets (record ++ more)).recordLength.toNat ≤ (record ++ more).length := by
    rw [hheader, ← hlength, List.length_append]
    exact Nat.le_add_right ..
  obtain ⟨delivery, hread, hrest⟩ := readRecord_whole h hgood hall
  rw [hheader, ← hlength, List.take_left] at hread
  rw [hheader, ← hlength, List.drop_left] at hrest
  exact ⟨delivery, hread, hrest⟩

/-- A record of another type is passed over. -/
theorem next_other (h : capture.Ahead (record ++ more) tail) (hrecord : IsErfRecord record)
    (hkind : isEthernet record = false) :
    ∃ after, capture.next = after.next ∧ after.Ahead more tail
      ∧ after.offset = capture.offset + record.length ∧ capture.Counts after [record] := by
  obtain ⟨delivery, hread, hrest⟩ := readRecord_record h hrecord
  have htype : (ErfHeader.ofOctets record).type ≠ ErfHeader.ethernet := by
    intro heq
    rw [isEthernet, heq, beq_self_eq_true] at hkind
    cases hkind
  refine ⟨_, (next_of_record hread).trans (if_neg htype), hrest, rfl, ?_, ?_, ?_⟩
  · simp only [List.filter_cons, hkind, Bool.false_eq_true, if_false, List.filter_nil]
    rfl
  · simp only [List.filter_cons, hkind, Bool.false_eq_true, if_false, List.filter_nil]
    rfl
  · simp only [List.filter_cons, hkind, Bool.not_false, if_true, List.filter_nil]
    rfl

theorem reportFlags_delivery (header : ErfHeader) :
    (capture.reportFlags header).delivery = capture.delivery := by
  unfold reportFlags report
  split <;> rfl

theorem reportFlags_offset (header : ErfHeader) :
    (capture.reportFlags header).offset = capture.offset := by
  unfold reportFlags report
  split <;> rfl

theorem reportFlags_skipped (header : ErfHeader) :
    (capture.reportFlags header).skipped = capture.skipped := by
  unfold reportFlags report
  split <;> rfl

/-- The frame of an Ethernet record is handed out. -/
theorem next_ethernet (h : capture.Ahead (record ++ more) tail) (hrecord : IsErfRecord record)
    (hkind : isEthernet record = true) :
    ∃ after, capture.next = .ok (some (packet record)) after ∧ after.Ahead more tail
      ∧ after.offset = capture.offset + record.length ∧ capture.Counts after [record] := by
  obtain ⟨delivery, hread, hrest⟩ := readRecord_record h hrecord
  have htype : (ErfHeader.ofOctets record).type = ErfHeader.ethernet := eq_of_beq hkind
  have hroom : ¬ (record.drop ErfHeader.size).length < ErfHeader.padding := by
    have := hrecord.padding_le htype
    rw [List.length_drop]
    omega
  have hpacket : packet record = (ErfHeader.timestamp (ErfHeader.ofOctets record).time,
      ((record.drop ErfHeader.size).drop ErfHeader.padding).take
        (ErfHeader.ofOctets record).frameLength) := by
    unfold packet ErfHeader.frameLength
    rw [List.drop_drop, ← hrecord.length_eq, ← List.length_drop, Nat.min_comm, ← List.take_take,
      List.take_length]
  have hnext := next_of_record hread
  rw [if_pos htype, unpack, if_neg hroom, ← hpacket] at hnext
  refine ⟨_, hnext, ?_, ?_, ?_, ?_, ?_⟩
  · unfold Ahead
    rw [reportFlags_delivery]
    exact hrest
  · exact reportFlags_offset ..
  · simp only [List.filter_cons, hkind, if_true, List.filter_nil]
    rfl
  · simp only [List.filter_cons, hkind, if_true, List.filter_nil]
    rfl
  · simp only [List.filter_cons, hkind, Bool.not_true, Bool.false_eq_true, if_false,
      List.filter_nil]
    exact reportFlags_skipped ..

/-! ### The rest -/

/-- The answer where no record begins: the end, or the error that `CaptureError.atRest` names. -/
def stop (error? : Option CaptureError) (last : Capture) :
    CaptureResult (Option (Timestamp × Octets)) :=
  match error? with
  | none => .ok none last
  | some error => .error error last

theorem Counts.refl {delivery : Delivery} {offset : Nat} {log : Array Event} :
    capture.Counts { capture with delivery, offset, log } [] := ⟨rfl, rfl, rfl⟩

/-- The length of a record whose header is complete does not cover the header, or not the padding of a
whole Ethernet record. -/
def IsBad (rest : Octets) : Prop :=
  ErfHeader.size ≤ rest.length
    ∧ ((ErfHeader.ofOctets rest).recordLength.toNat < ErfHeader.size
      ∨ (ErfHeader.ofOctets rest).type = ErfHeader.ethernet
        ∧ (ErfHeader.ofOctets rest).recordLength.toNat < ErfHeader.size + ErfHeader.padding
        ∧ (ErfHeader.ofOctets rest).recordLength.toNat ≤ rest.length)

theorem atRest_of_isBad (h : IsBad rest) (offset : Nat) : CaptureError.atRest offset rest
    = some (.badRecordLength offset (ErfHeader.ofOctets rest).recordLength) := by
  have hne : rest ≠ [] := by
    rintro rfl
    exact absurd h.1 (by decide)
  exact (if_neg hne).trans (if_pos h)

theorem atRest_of_not_isBad (h : ¬ IsBad rest) (offset : Nat) : CaptureError.atRest offset rest
    = if rest = [] then none else some (.truncated offset) := by
  unfold CaptureError.atRest
  split
  · rfl
  · exact if_neg h

/-- A bad length is reported whatever comes behind the octets. -/
theorem next_bad (h : capture.Ahead rest tail) (hbad : IsBad rest) :
    ∃ last, capture.next
        = .error (.badRecordLength capture.offset (ErfHeader.ofOctets rest).recordLength) last
      ∧ capture.Counts last [] := by
  obtain ⟨hfull, hlength⟩ := hbad
  by_cases hlow : (ErfHeader.ofOctets rest).recordLength.toNat < ErfHeader.size
  · obtain ⟨delivery, hread⟩ := readRecord_bad h hfull hlow
    exact ⟨_, next_of_error hread, .refl⟩
  -- The record is whole, so what is wrong with it is the missing padding.
  obtain ⟨hethernet, hpadding, hall⟩ := hlength.resolve_left hlow
  obtain ⟨delivery, hread, -⟩ := readRecord_whole h (Nat.not_lt.1 hlow) hall
  have hbody : ((rest.take (ErfHeader.ofOctets rest).recordLength.toNat).drop
      ErfHeader.size).length < ErfHeader.padding := by
    rw [List.length_drop, List.length_take, Nat.min_eq_left hall]
    omega
  have hnext := next_of_record hread
  rw [if_pos hethernet, unpack, if_pos hbody] at hnext
  simp only [Nat.add_sub_cancel] at hnext
  exact ⟨_, hnext, .refl⟩

/-- Where no record begins and no length is bad, a complete header announces too many octets. -/
theorem overlong_of_stops (hstops : ∀ record, IsErfRecord record → ¬ record <+: rest)
    (hnot : ¬ IsBad rest) (hfull : ErfHeader.size ≤ rest.length) :
    ErfHeader.size ≤ (ErfHeader.ofOctets rest).recordLength.toNat
      ∧ rest.length < (ErfHeader.ofOctets rest).recordLength.toNat := by
  have hgood : ErfHeader.size ≤ (ErfHeader.ofOctets rest).recordLength.toNat := by
    by_contra hlow
    exact hnot ⟨hfull, .inl (Nat.not_le.1 hlow)⟩
  refine ⟨hgood, ?_⟩
  by_contra hcut
  have hall := Nat.not_lt.1 hcut
  have hstarts := mt IsErfRecord.starts_iff.2 fun ⟨record, hrecord, hpre⟩ => hstops record hrecord hpre
  apply hstarts
  refine ⟨hgood, hall, fun htype => ?_⟩
  by_contra hroom
  exact hnot ⟨hfull, .inr ⟨htype, Nat.not_le.1 hroom, hall⟩⟩

theorem next_rest (h : capture.Holds rest)
    (hstops : ∀ record, IsErfRecord record → ¬ record <+: rest) :
    ∃ last, capture.next = stop (CaptureError.atRest capture.offset rest) last ∧ capture.Counts last [] := by
  by_cases hbad : IsBad rest
  · rw [atRest_of_isBad hbad]
    exact next_bad (holds_iff.1 h) hbad
  rw [atRest_of_not_isBad hbad]
  by_cases hnil : rest = []
  · subst hnil
    obtain ⟨delivery, hread⟩ := readRecord_nil h
    exact ⟨_, next_of_none hread, .refl⟩
  rw [if_neg hnil]
  by_cases hshort : rest.length < ErfHeader.size
  · obtain ⟨delivery, hread⟩ := readRecord_short h hnil hshort
    exact ⟨_, next_of_error hread, .refl⟩
  · have hfull := Nat.not_lt.1 hshort
    obtain ⟨hgood, hcut⟩ := overlong_of_stops hstops hbad hfull
    obtain ⟨delivery, hread⟩ := readRecord_cut h hfull hgood hcut
    exact ⟨_, next_of_error hread, .refl⟩

/-- The answer where a failed read stands in place of the end of the input. -/
theorem next_failure {error : String} {more : Delivery}
    (h : capture.Ahead rest (.failure error :: more))
    (hstops : ∀ record, IsErfRecord record → ¬ record <+: rest) :
    ∃ last, capture.next = .error (CaptureError.atFailure error capture.offset rest) last := by
  unfold CaptureError.atFailure
  by_cases hbad : IsBad rest
  · obtain ⟨last, hnext, -⟩ := next_bad h hbad
    rw [atRest_of_isBad hbad]
    exact ⟨last, hnext⟩
  have hio : (match CaptureError.atRest capture.offset rest with
      | some (.badRecordLength offset length) => CaptureError.badRecordLength offset length
      | _ => .io error) = .io error := by
    rw [atRest_of_not_isBad hbad]
    split_ifs <;> rfl
  rw [hio]
  by_cases hshort : rest.length < ErfHeader.size
  · obtain ⟨last, hread⟩ := readRecord_failure_short h hshort
    exact ⟨last, next_of_error hread⟩
  · have hfull := Nat.not_lt.1 hshort
    obtain ⟨hgood, hcut⟩ := overlong_of_stops hstops hbad hfull
    obtain ⟨last, hread⟩ := readRecord_failure_cut h hfull hgood hcut
    exact ⟨last, next_of_error hread⟩

end Capture

end FlowTracker
