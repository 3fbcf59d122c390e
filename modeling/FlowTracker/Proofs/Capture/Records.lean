import FlowTracker.Proofs.Capture.Reading

/-!
# Captures from their first record to their last

`Capture.readAll` asks for packets until there are no more.  By induction on the records of the capture,
it yields the packets of the Ethernet records and stops where the records stop.  A written sequence of
records (`ErfRecord`) splits into these records and nothing else, so it is read back as it was written.
-/

namespace FlowTracker

structure Reading where
  packets : List (Timestamp × Octets)
  /-- What stopped the reading; `none` for the end of the input. -/
  ending : Option CaptureError
  last : Capture

namespace Capture

def readAll (capture : Capture) : Reading :=
  match _hnext : capture.next with
  | .error error last => ⟨[], some error, last⟩
  | .ok none last => ⟨[], none, last⟩
  | .ok (some packet) after =>
    let reading := after.readAll
    { reading with packets := packet :: reading.packets }
  termination_by capture.delivery.size
  decreasing_by exact size_next _hnext

open IsErfRecord (isEthernet packet)

variable {capture after : Capture} {octets rest : Octets} {records : List Octets}

theorem readAll_of_next (answer : CaptureResult (Option (Timestamp × Octets))) :
    capture.next = answer → capture.readAll = match answer with
      | .error error last => ⟨[], some error, last⟩
      | .ok none last => ⟨[], none, last⟩
      | .ok (some packet) after =>
        { after.readAll with packets := packet :: after.readAll.packets } := by
  intro h
  rw [readAll]
  split <;> rename_i hnext <;> rw [h] at hnext <;> subst hnext <;> rfl

theorem readAll_of_packet {first : Timestamp × Octets}
    (h : capture.next = .ok (some first) after) :
    capture.readAll = { after.readAll with packets := first :: after.readAll.packets } :=
  readAll_of_next _ h

theorem readAll_of_stop {error? : Option CaptureError} (h : capture.next = stop error? after) :
    capture.readAll = ⟨[], error?, after⟩ := by
  cases error? with
  | none => exact readAll_of_next _ h
  | some error => exact readAll_of_next _ h

theorem readAll_congr (h : capture.next = after.next) : capture.readAll = after.readAll :=
  (readAll_of_next _ h).trans (readAll_of_next _ rfl).symm

/-- The packets of the records that come next are handed out, and the reading goes on behind them. -/
theorem readAll_records {tail : Delivery} (h : capture.Ahead (records.flatten ++ rest) tail)
    (hwhole : ∀ record ∈ records, IsErfRecord record) :
    ∃ after, after.Ahead rest tail ∧ after.offset = capture.offset + records.flatten.length
      ∧ capture.Counts after records
      ∧ capture.readAll = { after.readAll with
        packets := (records.filter isEthernet).map packet ++ after.readAll.packets } := by
  induction records generalizing capture with
  | nil => exact ⟨capture, h, rfl, .refl, rfl⟩
  | cons record records ih =>
    have hrecord := hwhole record List.mem_cons_self
    have hmore : ∀ record ∈ records, IsErfRecord record := fun record hmem =>
      hwhole record (List.mem_cons_of_mem _ hmem)
    rw [List.flatten_cons, List.append_assoc] at h
    have hoffset {first : Capture} {offset : Nat} (hat : first.offset = capture.offset + record.length)
        (hafter : offset = first.offset + records.flatten.length) :
        offset = capture.offset + (record :: records).flatten.length := by
      rw [hafter, hat, List.flatten_cons, List.length_append, Nat.add_assoc]
    cases hkind : isEthernet record with
    | true =>
      obtain ⟨first, hnext, hahead, hat, hcounts⟩ := next_ethernet h hrecord hkind
      obtain ⟨after, hlast, hafter, hrest, hread⟩ := ih hahead hmore
      refine ⟨after, hlast, hoffset hat hafter, hcounts.append hrest, ?_⟩
      rw [readAll_of_packet hnext, hread, List.filter_cons_of_pos hkind, List.map_cons,
        List.cons_append]
    | false =>
      obtain ⟨first, hnext, hahead, hat, hcounts⟩ := next_other h hrecord hkind
      obtain ⟨after, hlast, hafter, hrest, hread⟩ := ih hahead hmore
      refine ⟨after, hlast, hoffset hat hafter, hcounts.append hrest, ?_⟩
      rw [readAll_congr hnext, hread, List.filter_cons_of_neg (by rw [hkind]; exact nofun)]

/-- The records of a capture decide what is read from it. -/
theorem readAll_split (h : capture.Holds octets) (hsplit : SplitsInto octets records rest) :
    capture.readAll.packets = (records.filter isEthernet).map packet
      ∧ capture.readAll.ending = CaptureError.atRest (capture.offset + records.flatten.length) rest
      ∧ capture.Counts capture.readAll.last records := by
  obtain ⟨rfl, hwhole, hstops⟩ := hsplit
  obtain ⟨after, hahead, hoffset, hcounts, hread⟩ := readAll_records (holds_iff.1 h) hwhole
  obtain ⟨last, hnext, hlast⟩ := next_rest (holds_iff.2 hahead) hstops
  rw [hread, readAll_of_stop hnext, hoffset]
  refine ⟨List.append_nil _, rfl, ?_⟩
  have hall := hcounts.append hlast
  rwa [List.append_nil] at hall

/-- Behind the packets of the records a failed read stops the reading, unless a bad length did. -/
theorem readAll_failure {error : String} {more : Delivery}
    (h : capture.Ahead octets (.failure error :: more)) (hsplit : SplitsInto octets records rest) :
    capture.readAll.packets = (records.filter isEthernet).map packet
      ∧ capture.readAll.ending = some
        (CaptureError.atFailure error (capture.offset + records.flatten.length) rest) := by
  obtain ⟨rfl, hwhole, hstops⟩ := hsplit
  obtain ⟨after, hahead, hoffset, -, hread⟩ := readAll_records h hwhole
  obtain ⟨last, hnext⟩ := next_failure hahead hstops
  have hstop : after.next = stop (some (CaptureError.atFailure error after.offset rest)) last := hnext
  rw [hread, readAll_of_stop hstop, hoffset]
  exact ⟨List.append_nil _, rfl⟩

end Capture

/-! ### Written records -/

namespace ErfHeader

theorem length_toOctets (header : ErfHeader) : header.toOctets.length = size := by
  simp only [toOctets, List.length_append, Octets.length_ofLittleEndian, List.length_cons,
    List.length_nil, Octets.length_ofBigEndian]
  rfl

theorem field_append {start width : Nat} {before part : Octets} (hstart : before.length = start)
    (hwidth : part.length = width) (after : Octets) :
    Octets.field (before ++ (part ++ after)) start width = part := by
  unfold Octets.field
  rw [← hstart, List.drop_left, ← hwidth, List.take_left]

theorem ofNat_bigEndian (n : UInt16) :
    UInt16.ofNat (Octets.ofBigEndian 2 n.toNat).bigEndian = n := by
  have hlt : n.toNat < Octets.count 2 := n.toNat_lt
  rw [Octets.bigEndian_ofBigEndian, Nat.mod_eq_of_lt hlt, UInt16.ofNat_toNat]

theorem ofNat_littleEndian (n : UInt64) :
    UInt64.ofNat (Octets.ofLittleEndian 8 n.toNat).littleEndian = n := by
  have hlt : n.toNat < Octets.count 8 := n.toNat_lt
  rw [Octets.littleEndian_ofLittleEndian, Nat.mod_eq_of_lt hlt, UInt64.ofNat_toNat]

/-- A header is read as it was written. -/
theorem ofOctets_toOctets (header : ErfHeader) : ofOctets header.toOctets = header := by
  have htime : Octets.field header.toOctets 0 8 = Octets.ofLittleEndian 8 header.time.toNat := by
    rw [toOctets, List.append_assoc, List.append_assoc, List.append_assoc]
    exact field_append List.length_nil (Octets.length_ofLittleEndian ..) _
  have hhead : (Octets.ofLittleEndian 8 header.time.toNat
      ++ [header.type, header.flags]).length = 10 := by
    rw [List.length_append, Octets.length_ofLittleEndian]
    rfl
  have hrecord : Octets.field header.toOctets 10 2
      = Octets.ofBigEndian 2 header.recordLength.toNat := by
    rw [toOctets, List.append_assoc, List.append_assoc]
    exact field_append hhead (Octets.length_ofBigEndian ..) _
  have hloss : Octets.field header.toOctets 12 2
      = Octets.ofBigEndian 2 header.lossCounter.toNat := by
    rw [toOctets, List.append_assoc]
    refine field_append ?_ (Octets.length_ofBigEndian ..) _
    rw [List.length_append, hhead, Octets.length_ofBigEndian]
  have hwire : Octets.field header.toOctets 14 2
      = Octets.ofBigEndian 2 header.wireLength.toNat := by
    rw [toOctets, ← List.append_nil (Octets.ofBigEndian 2 header.wireLength.toNat)]
    refine field_append ?_ (Octets.length_ofBigEndian ..) _
    rw [List.length_append, List.length_append, hhead, Octets.length_ofBigEndian,
      Octets.length_ofBigEndian]
  have htype : header.toOctets.getD 8 0 = header.type := by simp [toOctets]
  have hflags : header.toOctets.getD 9 0 = header.flags := by simp [toOctets]
  rw [ofOctets, htime, hrecord, hloss, hwire, htype, hflags, ofNat_littleEndian,
    ofNat_bigEndian, ofNat_bigEndian, ofNat_bigEndian]

end ErfHeader

/-- A record that is to be written: its length field counts header and body, and an Ethernet body has
room for the padding. -/
structure ErfRecord where
  header : ErfHeader
  body : Octets
  length_eq : header.recordLength.toNat = ErfHeader.size + body.length
  padding_le : header.type = ErfHeader.ethernet → ErfHeader.padding ≤ body.length

namespace ErfRecord

variable (record : ErfRecord) (records : List ErfRecord)

def octets : Octets := record.header.toOctets ++ record.body

def isEthernet : Bool := record.header.type == ErfHeader.ethernet

def packet : Timestamp × Octets :=
  (ErfHeader.timestamp record.header.time,
    (record.body.drop ErfHeader.padding).take record.header.frameLength)

theorem header_octets : ErfHeader.ofOctets record.octets = record.header := by
  rw [octets, ErfHeader.ofOctets_append (Nat.le_of_eq record.header.length_toOctets.symm),
    ErfHeader.ofOctets_toOctets]

theorem length_octets : record.octets.length = record.header.recordLength.toNat := by
  rw [octets, List.length_append, ErfHeader.length_toOctets, record.length_eq]

theorem isErfRecord : IsErfRecord record.octets := by
  constructor
  · rw [header_octets, length_octets]
  · rw [length_octets, record.length_eq]
    exact Nat.le_add_right ..
  · intro htype
    rw [header_octets] at htype
    rw [length_octets, record.length_eq]
    exact Nat.add_le_add_left (record.padding_le htype) _

theorem isEthernet_octets : IsErfRecord.isEthernet record.octets = record.isEthernet := by
  rw [IsErfRecord.isEthernet, header_octets]
  rfl

theorem packet_octets : IsErfRecord.packet record.octets = record.packet := by
  have hbody : record.octets.drop ErfHeader.size = record.body := by
    rw [octets, ← record.header.length_toOctets, List.drop_left]
  have hlength : record.header.recordLength.toNat - (ErfHeader.size + ErfHeader.padding)
      = (record.body.drop ErfHeader.padding).length := by
    rw [List.length_drop, record.length_eq, Nat.add_sub_add_left]
  rw [IsErfRecord.packet, header_octets, ← List.drop_drop, hbody, hlength, Nat.min_comm,
    ← List.take_take, List.take_length]
  rfl

/-- Written records split into what was written. -/
theorem splitsInto : SplitsInto (records.map octets).flatten (records.map octets) [] := by
  refine ⟨(List.append_nil _).symm, ?_, ?_⟩
  · intro written hmem
    obtain ⟨record, -, rfl⟩ := List.mem_map.1 hmem
    exact record.isErfRecord
  · intro record hrecord hpre
    have hsize := hrecord.size_le
    rw [List.prefix_nil.1 hpre] at hsize
    exact absurd hsize (by decide)

theorem filter_octets : (records.map octets).filter IsErfRecord.isEthernet
    = (records.filter isEthernet).map octets := by
  have hkind : IsErfRecord.isEthernet ∘ octets = isEthernet := funext isEthernet_octets
  rw [List.filter_map, hkind]

end ErfRecord

namespace Capture

open IsErfRecord (isEthernet packet)

/-- A capture is read as its format says: the octets split into records and a rest in one way, and
however they arrive, the packets are those of the Ethernet records, the reading ends or fails at the
rest, and the counters tell the records apart.  Records that were written one behind the other are read
back. -/
theorem readAll_follows_format (octets : Octets) :
    (∃! split : List Octets × Octets, SplitsInto octets split.1 split.2)
    ∧ ∀ (label : String) (delivery : Delivery), delivery.IsSound → delivery.octets = octets →
      (∀ records rest, SplitsInto octets records rest →
        (ofDelivery label delivery).readAll.packets = (records.filter isEthernet).map packet
        ∧ (ofDelivery label delivery).readAll.ending
          = CaptureError.atRest records.flatten.length rest
        ∧ (ofDelivery label delivery).readAll.last.packets = (records.filter isEthernet).length
        ∧ (ofDelivery label delivery).readAll.last.bytes
          = ((records.filter isEthernet).map fun record =>
            (ErfHeader.ofOctets record).wireLength.toNat).sum
        ∧ (ofDelivery label delivery).readAll.last.skipped
          = (records.filter fun record => !isEthernet record).length)
      ∧ ∀ records : List ErfRecord, octets = (records.map ErfRecord.octets).flatten →
        SplitsInto octets (records.map ErfRecord.octets) []
        ∧ (ofDelivery label delivery).readAll.packets
          = (records.filter ErfRecord.isEthernet).map ErfRecord.packet
        ∧ (ofDelivery label delivery).readAll.ending = none := by
  constructor
  · obtain ⟨records, rest, hsplit⟩ := SplitsInto.exists_split octets
    refine ⟨(records, rest), hsplit, ?_⟩
    rintro ⟨records', rest'⟩ hsplit'
    obtain ⟨hrecords, hrest⟩ := SplitsInto.unique hsplit' hsplit
    exact Prod.ext hrecords hrest
  · intro label delivery hsound hoctets
    have hholds : (ofDelivery label delivery).Holds octets := ⟨hsound, hoctets⟩
    constructor
    · intro records rest hsplit
      obtain ⟨hpackets, hending, hcounts⟩ := readAll_split hholds hsplit
      refine ⟨hpackets, ?_, ?_, ?_, ?_⟩
      · exact hending.trans (by rw [ofDelivery, Nat.zero_add])
      · exact hcounts.packets_eq.trans (Nat.zero_add _)
      · exact hcounts.bytes_eq.trans (Nat.zero_add _)
      · exact hcounts.skipped_eq.trans (Nat.zero_add _)
    · intro records heq
      have hsplit := ErfRecord.splitsInto records
      rw [← heq] at hsplit
      obtain ⟨hpackets, hending, -⟩ := readAll_split hholds hsplit
      have hpacket : packet ∘ ErfRecord.octets = ErfRecord.packet := funext ErfRecord.packet_octets
      refine ⟨hsplit, ?_, hending⟩
      rw [hpackets, ErfRecord.filter_octets, List.map_map, hpacket]

/-- An Ethernet record of twenty octets and one octet behind it, in two pieces with an interruption
between them. -/
theorem readAll_follows_format_of_two :
    let written : ErfRecord :=
      ⟨⟨0x180000000, ErfHeader.ethernet, 0, 20, 0, 5⟩, [0, 0, 7, 8], by decide, by decide⟩
    let delivery : Delivery :=
      [.data (written.octets.take 5), .interrupted, .data (written.octets.drop 5 ++ [9])]
    (ofDelivery "capture" delivery).readAll.packets = [(⟨1, 500000⟩, [7])]
    ∧ (ofDelivery "capture" delivery).readAll.ending = some (.truncated 20)
    ∧ (ofDelivery "capture" [.data written.octets]).readAll.packets = [(⟨1, 500000⟩, [7])] := by
  intro written delivery
  have hsound : delivery.IsSound := by
    intro error hmem
    simp [delivery] at hmem
  have hsplit : SplitsInto (written.octets ++ [9]) [written.octets] [9] := by
    refine ⟨rfl, ?_, ?_⟩
    · intro record hmem
      rw [List.mem_singleton.1 hmem]
      exact written.isErfRecord
    · intro record hrecord hpre
      exact absurd (Nat.le_trans hrecord.size_le hpre.length_le) (by decide)
  obtain ⟨hpackets, hending, -⟩ :=
    ((readAll_follows_format (written.octets ++ [9])).2 "capture" delivery hsound rfl).1 _ _ hsplit
  obtain ⟨-, hwhole, -⟩ := ((readAll_follows_format written.octets).2 "capture"
    [.data written.octets] (by simp [Delivery.IsSound]) rfl).2 [written] rfl
  refine ⟨hpackets.trans ?_, hending.trans ?_, hwhole.trans ?_⟩
  · decide
  · decide
  · decide

end Capture

end FlowTracker
