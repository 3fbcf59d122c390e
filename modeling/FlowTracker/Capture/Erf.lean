import FlowTracker.Capture.Delivery
import FlowTracker.Event

/-!
# ERF captures

A capture is a sequence of records.  Each begins with a header of sixteen octets: a little-endian
time, the record type, flags, and three big-endian lengths.  The record length covers the whole
record.  An Ethernet record carries two octets of padding before the frame, and its wire length
includes the frame check sequence of four octets, which is cut off where it was captured.

Records of other types are passed over.  A record that ends too early, or that is too short for its
own header, stops the reading.
-/

namespace FlowTracker

/-! ### Records -/

structure ErfHeader where
  /-- Seconds since the epoch in 32.32 fixed point. -/
  time : UInt64
  type : UInt8
  flags : UInt8
  recordLength : UInt16
  lossCounter : UInt16
  wireLength : UInt16
  deriving DecidableEq, Repr, Inhabited

namespace ErfHeader

def size : Nat := 16

def ethernet : UInt8 := 2

/-- The padding before an Ethernet frame. -/
def padding : Nat := 2

/-- The frame check sequence behind an Ethernet frame. -/
def frameCheck : Nat := 4

def ofOctets (octets : Octets) : ErfHeader where
  time := UInt64.ofNat (octets.field 0 8).littleEndian
  type := octets.getD 8 0
  flags := octets.getD 9 0
  recordLength := UInt16.ofNat (octets.field 10 2).bigEndian
  lossCounter := UInt16.ofNat (octets.field 12 2).bigEndian
  wireLength := UInt16.ofNat (octets.field 14 2).bigEndian

def toOctets (header : ErfHeader) : Octets :=
  Octets.ofLittleEndian 8 header.time.toNat ++ [header.type, header.flags]
    ++ Octets.ofBigEndian 2 header.recordLength.toNat
    ++ Octets.ofBigEndian 2 header.lossCounter.toNat
    ++ Octets.ofBigEndian 2 header.wireLength.toNat

def hasReceiveError (header : ErfHeader) : Bool := header.flags &&& 0x10 != 0

def hasStreamError (header : ErfHeader) : Bool := header.flags &&& 0x20 != 0

/-- The capture time: the fraction is rounded to the nearest microsecond, and a whole second that
arises so is carried. -/
def timestamp (fixed : UInt64) : Timestamp :=
  let seconds := fixed >>> 32
  let micros := ((fixed &&& 0xffffffff) * 1000000 + 0x80000000) >>> 32
  if 1000000 ≤ micros then ⟨seconds + 1, (micros - 1000000).toUInt32⟩
  else ⟨seconds, micros.toUInt32⟩

/-- The number of frame octets that a record keeps: what the wire carried without the frame check
sequence. -/
def frameLength (header : ErfHeader) : Nat := header.wireLength.toNat - frameCheck

end ErfHeader

/-! ### Errors -/

inductive CaptureError where
  | open (path error : String)
  | io (error : String)
  /-- The input ends inside the record that starts at `offset`. -/
  | truncated (offset : Nat)
  /-- The record that starts at `offset` is too short for its own contents. -/
  | badRecordLength (offset : Nat) (length : UInt16)
  deriving DecidableEq, Repr, Inhabited

def CaptureError.message : CaptureError → String
  | .open path error => "failed to open capture file " ++ path ++ ": " ++ error
  | .io error => "failed to read capture: " ++ error
  | .truncated offset =>
      "capture truncated inside the record at byte offset " ++ toString offset
  | .badRecordLength offset length =>
      "record at byte offset " ++ toString offset ++ " has invalid length "
        ++ toString length.toNat

/-! ### Reading -/

structure Capture where
  /-- How log events name the capture. -/
  label : String
  delivery : Delivery
  /-- The octets of all complete records so far. -/
  offset : Nat
  /-- The Ethernet records so far. -/
  packets : Nat
  /-- The sum of their wire lengths. -/
  bytes : Nat
  /-- The records of other types so far. -/
  skipped : Nat
  log : Array Event
  deriving Repr

/-- What reading from a capture ends with: an answer or an error, and the capture after it. -/
abbrev CaptureResult (α : Type) := EStateM.Result CaptureError Capture α

namespace Capture

def ofDelivery (label : String) (delivery : Delivery) : Capture :=
  ⟨label, delivery, 0, 0, 0, 0, #[]⟩

def report (capture : Capture) (event : Event) : Capture :=
  { capture with log := capture.log.push event }

/-- Reads `want` octets, fewer only at the end of the input. -/
def read (capture : Capture) (want : Nat) : CaptureResult Octets :=
  match capture.delivery.fill want with
  | (.ok octets, delivery) => .ok octets { capture with delivery }
  | (.error error, delivery) => .error (.io error) { capture with delivery }

def readBody (capture : Capture) (header : ErfHeader) : CaptureResult Octets :=
  if header.recordLength.toNat < ErfHeader.size then
    .error (.badRecordLength capture.offset header.recordLength) capture
  else
    match capture.read (header.recordLength.toNat - ErfHeader.size) with
    | .error error after => .error error after
    | .ok body after =>
      if body.length = header.recordLength.toNat - ErfHeader.size then
        .ok body { after with offset := capture.offset + header.recordLength.toNat }
      else .error (.truncated capture.offset) after

/-- Reads one record of any type; `none` at the end of the input. -/
def readRecord (capture : Capture) : CaptureResult (Option (ErfHeader × Octets)) :=
  match capture.read ErfHeader.size with
  | .error error after => .error error after
  | .ok raw after =>
    if raw.length = 0 then .ok none after
    else if raw.length = ErfHeader.size then
      match after.readBody (.ofOctets raw) with
      | .error error last => .error error last
      | .ok body last => .ok (some (.ofOctets raw, body)) last
    else .error (.truncated capture.offset) after

def skip (capture : Capture) (header : ErfHeader) : Capture :=
  { capture with skipped := capture.skipped + 1 }.report
    (.recordUnsupported capture.label header.type)

def reportFlags (capture : Capture) (header : ErfHeader) : Capture :=
  if header.hasReceiveError || header.hasStreamError then
    capture.report (.recordFlagged header.flags)
  else capture

def unpack (capture : Capture) (header : ErfHeader) (body : Octets) :
    CaptureResult (Timestamp × Octets) :=
  if body.length < ErfHeader.padding then
    .error (.badRecordLength (capture.offset - header.recordLength.toNat) header.recordLength)
      capture
  else
    .ok (ErfHeader.timestamp header.time,
        (body.drop ErfHeader.padding).take header.frameLength)
      { capture.reportFlags header with
        packets := capture.packets + 1
        bytes := capture.bytes + header.wireLength.toNat }

/-! ### Every record uses up octets -/

theorem size_read {want : Nat} {capture after : Capture} {octets : Octets}
    (h : capture.read want = .ok octets after) :
    octets.length + after.delivery.size = capture.delivery.size := by
  unfold read at h
  split at h
  · rename_i hfill
    cases h
    exact Delivery.size_fill hfill
  · cases h

theorem size_readBody {header : ErfHeader} {capture after : Capture} {body : Octets}
    (h : capture.readBody header = .ok body after) :
    after.delivery.size ≤ capture.delivery.size := by
  unfold readBody at h
  split at h
  · cases h
  · split at h
    · cases h
    · rename_i hread
      have := size_read hread
      split at h
      · cases h
        simp only
        omega
      · cases h

theorem size_readRecord {capture after : Capture} {record : ErfHeader × Octets}
    (h : capture.readRecord = .ok (some record) after) :
    after.delivery.size < capture.delivery.size := by
  unfold readRecord at h
  split at h
  · cases h
  · rename_i hread
    have := size_read hread
    split at h
    · cases h
    · split at h
      · split at h
        · cases h
        · rename_i hbody
          have := size_readBody hbody
          cases h
          omega
      · cases h

/-! ### Packets -/

/-- The next packet; `none` at the end of the input.  Records of other types are passed over. -/
def next (capture : Capture) : CaptureResult (Option (Timestamp × Octets)) :=
  match _hrecord : capture.readRecord with
  | .error error after => .error error after
  | .ok none after =>
    .ok none (after.report
      (.captureEnded after.label after.packets after.bytes after.skipped))
  | .ok (some (header, body)) after =>
    if header.type = ErfHeader.ethernet then
      match after.unpack header body with
      | .error error last => .error error last
      | .ok packet last => .ok (some packet) last
    else (after.skip header).next
  termination_by capture.delivery.size
  decreasing_by
    have := size_readRecord _hrecord
    simpa [skip, report] using this

/-- Every packet uses up octets. -/
theorem size_next {capture after : Capture} {packet : Timestamp × Octets}
    (h : capture.next = .ok (some packet) after) :
    after.delivery.size < capture.delivery.size := by
  induction capture using next.induct with
  | case1 capture error after' hrecord =>
    rw [next] at h
    split at h <;> simp_all
  | case2 capture after' hrecord =>
    rw [next] at h
    split at h <;> simp_all
  | case3 capture header body after' hrecord htype error last hunpack =>
    rw [next] at h
    split at h <;> simp_all
  | case4 capture header body after' hrecord htype packet' last hunpack =>
    have hsize := size_readRecord hrecord
    rw [next] at h
    split at h <;> simp_all
    unfold unpack at hunpack
    split at hunpack
    · cases hunpack
    · simp only [EStateM.Result.ok.injEq] at hunpack
      obtain ⟨-, rfl⟩ := hunpack
      simp only [reportFlags]
      split <;> simpa [report] using hsize
  | case5 capture header body after' hrecord htype ih =>
    have hsize := size_readRecord hrecord
    rw [next] at h
    split at h <;> simp_all
    simp only [skip, report] at ih
    omega

end Capture

end FlowTracker
