import FlowTracker.Proofs.Engine.Consistency
import FlowTracker.Proofs.Frames.Written
import FlowTracker.Proofs.Records.Conversations

/-!
# Echo requests and their replies

A control message has no ports.  Its type and code stand where the source port would, and the target
port is zero; a request and its reply have different types, so neither tuple is the reverse of the other
and the two messages have different keys (`InternetHeader.control_key_eq_iff`).  An engine therefore takes
the two directions of an echo exchange for two conversations: the reply leaves the record of the request as
it is and starts a flow of its own (`Engine.echo_reply_apart`).
-/

namespace FlowTracker

/-! ### Control messages -/

namespace InternetHeader

def controlProtocol : InternetHeader → Protocol
  | v4 _ => .icmp
  | v6 _ => .icmp6

def echoRequest : InternetHeader → UInt8
  | v4 _ => 8
  | v6 _ => 128

def echoReply : InternetHeader → UInt8
  | v4 _ => 0
  | v6 _ => 129

/-- Type and code as they stand in the place of a source port. -/
def controlPort (kind code : UInt8) : UInt16 := UInt16.ofNat (kind.toNat * 256 + code.toNat)

def controlHeaders (header : InternetHeader) (kind code : UInt8) : Headers where
  tuple :=
    { source := ⟨header.source, controlPort kind code⟩
      target := ⟨header.target, 0⟩
      protocol := header.controlProtocol }
  tcpFlags := 0

structure Opposes (header header' : InternetHeader) : Prop where
  source_eq : header.source = header'.target
  target_eq : header.target = header'.source
  hosts_ne : header.source ≠ header.target

theorem Opposes.controlProtocol_eq {header header' : InternetHeader} (h : header.Opposes header') :
    header.controlProtocol = header'.controlProtocol := by
  have hsource := h.source_eq
  cases header with
  | v4 header =>
    cases header' with
    | v4 header' => rfl
    | v6 header' => cases hsource
  | v6 header =>
    cases header' with
    | v4 header' => cases hsource
    | v6 header' => rfl

theorem controlPort_eq_zero_iff (kind code : UInt8) :
    controlPort kind code = 0 ↔ kind = 0 ∧ code = 0 := by
  have hkind := kind.toNat_lt
  have hcode := code.toNat_lt
  have hlt : kind.toNat * 256 + code.toNat < UInt16.size := by
    unfold UInt16.size
    omega
  rw [controlPort, ← UInt16.toNat_inj, ← UInt8.toNat_inj, ← UInt8.toNat_inj,
    UInt16.toNat_ofNat_of_lt' hlt]
  show kind.toNat * 256 + code.toNat = 0 ↔ kind.toNat = 0 ∧ code.toNat = 0
  omega

theorem controlProtocol_ne_tcp (header : InternetHeader) : header.controlProtocol ≠ .tcp := by
  cases header <;> exact nofun

/-- Control messages that go opposite ways have one key only if type and code of both are zero. -/
theorem control_key_eq_iff {header header' : InternetHeader} (h : header.Opposes header')
    (kind code kind' code' : UInt8) :
    (header.controlHeaders kind code).tuple.key = (header'.controlHeaders kind' code').tuple.key
      ↔ (kind = 0 ∧ code = 0) ∧ kind' = 0 ∧ code' = 0 := by
  rw [← controlPort_eq_zero_iff kind code, ← controlPort_eq_zero_iff kind' code']
  constructor
  · intro hkey
    rcases FiveTuple.eq_or_eq_reverse hkey with heq | heq
    · have hsource : header.source = header'.source :=
        congrArg (fun tuple => tuple.source.address) heq
      exact absurd (hsource.trans h.target_eq.symm) h.hosts_ne
    · have hport : controlPort kind code = 0 := congrArg (fun tuple => tuple.source.port) heq
      have hport' : 0 = controlPort kind' code' := congrArg (fun tuple => tuple.target.port) heq
      exact ⟨hport, hport'.symm⟩
  · rintro ⟨hport, hport'⟩
    rw [← FiveTuple.key_reverse]
    congr 1
    unfold controlHeaders FiveTuple.reverse
    rw [hport, hport', h.source_eq, h.target_eq, h.controlProtocol_eq]

end InternetHeader

namespace EthernetFrame

structure IsControl (frame : EthernetFrame) (kind code : UInt8) : Prop where
  number_eq : frame.internet.number = frame.internet.controlProtocol.number
  payload_eq : ∃ rest, frame.payload = kind :: code :: rest

/-- The frame carries an echo reply to the host whose request the other frame carries, whatever identifiers
and data the two have. -/
structure AnswersEcho (reply request : EthernetFrame) : Prop where
  isRequest : request.IsControl request.internet.echoRequest 0
  isReply : reply.IsControl reply.internet.echoReply 0
  opposes : request.internet.Opposes reply.internet

variable {frame request reply : EthernetFrame} {kind code : UInt8}

theorem IsControl.transport_eq (h : frame.IsControl kind code) :
    Frame.transport frame.internet.controlProtocol frame.payload
      = .ok (InternetHeader.controlPort kind code, 0, 0) := by
  obtain ⟨rest, hpayload⟩ := h.payload_eq
  have hword : Frame.word frame.payload 0 = InternetHeader.controlPort kind code := by
    rw [hpayload]
    exact Frame.word_eq_pair (Nat.le_add_left ..)
  have hsize : 2 ≤ frame.payload.length := by
    rw [hpayload]
    exact Nat.le_add_left ..
  rw [← hword]
  cases frame.internet with
  | v4 header => exact Frame.transport_of_le (show Frame.portsSize .icmp ≤ _ from hsize)
  | v6 header => exact Frame.transport_of_le (show Frame.portsSize .icmp6 ≤ _ from hsize)

/-- With a tag or without one, and whatever the options and the rest of the message are. -/
theorem IsControl.headers_eq (h : frame.IsControl kind code) :
    Frame.headers frame.octets = .ok (frame.internet.controlHeaders kind code) := by
  have hprotocol : Protocol.ofNumber frame.internet.number = frame.internet.controlProtocol := by
    rw [h.number_eq]
    cases frame.internet <;> rfl
  rw [headers_eq_datagram, Frame.datagram, frame.internet.internet_octets frame.payload, hprotocol]
  show (Frame.transport _ _ >>= _) = _
  rw [h.transport_eq]
  rfl

theorem AnswersEcho.key_ne (h : reply.AnswersEcho request) :
    (request.internet.controlHeaders request.internet.echoRequest 0).tuple.key
      ≠ (reply.internet.controlHeaders reply.internet.echoReply 0).tuple.key := by
  intro hkey
  have hzero := ((InternetHeader.control_key_eq_iff h.opposes ..).1 hkey).1.1
  cases hinternet : request.internet with
  | v4 header => rw [hinternet] at hzero; cases hzero
  | v6 header => rw [hinternet] at hzero; cases hzero

end EthernetFrame

/-! ### Other conversations -/

/-- A conversation without TCP starts in one direction. -/
theorem FlowRecord.first_of_ne_tcp (headers : Headers) (h : headers.tuple.protocol ≠ .tcp)
    (time : Timestamp) (size : UInt64) :
    (first headers time size).state = .new ∧ (first headers time size).toClient = .empty := by
  have hserver : (blank headers time).isToServer headers = true := beq_self_eq_true _
  have hopen : (blank headers time).isClosing headers = false := by
    have hprotocol : (headers.tuple.protocol == .tcp) = false := beq_eq_false_iff_ne.2 h
    simp only [isClosing, blank, hprotocol, Bool.false_and]
  constructor
  · show (if (blank headers time).isClosing headers then FlowState.closed
      else if true && !(blank headers time).isToServer headers then .established else .new) = .new
    rw [hopen, hserver]
    rfl
  · show ((blank headers time).withDirection headers _).toClient = .empty
    rw [withDirection, if_pos hserver]
    rfl

/-- The arrival is none of the conversation with the key: that conversation keeps its record, and a
conversation that is unknown so far is started in a slot of its own. -/
structure Engine.TracksApart (engine after : Engine) (key : FlowKey) (arrival : Arrival) : Prop where
  kept : ∀ slot record, engine.table.lookup key = some slot →
    engine.table.recordAt slot = some record →
    after.table.lookup key = some slot ∧ after.table.recordAt slot = some record
  started : arrival.time.Fits → engine.table.lookup arrival.key = none →
    (∃ slot < engine.table.capacity, engine.table.recordAt slot = none) →
    after.totals.flowsCreated = engine.totals.flowsCreated + 1
    ∧ ∃ slot, engine.table.recordAt slot = none
      ∧ after.table.lookup arrival.key = some slot
      ∧ after.table.recordAt slot = some (.first arrival.headers arrival.time arrival.size)

/-- A conversation that no slot tracks is unknown. -/
theorem Engine.AmongHolders.lookup_eq_none {engine : Engine} {busy : FlowId → Bool}
    {lineup : Lineup 1 4} {phase : FlowId → Phase} (h : engine.AmongHolders busy lineup phase)
    {key : FlowKey} (hnew : ∀ flow record, phase flow = .tracked record → record.key ≠ key) :
    engine.table.lookup key = none := by
  rw [Option.eq_none_iff_forall_ne_some]
  intro flow hlookup
  obtain ⟨record, hphase, hkey⟩ := h.tracked_of_lookup hlookup
  exact hnew flow record hphase hkey

namespace Engine.AtRest

variable {engine : Engine} {lineup : Lineup 1 4} {phase : FlowId → Phase} {flow : FlowId}
  {record : FlowRecord}

/-- An arrival of another conversation leaves a record as it is. -/
theorem track_apart (h : engine.AtRest lineup phase) (worker : Worker) (arrival : Arrival)
    (hfits : arrival.time.Fits) (hphase : phase flow = .tracked record)
    (hkey : record.key ≠ arrival.key) :
    ∃ engine' lineup' phase', engine'.AtRest lineup' phase' ∧ phase' flow = .tracked record
      ∧ ((worker.track arrival).run engine = .ok () engine'
        ∨ ∃ fault, (worker.track arrival).run engine = .error fault engine') := by
  cases hlookup : engine.table.lookup arrival.key with
  | some other =>
    obtain ⟨record', hphase', hkey'⟩ := h.tracked_of_lookup hlookup
    have hne : flow ≠ other := by
      rintro rfl
      rw [hphase] at hphase'
      cases hphase'
      exact hkey hkey'
    by_cases hroom : (record'.direction arrival.headers).HasRoom arrival.size
    · obtain ⟨engine', lineup', hrun, h', -⟩ := h.track_known worker hphase' hkey' hfits hroom
      exact ⟨engine', lineup', _, h', (Function.update_of_ne hne ..).trans hphase, Or.inl hrun⟩
    · obtain ⟨engine', record'', hrun, h', -⟩ := h.track_full worker hphase' hkey' hroom
      exact ⟨engine', lineup, _, h', (Function.update_of_ne hne ..).trans hphase,
        Or.inr ⟨_, hrun⟩⟩
  | none =>
    cases hspare : lineup.flows spareQueue with
    | nil =>
      obtain ⟨engine', hrun, h', -⟩ := h.track_drop worker hlookup hspare
      exact ⟨engine', lineup, phase, h', hphase, Or.inl hrun⟩
    | cons other rest =>
      obtain ⟨engine', lineup', hrun, hother, h', -⟩ := h.track_new worker hlookup hfits hspare
      have hne : flow ≠ other := by
        rintro rfl
        rw [hphase] at hother
        cases hother
      exact ⟨engine', lineup', _, h', (Function.update_of_ne hne ..).trans hphase, Or.inl hrun⟩

/-- A packet whose time fits and whose frame can be read is tracked by an engine that is at rest too. -/
theorem exists_start (h : engine.AtRest lineup phase) (worker : Worker) (packet : Packet)
    {headers : Headers} (hheaders : Frame.headers packet.frame = .ok headers)
    (hfits : packet.time.Fits) :
    ∃ start : Engine, start.AtRest lineup phase ∧ start.table.bindings = engine.table.bindings
      ∧ start.totals.flowsCreated = engine.totals.flowsCreated
      ∧ (worker.process packet).run (engine.withHolders fun _ => false)
        = (worker.track ⟨headers, packet.time, packet.size⟩).run start := by
  obtain ⟨clock, hclock, -⟩ := PacketClock.advance_of_fits engine.clock hfits
  have hrest : (engine.withHolders fun _ => false).AtRest lineup phase := h.withHolders _
  exact ⟨clocked (engine.withHolders fun _ => false) packet clock, hrest.congr rfl rfl, rfl, rfl,
    process_decodable (engine.withHolders fun _ => false) worker packet hclock hheaders⟩

theorem perform_process {engine' : Engine} {worker : Worker} {packet : Packet}
    (hrun : (worker.process packet).run (engine.withHolders fun _ => false) = .ok () engine'
      ∨ ∃ fault,
        (worker.process packet).run (engine.withHolders fun _ => false) = .error fault engine') :
    engine.perform (.process worker packet) = engine'.withHolders fun _ => false :=
  AmongHolders.perform_eq hrun

/-- A packet of another conversation leaves a record as it is, also one whose time does not fit. -/
theorem perform_apart (h : engine.AtRest lineup phase) (worker : Worker) (packet : Packet)
    {headers : Headers} (hheaders : Frame.headers packet.frame = .ok headers)
    (hphase : phase flow = .tracked record) (hkey : record.key ≠ headers.tuple.key) :
    ∃ lineup' phase', (engine.perform (.process worker packet)).AtRest lineup' phase'
      ∧ phase' flow = .tracked record := by
  by_cases hfits : packet.time.Fits
  · obtain ⟨start, hstart, -, -, hprocess⟩ := h.exists_start worker packet hheaders hfits
    obtain ⟨engine', lineup', phase', h', hkept, hrun⟩ :=
      hstart.track_apart worker ⟨headers, packet.time, packet.size⟩ hfits hphase hkey
    rw [← hprocess] at hrun
    rw [perform_process hrun]
    exact ⟨lineup', phase', h'.withHolders _, hkept⟩
  · have hrest : (engine.withHolders fun _ => false).AtRest lineup phase := h.withHolders _
    have hcounted : (counted (engine.withHolders fun _ => false) packet).AtRest lineup phase :=
      hrest.congr rfl rfl
    rw [perform_process (Or.inr (process_unfit _ worker packet hfits))]
    exact ⟨lineup, phase, hcounted.withHolders _, hphase⟩

/-- The first packet of a conversation starts a flow while there is a spare slot. -/
theorem perform_new (h : engine.AtRest lineup phase) (worker : Worker) (packet : Packet)
    {headers : Headers} (hheaders : Frame.headers packet.frame = .ok headers)
    (hfits : packet.time.Fits) (hunbound : engine.table.lookup headers.tuple.key = none)
    (hspare : phase flow = .spare) :
    ∃ slot lineup', phase slot = .spare
      ∧ (engine.perform (.process worker packet)).AtRest lineup' (Function.update phase slot
        (.tracked (FlowRecord.first headers packet.time packet.size)))
      ∧ (engine.perform (.process worker packet)).totals.flowsCreated
        = engine.totals.flowsCreated + 1 := by
  obtain ⟨start, hstart, hbindings, hcreated, hprocess⟩ :=
    h.exists_start worker packet hheaders hfits
  have hnew : start.table.lookup (Arrival.key ⟨headers, packet.time, packet.size⟩) = none := by
    rw [FlowTable.lookup, hbindings]
    exact hunbound
  obtain ⟨slot, rest, hflows⟩ := List.exists_cons_of_ne_nil
    (List.ne_nil_of_mem (hstart.mem_spare_iff.2 hspare))
  obtain ⟨engine', lineup', hrun, hslot, h', -, -, htotals⟩ :=
    hstart.track_new worker hnew hfits hflows
  rw [← hprocess] at hrun
  rw [perform_process (Or.inl hrun)]
  refine ⟨slot, lineup', hslot, h'.withHolders _, ?_⟩
  rw [← hcreated]
  exact congrArg Totals.flowsCreated htotals

/-- A packet of another conversation is tracked apart. -/
theorem tracksApart (h : engine.AtRest lineup phase) (worker : Worker) (packet : Packet)
    {headers : Headers} (hheaders : Frame.headers packet.frame = .ok headers) {key : FlowKey}
    (hkey : key ≠ headers.tuple.key) :
    engine.TracksApart (engine.perform (.process worker packet)) key
      ⟨headers, packet.time, packet.size⟩ := by
  constructor
  · intro slot record hlookup hrecord
    obtain ⟨record', hphase, hsame⟩ := h.tracked_of_lookup hlookup
    rw [h.agrees.record_eq, hphase] at hrecord
    obtain rfl : record' = record := Option.some.inj hrecord
    obtain ⟨lineup', phase', h', hkept⟩ :=
      h.perform_apart worker packet hheaders hphase (hsame.trans_ne hkey)
    rw [h'.agrees.lookup_iff, h'.agrees.record_eq, hkept]
    exact ⟨congrArg some hsame, rfl⟩
  · rintro hfits hunbound ⟨free, hlt, hnone⟩
    have hspare : phase free = .spare :=
      h.mem_spare_iff.1 (((h.consistent rfl).spare_iff free hlt).2 hnone)
    obtain ⟨slot, lineup', hslot, h', hcreated⟩ :=
      h.perform_new worker packet hheaders hfits hunbound hspare
    refine ⟨hcreated, slot, ?_, ?_, ?_⟩
    · rw [h.agrees.record_eq, hslot]
      rfl
    · rw [h'.agrees.lookup_iff, Function.update_self]
      exact congrArg some (FlowRecord.key_first ..)
    · rw [h'.agrees.record_eq, Function.update_self]
      rfl

end Engine.AtRest

/-! ### Echo exchanges -/

namespace Engine

/-- An echo request and its reply can be read, and have different keys.  Whatever an engine has seen, it
does not take the reply for a packet of the conversation that the request belongs to; the reply starts
a conversation that has been seen in one direction. -/
theorem echo_reply_apart {request reply : EthernetFrame} (h : reply.AnswersEcho request)
    {capacity : Nat} (hcapacity : capacity < QueueStore.handleLimit) (calls : List EngineCall)
    (worker : Worker) (time : Timestamp) :
    let there := request.internet.controlHeaders request.internet.echoRequest 0
    let back := reply.internet.controlHeaders reply.internet.echoReply 0
    Frame.headers request.octets = .ok there ∧ Frame.headers reply.octets = .ok back
    ∧ there.tuple.key ≠ back.tuple.key
    ∧ ∃ engine, fresh capacity = .ok engine ∧
      let reached := engine.performAll calls
      let packet : Packet := ⟨time, reply.octets⟩
      reached.table.capacity = capacity
      ∧ reached.TracksApart (reached.perform (.process worker packet)) there.tuple.key
        ⟨back, time, packet.size⟩
      ∧ (FlowRecord.first back time packet.size).state = .new
      ∧ (FlowRecord.first back time packet.size).toClient = .empty := by
  intro there back
  have hback : Frame.headers reply.octets = .ok back := h.isReply.headers_eq
  refine ⟨h.isRequest.headers_eq, hback, h.key_ne, ?_⟩
  obtain ⟨engine, lineup, hfresh, hrest, hsize, -⟩ := fresh_atRest hcapacity
  obtain ⟨lineup', phase', hrest', hsame⟩ := hrest.performAll calls
  exact ⟨engine, hfresh, (hrest.agrees.capacity_congr hrest'.agrees hsame).trans hsize,
    hrest'.tracksApart worker _ hback h.key_ne,
    FlowRecord.first_of_ne_tcp back reply.internet.controlProtocol_ne_tcp time _⟩

/-- A fresh engine of two slots that has seen a request knows nothing of its reply yet. -/
theorem exists_requested {request reply : EthernetFrame} (h : reply.AnswersEcho request)
    (worker : Worker) {time : Timestamp} (hfits : time.Fits) :
    let there := request.internet.controlHeaders request.internet.echoRequest 0
    let back := reply.internet.controlHeaders reply.internet.echoReply 0
    let packet : Packet := ⟨time, request.octets⟩
    ∃ engine slot lineup phase, fresh 2 = .ok engine ∧
      let reached := engine.performAll [.process worker packet]
      reached.AtRest lineup phase
      ∧ reached.table.lookup there.tuple.key = some slot
      ∧ reached.table.recordAt slot = some (FlowRecord.first there time packet.size)
      ∧ reached.table.lookup back.tuple.key = none
      ∧ (∃ free < reached.table.capacity, reached.table.recordAt free = none)
      ∧ reached.totals.flowsCreated = 1 := by
  intro there back packet
  have hthere : Frame.headers packet.frame = .ok there := h.isRequest.headers_eq
  obtain ⟨engine, lineup, hfresh, hrest, -, -, htotals, -⟩ :=
    fresh_atRest (by decide : 2 < QueueStore.handleLimit)
  have hunbound := hrest.lookup_fresh there.tuple.key
  obtain ⟨slot, lineup', hspare, hrest', hcreated⟩ :=
    hrest.perform_new worker packet hthere hfits hunbound (rfl : freshPhase 2 0 = .spare)
  have hone : engine.perform (.process worker packet) = engine.performAll [.process worker packet] := rfl
  rw [hone] at hrest' hcreated
  refine ⟨engine, slot, lineup', _, hfresh, hrest', ?_, ?_, ?_, ?_, ?_⟩
  · rw [hrest'.agrees.lookup_iff, Function.update_self]
    exact congrArg some (FlowRecord.key_first ..)
  · rw [hrest'.agrees.record_eq, Function.update_self]
    rfl
  · apply hrest'.lookup_eq_none
    intro flow record hphase
    by_cases hflow : flow = slot
    · rw [hflow, Function.update_self] at hphase
      cases hphase
      rw [FlowRecord.key_first]
      exact h.key_ne
    · rw [Function.update_of_ne hflow] at hphase
      exact (freshPhase_ne_tracked _ _ _ hphase).elim
  · obtain ⟨free, hlt, hne⟩ : ∃ free < 2, free ≠ slot := by
      by_cases hslot : slot = 0
      · exact ⟨1, by decide, by rw [hslot]; decide⟩
      · exact ⟨0, by decide, Ne.symm hslot⟩
    have hspare (new : Phase) : Function.update (freshPhase 2) slot new free = .spare :=
      (Function.update_of_ne hne ..).trans (if_pos hlt)
    refine ⟨free, hrest'.agrees.lt_size (by rw [hspare]; exact nofun), ?_⟩
    rw [hrest'.agrees.record_eq, hspare]
    rfl
  · rw [hcreated, htotals]
    rfl

/-- Tagged messages of version 6; the engine has seen the request and has one more slot. -/
theorem echo_reply_apart_of_tagged :
    let request : EthernetFrame := ⟨List.replicate 12 5, some 0x2064,
      .v6 ⟨1, 2, 58, 0, [0, 0, 0, 0, 8], 64, rfl⟩, [128, 0, 0, 0, 0, 1, 0, 1], rfl, by decide,
      by decide, by decide⟩
    let reply : EthernetFrame := ⟨List.replicate 12 5, some 0x2064,
      .v6 ⟨2, 1, 58, 0, [0, 0, 0, 0, 8], 64, rfl⟩, [129, 0, 0, 0, 0, 1, 0, 1], rfl, by decide,
      by decide, by decide⟩
    reply.AnswersEcho request ∧ 2 < QueueStore.handleLimit ∧ ∃ engine slot, fresh 2 = .ok engine ∧
      let reached := engine.performAll [.process ⟨0⟩ ⟨⟨1, 0⟩, request.octets⟩]
      let after := reached.perform (.process ⟨1⟩ ⟨⟨2, 0⟩, reply.octets⟩)
      ∃ record, reached.table.recordAt slot = some record ∧ record.state = .new
        ∧ after.table.recordAt slot = some record
        ∧ after.totals.flowsCreated = reached.totals.flowsCreated + 1 := by
  intro request reply
  have hanswers : reply.AnswersEcho request :=
    ⟨⟨rfl, _, rfl⟩, ⟨rfl, _, rfl⟩, rfl, rfl, by decide⟩
  refine ⟨hanswers, by decide, ?_⟩
  obtain ⟨-, -, -, engine, hfresh, -, hapart, -⟩ := echo_reply_apart hanswers
    (by decide : 2 < _) [.process ⟨0⟩ ⟨⟨1, 0⟩, request.octets⟩] ⟨1⟩ ⟨2, 0⟩
  obtain ⟨engine', slot, -, -, hfresh', -, hlookup, hrecord, hunbound, hspare, -⟩ :=
    exists_requested hanswers ⟨0⟩ (by decide : Timestamp.Fits ⟨1, 0⟩)
  obtain rfl : engine' = engine := Except.ok.inj (hfresh'.symm.trans hfresh)
  have hnew := FlowRecord.first_of_ne_tcp
    (request.internet.controlHeaders request.internet.echoRequest 0)
    request.internet.controlProtocol_ne_tcp
  exact ⟨engine', slot, hfresh, _, hrecord, (hnew ..).1, (hapart.kept slot _ hlookup hrecord).2,
    (hapart.started (by decide) hunbound hspare).1⟩

/-- A request from 10.0.0.1 to 10.0.0.2 and its reply, with the same identifier and sequence number, end
up as two flows, each of them seen in one direction only. -/
theorem echo_tracked_as_two :
    let request : EthernetFrame := ⟨List.replicate 12 0, none,
      .v4 ⟨0x0a000001, 0x0a000002, 1, 5, [0, 0, 28, 0, 0, 0, 0, 64], [0x66, 0xdf], [], rfl, rfl, rfl⟩,
      [8, 0, 0xf7, 0xfd, 0, 1, 0, 1], rfl, by decide, by decide, by decide⟩
    let reply : EthernetFrame := ⟨List.replicate 12 0, none,
      .v4 ⟨0x0a000002, 0x0a000001, 1, 5, [0, 0, 28, 0, 0, 0, 0, 64], [0x66, 0xdf], [], rfl, rfl, rfl⟩,
      [0, 0, 0xff, 0xfd, 0, 1, 0, 1], rfl, by decide, by decide, by decide⟩
    reply.AnswersEcho request ∧ ∃ engine slot slot', fresh 2 = .ok engine ∧
      let reached := engine.performAll [.process ⟨0⟩ ⟨⟨1, 0⟩, request.octets⟩]
      let after := reached.perform (.process ⟨0⟩ ⟨⟨2, 0⟩, reply.octets⟩)
      (reached.table.recordAt slot).map FlowRecord.state = some .new
      ∧ after.table.recordAt slot = reached.table.recordAt slot
      ∧ (after.table.recordAt slot').map FlowRecord.state = some .new ∧ slot' ≠ slot
      ∧ reached.totals.flowsCreated = 1 ∧ after.totals.flowsCreated = 2 := by
  intro request reply
  have hanswers : reply.AnswersEcho request :=
    ⟨⟨rfl, _, rfl⟩, ⟨rfl, _, rfl⟩, rfl, rfl, by decide⟩
  refine ⟨hanswers, ?_⟩
  obtain ⟨engine, slot, lineup, phase, hfresh, hrest, hlookup, hrecord, hunbound, hspare, hone⟩ :=
    exists_requested hanswers ⟨0⟩ (by decide : Timestamp.Fits ⟨1, 0⟩)
  have hapart := hrest.tracksApart ⟨0⟩ ⟨⟨2, 0⟩, reply.octets⟩
    hanswers.isReply.headers_eq hanswers.key_ne
  have hkept := (hapart.kept slot _ hlookup hrecord).2
  obtain ⟨hcreated, slot', hfree, -, hstarted⟩ := hapart.started (by decide) hunbound hspare
  have hnew (header : InternetHeader) (kind : UInt8) :=
    FlowRecord.first_of_ne_tcp (header.controlHeaders kind 0) header.controlProtocol_ne_tcp
  refine ⟨engine, slot, slot', hfresh, ?_, hkept.trans hrecord.symm, ?_, ?_, hone, ?_⟩
  · rw [hrecord]
    exact congrArg some (hnew ..).1
  · rw [hstarted]
    exact congrArg some (hnew ..).1
  · rintro rfl
    rw [hrecord] at hfree
    cases hfree
  · rw [hcreated, hone]
    rfl

end Engine

end FlowTracker
