import FlowTracker.Program
import FlowTracker.Proofs.Export.Addresses
import FlowTracker.Proofs.Export.Objects

/-!
# Released flows, line by line

The compact text of released flows has one line for each of them, and no two lists of flows have the same
text: each field is determined by its word or number, and these by the text of the object.
-/

namespace FlowTracker

open Text

/-! ### Words of the fields -/

theorem FlowState.name_injective : Function.Injective FlowState.name := by
  intro state state' heq
  cases state <;> cases state' <;> first | rfl | exact absurd heq (by decide)

theorem ReleaseReason.name_injective : Function.Injective ReleaseReason.name := by
  intro reason reason' heq
  cases reason <;> cases reason' <;> first | rfl | exact absurd heq (by decide)

theorem Protocol.isDigit_of_mem_text {number : UInt8} {c : Char}
    (h : c ∈ (text (.other number)).toList) : c.isDigit = true := by
  rw [text, toList_toString] at h
  exact Nat.isDigit_of_mem_toDigits (by decide) (by decide) h

/-- A protocol that has a name is not written like a number. -/
theorem Protocol.text_other_ne (number : UInt8) {name : String}
    (h : name.toList.all Char.isDigit = false) : text (.other number) ≠ name := by
  rintro rfl
  have hdigits : (text (.other number)).toList.all Char.isDigit = true :=
    List.all_eq_true.2 fun c hmem => isDigit_of_mem_text hmem
  rw [h] at hdigits
  cases hdigits

theorem Protocol.text_injective : Function.Injective Protocol.text := by
  intro protocol protocol' heq
  cases protocol <;> cases protocol'
  case other.other number number' =>
    have hdigits := congrArg String.toList heq
    rw [text, text, toList_toString, toList_toString] at hdigits
    rw [UInt8.toNat_inj.1 (toDigits_injective (by decide) (by decide) hdigits)]
  case other.icmp number => exact absurd heq (text_other_ne number (by decide))
  case other.tcp number => exact absurd heq (text_other_ne number (by decide))
  case other.udp number => exact absurd heq (text_other_ne number (by decide))
  case other.icmp6 number => exact absurd heq (text_other_ne number (by decide))
  case icmp.other number => exact absurd heq.symm (text_other_ne number (by decide))
  case tcp.other number => exact absurd heq.symm (text_other_ne number (by decide))
  case udp.other number => exact absurd heq.symm (text_other_ne number (by decide))
  case icmp6.other number => exact absurd heq.symm (text_other_ne number (by decide))
  all_goals first | rfl | exact absurd heq (by decide)

/-! ### Plain words -/

theorem Address.text_isPlain (address : Address) : Text.IsPlain address.text := by
  intro c hmem
  rcases mem_text hmem with rfl | rfl | hdigit
  · decide
  · decide
  · exact hdigit.not_mark.2.2

theorem Protocol.text_isPlain (protocol : Protocol) : Text.IsPlain protocol.text := by
  cases protocol with
  | other number =>
    intro c hmem
    have hdigit := isDigit_of_mem_text hmem
    refine ⟨?_, ?_, ?_⟩ <;> rintro rfl <;> cases hdigit
  | _ => decide

theorem FlowState.name_isPlain (state : FlowState) : Text.IsPlain state.name := by
  cases state <;> decide

theorem ReleaseReason.name_isPlain (reason : ReleaseReason) : Text.IsPlain reason.name := by
  cases reason <;> decide

/-! ### Objects -/

theorem Json.isPlain_object {members : List (String × Json)} (names : List String)
    (h : members.map Prod.fst = names) (hnames : names.all (decide <| Text.IsPlain ·) = true)
    (hvalues : ∀ member ∈ members, member.2.IsPlain) : (Json.object members).IsPlain := by
  apply IsPlain.object _ hvalues
  intro member hmem
  have hname := List.all_eq_true.1 hnames member.1 (h ▸ List.mem_map_of_mem hmem)
  exact of_decide_eq_true hname

theorem Timestamp.toJson_isPlain (time : Timestamp) : time.toJson.IsPlain := by
  refine Json.isPlain_object ["sec", "usec"] rfl (by decide) ?_
  simp only [List.forall_mem_cons]
  exact ⟨.number _, .number _, fun _ h => nomatch h⟩

theorem FiveTuple.toJson_isPlain (tuple : FiveTuple) : tuple.toJson.IsPlain := by
  refine Json.isPlain_object ["src_ip", "dst_ip", "src_port", "dst_port", "protocol"] rfl
    (by decide) ?_
  simp only [List.forall_mem_cons]
  exact ⟨.word tuple.source.address.text_isPlain, .word tuple.target.address.text_isPlain, .number _,
    .number _, .word tuple.protocol.text_isPlain, fun _ h => nomatch h⟩

theorem ReleasedFlow.toJson_isPlain (flow : ReleasedFlow) : flow.toJson.IsPlain := by
  refine Json.isPlain_object ["reason", "state", "tuple", "first_seen", "last_seen",
    "packets_toserver", "packets_toclient", "bytes_toserver", "bytes_toclient",
    "tcp_flags_toserver", "tcp_flags_toclient"] rfl (by decide) ?_
  simp only [FlowRecord.members, List.forall_mem_cons]
  exact ⟨.word flow.reason.name_isPlain, .word flow.record.state.name_isPlain,
    flow.record.tuple.toJson_isPlain, flow.record.firstSeen.toJson_isPlain,
    flow.record.lastSeen.toJson_isPlain, .number _, .number _, .number _, .number _, .number _,
    .number _, fun _ h => nomatch h⟩

theorem Timestamp.toJson_injective : Function.Injective Timestamp.toJson := by
  rintro ⟨sec, usec⟩ ⟨sec', usec'⟩ heq
  simp only [toJson, Json.object.injEq, List.cons.injEq, Prod.mk.injEq, Json.number.injEq, true_and,
    and_true] at heq
  obtain ⟨hsec, husec⟩ := heq
  rw [UInt64.toNat_inj.1 hsec, UInt32.toNat_inj.1 husec]

theorem FiveTuple.toJson_injective : Function.Injective FiveTuple.toJson := by
  rintro ⟨⟨address, port⟩, ⟨target, port'⟩, protocol⟩ ⟨⟨address', sport⟩, ⟨target', sport'⟩, protocol'⟩
    heq
  simp only [toJson, Json.object.injEq, List.cons.injEq, Prod.mk.injEq, Json.number.injEq,
    Json.word.injEq, true_and, and_true] at heq
  obtain ⟨haddress, htarget, hport, hport', hprotocol⟩ := heq
  rw [Address.text_injective haddress, Address.text_injective htarget, UInt16.toNat_inj.1 hport,
    UInt16.toNat_inj.1 hport', Protocol.text_injective hprotocol]

theorem ReleasedFlow.toJson_injective : Function.Injective ReleasedFlow.toJson := by
  rintro ⟨reason, state, tuple, first, last, ⟨packets, bytes, flags⟩, ⟨packets₁, bytes₁, flags₁⟩⟩
    ⟨reason', state', tuple', first', last', ⟨packets', bytes', flags'⟩,
      ⟨packets₁', bytes₁', flags₁'⟩⟩ heq
  simp only [toJson, FlowRecord.members, Json.object.injEq, List.cons.injEq, Prod.mk.injEq,
    Json.number.injEq, Json.word.injEq, true_and, and_true] at heq
  obtain ⟨hreason, hstate, htuple, hfirst, hlast, hpackets, hpackets₁, hbytes, hbytes₁, hflags,
    hflags₁⟩ := heq
  rw [ReleaseReason.name_injective hreason, FlowState.name_injective hstate,
    FiveTuple.toJson_injective htuple, Timestamp.toJson_injective hfirst,
    Timestamp.toJson_injective hlast, UInt64.toNat_inj.1 hpackets, UInt64.toNat_inj.1 hpackets₁,
    UInt64.toNat_inj.1 hbytes, UInt64.toNat_inj.1 hbytes₁, UInt8.toNat_inj.1 hflags,
    UInt8.toNat_inj.1 hflags₁]

/-! ### Lines -/

namespace ReleasedFlow

def line (flow : ReleasedFlow) : String := flow.toJson.compact

theorem line_injective : Function.Injective line := by
  intro flow flow' heq
  have hstops : Json.Stops [] := fun c h => nomatch h
  have hlists : flow.toJson.compact.toList ++ [] = flow'.toJson.compact.toList ++ [] := by
    rw [show flow.toJson.compact = flow'.toJson.compact from heq]
  exact toJson_injective
    (flow.toJson_isPlain.isDelimited flow'.toJson_isPlain hstops hstops hlists).1

theorem unspaced_json (flow : ReleasedFlow) :
    unspaced (ExportFormat.json.print flow).toList = flow.line.toList := by
  have hend : unspaced "\n".toList = [] := rfl
  rw [ExportFormat.print, String.toList_append, unspaced_append, hend, List.append_nil]
  exact flow.toJson_isPlain.unspaced_indented 0

/-- The line has neither blanks nor line feeds: it is what is left of a text without them. -/
theorem lineFeed_not_mem_line (flow : ReleasedFlow) : '\n' ∉ flow.line.toList := by
  intro hmem
  rw [← unspaced_json] at hmem
  have hink := List.of_mem_filter hmem
  cases hink

theorem dropReturn_line (flow : ReleasedFlow) : dropReturn flow.line.toList = flow.line.toList := by
  have hlast : flow.line.toList.getLast? = some '\x7d' := by
    show (Json.compact (.object _)).toList.getLast? = _
    rw [Json.toList_object, ← List.cons_append, List.getLast?_concat]
  rw [dropReturn, hlast, if_neg (by decide)]

end ReleasedFlow

def ExportFormat.stream (format : ExportFormat) (flows : List ReleasedFlow) : String :=
  String.join (flows.map format.emit)

/-- What the program writes is the stream of the flows that the replay has exported. -/
theorem Program.output_conclude (settings : Settings) (replay : Replay) :
    (conclude settings replay).output = settings.format.stream replay.engine.exported.toList := by
  unfold conclude
  cases replay.outcome <;> rfl

theorem Text.splitOn_append_cons {separator : Char} {cs : List Char} (h : separator ∉ cs)
    (rest : List Char) : splitOn separator (cs ++ separator :: rest) = cs :: splitOn separator rest := by
  induction cs with
  | nil => simp [splitOn]
  | cons c cs ih =>
    obtain ⟨hne, htail⟩ := not_or.1 (mt List.mem_cons.2 h)
    rw [List.cons_append, splitOn, if_neg (Ne.symm hne), ih htail]

namespace ExportFormat

theorem toList_stream_cons (flow : ReleasedFlow) (flows : List ReleasedFlow) :
    (jsonCompact.stream (flow :: flows)).toList
      = flow.line.toList ++ '\n' :: (jsonCompact.stream flows).toList := by
  rw [stream, List.map_cons, String.join_cons, String.toList_append]
  show (flow.line ++ "\n").toList ++ _ = _
  rw [String.toList_append, List.append_assoc]
  rfl

theorem splitOn_stream (flows : List ReleasedFlow) :
    splitOn '\n' (jsonCompact.stream flows).toList
      = flows.map (fun flow => flow.line.toList) ++ [[]] := by
  induction flows with
  | nil => rfl
  | cons flow flows ih =>
    rw [toList_stream_cons, splitOn_append_cons flow.lineFeed_not_mem_line, ih]
    rfl

theorem lines_stream (flows : List ReleasedFlow) :
    lines (jsonCompact.stream flows) = flows.map ReleasedFlow.line := by
  have hline : ∀ flow : ReleasedFlow, String.ofList (dropReturn flow.line.toList) = flow.line := by
    intro flow
    rw [flow.dropReturn_line, String.ofList_toList]
  simp only [lines, splitOn_stream, List.dropLast_concat, List.getLast?_concat, List.map_map,
    Function.comp_def, hline]

theorem stream_injective : Function.Injective jsonCompact.stream := by
  intro flows flows' heq
  have hlines : flows.map ReleasedFlow.line = flows'.map ReleasedFlow.line := by
    rw [← lines_stream, ← lines_stream, heq]
  exact List.map_injective_iff.2 ReleasedFlow.line_injective hlines

/-- The compact text of released flows has one line for each of them, in order, and determines them; and
the line of a flow is its indented text without blanks and line feeds. -/
theorem jsonCompact_loses_nothing :
    (∀ flows, lines (jsonCompact.stream flows) = flows.map ReleasedFlow.line)
      ∧ Function.Injective jsonCompact.stream
      ∧ ∀ flow, unspaced (json.stream [flow]).toList = flow.line.toList := by
  refine ⟨lines_stream, stream_injective, ?_⟩
  intro flow
  have hstream : json.stream [flow] = json.print flow := by
    rw [stream, List.map_singleton, String.join_cons, String.join_nil, String.append_empty]
    rfl
  rw [hstream]
  exact flow.unspaced_json

end ExportFormat

end FlowTracker
