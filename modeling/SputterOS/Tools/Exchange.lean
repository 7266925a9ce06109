import SputterOS.Kernel.MetricsReply
import SputterOS.Kernel.PathAgreement
import SputterOS.Tools.Client
import SputterOS.Tools.CodecAgreement
import SputterOS.Tools.DecodeMetrics

/-!
# Requests and replies across the wire

The tool encodes a request, the device handles it over any number of ticks, and
the tool decodes what the device wrote. To the caller a request has one reply,
which says what the queue answered or carries the snapshot.
-/

set_option autoImplicit false

namespace SputterOS.Tools.Exchange
open SputterOS.FrameCodec SputterOS.FrameStream SputterOS.ProtocolRouter SputterOS.Logic
  SputterOS.Utils SputterOS.CommandLine SputterOS.ReceivedStream SputterOS.ScheduledCommsTask
  SputterOS.CommandReplies SputterOS.ReadTimeline SputterOS.FramedTicks SputterOS.PathAgreement
  SputterOS.MetricsReply SputterOS.DecodeMetrics
open ResponseSerializer (leBytes leBytes_length PerformanceSnapshot kMaxSnapshotTasks)
open Foundation.OffsetReader (leNat)
open Protocol (encode_frame encode_command decode_ack decode_nack try_decode feed_byte feed
  DecodedFrame)

section Wire

def decoded (t : Protocol.MessageType) (m : Message) : DecodedFrame :=
  { msg_type := t, seq_num := m.seqNum.toNat, payload := m.bytes }

theorem ofValue_device (t : Protocol.MessageType) :
    Protocol.MessageType.ofValue t.device.value.toNat = some t := by
  cases t <;> decide

theorem feed_data (buf body rest : List UInt8) (hz : 0 ∉ body) :
    feed buf (body ++ rest) = feed (buf ++ body) rest := by
  induction body generalizing buf with
  | nil => simp
  | cons b body ih =>
    have hb : b ≠ 0 := fun h => hz (by simp [h])
    have hstep : feed_byte buf b = (buf ++ [b], none) := if_neg hb
    rw [List.cons_append, feed, hstep, Option.toList_none, List.nil_append,
      ih _ (fun h => hz (by simp [h]))]
    simp

theorem feed_wire (t : Protocol.MessageType) (m : Message) (rest : List UInt8)
    (hs : Sendable kMaxPayload m) (ht : m.type = t.device) :
    feed [] (wire kMaxPayload m ++ rest) = decoded t m :: feed [] rest := by
  obtain ⟨body, hw, hz, hne, -, hdec⟩ := wire_eq kMaxPayload (by decide) m hs
  have hready : ({ FrameDecoder.initial with cobsBuf := body } : FrameDecoder).processFrame
      kMaxPayload = (.frameReady,
        { cobsBuf := [], msgType := m.type, seqNum := m.seqNum, payload := m.bytes }) := by
    apply processFrame_ready
    simpa [hdec] using rawFrame_raw kMaxPayload (by decide) m hs
  have hheard := CodecAgreement.processFrame_heard kMaxPayload
    { FrameDecoder.initial with cobsBuf := body }
  have hframe : CodecAgreement.heard (observe (({ FrameDecoder.initial with cobsBuf := body } :
      FrameDecoder).processFrame kMaxPayload)) = some (decoded t m) := by
    rw [hready]
    simp [observe, CodecAgreement.heard, ht, ofValue_device, decoded]
  rw [hframe] at hheard
  have htry : try_decode body = some (decoded t m) :=
    (Option.filter_eq_some_iff.mp hheard.symm).1
  have hdelimiter : feed_byte body 0 = ([], some (decoded t m)) := by
    have hpos : 0 < body.length := List.length_pos_iff.mpr hne
    simp [feed_byte, Protocol.FRAME_DELIMITER, hpos, htry]
  rw [hw, List.append_assoc, feed_data [] body _ hz, List.nil_append, List.singleton_append, feed,
    hdelimiter]
  rfl

def written (es : List Effect) : List UInt8 :=
  es.flatMap fun e => match e with
    | .write _ bytes => bytes
    | .tryPush _ _ => []

theorem written_append (es fs : List Effect) : written (es ++ fs) = written es ++ written fs :=
  List.flatMap_append

end Wire

section Calls

/-- The requests of a session. A command is given by the fields of its frame. -/
inductive Call where
  | send_command (cmd : Command)
  | request_metrics
  | send_heartbeat

def transmit (seq : ℕ) : Call → Option (List UInt8)
  | .send_command cmd => do
    let payload ← encode_command cmd.id.toNat cmd.targetDevice.toNat cmd.value
    encode_frame .COMMAND seq payload
  | .request_metrics => encode_frame .METRICS_REQ seq []
  | .send_heartbeat => encode_frame .HEARTBEAT seq []

inductive Reply where
  | ack (seq cmd_id : ℕ)
  | nack (seq cmd_id device : ℕ) (value : UInt32)
  | handshake (seq version magic : ℕ)
  | metrics (seq : ℕ) (values : PerformanceMetrics)
  | heartbeat (seq : ℕ)

/-- The tool's reading of a payload by the type of its frame; `none` when the
payload is not of that type. -/
def interpret (f : DecodedFrame) : Option Reply :=
  match f.msg_type with
  | .ACK => (decode_ack f.payload).map (.ack f.seq_num)
  | .NACK => (decode_nack f.payload).map fun fields =>
    .nack f.seq_num fields.1 fields.2.1 fields.2.2
  | .HANDSHAKE_RESP => (Client.decode_handshake_resp f.payload).map fun fields =>
    .handshake f.seq_num fields.1 fields.2
  | .METRICS_RESP => (decode_metrics f.payload).bind fun read => read.1.map (.metrics f.seq_num)
  | .HEARTBEAT => some (.heartbeat f.seq_num)
  | _ => none

def message (seqNum : UInt8) : Call → Message
  | .send_command cmd => frameOf seqNum cmd
  | .request_metrics => ⟨.metricsReq, seqNum, none, 0⟩
  | .send_heartbeat => ⟨.heartbeat, seqNum, none, 0⟩

theorem message_sendable (seqNum : UInt8) (call : Call) :
    Sendable kMaxPayload (message seqNum call) := by
  cases call with
  | send_command cmd =>
    exact ⟨by simp [message, frameOf, kMaxPayload],
      Or.inr ⟨_, rfl, by simp [message, frameOf, leBytes_length]⟩⟩
  | request_metrics => exact ⟨Nat.zero_le _, Or.inl rfl⟩
  | send_heartbeat => exact ⟨Nat.zero_le _, Or.inl rfl⟩

theorem encode_frame_wire (t : Protocol.MessageType) (m : Message) (hs : Sendable kMaxPayload m)
    (ht : m.type = t.device) :
    encode_frame t m.seqNum.toNat m.bytes = some (wire kMaxPayload m) := by
  obtain ⟨hne, hle, hcap⟩ := rawFrame_fits kMaxPayload (by decide) m hs
  rw [CodecAgreement.encode_frame_raw t m kMaxPayload (by decide) hs ht,
    Cobs.encode_eq (rawFrame m) _ hcap, wire_encode kMaxPayload (by decide) m hs]

theorem encode_command_eq (cmd : Command) :
    encode_command cmd.id.toNat cmd.targetDevice.toNat cmd.value =
      some (cmd.id :: cmd.targetDevice :: leBytes 4 cmd.value.toNat) := by
  have hid := cmd.id.toNat_lt
  have hdevice := cmd.targetDevice.toNat_lt
  have hvalue := cmd.value.toNat_lt
  rw [encode_command, Protocol.pack, if_pos]
  · simp [CodecAgreement.leBytes_one]
  · simp
    omega

theorem transmit_wire (seqNum : UInt8) (call : Call) :
    transmit seqNum.toNat call = some (wire kMaxPayload (message seqNum call)) := by
  have hs := message_sendable seqNum call
  cases call with
  | send_command cmd =>
    rw [transmit, encode_command_eq]
    exact encode_frame_wire .COMMAND (message seqNum (.send_command cmd)) hs rfl
  | request_metrics => exact encode_frame_wire .METRICS_REQ (message seqNum .request_metrics) hs rfl
  | send_heartbeat => exact encode_frame_wire .HEARTBEAT (message seqNum .send_heartbeat) hs rfl

end Calls

section Replies

/-- What a call leads to: the commands offered to the queue with its answers,
and the reply. -/
inductive Handled (snapshotFn : List Effect → PerformanceSnapshot) (seq : ℕ) :
    Call → List (Command × Bool) → Reply → Prop where
  | accepted (cmd : Command) :
      Handled snapshotFn seq (.send_command cmd) [(cmd, true)] (.ack seq cmd.id.toNat)
  | rejected (cmd : Command) :
      Handled snapshotFn seq (.send_command cmd) [(cmd, false)]
        (.nack seq cmd.id.toNat cmd.targetDevice.toNat cmd.value)
  | metrics (history : List Effect) :
      Handled snapshotFn seq .request_metrics []
        (.metrics seq (receivedMetrics (snapshotFn history)))
  | heartbeat : Handled snapshotFn seq .send_heartbeat [] (.heartbeat seq)

/-- The calls of a session, from a sequence number on, each with its one reply. -/
inductive Served (snapshotFn : List Effect → PerformanceSnapshot) :
    ℕ → List Call → List (Command × Bool) → List Reply → Prop where
  | nil (seq : ℕ) : Served snapshotFn seq [] [] []
  | cons (seq : ℕ) (call : Call) (calls : List Call) (offers rest : List (Command × Bool))
      (reply : Reply) (replies : List Reply) (h : Handled snapshotFn seq call offers reply)
      (hrest : Served snapshotFn (Client.next_seq seq) calls rest replies) :
      Served snapshotFn seq (call::calls) (offers ++ rest) (reply::replies)

theorem offers_answer (cmd : Command) (accepted : Bool) (writer : Writer) (bytes : List UInt8) :
    [Effect.tryPush cmd accepted, .write writer bytes].filterMap offer = [(cmd, accepted)] := rfl

theorem offers_write (writer : Writer) (bytes : List UInt8) :
    [Effect.write writer bytes].filterMap offer = [] := rfl

theorem payload_sendable (type : MessageType) (seqNum : UInt8) (payload : List UInt8)
    (h : payload.length ≤ kMaxPayload) :
    Sendable kMaxPayload ⟨type, seqNum, some payload, payload.length⟩ :=
  ⟨h, Or.inr ⟨payload, rfl, le_rfl⟩⟩

def Hears (es : List Effect) (replies : List Reply) : Prop :=
  ∀ rest, (feed [] (written es ++ rest)).map interpret =
    replies.map some ++ (feed [] rest).map interpret

theorem Hears.nil : Hears [] [] := fun _ => rfl

theorem Hears.append (es fs : List Effect) (replies replies' : List Reply) (h : Hears es replies)
    (h' : Hears fs replies') : Hears (es ++ fs) (replies ++ replies') := by
  intro rest
  rw [written_append, List.append_assoc, h, h', List.map_append, List.append_assoc]

theorem Hears.silent (cmd : Command) (accepted : Bool) (es : List Effect) (replies : List Reply)
    (h : Hears es replies) : Hears (.tryPush cmd accepted :: es) replies := h

theorem Hears.write (writer : Writer) (t : Protocol.MessageType) (m : Message) (reply : Reply)
    (hs : Sendable kMaxPayload m) (ht : m.type = t.device)
    (hreply : interpret (decoded t m) = some reply) :
    Hears [.write writer (wire kMaxPayload m)] [reply] := by
  intro rest
  have hbytes : written [.write writer (wire kMaxPayload m)] = wire kMaxPayload m := by
    simp [written]
  rw [hbytes, feed_wire t m rest hs ht, List.map_cons, hreply]
  rfl

theorem interpret_ack (seqNum cmdId : UInt8) :
    interpret (decoded .ACK ⟨.ack, seqNum, some [cmdId], 1⟩) =
      some (.ack seqNum.toNat cmdId.toNat) := by
  simp [interpret, decoded, Message.bytes, decode_ack, leNat]

theorem interpret_nack (seqNum : UInt8) (cmd : Command) :
    interpret (decoded .NACK ⟨.nack, seqNum,
        some (cmd.id :: cmd.targetDevice :: leBytes 4 cmd.value.toNat), 6⟩) =
      some (.nack seqNum.toNat cmd.id.toNat cmd.targetDevice.toNat cmd.value) := by
  have hvalue : leNat (leBytes 4 cmd.value.toNat) = cmd.value.toNat :=
    leNat_leBytes 4 _ cmd.value.toNat_lt
  have hbytes : (cmd.id :: cmd.targetDevice :: leBytes 4 cmd.value.toNat).take 6 =
      cmd.id :: cmd.targetDevice :: leBytes 4 cmd.value.toNat :=
    List.take_of_length_le (by simp [leBytes_length])
  simp [interpret, decoded, Message.bytes, decode_nack, hbytes, leBytes_length, leNat, hvalue]

theorem interpret_metrics (seqNum : UInt8) (snap : PerformanceSnapshot) (h : SnapshotFits snap)
    (hcount : snap.taskCount ≤ 7) :
    interpret (decoded .METRICS_RESP ⟨.metricsResp, seqNum, some (snapshotBytes snap),
        (snapshotBytes snap).length⟩) =
      some (.metrics seqNum.toNat (receivedMetrics snap)) := by
  have hdec := metrics_payload snap h (by omega) (snapshotBytes snap) rfl
  generalize snapshotBytes snap = payload at hdec ⊢
  have hread : decode_metrics payload = some (some (receivedMetrics snap), payload.length) := by
    simpa [decode_metrics] using hdec [] [] (by simp)
  simp [interpret, decoded, Message.bytes, hread]

end Replies

section Device

variable (cfg : Cfg) (env : Environment) (snapshotFn : List Effect → PerformanceSnapshot)

/-- FRAMED mode between two frames, entered through a handshake. -/
structure InSession (c : CLI) : Prop where
  boundary : AtBoundary c
  probe : c.probeActive = false

/-- The snapshots of the device fit the wire. A frame takes those of seven tasks. -/
def Reporting : Prop :=
  env.snapshotFn = some snapshotFn ∧
    ∀ history, (snapshotFn history).taskCount ≤ 7 ∧ SnapshotFits (snapshotFn history)

theorem release_inSession (c : CLI) (builder : LightweightStringBuilder) (history : List Effect)
    (hready : Ready c) (hm : c.mode = .framed) (hbuf : c.frameDecoder.cobsBuf = [])
    (hprobe : c.probeActive = false) :
    InSession { release c with builder := builder, history := history } := by
  have hready' := release_ready c builder history hready
  have htext : c.mode ≠ .text := by simp [hm]
  rw [release, if_neg htext] at hready' ⊢
  exact ⟨⟨hready', hm, rfl, hbuf⟩, hprobe⟩

theorem dispatch_heartbeat {σ : Type*} (handler : IProtocolHandler σ) (seqNum : UInt8)
    (payload : List UInt8) (s : σ) :
    dispatch handler .heartbeat seqNum payload s = (true, handler.onHeartbeat seqNum s) := by
  have hc : MessageType.heartbeat ≠ .command := by decide
  have hh : MessageType.heartbeat ≠ .handshakeReq := by decide
  have hx : MessageType.heartbeat ≠ .exitHandshake := by decide
  have hm : MessageType.heartbeat ≠ .metricsReq := by decide
  rw [dispatch, if_neg hc, if_neg hh, if_neg hx, if_neg hm, if_pos rfl]

theorem sendFrame_empty (writer : Writer) (c : CLI) (type : MessageType) (seqNum : UInt8) :
    c.sendFrame kMaxPayload writer type seqNum none 0 =
      c.write writer (wire kMaxPayload ⟨type, seqNum, none, 0⟩) := by
  obtain ⟨body, hw, -⟩ := wire_eq kMaxPayload (by decide) ⟨type, seqNum, none, 0⟩
    ⟨Nat.zero_le _, Or.inl rfl⟩
  have hpos : 0 < (wire kMaxPayload ⟨type, seqNum, none, 0⟩).length := by
    rw [hw]
    simp
  exact if_pos hpos

def behind (c : CLI) (m : Message) : CLI :=
  { c with frameDecoder := { cobsBuf := [], msgType := m.type, seqNum := m.seqNum,
                             payload := m.bytes } }

theorem command_handled (c : CLI) (seqNum : UInt8) (cmd : Command) :
    (behind c (frameOf seqNum cmd)).handleDecodedFrame (protocolHandler env) =
      { behind c (frameOf seqNum cmd) with
        framedCommand := cmd, hasFramedCommand := true, framedSeqNum := seqNum } := by
  obtain ⟨hlen, hread⟩ := readCommand_frameOf seqNum cmd
  have htype : (frameOf seqNum cmd).type = .command := rfl
  rw [CLI.handleDecodedFrame, behind]
  dsimp only
  rw [if_pos htype, if_pos hlen, hread]
  rfl

theorem command_ticks (fuel : ℕ) (c : CLI) (reads : List Read) (seqNum : UInt8) (cmd : Command)
    (h : InSession c)
    (hbytes : reads.flatMap Read.bytes = wire kMaxPayload (frameOf seqNum cmd)) :
    ∃ c' accepted, reads.foldlM (tick cfg env (fuel+1)) c = some c' ∧ InSession c' ∧
      c'.history = c.history ++ [.tryPush cmd accepted,
        .write .tick (reply cfg ⟨some seqNum, cmd⟩ accepted)] := by
  obtain ⟨c₁, builder, es, hc₁, hans, hticks⟩ := wire_ticks cfg env fuel c reads _ h.boundary
    (message_sendable seqNum (.send_command cmd)) hbytes
  have hhandled : c₁ = _ := hc₁.trans (command_handled env c seqNum cmd)
  have hm : c₁.mode = .framed := by
    rw [hhandled]
    exact h.boundary.mode
  have hwait : waiting c₁ = some ⟨some seqNum, cmd⟩ := by
    simp only [waiting, CLI.hasCommand, taken, hm]
    simp [hhandled]
  have hready : Ready c₁ := by
    rw [hhandled]
    exact ⟨h.boundary.ready.router, h.boundary.ready.sync⟩
  rw [hwait] at hans
  cases hans with
  | cons received accepted rest effects hrest =>
    cases hrest
    refine ⟨_, accepted, hticks, release_inSession c₁ _ _ hready hm ?_ ?_, ?_⟩
    · rw [hhandled]
      rfl
    · rw [hhandled]
      exact h.probe
    · rw [hhandled]
      rfl

theorem callback_ticks (fuel : ℕ) (c : CLI) (reads : List Read) (m : Message) (es : List Effect)
    (h : InSession c) (hs : Sendable kMaxPayload m)
    (hbytes : reads.flatMap Read.bytes = wire kMaxPayload m)
    (hhandled : (behind c m).handleDecodedFrame (protocolHandler env) =
      { behind c m with history := c.history ++ es }) :
    ∃ c', reads.foldlM (tick cfg env (fuel+1)) c = some c' ∧ InSession c' ∧
      c'.history = c.history ++ es := by
  obtain ⟨c₁, builder, answered, hc₁, hans, hticks⟩ := wire_ticks cfg env fuel c reads m h.boundary
    hs hbytes
  have hc : c₁ = _ := hc₁.trans hhandled
  have hwait : waiting c₁ = none := by
    rw [hc]
    simp [waiting, CLI.hasCommand, behind, h.boundary.mode, h.boundary.idle]
  rw [hwait] at hans
  cases hans
  refine ⟨_, hticks, release_inSession c₁ _ _ ?_ ?_ ?_ ?_, ?_⟩
  · rw [hc]
    exact ⟨h.boundary.ready.router, h.boundary.ready.sync⟩
  · rw [hc]
    exact h.boundary.mode
  · rw [hc]
    rfl
  · rw [hc]
    exact h.probe
  · rw [hc]
    exact List.append_nil _

theorem command_served (fuel : ℕ) (c : CLI) (reads : List Read) (seqNum : UInt8) (cmd : Command)
    (h : InSession c)
    (hbytes : reads.flatMap Read.bytes = wire kMaxPayload (frameOf seqNum cmd)) :
    ∃ c' es offered, reads.foldlM (tick cfg env (fuel+1)) c = some c' ∧ InSession c' ∧
      c'.history = c.history ++ es ∧ Hears es [offered] ∧
      Handled snapshotFn seqNum.toNat (.send_command cmd) (es.filterMap offer) offered := by
  obtain ⟨c', accepted, hticks, hsession, hhist⟩ := command_ticks cfg env fuel c reads seqNum cmd h
    hbytes
  cases accepted with
  | true =>
    have hreply : reply cfg ⟨some seqNum, cmd⟩ true =
        wire kMaxPayload ⟨.ack, seqNum, some [cmd.id], [cmd.id].length⟩ := by
      simp [reply]
    have hsendable := payload_sendable .ack seqNum [cmd.id] (by simp [kMaxPayload])
    rw [hreply] at hhist
    refine ⟨c', _, .ack seqNum.toNat cmd.id.toNat, hticks, hsession, hhist,
      Hears.silent _ _ _ _ (Hears.write .tick .ACK _ _ hsendable rfl (interpret_ack seqNum cmd.id)),
      ?_⟩
    rw [offers_answer]
    exact .accepted cmd
  | false =>
    have hreply : reply cfg ⟨some seqNum, cmd⟩ false =
        wire kMaxPayload ⟨.nack, seqNum,
          some (cmd.id :: cmd.targetDevice :: leBytes 4 cmd.value.toNat),
          (cmd.id :: cmd.targetDevice :: leBytes 4 cmd.value.toNat).length⟩ := by
      simp [reply, leBytes_length]
    have hsendable := payload_sendable .nack seqNum
      (cmd.id :: cmd.targetDevice :: leBytes 4 cmd.value.toNat)
      (by simp [leBytes_length, kMaxPayload])
    rw [hreply] at hhist
    refine ⟨c', _, .nack seqNum.toNat cmd.id.toNat cmd.targetDevice.toNat cmd.value,
      hticks, hsession, hhist,
      Hears.silent _ _ _ _ (Hears.write .tick .NACK _ _ hsendable rfl (interpret_nack seqNum cmd)),
      ?_⟩
    rw [offers_answer]
    exact .rejected cmd

theorem metrics_handled (c : CLI) (seqNum : UInt8) (h : InSession c)
    (hrep : Reporting env snapshotFn) :
    (behind c (message seqNum .request_metrics)).handleDecodedFrame (protocolHandler env) =
      { behind c (message seqNum .request_metrics) with
        history := c.history ++ [.write .onMetricsRequest (frame ⟨.metricsResp, seqNum,
          some (snapshotBytes (snapshotFn c.history)),
          (snapshotBytes (snapshotFn c.history)).length⟩)] } := by
  have hseven := (hrep.2 c.history).1
  have hcount : (snapshotFn c.history).taskCount ≤ kMaxSnapshotTasks := hseven.trans (by decide)
  have htype : (message seqNum .request_metrics).type = .metricsReq := rfl
  have hcommand : MessageType.metricsReq ≠ .command := by decide
  have hhist : (behind c (message seqNum .request_metrics)).history = c.history := rfl
  have hdispatch : (behind c (message seqNum .request_metrics)).handleDecodedFrame
      (protocolHandler env) =
      onMetricsRequest env seqNum (behind c (message seqNum .request_metrics)) := by
    rw [CLI.handleDecodedFrame, behind]
    dsimp only
    rw [htype, if_neg hcommand, if_pos h.boundary.ready.router, dispatch_metricsReq]
    rfl
  rw [hdispatch, onMetricsRequest_eq env snapshotFn seqNum _ hrep.1 (by rwa [hhist]), hhist]
  generalize snapshotBytes (snapshotFn c.history) = payload
  rw [if_pos hseven]
  rfl

theorem metrics_served (fuel : ℕ) (c : CLI) (reads : List Read) (seqNum : UInt8) (h : InSession c)
    (hrep : Reporting env snapshotFn)
    (hbytes : reads.flatMap Read.bytes = wire kMaxPayload (message seqNum .request_metrics)) :
    ∃ c' es offered, reads.foldlM (tick cfg env (fuel+1)) c = some c' ∧ InSession c' ∧
      c'.history = c.history ++ es ∧ Hears es [offered] ∧
      Handled snapshotFn seqNum.toNat .request_metrics (es.filterMap offer) offered := by
  obtain ⟨c', hticks, hsession, hhist⟩ := callback_ticks cfg env fuel c reads _ _ h
    (message_sendable seqNum .request_metrics) hbytes
    (metrics_handled env snapshotFn c seqNum h hrep)
  obtain ⟨hseven, hfits⟩ := hrep.2 c.history
  have hlen := snapshotBytes_length (snapshotFn c.history)
  have hreply := interpret_metrics seqNum (snapshotFn c.history) hfits hseven
  generalize snapshotBytes (snapshotFn c.history) = payload at hlen hreply hhist
  have hroom : payload.length ≤ kMaxPayload := by
    rw [hlen, ResponseSerializer.kMetricsHeaderSize, ResponseSerializer.kMetricsTaskSize,
      kMaxPayload]
    omega
  have hsendable := payload_sendable .metricsResp seqNum payload hroom
  rw [← wire_frame kMaxPayload (by decide) _ hsendable] at hhist
  refine ⟨c', _, .metrics seqNum.toNat (receivedMetrics (snapshotFn c.history)), hticks,
    hsession, hhist, Hears.write _ .METRICS_RESP _ _ hsendable rfl hreply, ?_⟩
  rw [offers_write]
  exact .metrics c.history

theorem heartbeat_served (fuel : ℕ) (c : CLI) (reads : List Read) (seqNum : UInt8)
    (h : InSession c)
    (hbytes : reads.flatMap Read.bytes = wire kMaxPayload (message seqNum .send_heartbeat)) :
    ∃ c' es offered, reads.foldlM (tick cfg env (fuel+1)) c = some c' ∧ InSession c' ∧
      c'.history = c.history ++ es ∧ Hears es [offered] ∧
      Handled snapshotFn seqNum.toNat .send_heartbeat (es.filterMap offer) offered := by
  have hhandled : (behind c (message seqNum .send_heartbeat)).handleDecodedFrame
      (protocolHandler env) = { behind c (message seqNum .send_heartbeat) with
        history := c.history ++ [.write .onHeartbeat
          (wire kMaxPayload ⟨.heartbeat, seqNum, none, 0⟩)] } := by
    have htype : (message seqNum .send_heartbeat).type = .heartbeat := rfl
    have hcommand : MessageType.heartbeat ≠ .command := by decide
    rw [CLI.handleDecodedFrame, behind]
    dsimp only
    rw [htype, if_neg hcommand, if_pos h.boundary.ready.router, dispatch_heartbeat]
    exact sendFrame_empty .onHeartbeat _ .heartbeat seqNum
  obtain ⟨c', hticks, hsession, hhist⟩ := callback_ticks cfg env fuel c reads _ _ h
    (message_sendable seqNum .send_heartbeat) hbytes hhandled
  refine ⟨c', _, .heartbeat seqNum.toNat, hticks, hsession, hhist,
    Hears.write .onHeartbeat .HEARTBEAT ⟨.heartbeat, seqNum, none, 0⟩ _
      ⟨Nat.zero_le _, Or.inl rfl⟩ rfl rfl, ?_⟩
  rw [offers_write]
  exact .heartbeat

/-- One call: the device handles its frame and the tool hears the reply. -/
theorem call_served (fuel : ℕ) (c : CLI) (reads : List Read) (seqNum : UInt8) (call : Call)
    (h : InSession c) (hrep : call = .request_metrics → Reporting env snapshotFn)
    (hsent : transmit seqNum.toNat call = some (reads.flatMap Read.bytes)) :
    ∃ c' es offered, reads.foldlM (tick cfg env (fuel+1)) c = some c' ∧ InSession c' ∧
      c'.history = c.history ++ es ∧ Hears es [offered] ∧
      Handled snapshotFn seqNum.toNat call (es.filterMap offer) offered := by
  have hbytes : reads.flatMap Read.bytes = wire kMaxPayload (message seqNum call) :=
    Option.some_inj.mp (hsent.symm.trans (transmit_wire seqNum call))
  cases call with
  | send_command cmd => exact command_served cfg env snapshotFn fuel c reads seqNum cmd h hbytes
  | request_metrics =>
    exact metrics_served cfg env snapshotFn fuel c reads seqNum h (hrep rfl) hbytes
  | send_heartbeat => exact heartbeat_served cfg env snapshotFn fuel c reads seqNum h hbytes

/-- The calls of a session, one behind the other: the bytes of each, under the
next sequence number, are what the reads it is given return. -/
def Sent : ℕ → List (Call × List Read) → Prop
  | _, [] => True
  | seq, (call, reads)::rest =>
    transmit seq call = some (reads.flatMap Read.bytes) ∧ Sent (Client.next_seq seq) rest

theorem next_seq_lt (seq : ℕ) : Client.next_seq seq < 256 := by
  have h : Client.next_seq seq = (seq+1) % 2^8 := Nat.and_two_pow_sub_one_eq_mod _ 8
  omega

/-- However the frames of the calls are cut into reads, the device offers the
commands to the queue in the order of the calls, and what the tool decodes of its
output are the replies, each under the sequence number of its call. -/
theorem session_served (fuel : ℕ) (c : CLI) (seq : ℕ) (exchanges : List (Call × List Read))
    (h : InSession c) (hseq : seq < 256)
    (hrep : .request_metrics ∈ exchanges.map Prod.fst → Reporting env snapshotFn)
    (hsent : Sent seq exchanges) :
    ∃ c' es replies,
      (exchanges.flatMap Prod.snd).foldlM (tick cfg env (fuel+1)) c = some c' ∧ InSession c' ∧
      c'.history = c.history ++ es ∧ Hears es replies ∧
      Served snapshotFn seq (exchanges.map Prod.fst) (es.filterMap offer) replies := by
  induction exchanges generalizing c seq with
  | nil => exact ⟨c, [], [], rfl, h, (List.append_nil _).symm, Hears.nil, .nil seq⟩
  | cons exchange exchanges ih =>
    obtain ⟨call, reads⟩ := exchange
    obtain ⟨htransmit, hrest⟩ := hsent
    obtain ⟨seqNum, rfl⟩ : ∃ seqNum : UInt8, seqNum.toNat = seq :=
      ⟨UInt8.ofNat seq, UInt8.toNat_ofNat_of_lt' hseq⟩
    obtain ⟨c₁, es₁, offered, hticks₁, hsession₁, hhist₁, hhears₁, hhandled⟩ :=
      call_served cfg env snapshotFn fuel c reads seqNum call h
        (fun hcall => hrep (by simp [hcall])) htransmit
    obtain ⟨c₂, es₂, replies, hticks₂, hsession₂, hhist₂, hhears₂, hserved⟩ :=
      ih c₁ _ hsession₁ (next_seq_lt _) (fun hcalls => hrep (List.mem_cons_of_mem _ hcalls)) hrest
    refine ⟨c₂, es₁ ++ es₂, offered::replies, ?_, hsession₂, ?_,
      hhears₁.append _ _ _ _ hhears₂, ?_⟩
    · rw [List.flatMap_cons, List.foldlM_append, hticks₁]
      exact hticks₂
    · rw [hhist₂, hhist₁, List.append_assoc]
    · rw [List.filterMap_append]
      exact .cons _ call _ _ _ _ replies hhandled hserved

end Device

end SputterOS.Tools.Exchange
