import SputterOS.Kernel.ScheduledCommsTask
import SputterOS.Comms.ReceivedStream
import SputterOS.Comms.FrameStream

/-!
# The replies to commands

The callbacks of the communications task write to the stream on their own
account only. The loop of a tick takes the waiting command, offers it to the
queue once and writes one reply, whose bytes are given here independently of
the buffers they are built in.
-/

set_option autoImplicit false

namespace SputterOS.CommandReplies
open SputterOS.FrameCodec SputterOS.FrameStream SputterOS.ProtocolRouter
  SputterOS.ResponseSerializer SputterOS.Logic SputterOS.Utils SputterOS.CommandLine
  SputterOS.ReceivedStream SputterOS.ScheduledCommsTask Foundation.NumberText

def reply (cfg : Cfg) (received : Received) (accepted : Bool) : List UInt8 :=
  let cmd := received.command
  match received.seqNum with
  | some seqNum =>
    if accepted then wire kMaxPayload ⟨.ack, seqNum, some [cmd.id], 1⟩
    else
      let payload := cmd.id :: cmd.targetDevice :: leBytes 4 cmd.value.toNat
      wire kMaxPayload ⟨.nack, seqNum, some payload, 6⟩
  | none =>
    if accepted then ascii "ACK " ++ renderU32 cmd.id.toUInt32 ++ [0x0A]
    else
      (ascii "NACK " ++ renderU32 cmd.id.toUInt32 ++ [0x20] ++
        renderU32 cmd.targetDevice.toUInt32 ++ [0x20] ++ cfg.floatText cmd.value ++
        [0x0A]).take (kCapacity-1)

def isAnswer : Effect → Bool
  | .tryPush _ _ => true
  | .write writer _ => writer = .tick

def answers (c : CLI) : List Effect := c.history.filter isAnswer

/-- Every command is offered to the queue once and gets one reply, which says
what the queue answered. Commands are answered in the order given. -/
inductive Answered (cfg : Cfg) : List Received → List Effect → Prop where
  | nil : Answered cfg [] []
  | cons (received : Received) (accepted : Bool) (rest : List Received) (effects : List Effect)
      (h : Answered cfg rest effects) :
      Answered cfg (received::rest)
        (.tryPush received.command accepted ::
          .write .tick (reply cfg received accepted) :: effects)

theorem Answered.append (cfg : Cfg) (rs rs' : List Received) (es es' : List Effect)
    (h : Answered cfg rs es) (h' : Answered cfg rs' es') : Answered cfg (rs ++ rs') (es ++ es') := by
  induction h with
  | nil => exact h'
  | cons received accepted rest effects _ ih => exact .cons received accepted _ _ ih

theorem Answered.length_eq (cfg : Cfg) (rs : List Received) (es : List Effect)
    (h : Answered cfg rs es) : es.length = 2*rs.length := by
  induction h with
  | nil => rfl
  | cons received accepted rest effects _ ih =>
    simp only [List.length_cons, ih]
    omega

def offered : Effect → Option Command
  | .tryPush cmd _ => some cmd
  | .write _ _ => none

def offer : Effect → Option (Command × Bool)
  | .tryPush cmd accepted => some (cmd, accepted)
  | .write _ _ => none

theorem Answered.commands_offered (cfg : Cfg) (rs : List Received) (es : List Effect)
    (h : Answered cfg rs es) : es.filterMap offered = rs.map Received.command := by
  induction h with
  | nil => rfl
  | cons received accepted rest effects _ ih =>
    have hpush : offered (.tryPush received.command accepted) = some received.command := rfl
    have hreply : offered (.write .tick (reply cfg received accepted)) = none := rfl
    rw [List.filterMap_cons_some hpush, List.filterMap_cons_none hreply, ih, List.map_cons]

theorem Answered.filter (cfg : Cfg) (rs : List Received) (es : List Effect)
    (h : Answered cfg rs es) : es.filter isAnswer = es := by
  induction h with
  | nil => rfl
  | cons received accepted rest effects _ ih =>
    rw [List.filter_cons_of_pos rfl, List.filter_cons_of_pos rfl, ih]

theorem Answered.answers_eq (cfg : Cfg) (rs : List Received) (es : List Effect) (c c' : CLI)
    (h : Answered cfg rs es) (hc : c'.history = c.history ++ es) :
    answers c' = answers c ++ es := by
  rw [answers, answers, hc, List.filter_append, h.filter]

section Silence

def Silent (c c' : CLI) : Prop := c' = { c with history := c'.history } ∧ answers c' = answers c

theorem Silent.refl (c : CLI) : Silent c c := ⟨rfl, rfl⟩

theorem Silent.trans (c₁ c₂ c₃ : CLI) (h : Silent c₁ c₂) (h' : Silent c₂ c₃) : Silent c₁ c₃ := by
  constructor
  · rw [h'.1, h.1]
  · rw [h'.2, h.2]

theorem sendFrame_silent (writer : Writer) (hw : writer ≠ .tick) (c : CLI) (type : MessageType)
    (seqNum : UInt8) (payload : Option (List UInt8)) (len : ℕ) :
    Silent c (c.sendFrame kMaxPayload writer type seqNum payload len) := by
  unfold CLI.sendFrame
  dsimp only
  split_ifs
  · exact ⟨rfl, by simp [answers, CLI.write, isAnswer, hw]⟩
  · exact Silent.refl c

theorem onMetricsRequest_silent (env : Environment) (seqNum : UInt8) (c : CLI) :
    Silent c (onMetricsRequest env seqNum c) := by
  unfold onMetricsRequest
  cases env.snapshotFn with
  | none => exact sendFrame_silent _ (by decide) c _ _ _ _
  | some snapshotFn => exact sendFrame_silent _ (by decide) c _ _ _ _

theorem dispatch_silent (env : Environment) (type : MessageType) (hexit : type ≠ .exitHandshake)
    (seqNum : UInt8) (payload : List UInt8) (c : CLI) :
    Silent c (dispatch (protocolHandler env) type seqNum payload c).2 := by
  apply dispatch_keeps (protocolHandler env) (Silent c)
  · intro cmd seq s hs
    exact hs
  · intro version seq s hs
    exact hs.trans _ _ _ (sendFrame_silent _ (by decide) s _ _ _ _)
  · intro seq s hs
    exact hs.trans _ _ _ (onMetricsRequest_silent env seq s)
  · intro seq s hs
    exact hs.trans _ _ _ (sendFrame_silent _ (by decide) s _ _ _ _)
  · exact hexit
  · exact Silent.refl c

end Silence

section Replies

theorem sendFrame_write (writer : Writer) (c : CLI) (type : MessageType) (seqNum : UInt8)
    (payload : List UInt8) (hl : payload.length ≤ kMaxPayload) :
    c.sendFrame kMaxPayload writer type seqNum (some payload) payload.length =
      c.write writer (wire kMaxPayload ⟨type, seqNum, some payload, payload.length⟩) := by
  obtain ⟨body, hw, -⟩ := wire_eq kMaxPayload (by decide) ⟨type, seqNum, some payload, payload.length⟩
    ⟨hl, Or.inr ⟨payload, rfl, le_rfl⟩⟩
  have hpos : 0 < (wire kMaxPayload ⟨type, seqNum, some payload, payload.length⟩).length := by
    rw [hw]
    simp
  exact if_pos hpos

theorem appendByte (b : LightweightStringBuilder) (n : UInt8) :
    b.appendInt32 n.toUInt32.toInt32 = b.append (renderU32 n.toUInt32) := by
  have hn : ∀ i : Fin 256, ¬ (UInt8.ofFin i).toUInt32.toInt32 < 0 := by decide +kernel
  have hneg : ¬ n.toUInt32.toInt32 < 0 := hn n.toFin
  rw [LightweightStringBuilder.appendInt32, if_neg hneg]
  rfl

theorem ackText_buf (b : LightweightStringBuilder) (cmd : Command) :
    (ackText b cmd).buf = ascii "ACK " ++ renderU32 cmd.id.toUInt32 ++ [0x0A] := by
  have hid := renderU32_length cmd.id.toUInt32
  have hacc : (ascii "ACK ").length = 4 := rfl
  have hone : ∀ (b : LightweightStringBuilder) (c : UInt8), b.appendChar c = b.append [c] :=
    fun _ _ => rfl
  unfold ackText
  dsimp only
  rw [appendByte, hone, append_append, append_append,
    append_buf _ _ (by simp [LightweightStringBuilder.clear])]
  apply List.take_of_length_le
  simp [LightweightStringBuilder.clear, kCapacity, hacc]
  omega

theorem nackText_buf (cfg : Cfg) (b : LightweightStringBuilder) (cmd : Command) :
    (nackText cfg b cmd).buf = reply cfg ⟨none, cmd⟩ false := by
  have hone : ∀ (b : LightweightStringBuilder) (c : UInt8), b.appendChar c = b.append [c] :=
    fun _ _ => rfl
  unfold nackText
  dsimp only
  rw [appendByte, appendByte, hone, hone, hone]
  simp only [append_append]
  rw [append_buf _ _ (by simp [LightweightStringBuilder.clear])]
  simp [reply, LightweightStringBuilder.clear]

theorem flush_write (writer : Writer) (c : CLI) (h : c.builder.buf ≠ []) :
    c.flush writer = { c.write writer c.builder.buf with builder := c.builder.clear } := by
  exact if_neg (fun hz => h (List.length_eq_zero_iff.mp hz))

def taken (c : CLI) (cmd : Command) : Received :=
  ⟨if c.mode = .framed then some c.framedSeqNum else none, cmd⟩

theorem sendFramedAck_eq (writer : Writer) (c : CLI) (seqNum cmdId : UInt8) :
    c.sendFramedAck kMaxPayload writer seqNum cmdId =
      c.write writer (wire kMaxPayload ⟨.ack, seqNum, some [cmdId], 1⟩) :=
  sendFrame_write writer c .ack seqNum [cmdId] (by simp [kMaxPayload])

theorem sendFramedNack_eq (writer : Writer) (c : CLI) (seqNum cmdId targetDevice : UInt8)
    (value : UInt32) :
    c.sendFramedNack kMaxPayload writer seqNum cmdId targetDevice value =
      c.write writer (wire kMaxPayload
        ⟨.nack, seqNum, some (cmdId :: targetDevice :: leBytes 4 value.toNat), 6⟩) :=
  sendFrame_write writer c .nack seqNum (cmdId :: targetDevice :: leBytes 4 value.toNat)
    (by simp [leBytes_length, kMaxPayload])

theorem sendTextAck_eq (cfg : Cfg) (c : CLI) (cmd : Command) :
    sendTextAck c cmd = { c.write .tick (reply cfg ⟨none, cmd⟩ true) with builder := ⟨[]⟩ } := by
  have hbuf := ackText_buf c.builder cmd
  rw [sendTextAck, flush_write _ _ (by simp [hbuf])]
  simp [hbuf, CLI.write, reply, LightweightStringBuilder.clear]

theorem sendTextNack_eq (cfg : Cfg) (c : CLI) (cmd : Command) :
    sendTextNack cfg c cmd =
      { c.write .tick (reply cfg ⟨none, cmd⟩ false) with builder := ⟨[]⟩ } := by
  have hbuf := nackText_buf cfg c.builder cmd
  rw [sendTextNack, flush_write _ _ (by simp [hbuf, reply, ascii, kCapacity])]
  simp [hbuf, CLI.write, LightweightStringBuilder.clear]

theorem answer_eq (cfg : Cfg) (env : Environment) (c : CLI) (cmd : Command) :
    ∃ builder, answer cfg env c cmd =
      { c with
        builder := builder
        history := c.history ++ [.tryPush cmd (env.try_push c.history cmd),
          .write .tick (reply cfg (taken c cmd) (env.try_push c.history cmd))] } := by
  have hmode : (tryPush env c cmd).2.mode = c.mode := rfl
  have hpush : (tryPush env c cmd).1 = env.try_push c.history cmd := rfl
  unfold answer
  dsimp only
  rw [hmode, hpush]
  cases ha : env.try_push c.history cmd with
  | true =>
    by_cases hm : c.mode = .framed
    · use c.builder
      rw [if_pos rfl, if_pos hm, sendFramedAck_eq]
      simp [CLI.write, tryPush, ha, taken, hm, reply]
    · use ⟨[]⟩
      rw [if_pos rfl, if_neg hm, sendTextAck_eq cfg]
      simp [CLI.write, tryPush, ha, taken, hm]
  | false =>
    by_cases hm : c.mode = .framed
    · use c.builder
      rw [if_neg (by decide), if_pos hm, sendFramedNack_eq]
      simp [CLI.write, tryPush, ha, taken, hm, reply]
    · use ⟨[]⟩
      rw [if_neg (by decide), if_neg hm, sendTextNack_eq]
      simp [CLI.write, tryPush, ha, taken, hm]

end Replies

section Drain

variable (cfg : Cfg) (env : Environment)

def waiting (c : CLI) : Option Received :=
  if c.hasCommand then
    some (taken c (if c.mode = .text then c.parser.pending else c.framedCommand))
  else none

theorem drain_idle (fuel : ℕ) (c : CLI) (h : waiting c = none) : drain cfg env fuel c = some c := by
  have hc : c.hasCommand = false := by simpa [waiting] using h
  cases fuel <;> simp [drain, hc]

def release (c : CLI) : CLI :=
  if c.mode = .text then
    { c with parser := { c.parser with hasPending := false }, hasPending := false }
  else { c with hasFramedCommand := false }

@[simp] theorem release_history (c : CLI) : (release c).history = c.history := by
  unfold release
  split_ifs <;> rfl

@[simp] theorem release_taken (c : CLI) (cmd : Command) : taken (release c) cmd = taken c cmd := by
  unfold release
  split_ifs <;> rfl

theorem release_idle (c : CLI) (builder : LightweightStringBuilder) (history : List Effect) :
    waiting { release c with builder := builder, history := history } = none := by
  by_cases hm : c.mode = .text
  · simp [release, waiting, CLI.hasCommand, hm]
  · simp [release, waiting, CLI.hasCommand, hm]

theorem getCommand_waiting (c : CLI) (hsync : c.hasPending = c.parser.hasPending) (w : Received)
    (h : waiting c = some w) :
    c.getCommand = (some w.command, release c) ∧ taken c w.command = w := by
  have hc : c.hasCommand = true := by
    by_contra hn
    simp [waiting, hn] at h
  have hw : taken c (if c.mode = .text then c.parser.pending else c.framedCommand) = w := by
    simpa [waiting, hc] using h
  by_cases hm : c.mode = .text
  · have hp : c.hasPending = true := by simpa [CLI.hasCommand, hm] using hc
    constructor
    · simp [CLI.getCommand, CommandParser.getCommand, release, hm, hp, ← hsync, ← hw, taken]
    · simp [← hw, taken]
  · have hp : c.hasFramedCommand = true := by simpa [CLI.hasCommand, hm] using hc
    constructor
    · simp [CLI.getCommand, release, hm, hp, ← hw, taken]
    · simp [← hw, taken]

/-- The loop answers the waiting command and ends: one turn is enough. -/
theorem drain_waiting (fuel : ℕ) (c : CLI) (hsync : c.hasPending = c.parser.hasPending)
    (w : Received) (h : waiting c = some w) :
    ∃ accepted builder, drain cfg env (fuel+1) c = some
      { release c with
        builder := builder
        history := c.history ++ [.tryPush w.command accepted,
          .write .tick (reply cfg w accepted)] } := by
  obtain ⟨hget, hw⟩ := getCommand_waiting c hsync w h
  obtain ⟨builder, hans⟩ := answer_eq cfg env (release c) w.command
  have hc : c.hasCommand = true := by
    by_contra hn
    simp [waiting, hn] at h
  use env.try_push c.history w.command, builder
  have hstep : drainStep cfg env c = answer cfg env (release c) w.command := by
    rw [drainStep, hget]
  rw [drain, if_pos hc, hstep, hans, release_history, release_taken, hw]
  exact drain_idle cfg env fuel _ (release_idle c _ _)

theorem release_self (c : CLI) (hsync : c.hasPending = c.parser.hasPending)
    (hw : waiting c = none) : release c = c := by
  have hc : c.hasCommand = false := by simpa [waiting] using hw
  obtain ⟨parser, builder, hasPending, mode, frameDecoder, framedCommand, hasFramedCommand,
    framedSeqNum, hasRouter, probeActive, probeBuf, history⟩ := c
  cases mode with
  | text =>
    have hp : hasPending = false := hc
    have hs : parser.hasPending = false := hsync.symm.trans hp
    simp only [release, if_true, hp, ← hs]
  | framed =>
    have hf : hasFramedCommand = false := hc
    simp only [release, reduceCtorEq, if_false, hf]

/-- The loop of a tick answers the waiting command, if there is one, and
empties the slot of the current mode. -/
theorem drain_spec (fuel : ℕ) (c : CLI) (hsync : c.hasPending = c.parser.hasPending) :
    ∃ builder es, Answered cfg (waiting c).toList es ∧ drain cfg env (fuel+1) c = some
      { release c with
        builder := builder
        history := c.history ++ es } := by
  cases hw : waiting c with
  | none =>
    use c.builder, []
    constructor
    · exact Answered.nil
    · rw [drain_idle cfg env (fuel+1) c hw, release_self c hsync hw]
      simp
  | some w =>
    obtain ⟨accepted, builder, hdrain⟩ := drain_waiting cfg env fuel c hsync w hw
    use builder, [.tryPush w.command accepted, .write .tick (reply cfg w accepted)]
    exact ⟨Answered.cons w accepted [] [] Answered.nil, hdrain⟩

end Drain

end SputterOS.CommandReplies
