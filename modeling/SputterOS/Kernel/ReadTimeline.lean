import SputterOS.Kernel.CommandReplies
import SputterOS.Comms.ReadLoops

/-!
# The timeline of a run

What a byte can do to the command line of the communications task is one of
seven moves. A run is listed byte by byte, each byte with the loop that took
it; between two reads the loop of the tick empties the slot of the current
mode.
-/

set_option autoImplicit false

namespace SputterOS.ReadTimeline
open SputterOS.FrameCodec SputterOS.ProtocolRouter SputterOS.Logic SputterOS.Utils
  SputterOS.CommandLine SputterOS.ReceivedStream SputterOS.ReadLoops SputterOS.ScheduledCommsTask
  SputterOS.CommandReplies

def Callback (e : Effect) : Prop :=
  ∃ writer bytes, e = .write writer bytes ∧ writer ≠ .tick ∧ writer ≠ .onExitHandshake

inductive Move (c : CLI) : CommsMode → Option Reception → Loop → Prop where
  | handshake (bytes : List UInt8) :
      Move c .text (some .handshake) ⟨.framed,
        { c.enterFramedMode with
          history := c.history ++ [.write .onHandshakeRequest bytes] }⟩
  | line (active : Bool) (probe text : List UInt8) :
      Move c .text none ⟨.text,
        { c with
          parser := { c.parser with buf := text }
          probeActive := active
          probeBuf := probe }⟩
  | lineCommand (active : Bool) (probe : List UInt8) (cmd : Command) :
      Move c .text (some (.command ⟨none, cmd⟩)) ⟨.text,
        { c with
          parser := { buf := [], pending := cmd, hasPending := true }
          hasPending := true
          probeActive := active
          probeBuf := probe }⟩
  | frame (decoder : FrameDecoder) (es : List Effect) (hes : ∀ e ∈ es, Callback e) :
      Move c .framed none ⟨.framed,
        { c with
          frameDecoder := decoder
          history := c.history ++ es }⟩
  | frameCommand (decoder : FrameDecoder) (seqNum : UInt8) (cmd : Command) :
      Move c .framed (some (.command ⟨some seqNum, cmd⟩)) ⟨.framed,
        { c with
          frameDecoder := decoder
          framedCommand := cmd
          hasFramedCommand := true
          framedSeqNum := seqNum }⟩
  | exit (decoder : FrameDecoder) (bytes : List UInt8) :
      Move c .framed (some .exit) ⟨.framed,
        { c.exitFramedMode with
          frameDecoder := decoder
          history := c.history ++ [.write .onExitHandshake bytes] }⟩

section Byte

variable (cfg : Cfg) (env : Environment)

theorem feedParser_move (c : CLI) (r : Receiver) (active : Bool) (probe : List UInt8) (b : UInt8)
    (hr : c.parser.buf = r.line) :
    Move c .text (receiveText cfg r b).1
      ⟨.text, { c with probeActive := active, probeBuf := probe }.feedParser cfg b⟩ := by
  obtain ⟨hok, -, hcmd⟩ := feedByte_congr cfg c.parser
    { CommandParser.initial with buf := r.line } b hr
  unfold CLI.feedParser receiveText
  dsimp only
  rw [← hok]
  rcases feedByte_cases cfg c.parser b with ⟨text, hfed⟩ | ⟨cmd, hfed⟩
  · rw [hfed]
    exact Move.line active probe text
  · rw [← hcmd (by rw [hfed]), hfed]
    exact Move.lineCommand active probe cmd

theorem delimiter_move (c : CLI) (hr : c.hasRouter = true) :
    Move c .text (receiveProbed cfg kMaxPayload { view c with mode := .text } kFrameDelimiter).1
      ((Loop.mk .text c).step cfg kMaxPayload (protocolHandler env) kFrameDelimiter) := by
  unfold Loop.step CLI.processTextByte receiveProbed view
  dsimp only
  rw [if_pos rfl, if_pos rfl, if_pos rfl]
  by_cases hp : c.probeActive ∧ 0 < c.probeBuf.length
  · have hprobe : (if c.probeActive then some c.probeBuf else none) = some c.probeBuf := if_pos hp.1
    rw [if_pos hp, hprobe, Option.any_some]
    rcases tryHandshakeProbe_cases kMaxPayload (protocolHandler env) c hr with
      ⟨hno, ht⟩ | ⟨hyes, version, seqNum, ht⟩
    · simp only [ht, hno, Bool.false_eq_true, if_false]
      exact Move.line true [] c.parser.buf
    · have hresp : (protocolHandler env).onHandshakeRequest version seqNum c = _ :=
        sendFrame_write .onHandshakeRequest c .handshakeResp seqNum
          (ResponseSerializer.serializeHandshakeResp 6) (by decide)
      simp only [ht, hyes, hresp, if_true]
      exact Move.handshake _
  · have hno : (if c.probeActive then some c.probeBuf else none).any
        (isHandshake kMaxPayload) = false := by
      cases ha : c.probeActive with
      | false => rfl
      | true =>
        have hnil : c.probeBuf = [] := by simpa [ha] using hp
        simp [hnil, isHandshake_nil]
    simp only [if_neg hp, hno, Bool.false_eq_true, if_false]
    exact Move.line true [] c.parser.buf

theorem text_move (c : CLI) (b : UInt8) (hr : c.hasRouter = true) :
    Move c .text (receiveProbed cfg kMaxPayload { view c with mode := .text } b).1
      ((Loop.mk .text c).step cfg kMaxPayload (protocolHandler env) b) := by
  by_cases hb : b = kFrameDelimiter
  · rw [hb]
    exact delimiter_move cfg env c hr
  · unfold Loop.step CLI.processTextByte receiveProbed view
    dsimp only
    rw [if_pos rfl, if_neg hb, if_neg hb]
    cases ha : c.probeActive with
    | false =>
      have hself : { c with probeActive := false, probeBuf := c.probeBuf } = c := by rw [← ha]
      have hmove := feedParser_move cfg c { view c with mode := .text } false c.probeBuf b rfl
      rw [hself] at hmove
      simpa [view, ha] using hmove
    | true =>
      by_cases hl : c.probeBuf.length < kMaxProbeSize
      · simp only [if_pos hl, if_true, Option.getD_some, reduceCtorEq, if_false, Bool.false_eq_true]
        exact Move.line true (c.probeBuf ++ [b]) c.parser.buf
      · simp only [if_neg hl, if_true, Option.getD_some, reduceCtorEq, if_false, Bool.false_eq_true]
        exact feedParser_move cfg c _ false [] b rfl

def CalledBack (c c' : CLI) : Prop :=
  ∃ es, (∀ e ∈ es, Callback e) ∧ c' = { c with history := c.history ++ es }

theorem CalledBack.sendFrame (c s : CLI) (hs : CalledBack c s) (writer : Writer)
    (htick : writer ≠ .tick) (hexit : writer ≠ .onExitHandshake) (type : MessageType)
    (seqNum : UInt8) (payload : Option (List UInt8)) (len : ℕ) :
    CalledBack c (s.sendFrame kMaxPayload writer type seqNum payload len) := by
  obtain ⟨es, hes, rfl⟩ := hs
  unfold CLI.sendFrame
  dsimp only
  split_ifs
  · use es ++ [.write writer
      (FrameCodec.encode kMaxPayload type seqNum payload len (kMaxWireSize kMaxPayload))]
    constructor
    · intro e he
      rcases List.mem_append.mp he with h | h
      · exact hes e h
      · exact ⟨writer, _, List.mem_singleton.mp h, htick, hexit⟩
    · simp [CLI.write]
  · exact ⟨es, hes, rfl⟩

theorem dispatch_calledBack (type : MessageType) (hexit : type ≠ .exitHandshake) (seqNum : UInt8)
    (payload : List UInt8) (c : CLI) :
    CalledBack c (dispatch (protocolHandler env) type seqNum payload c).2 := by
  apply dispatch_keeps (protocolHandler env) (CalledBack c)
  · intro cmd seq s hs
    exact hs
  · intro version seq s hs
    exact hs.sendFrame c s _ (by decide) (by decide) _ _ _ _
  · intro seq s hs
    have hm : (protocolHandler env).onMetricsRequest seq s = onMetricsRequest env seq s := rfl
    rw [hm]
    unfold onMetricsRequest
    cases env.snapshotFn with
    | none => exact hs.sendFrame c s _ (by decide) (by decide) _ _ _ _
    | some snapshotFn => exact hs.sendFrame c s _ (by decide) (by decide) _ _ _ _
  · intro seq s hs
    exact hs.sendFrame c s _ (by decide) (by decide) _ _ _ _
  · exact hexit
  · exact ⟨[], by simp, by simp⟩

theorem framed_move (c : CLI) (b : UInt8) (hr : c.hasRouter = true) :
    Move c .framed (receiveFramed kMaxPayload { view c with mode := .framed } b).1
      ⟨.framed, c.processFramedByte kMaxPayload (protocolHandler env) b⟩ := by
  unfold CLI.processFramedByte receiveFramed view
  dsimp only
  generalize c.frameDecoder.feedByte kMaxPayload b = fed
  have hquiet : Move c .framed none ⟨.framed, { c with frameDecoder := fed.2 }⟩ := by
    simpa using Move.frame (c := c) fed.2 [] (by simp)
  by_cases hready : fed.1 = .frameReady
  · simp only [if_pos hready, CLI.handleDecodedFrame]
    by_cases hcmd : fed.2.msgType = .command
    · have hx : fed.2.msgType ≠ .exitHandshake := by
        rw [hcmd]
        decide
      by_cases hlen : fed.2.payload.length = 6
      · simp only [hcmd, hlen, kCommandPayloadSize, and_self, if_true]
        exact Move.frameCommand fed.2 fed.2.seqNum (readCommand fed.2.payload)
      · simp only [if_pos hcmd, kCommandPayloadSize, hlen, and_false, if_false, if_neg hx]
        exact hquiet
    · simp only [hcmd, false_and, if_false]
      rw [if_pos hr]
      by_cases hx : fed.2.msgType = .exitHandshake
      · rw [hx, dispatch_exitHandshake, if_pos rfl]
        have hack : (protocolHandler env).onExitHandshake fed.2.seqNum
            { c with frameDecoder := fed.2 } = _ :=
          congrArg CLI.exitFramedMode (sendFrame_write .onExitHandshake
            { c with frameDecoder := fed.2 } .ack fed.2.seqNum
            (ResponseSerializer.serializeAck MessageType.exitHandshake.value 1) (by decide))
        dsimp only
        rw [hack]
        exact Move.exit fed.2 _
      · rw [if_neg hx]
        obtain ⟨es, hes, heq⟩ := dispatch_calledBack env fed.2.msgType hx fed.2.seqNum
          fed.2.payload { c with frameDecoder := fed.2 }
        rw [heq]
        exact Move.frame fed.2 es hes
  · simp only [if_neg hready]
    exact hquiet

theorem step_move (s : Loop) (b : UInt8) (hr : s.cli.hasRouter = true) :
    Move s.cli s.mode (s.completed cfg kMaxPayload b)
      (s.step cfg kMaxPayload (protocolHandler env) b) := by
  obtain ⟨mode, c⟩ := s
  cases mode with
  | text => exact text_move cfg env c b hr
  | framed => exact framed_move env c b hr

theorem enter_step_cli (c : CLI) (b : UInt8) :
    ((Loop.enter c).step cfg kMaxPayload (protocolHandler env) b).cli =
      c.processByte cfg kMaxPayload (protocolHandler env) b := by
  unfold Loop.step Loop.enter CLI.processByte
  split_ifs <;> rfl

theorem Move.enter (c : CLI) (e : Option Reception) (s : Loop) (hmove : Move c c.mode e s)
    (he : e ≠ some .exit) : s = Loop.enter s.cli := by
  generalize hm : c.mode = m at hmove
  cases hmove with
  | handshake bytes => rfl
  | line active probe text => simp [Loop.enter, hm]
  | lineCommand active probe cmd => simp [Loop.enter, hm]
  | frame decoder es hes => simp [Loop.enter, hm]
  | frameCommand decoder seqNum cmd => simp [Loop.enter, hm]
  | exit decoder bytes => exact absurd rfl he

theorem Move.effects (c : CLI) (m : CommsMode) (e : Option Reception) (s : Loop)
    (hmove : Move c m e s) :
    ∃ es, s.cli.history = c.history ++ es ∧
      ((e = some .exit ∧ s.cli.mode = .text ∧ ∃ bytes, es = [.write .onExitHandshake bytes]) ∨
      (e ≠ some .exit ∧ s.cli.mode = .framed ∧ ∃ bytes, es = [.write .onHandshakeRequest bytes]) ∨
      (e ≠ some .exit ∧ s.cli.mode = c.mode ∧ (∀ x ∈ es, Callback x) ∧ (m = .framed ∨ es = []))) := by
  cases hmove with
  | handshake bytes =>
    use [.write .onHandshakeRequest bytes]
    exact ⟨rfl, Or.inr (Or.inl ⟨by decide, rfl, bytes, rfl⟩)⟩
  | line active probe text =>
    use []
    exact ⟨by simp, Or.inr (Or.inr ⟨by decide, rfl, by simp, Or.inr rfl⟩)⟩
  | lineCommand active probe cmd =>
    use []
    exact ⟨by simp, Or.inr (Or.inr ⟨by simp, rfl, by simp, Or.inr rfl⟩)⟩
  | frame decoder es hes =>
    use es
    exact ⟨rfl, Or.inr (Or.inr ⟨by decide, rfl, hes, Or.inl rfl⟩)⟩
  | frameCommand decoder seqNum cmd =>
    use []
    exact ⟨by simp, Or.inr (Or.inr ⟨by simp, rfl, by simp, Or.inl rfl⟩)⟩
  | exit decoder bytes =>
    use [.write .onExitHandshake bytes]
    exact ⟨rfl, Or.inl ⟨rfl, rfl, bytes, rfl⟩⟩

theorem observe_effects (s : Loop) (b : UInt8) (es : List Effect)
    (h : (s.step cfg kMaxPayload (protocolHandler env) b).cli.history = s.cli.history ++ es) :
    (s.observe cfg kMaxPayload (protocolHandler env) b).effects = es := by
  simp [Loop.observe, h]

end Byte

section Ticks

structure Ready (c : CLI) : Prop where
  router : c.hasRouter = true
  sync : c.hasPending = c.parser.hasPending

theorem Move.ready (c : CLI) (mode : CommsMode) (e : Option Reception) (s : Loop)
    (hmove : Move c mode e s) (h : Ready c) : Ready s.cli := by
  cases hmove with
  | handshake bytes => exact ⟨h.router, h.sync⟩
  | line active probe text => exact ⟨h.router, h.sync⟩
  | lineCommand active probe cmd => exact ⟨h.router, rfl⟩
  | frame decoder es hes => exact ⟨h.router, h.sync⟩
  | frameCommand decoder seqNum cmd => exact ⟨h.router, h.sync⟩
  | exit decoder bytes => exact ⟨h.router, rfl⟩

theorem initial_ready : Ready CLI.initial.setProtocolHandler := ⟨rfl, rfl⟩

variable (cfg : Cfg) (env : Environment)

theorem after_ready (s : Loop) (bs : List UInt8) (h : Ready s.cli) :
    Ready (s.after cfg kMaxPayload (protocolHandler env) bs).cli := by
  induction bs generalizing s with
  | nil => exact h
  | cons b bs ih =>
    apply ih
    exact (step_move cfg env s b h.router).ready _ _ _ _ h

theorem release_ready (c : CLI) (builder : LightweightStringBuilder) (history : List Effect)
    (h : Ready c) : Ready { release c with builder := builder, history := history } := by
  unfold release
  split_ifs
  · exact ⟨h.router, rfl⟩
  · exact ⟨h.router, h.sync⟩

def readTo (c : CLI) (read : Read) : CLI := c.tick cfg kMaxPayload (protocolHandler env) read

def timeline (fuel : ℕ) : CLI → List Read → List Step
  | _, [] => []
  | c, read::reads =>
    (Loop.enter c).steps cfg kMaxPayload (protocolHandler env) read.bytes ++
      (tick cfg env fuel c read).elim [] fun c' => timeline fuel c' reads

def runTimeline (fuel : ℕ) (atInit : Read) (reads : List Read) : List Step :=
  (Loop.enter CLI.initial.setProtocolHandler).steps cfg kMaxPayload (protocolHandler env)
    atInit.bytes ++ timeline cfg env fuel (init cfg env atInit) reads

end Ticks

end SputterOS.ReadTimeline
