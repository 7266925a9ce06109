import SputterOS.Tools.Exchange

/-!
# The first bytes of a session

The tool opens a session with a zero byte and a handshake. The zero ends what the
device is in the middle of, and the bytes behind it fill its probe or its frame
buffer up to the last zero. Every byte of a session's opening is followed here,
however the bytes are cut into reads.
-/

set_option autoImplicit false

namespace SputterOS.Tools.Opening
open SputterOS.FrameCodec SputterOS.FrameStream SputterOS.ProtocolRouter SputterOS.Logic
  SputterOS.Utils SputterOS.CommandLine SputterOS.ReceivedStream SputterOS.ReadLoops
  SputterOS.ScheduledCommsTask SputterOS.CommandReplies SputterOS.ReadTimeline
  SputterOS.FramedTicks SputterOS.Tools.Exchange
open ResponseSerializer (serializeHandshakeResp)
open Client (encode_handshake_req PROTOCOL_VERSION HANDSHAKE_MAGIC)
open Protocol (encode_frame)

def connectBytes (seq : ℕ) : Option (List UInt8) := do
  let frame ← encode_frame .HANDSHAKE_REQ seq encode_handshake_req
  some (0x00 :: frame)

def hello (seqNum : UInt8) : Message := ⟨.handshakeReq, seqNum, some encode_handshake_req, 6⟩

def welcome (seqNum : UInt8) : Message :=
  ⟨.handshakeResp, seqNum, some (serializeHandshakeResp 6), 6⟩

def Solicited (t : Protocol.MessageType) : Prop := Client.slotOf t ≠ none ∨ t = .HEARTBEAT

instance (t : Protocol.MessageType) : Decidable (Solicited t) :=
  inferInstanceAs (Decidable (_ ∨ _))

def Spoken (e : Effect) : Prop :=
  (∃ cmd accepted, e = .tryPush cmd accepted) ∨
  ∃ writer t m, e = .write writer (wire kMaxPayload m) ∧ Sendable kMaxPayload m ∧
    m.type = Protocol.MessageType.device t ∧ Solicited t

structure Connectable (c : CLI) : Prop where
  ready : Ready c
  idle : waiting c = none
  probe : c.mode = .framed → c.probeActive = false

/-- The device holds the frame for leaving, up to its delimiter. -/
def ExitPending (c : CLI) : Prop :=
  c.mode = .framed ∧ (c.frameDecoder.feedByte kMaxPayload kFrameDelimiter).1 = .frameReady ∧
    (c.frameDecoder.feedByte kMaxPayload kFrameDelimiter).2.msgType = .exitHandshake

instance (c : CLI) : Decidable (ExitPending c) := inferInstanceAs (Decidable (_ ∧ _ ∧ _))

/-- No frame and no probe is complete up to its delimiter, and no framed command was
left behind in TEXT mode. -/
structure Quiet (c : CLI) : Prop where
  connectable : Connectable c
  slot : c.hasFramedCommand = false
  probe : c.mode = .text → c.probeActive = true → isHandshake kMaxPayload c.probeBuf = false
  frame : c.mode = .framed →
    (c.frameDecoder.feedByte kMaxPayload kFrameDelimiter).1 ≠ .frameReady

theorem Quiet.not_exitPending (c : CLI) (h : Quiet c) : ¬ ExitPending c :=
  fun hexit => h.frame hexit.1 hexit.2.1

theorem idle_text (c : CLI) (hw : waiting c = none) (hm : c.mode = .text) :
    c.hasPending = false := by
  simpa [waiting, CLI.hasCommand, hm] using hw

theorem idle_framed (c : CLI) (hw : waiting c = none) (hm : c.mode = .framed) :
    c.hasFramedCommand = false := by
  simpa [waiting, CLI.hasCommand, hm] using hw

structure HelloBody (seqNum : UInt8) (body : List UInt8) : Prop where
  zeroFree : 0 ∉ body
  nonempty : body ≠ []
  fits : body.length ≤ kMaxProbeSize
  decodes : CobsCodec.decode body (kMaxRawSize kMaxPayload) = rawFrame (hello seqNum)

section Messages

theorem hello_sendable (seqNum : UInt8) : Sendable kMaxPayload (hello seqNum) :=
  ⟨by simp [hello, kMaxPayload], Or.inr ⟨_, rfl, le_of_eq rfl⟩⟩

theorem welcome_sendable (seqNum : UInt8) : Sendable kMaxPayload (welcome seqNum) :=
  ⟨by simp [welcome, kMaxPayload], Or.inr ⟨_, rfl, le_of_eq rfl⟩⟩

theorem hello_wire (seqNum : UInt8) :
    ∃ body, wire kMaxPayload (hello seqNum) = body ++ [0] ∧ HelloBody seqNum body := by
  have hs := hello_sendable seqNum
  obtain ⟨body, hw, hz, hne, -, hdec⟩ := wire_eq kMaxPayload (by decide) (hello seqNum) hs
  have hlen := CobsCodec.encode_length (rawFrame (hello seqNum)) (kMaxWireSize kMaxPayload-1)
  have hbody : body = CobsCodec.encode (rawFrame (hello seqNum)) (kMaxWireSize kMaxPayload-1) :=
    (List.append_inj' (hw.symm.trans (wire_encode kMaxPayload (by decide) _ hs)) rfl).1
  refine ⟨body, hw, hz, hne, ?_, hdec⟩
  rw [← hbody, rawFrame_length kMaxPayload (by decide) _ hs] at hlen
  have hsmall : CobsCodec.cobsMaxEncodedLen (kFrameOverhead+6) ≤ kMaxProbeSize := by decide
  exact hlen.trans hsmall

theorem connectBytes_eq (seqNum : UInt8) :
    connectBytes seqNum.toNat = some (0 :: wire kMaxPayload (hello seqNum)) := by
  have hframe := encode_frame_wire .HANDSHAKE_REQ (hello seqNum) (hello_sendable seqNum) rfl
  have hbytes : (hello seqNum).bytes = encode_handshake_req := rfl
  rw [hbytes] at hframe
  have hseq : (hello seqNum).seqNum = seqNum := rfl
  rw [hseq] at hframe
  rw [connectBytes, hframe]
  rfl

theorem interpret_welcome (seqNum : UInt8) :
    interpret (decoded .HANDSHAKE_RESP (welcome seqNum)) =
      some (.handshake seqNum.toNat PROTOCOL_VERSION HANDSHAKE_MAGIC) := rfl

variable (env : Environment)

theorem onHandshakeRequest_eq (version : UInt16) (seqNum : UInt8) (c : CLI) :
    (protocolHandler env).onHandshakeRequest version seqNum c =
      c.write .onHandshakeRequest (wire kMaxPayload (welcome seqNum)) :=
  sendFrame_write .onHandshakeRequest c .handshakeResp seqNum (serializeHandshakeResp 6) (by decide)

theorem welcome_spoken (seqNum : UInt8) :
    Spoken (.write .onHandshakeRequest (wire kMaxPayload (welcome seqNum))) :=
  Or.inr ⟨_, .HANDSHAKE_RESP, welcome seqNum, rfl, welcome_sendable seqNum, rfl, by decide⟩

def Told (c c' : CLI) : Prop := ∃ es, (∀ e ∈ es, Spoken e) ∧ c' = { c with history := c.history ++ es }

theorem Told.refl (c : CLI) : Told c c := ⟨[], by simp, by simp⟩

theorem Told.sendFrame (c s : CLI) (hs : Told c s) (writer : Writer) (t : Protocol.MessageType)
    (ht : Solicited t) (seqNum : UInt8) (payload : Option (List UInt8)) (len : ℕ)
    (hp : len = 0 ∨ ∃ p, payload = some p ∧ len ≤ p.length) :
    Told c (s.sendFrame kMaxPayload writer t.device seqNum payload len) := by
  obtain ⟨es, hes, rfl⟩ := hs
  unfold CLI.sendFrame
  dsimp only
  split_ifs with hlen
  · refine ⟨es ++ [.write writer (wire kMaxPayload ⟨t.device, seqNum, payload, len⟩)], ?_, ?_⟩
    · intro e he
      rcases List.mem_append.mp he with he | he
      · exact hes e he
      · refine Or.inr ⟨writer, t, ⟨t.device, seqNum, payload, len⟩, List.mem_singleton.mp he,
          ⟨?_, hp⟩, rfl, ht⟩
        by_contra hbig
        rw [FrameCodec.encode, if_pos (Nat.not_le.mp hbig)] at hlen
        exact absurd hlen (by simp)
    · simp [CLI.write, wire]
  · exact ⟨es, hes, rfl⟩

theorem dispatch_told (type : MessageType) (hexit : type ≠ .exitHandshake) (seqNum : UInt8)
    (payload : List UInt8) (c : CLI) :
    Told c (dispatch (protocolHandler env) type seqNum payload c).2 := by
  apply dispatch_keeps (protocolHandler env) (Told c)
  · intro cmd seq s hs
    exact hs
  · intro version seq s hs
    exact hs.sendFrame c s _ .HANDSHAKE_RESP (by decide) seq _ _ (Or.inr ⟨_, rfl, le_rfl⟩)
  · intro seq s hs
    have hm : (protocolHandler env).onMetricsRequest seq s = onMetricsRequest env seq s := rfl
    rw [hm]
    unfold onMetricsRequest
    cases env.snapshotFn with
    | none => exact hs.sendFrame c s _ .METRICS_RESP (by decide) seq _ _ (Or.inl rfl)
    | some snapshotFn =>
      exact hs.sendFrame c s _ .METRICS_RESP (by decide) seq _ _ (Or.inr ⟨_, rfl, le_rfl⟩)
  · intro seq s hs
    exact hs.sendFrame c s _ .HEARTBEAT (by decide) seq _ _ (Or.inl rfl)
  · exact hexit
  · exact Told.refl c

end Messages

section Greeting

variable (cfg : Cfg) (env : Environment) (seqNum : UInt8) (body : List UInt8)

/-- How far the device is with the first bytes of a session, and which are left. -/
inductive Greeting : CLI → List UInt8 → Prop where
  | start (c : CLI) (h : Connectable c) (hexit : ¬ ExitPending c) : Greeting c (0 :: (body ++ [0]))
  | probing (c : CLI) (suf : List UInt8) (h : Ready c) (hm : c.mode = .text)
      (htext : c.hasPending = false) (hactive : c.probeActive = true) (hbuf : c.probeBuf ++ suf = body) : Greeting c (suf ++ [0])
  | framing (c : CLI) (suf : List UInt8) (h : Ready c) (hm : c.mode = .framed)
      (hactive : c.probeActive = false) (hbuf : c.frameDecoder.cobsBuf ++ suf = body) :
      Greeting c (suf ++ [0])
  | done (c : CLI) (h : Ready c) (hm : c.mode = .framed) (hactive : c.probeActive = false)
      (hbuf : c.frameDecoder.cobsBuf = []) : Greeting c []

/-- From a quiet device the bytes up to `rest` bring the answer to the handshake if
they are the last, and nothing else. -/
def Plainly (c c' : CLI) (bytes rest : List UInt8) (es : List Effect) : Prop :=
  c.hasFramedCommand = false → (bytes.length = body.length+2 → Quiet c) →
    c'.hasFramedCommand = false ∧
      es = if bytes ≠ [] ∧ rest = [] then
        [.write .onHandshakeRequest (wire kMaxPayload (welcome seqNum))] else []

structure Greeted (c c' : CLI) (b : UInt8) (rest : List UInt8) (es : List Effect) : Prop where
  greeting : Greeting body c' rest
  history : c'.history = c.history ++ es
  spoken : ∀ e ∈ es, Spoken e
  answered : rest = [] → .write .onHandshakeRequest (wire kMaxPayload (welcome seqNum)) ∈ es
  mode : c.mode = .text ∨ c'.mode = .framed
  plain : Plainly seqNum body c c' (b::rest) rest es

theorem hello_ready (h : HelloBody seqNum body) (d : FrameDecoder) (hd : d.cobsBuf = body) :
    d.feedByte kMaxPayload kFrameDelimiter = (.frameReady,
      { cobsBuf := [], msgType := .handshakeReq, seqNum := seqNum
        payload := encode_handshake_req }) := by
  have hraw := rawFrame_raw kMaxPayload (by decide) (hello seqNum) (hello_sendable seqNum)
  rw [kFrameDelimiter, feedByte_delimiter, if_neg (by simp [hd, h.nonempty])]
  apply processFrame_ready
  rw [hd, h.decodes]
  exact hraw

theorem dispatch_hello (c : CLI) :
    dispatch (protocolHandler env) .handshakeReq seqNum encode_handshake_req c =
      (true, c.write .onHandshakeRequest (wire kMaxPayload (welcome seqNum))) := by
  have hp : HandshakePayload encode_handshake_req := by decide
  rw [dispatch_handshakeReq, if_pos hp, onHandshakeRequest_eq]

theorem probing_last (h : HelloBody seqNum body) (c : CLI) (hr : c.hasRouter = true)
    (hbuf : c.probeBuf = body) :
    c.tryHandshakeProbe kMaxPayload (protocolHandler env) =
      (true, (c.write .onHandshakeRequest (wire kMaxPayload (welcome seqNum))).enterFramedMode) := by
  have hfits : body.length ≤ kMaxCobsSize kMaxPayload := h.fits.trans (by decide)
  obtain ⟨-, hfeed⟩ := observations_data kMaxPayload FrameDecoder.initial body h.zeroFree
    (by simpa [FrameDecoder.initial] using hfits)
  have hready := hello_ready seqNum body h (FrameDecoder.initial.feed kMaxPayload body)
    (by rw [hfeed]; rfl)
  unfold CLI.tryHandshakeProbe
  rw [if_neg (by simp [hr]), hbuf]
  simp only [hready, ne_eq, not_true_eq_false, if_false, dispatch_hello]
  rfl

/-- The zero that starts the session, in TEXT mode: a probe that happens to be a
handshake is answered, any other is given up. -/
theorem start_text (c : CLI) (hc : Connectable c) (hm : c.mode = .text) :
    ∃ es, Greeted seqNum body c (c.processByte cfg kMaxPayload (protocolHandler env) 0)
      0 (body ++ [0]) es := by
  have hrest : body ++ [0] ≠ [] := by simp
  have hprobing : ∀ c' : CLI, c' = { c with probeActive := true, probeBuf := [] } →
      Greeted seqNum body c c' 0 (body ++ [0]) [] := by
    rintro c' rfl
    exact
      { greeting := .probing _ body ⟨hc.ready.router, hc.ready.sync⟩ hm (idle_text c hc.idle hm) rfl
          rfl
        history := by simp
        spoken := by simp
        answered := fun h => absurd h hrest
        mode := Or.inl hm
        plain := fun hslot _ => ⟨hslot, (if_neg fun h => hrest h.2).symm⟩ }
  have hbyte : c.processByte cfg kMaxPayload (protocolHandler env) 0 =
      (c.processTextByte cfg kMaxPayload (protocolHandler env) kFrameDelimiter).2 := if_pos hm
  rw [hbyte, CLI.processTextByte, if_pos rfl]
  by_cases hp : c.probeActive ∧ 0 < c.probeBuf.length
  · rw [if_pos hp]
    rcases tryHandshakeProbe_cases kMaxPayload (protocolHandler env) c hc.ready.router with
      ⟨-, ht⟩ | ⟨hyes, version, n, ht⟩
    · rw [ht]
      exact ⟨[], hprobing _ rfl⟩
    · rw [ht, onHandshakeRequest_eq]
      refine ⟨[.write .onHandshakeRequest (wire kMaxPayload (welcome n))], ?_⟩
      exact
        { greeting := .framing _ body ⟨hc.ready.router, hc.ready.sync⟩ rfl rfl rfl
          history := rfl
          spoken := by simpa using welcome_spoken n
          answered := fun h => absurd h hrest
          mode := Or.inl hm
          plain := fun _ hquiet => absurd hyes (by simp [(hquiet (by simp)).probe hm hp.1]) }
  · rw [if_neg hp]
    exact ⟨[], hprobing _ rfl⟩

/-- The zero that starts the session, in FRAMED mode: a frame that it completes
is handled. -/
theorem start_framed (c : CLI) (hc : Connectable c) (hm : c.mode = .framed)
    (hexit : ¬ ExitPending c) :
    ∃ es, Greeted seqNum body c (c.processByte cfg kMaxPayload (protocolHandler env) 0)
      0 (body ++ [0]) es := by
  have hrest : body ++ [0] ≠ [] := by simp
  have hbuf := feedByte_delimiter_cobsBuf kMaxPayload c.frameDecoder
  have hno : ¬ ((c.frameDecoder.feedByte kMaxPayload 0).1 = .frameReady ∧
      (c.frameDecoder.feedByte kMaxPayload 0).2.msgType = .exitHandshake) :=
    fun h => hexit ⟨hm, h⟩
  have hquiet : Quiet c → (c.frameDecoder.feedByte kMaxPayload 0).1 ≠ .frameReady :=
    fun h => h.frame hm
  have hbyte : c.processByte cfg kMaxPayload (protocolHandler env) 0 =
      c.processFramedByte kMaxPayload (protocolHandler env) 0 := if_neg (by simp [hm])
  rw [hbyte, CLI.processFramedByte]
  generalize c.frameDecoder.feedByte kMaxPayload 0 = fed at hbuf hno hquiet
  have htold : Told { c with frameDecoder := fed.2 } { c with frameDecoder := fed.2 } :=
    Told.refl _
  have hgreeted : ∀ c' : CLI, fed.1 = .frameReady → Told { c with frameDecoder := fed.2 } c' →
      ∃ es, Greeted seqNum body c c' 0 (body ++ [0]) es := by
    rintro c' hready ⟨es, hes, rfl⟩
    use es
    exact
      { greeting := .framing _ body ⟨hc.ready.router, hc.ready.sync⟩ hm (hc.probe hm)
          (congrArg (· ++ body) hbuf)
        history := rfl
        spoken := hes
        answered := fun h => absurd h hrest
        mode := Or.inr hm
        plain := fun _ h => absurd hready (hquiet (h (by simp))) }
  by_cases hready : fed.1 = .frameReady
  · simp only [if_pos hready, CLI.handleDecodedFrame]
    by_cases hcmd : fed.2.msgType = .command
    · rw [if_pos hcmd]
      split_ifs
      · refine ⟨[], ?_⟩
        exact
          { greeting := .framing _ body ⟨hc.ready.router, hc.ready.sync⟩ hm (hc.probe hm)
              (congrArg (· ++ body) hbuf)
            history := by simp
            spoken := by simp
            answered := fun h => absurd h hrest
            mode := Or.inr hm
            plain := fun _ h => absurd hready (hquiet (h (by simp))) }
      · exact hgreeted _ hready htold
    · rw [if_neg hcmd, if_pos hc.ready.router]
      exact hgreeted _ hready (dispatch_told env _ (fun h => hno ⟨hready, h⟩) _ _ _)
  · simp only [if_neg hready]
    refine ⟨[], ?_⟩
    exact
      { greeting := .framing _ body ⟨hc.ready.router, hc.ready.sync⟩ hm (hc.probe hm)
          (congrArg (· ++ body) hbuf)
        history := by simp
        spoken := by simp
        answered := fun h => absurd h hrest
        mode := Or.inr hm
        plain := fun hslot _ => ⟨hslot, (if_neg fun h => hrest h.2).symm⟩ }

theorem probing_byte (h : HelloBody seqNum body) (c : CLI) (suf : List UInt8) (b : UInt8)
    (rest : List UInt8) (hready : Ready c) (hm : c.mode = .text) (htext : c.hasPending = false)
    (hactive : c.probeActive = true) (hbuf : c.probeBuf ++ suf = body)
    (hbytes : suf ++ [0] = b::rest) :
    ∃ es, Greeted seqNum body c (c.processByte cfg kMaxPayload (protocolHandler env) b) b rest
      es := by
  have hbyte : c.processByte cfg kMaxPayload (protocolHandler env) b =
      (c.processTextByte cfg kMaxPayload (protocolHandler env) b).2 := if_pos hm
  rw [hbyte]
  cases suf with
  | nil =>
    obtain ⟨rfl, rfl⟩ : (0 : UInt8) = b ∧ [] = rest := List.cons.inj hbytes
    rw [List.append_nil] at hbuf
    have hp : c.probeActive = true ∧ 0 < c.probeBuf.length :=
      ⟨hactive, List.length_pos_iff.mpr (by rw [hbuf]; exact h.nonempty)⟩
    rw [CLI.processTextByte, kFrameDelimiter, if_pos rfl, if_pos hp,
      probing_last env seqNum body h c hready.router hbuf]
    refine ⟨[.write .onHandshakeRequest (wire kMaxPayload (welcome seqNum))], ?_⟩
    exact
      { greeting := .done _ ⟨hready.router, hready.sync⟩ rfl rfl rfl
        history := rfl
        spoken := by simpa using welcome_spoken seqNum
        answered := fun _ => List.mem_singleton_self _
        mode := Or.inl hm
        plain := fun hslot _ => ⟨hslot, by simp⟩ }
  | cons x suf =>
    obtain ⟨rfl, rfl⟩ : x = b ∧ suf ++ [0] = rest := by simpa using hbytes
    have hx : x ≠ kFrameDelimiter := by
      rintro rfl
      exact h.zeroFree (by rw [← hbuf]; simp [kFrameDelimiter])
    have hroom : c.probeBuf.length < kMaxProbeSize := by
      have hfits := h.fits
      rw [← hbuf, List.length_append, List.length_cons] at hfits
      omega
    rw [CLI.processTextByte, if_neg hx, if_pos hactive, if_pos hroom]
    refine ⟨[], ?_⟩
    exact
      { greeting := .probing _ suf ⟨hready.router, hready.sync⟩ hm htext hactive
          (by simpa using hbuf)
        history := by simp
        spoken := by simp
        answered := fun hnil => absurd hnil (by simp)
        mode := Or.inl hm
        plain := fun hslot _ => ⟨hslot, by simp⟩ }

theorem framing_byte (h : HelloBody seqNum body) (c : CLI) (suf : List UInt8) (b : UInt8)
    (rest : List UInt8) (hready : Ready c) (hm : c.mode = .framed) (hactive : c.probeActive = false)
    (hbuf : c.frameDecoder.cobsBuf ++ suf = body) (hbytes : suf ++ [0] = b::rest) :
    ∃ es, Greeted seqNum body c (c.processByte cfg kMaxPayload (protocolHandler env) b) b rest
      es := by
  have hbyte : c.processByte cfg kMaxPayload (protocolHandler env) b =
      c.processFramedByte kMaxPayload (protocolHandler env) b := if_neg (by simp [hm])
  rw [hbyte, CLI.processFramedByte]
  cases suf with
  | nil =>
    obtain ⟨rfl, rfl⟩ : (0 : UInt8) = b ∧ [] = rest := List.cons.inj hbytes
    rw [List.append_nil] at hbuf
    have hfed : c.frameDecoder.feedByte kMaxPayload 0 = _ :=
      hello_ready seqNum body h c.frameDecoder hbuf
    have htype : MessageType.handshakeReq ≠ .command := by decide
    simp only [hfed, if_true, CLI.handleDecodedFrame, if_neg htype]
    rw [if_pos hready.router, dispatch_hello]
    refine ⟨[.write .onHandshakeRequest (wire kMaxPayload (welcome seqNum))], ?_⟩
    exact
      { greeting := .done _ ⟨hready.router, hready.sync⟩ hm hactive rfl
        history := rfl
        spoken := by simpa using welcome_spoken seqNum
        answered := fun _ => List.mem_singleton_self _
        mode := Or.inr hm
        plain := fun hslot _ => ⟨hslot, by simp⟩ }
  | cons x suf =>
    obtain ⟨rfl, rfl⟩ : x = b ∧ suf ++ [0] = rest := by simpa using hbytes
    have hx : x ≠ 0 := by
      rintro rfl
      exact h.zeroFree (by rw [← hbuf]; simp)
    have hroom : c.frameDecoder.cobsBuf.length < kMaxCobsSize kMaxPayload := by
      have hfits : body.length ≤ kMaxCobsSize kMaxPayload := h.fits.trans (by decide)
      rw [← hbuf, List.length_append, List.length_cons] at hfits
      omega
    rw [feedByte_data kMaxPayload _ x hx hroom]
    refine ⟨[], ?_⟩
    exact
      { greeting := .framing _ suf ⟨hready.router, hready.sync⟩ hm hactive (by simpa using hbuf)
        history := by simp
        spoken := by simp
        answered := fun hnil => absurd hnil (by simp)
        mode := Or.inr hm
        plain := fun hslot _ => ⟨hslot, by simp⟩ }

theorem greet_byte (h : HelloBody seqNum body) (c : CLI) (b : UInt8) (rest : List UInt8)
    (hc : Greeting body c (b::rest)) :
    ∃ es, Greeted seqNum body c (c.processByte cfg kMaxPayload (protocolHandler env) b) b rest
      es := by
  generalize hbytes : b::rest = bytes at hc
  cases hc with
  | start hc hexit =>
    obtain ⟨rfl, rfl⟩ := List.cons.inj hbytes
    cases hm : c.mode with
    | text => exact start_text cfg env seqNum body c hc hm
    | framed => exact start_framed cfg env seqNum body c hc hm hexit
  | probing suf hready hm htext hactive hbuf =>
    exact probing_byte cfg env seqNum body h c suf b rest hready hm htext hactive hbuf hbytes.symm
  | framing suf hready hm hactive hbuf =>
    exact framing_byte cfg env seqNum body h c suf b rest hready hm hactive hbuf hbytes.symm
  | done => cases hbytes

theorem greeting_ready (c : CLI) (rest : List UInt8) (hc : Greeting body c rest) : Ready c := by
  cases hc with
  | start hc hexit => exact hc.ready
  | probing suf hready => exact hready
  | framing suf hready => exact hready
  | done hready => exact hready

theorem greeting_length (c : CLI) (rest : List UInt8) (hc : Greeting body c rest) :
    rest.length ≤ body.length+2 := by
  cases hc with
  | start hc hexit => simp
  | probing suf h hm htext hactive hbuf =>
    rw [← hbuf]
    simp
    omega
  | framing suf h hm hactive hbuf =>
    rw [← hbuf]
    simp
    omega
  | done => simp

theorem greeting_idle (c : CLI) (rest : List UInt8) (hc : Greeting body c rest)
    (hslot : c.hasFramedCommand = false) : waiting c = none := by
  have hframed : c.mode = .framed → waiting c = none := by
    intro hm
    simp [waiting, CLI.hasCommand, hm, hslot]
  cases hc with
  | start hc hexit => exact hc.idle
  | probing suf h hm htext => simp [waiting, CLI.hasCommand, hm, htext]
  | framing suf h hm => exact hframed hm
  | done h hm => exact hframed hm

theorem Plainly.trans (c c₁ c₂ : CLI) (bytes mid rest : List UInt8) (es es' : List Effect)
    (h : Plainly seqNum body c c₁ bytes mid es) (h' : Plainly seqNum body c₁ c₂ mid rest es')
    (hquiet : mid.length = body.length+2 → (bytes.length = body.length+2 → Quiet c) → Quiet c₁)
    (hbytes : bytes = [] → mid = []) (hmid : mid = [] → rest = []) :
    Plainly seqNum body c c₂ bytes rest (es ++ es') := by
  intro hslot hstart
  obtain ⟨hslot₁, rfl⟩ := h hslot hstart
  obtain ⟨hslot₂, rfl⟩ := h' hslot₁ fun hlen => hquiet hlen hstart
  refine ⟨hslot₂, ?_⟩
  by_cases hnil : mid = []
  · simp [hnil, hmid hnil]
  · simp [hnil, mt hbytes hnil]

theorem greet_bytes (h : HelloBody seqNum body) (c : CLI) (bs rest : List UInt8)
    (hc : Greeting body c (bs ++ rest)) :
    ∃ es, Greeting body (c.processBytes cfg kMaxPayload (protocolHandler env) bs) rest ∧
      (c.processBytes cfg kMaxPayload (protocolHandler env) bs).history = c.history ++ es ∧
      (∀ e ∈ es, Spoken e) ∧
      (bs ≠ [] → rest = [] →
        .write .onHandshakeRequest (wire kMaxPayload (welcome seqNum)) ∈ es) ∧
      Plainly seqNum body c (c.processBytes cfg kMaxPayload (protocolHandler env) bs) (bs ++ rest)
        rest es := by
  induction bs generalizing c with
  | nil =>
    have hnil : c.processBytes cfg kMaxPayload (protocolHandler env) [] = c := by
      unfold CLI.processBytes
      split_ifs <;> rfl
    rw [hnil]
    exact ⟨[], hc, by simp, by simp, fun hne => absurd rfl hne,
      fun hslot _ => ⟨hslot, (if_neg fun h => h.1 h.2).symm⟩⟩
  | cons b bs ih =>
    have hrouter : c.hasRouter = true := (greeting_ready body c _ hc).router
    have hlen := greeting_length body c _ hc
    obtain ⟨es₁, hbyte⟩ := greet_byte cfg env seqNum body h c b (bs ++ rest) hc
    have hexit : c.mode = .text ∨
        (c.processByte cfg kMaxPayload (protocolHandler env) b).mode = .framed ∨ bs = [] :=
      hbyte.mode.imp_right Or.inl
    obtain ⟨es₂, hgreeting, hhist, hspoken, hanswered, hplain⟩ := ih _ hbyte.greeting
    rw [processBytes_cons cfg kMaxPayload (protocolHandler env) c hrouter b bs hexit]
    refine ⟨es₁ ++ es₂, hgreeting, ?_, ?_, ?_, ?_⟩
    · rw [hhist, hbyte.history, List.append_assoc]
    · intro e he
      exact (List.mem_append.mp he).elim (hbyte.spoken e) (hspoken e)
    · intro _ hrest
      by_cases hbs : bs = []
      · exact List.mem_append_left _ (hbyte.answered (by rw [hbs, hrest]; rfl))
      · exact List.mem_append_right _ (hanswered hbs hrest)
    · refine hbyte.plain.trans _ _ _ _ _ _ _ _ _ _ hplain (fun hfull => ?_) (by simp) (by simp)
      rw [List.cons_append, List.length_cons] at hlen
      omega

theorem greeting_waiting (c : CLI) (rest : List UInt8) (hc : Greeting body c rest) (w : Received)
    (hw : waiting c = some w) : w.seqNum ≠ none := by
  have hframed : c.mode = .framed → w.seqNum ≠ none := by
    intro hm
    by_cases hcommand : c.hasCommand
    · rw [waiting, if_pos hcommand, Option.some_inj] at hw
      rw [← hw]
      simp [taken, hm]
    · simp [waiting, hcommand] at hw
  cases hc with
  | start hc hexit =>
    rw [hc.idle] at hw
    cases hw
  | probing suf hready hm hp => simp [waiting, CLI.hasCommand, hm, hp] at hw
  | framing suf hready hm => exact hframed hm
  | done hready hm => exact hframed hm

theorem answered_spoken (rs : List Received) (es : List Effect) (h : Answered cfg rs es)
    (hseq : ∀ r ∈ rs, r.seqNum ≠ none) : ∀ e ∈ es, Spoken e := by
  induction h with
  | nil => simp
  | cons received accepted rest effects _ ih =>
    obtain ⟨seqNum, hsome⟩ := Option.ne_none_iff_exists'.mp (hseq received (by simp))
    have hreply : Spoken (.write .tick (reply cfg received accepted)) := by
      cases accepted with
      | true =>
        refine Or.inr ⟨.tick, .ACK, ⟨.ack, seqNum, some [received.command.id], 1⟩, ?_,
          payload_sendable .ack seqNum [received.command.id] (by simp [kMaxPayload]), rfl,
          by decide⟩
        simp [reply, hsome]
      | false =>
        refine Or.inr ⟨.tick, .NACK, ⟨.nack, seqNum, some (received.command.id ::
          received.command.targetDevice :: ResponseSerializer.leBytes 4
            received.command.value.toNat), 6⟩, ?_, ?_, rfl, by decide⟩
        · simp [reply, hsome]
        · exact ⟨by simp [kMaxPayload], Or.inr ⟨_, rfl, by simp [ResponseSerializer.leBytes_length]⟩⟩
    intro e he
    rcases List.mem_cons.mp he with rfl | he
    · exact Or.inl ⟨_, _, rfl⟩
    · rcases List.mem_cons.mp he with rfl | he
      · exact hreply
      · exact ih (fun r hr => hseq r (by simp [hr])) e he

theorem greeting_release (c : CLI) (rest : List UInt8) (hc : Greeting body c rest)
    (builder : LightweightStringBuilder) (history : List Effect) :
    Greeting body { release c with builder := builder, history := history } rest := by
  have hfields : (release c).mode = c.mode ∧ (release c).probeActive = c.probeActive ∧
      (release c).probeBuf = c.probeBuf ∧ (release c).frameDecoder = c.frameDecoder ∧
      (c.mode = .text → (release c).hasPending = false) := by
    unfold release
    split_ifs with hm
    · simp
    · simp [hm]
  obtain ⟨hmode, hactive, hprobe, hdecoder, htext⟩ := hfields
  have hready : ∀ h : Ready c, Ready { release c with builder := builder, history := history } :=
    fun h => release_ready c builder history h
  cases hc with
  | start hc hexit =>
    refine .start _ ⟨hready hc.ready, release_idle c builder history,
      fun hm => hactive.trans (hc.probe (hmode ▸ hm))⟩ ?_
    simpa [ExitPending, hmode, hdecoder] using hexit
  | probing suf h hm hp ha hbuf =>
    exact .probing _ suf (hready h) (hmode.trans hm) (htext hm) (hactive.trans ha)
      ((congrArg (· ++ suf) hprobe).trans hbuf)
  | framing suf h hm ha hbuf =>
    exact .framing _ suf (hready h) (hmode.trans hm) (hactive.trans ha)
      ((congrArg (·.cobsBuf ++ suf) hdecoder).trans hbuf)
  | done h hm ha hbuf =>
    exact .done _ (hready h) (hmode.trans hm) (hactive.trans ha)
      ((congrArg FrameDecoder.cobsBuf hdecoder).trans hbuf)

theorem greet_tick (h : HelloBody seqNum body) (fuel : ℕ) (c : CLI) (read : Read)
    (rest : List UInt8) (hc : Greeting body c (read.bytes ++ rest)) :
    ∃ c' es, tick cfg env (fuel+1) c read = some c' ∧ Greeting body c' rest ∧
      waiting c' = none ∧ c'.history = c.history ++ es ∧ (∀ e ∈ es, Spoken e) ∧
      (read.bytes ≠ [] → rest = [] →
        .write .onHandshakeRequest (wire kMaxPayload (welcome seqNum)) ∈ es) ∧
      Plainly seqNum body c c' (read.bytes ++ rest) rest es := by
  obtain ⟨es, hgreeting, hhist, hspoken, hanswered, hplain⟩ :=
    greet_bytes cfg env seqNum body h c read.bytes rest hc
  have hread : c.tick cfg kMaxPayload (protocolHandler env) read =
      c.processBytes cfg kMaxPayload (protocolHandler env) read.bytes := rfl
  rw [tick, hread]
  generalize c.processBytes cfg kMaxPayload (protocolHandler env) read.bytes = c₁ at *
  obtain ⟨builder, replies, hans, hdrain⟩ := drain_spec cfg env fuel c₁
    (greeting_ready body c₁ rest hgreeting).sync
  refine ⟨_, es ++ replies, hdrain, greeting_release body c₁ rest hgreeting _ _, release_idle _ _ _,
    ?_, ?_, fun hne hrest => List.mem_append_left _ (hanswered hne hrest), fun hslot hquiet => ?_⟩
  · rw [hhist, List.append_assoc]
  · intro e he
    rcases List.mem_append.mp he with he | he
    · exact hspoken e he
    · refine answered_spoken cfg _ _ hans (fun r hr => ?_) e he
      exact greeting_waiting body c₁ rest hgreeting r (Option.mem_toList.mp hr)
  · obtain ⟨hslot₁, rfl⟩ := hplain hslot hquiet
    have hidle := greeting_idle body c₁ rest hgreeting hslot₁
    rw [hidle] at hans
    cases hans
    refine ⟨?_, List.append_nil _⟩
    unfold release
    split_ifs
    · exact hslot₁
    · rfl

theorem greet_ticks (h : HelloBody seqNum body) (fuel : ℕ) (c : CLI) (reads : List Read)
    (hw : waiting c = none) (hc : Greeting body c (reads.flatMap Read.bytes)) :
    ∃ c' es, reads.foldlM (tick cfg env (fuel+1)) c = some c' ∧ Greeting body c' [] ∧
      waiting c' = none ∧ c'.history = c.history ++ es ∧ (∀ e ∈ es, Spoken e) ∧
      (reads.flatMap Read.bytes ≠ [] →
        .write .onHandshakeRequest (wire kMaxPayload (welcome seqNum)) ∈ es) ∧
      Plainly seqNum body c c' (reads.flatMap Read.bytes) [] es := by
  induction reads generalizing c with
  | nil =>
    exact ⟨c, [], rfl, hc, hw, by simp, by simp, fun hne => absurd rfl hne,
      fun hslot _ => ⟨hslot, by simp⟩⟩
  | cons read reads ih =>
    have hlen := greeting_length body c _ hc
    rw [List.flatMap_cons] at hlen hc ⊢
    obtain ⟨c₁, es₁, htick, hgreeting₁, hw₁, hhist₁, hspoken₁, hanswered₁, hplain₁⟩ :=
      greet_tick cfg env seqNum body h fuel c read _ hc
    obtain ⟨c₂, es₂, hticks, hgreeting₂, hw₂, hhist₂, hspoken₂, hanswered₂, hplain₂⟩ :=
      ih c₁ hw₁ hgreeting₁
    refine ⟨c₂, es₁ ++ es₂, ?_, hgreeting₂, hw₂, ?_, ?_, ?_, ?_⟩
    · rw [List.foldlM_cons, htick]
      exact hticks
    · rw [hhist₂, hhist₁, List.append_assoc]
    · intro e he
      exact (List.mem_append.mp he).elim (hspoken₁ e) (hspoken₂ e)
    · intro hne
      by_cases hrest : reads.flatMap Read.bytes = []
      · have hread : read.bytes ≠ [] := by
          intro hnil
          rw [hnil, hrest] at hne
          exact hne rfl
        exact List.mem_append_left _ (hanswered₁ hread hrest)
      · exact List.mem_append_right _ (hanswered₂ hrest)
    · refine hplain₁.trans _ _ _ _ _ _ _ _ _ _ hplain₂ (fun hfull hquiet => ?_)
        (fun hnil => (List.append_eq_nil_iff.mp hnil).2) (fun _ => rfl)
      -- a read without bytes leaves the device as it is
      rw [List.length_append] at hlen
      have hread : read.bytes = [] := List.length_eq_zero_iff.mp (by omega)
      have hempty := empty_ticks cfg env fuel c [read] hw (by simp [hread])
      rw [List.foldlM_cons, htick] at hempty
      obtain rfl : c₁ = c := Option.some_inj.mp hempty
      exact hquiet (by rw [hread]; exact hfull)

end Greeting

end SputterOS.Tools.Opening
