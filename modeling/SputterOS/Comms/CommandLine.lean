import SputterOS.Comms.ProtocolRouter
import SputterOS.Utils.LightweightStringBuilder
import SputterOS.Foundation.Transition

/-!
# The dual-mode command line

In TEXT mode bytes go to the command parser, and a zero byte starts or ends the
probe for a handshake. In FRAMED mode they go to the frame decoder. Each mode
has one slot for the command it received last. A read that begins in a mode is
processed by the loop of that mode to its end, but a handshake hands the rest
of its read to the other loop.
-/

set_option autoImplicit false

namespace SputterOS.CommandLine
open SputterOS.FrameCodec SputterOS.ProtocolRouter SputterOS.ResponseSerializer SputterOS.Logic
  SputterOS.Utils

inductive CommsMode where
  | text
  | framed
  deriving DecidableEq, Repr

inductive Writer where
  | tick
  | onHandshakeRequest
  | onExitHandshake
  | onMetricsRequest
  | onHeartbeat
  deriving DecidableEq, Repr

/-- What the task does to the command queue and to the stream. -/
inductive Effect where
  | tryPush (cmd : Command) (accepted : Bool)
  | write (writer : Writer) (bytes : List UInt8)
  deriving DecidableEq, Repr

/-- `hasRouter` says that a handler was set; `probeBuf` holds the first
`m_probeLen` bytes of the source's buffer; `history` lists the effects so far. -/
structure CLI where
  parser : CommandParser
  builder : LightweightStringBuilder
  hasPending : Bool
  mode : CommsMode
  frameDecoder : FrameDecoder
  framedCommand : Command
  hasFramedCommand : Bool
  framedSeqNum : UInt8
  hasRouter : Bool
  probeActive : Bool
  probeBuf : List UInt8
  history : List Effect
  deriving DecidableEq, Repr

def kReadBufSize : ℕ := 64
def kMaxProbeSize : ℕ := 64

structure Read where
  bytes : List UInt8
  bounded : bytes.length ≤ kReadBufSize

/-- The bytes of a probe are those of a handshake frame up to its delimiter. -/
def isHandshake (MaxPayload : ℕ) (probe : List UInt8) : Bool :=
  let result := (FrameDecoder.initial.feed MaxPayload probe).feedByte MaxPayload kFrameDelimiter
  result.1 = .frameReady && result.2.msgType = .handshakeReq && HandshakePayload result.2.payload

namespace CLI

def initial : CLI :=
  { parser := .initial, builder := .initial, hasPending := false, mode := .text
    frameDecoder := .initial, framedCommand := ⟨0, 0, 0⟩, hasFramedCommand := false
    framedSeqNum := 0, hasRouter := false, probeActive := false, probeBuf := [], history := [] }

def setProtocolHandler (c : CLI) : CLI := { c with hasRouter := true }

def hasCommand (c : CLI) : Bool :=
  if c.mode = .text then c.hasPending else c.hasFramedCommand

def getCommand (c : CLI) : Option Command × CLI :=
  if c.mode = .text then
    if !c.hasPending then (none, c)
    else
      let got := c.parser.getCommand
      if got.1.isSome then (got.1, { c with parser := got.2, hasPending := false })
      else (none, { c with parser := got.2 })
  else if !c.hasFramedCommand then (none, c)
  else (some c.framedCommand, { c with hasFramedCommand := false })

section Output

variable (MaxPayload : ℕ) (writer : Writer)

def write (c : CLI) (bytes : List UInt8) : CLI :=
  { c with history := c.history ++ [.write writer bytes] }

def flush (c : CLI) : CLI :=
  if c.builder.buf.length = 0 then c
  else { c.write writer c.builder.buf with builder := c.builder.clear }

def sendFrame (c : CLI) (type : MessageType) (seqNum : UInt8) (payload : Option (List UInt8))
    (len : ℕ) : CLI :=
  let wire := FrameCodec.encode MaxPayload type seqNum payload len (kMaxWireSize MaxPayload)
  if 0 < wire.length then c.write writer wire else c

def sendFramedAck (c : CLI) (seqNum cmdId : UInt8) : CLI :=
  let payload := serializeAck cmdId 1
  c.sendFrame MaxPayload writer .ack seqNum (some payload) payload.length

def sendFramedNack (c : CLI) (seqNum cmdId targetDevice : UInt8) (value : UInt32) : CLI :=
  let payload := serializeNack cmdId targetDevice value 6
  c.sendFrame MaxPayload writer .nack seqNum (some payload) payload.length

def sendFramedHandshakeResp (c : CLI) (seqNum : UInt8) : CLI :=
  let payload := serializeHandshakeResp 6
  c.sendFrame MaxPayload writer .handshakeResp seqNum (some payload) payload.length

def sendFramedHeartbeat (c : CLI) (seqNum : UInt8) : CLI :=
  c.sendFrame MaxPayload writer .heartbeat seqNum none 0

def sendFramedMetricsResp (c : CLI) (seqNum : UInt8) (data : Option (List UInt8)) (len : ℕ) : CLI :=
  c.sendFrame MaxPayload writer .metricsResp seqNum data len

end Output

def enterFramedMode (c : CLI) : CLI :=
  { c with
    mode := .framed
    probeActive := false
    probeBuf := []
    frameDecoder := c.frameDecoder.reset }

def exitFramedMode (c : CLI) : CLI :=
  { c with
    mode := .text
    hasPending := false
    hasFramedCommand := false
    parser := c.parser.reset }

section Input

variable (cfg : Cfg) (MaxPayload : ℕ) (handler : IProtocolHandler CLI)

def feedParser (c : CLI) (b : UInt8) : CLI :=
  let fed := c.parser.feedByte cfg b
  { c with parser := fed.2, hasPending := fed.1 || c.hasPending }

def tryHandshakeProbe (c : CLI) : Bool × CLI :=
  if !c.hasRouter then (false, c)
  else
    let probeDec := FrameDecoder.initial.feed MaxPayload c.probeBuf
    let result := probeDec.feedByte MaxPayload kFrameDelimiter
    if result.1 ≠ .frameReady then (false, c)
    else if result.2.msgType ≠ .handshakeReq then (false, c)
    else
      let dispatched := dispatch handler result.2.msgType result.2.seqNum result.2.payload c
      if dispatched.1 then (true, dispatched.2.enterFramedMode) else (false, dispatched.2)

def handleDecodedFrame (c : CLI) : CLI :=
  let d := c.frameDecoder
  if d.msgType = .command then
    if d.payload.length = 6 then
      { c with
        framedCommand := readCommand d.payload
        hasFramedCommand := true
        framedSeqNum := d.seqNum }
    else c
  else if c.hasRouter then (dispatch handler d.msgType d.seqNum d.payload c).2
  else c

def processFramedByte (c : CLI) (b : UInt8) : CLI :=
  let fed := c.frameDecoder.feedByte MaxPayload b
  let c := { c with frameDecoder := fed.2 }
  if fed.1 = .frameReady then c.handleDecodedFrame handler else c

def processFramedBytes (c : CLI) (bs : List UInt8) : CLI :=
  bs.foldl (processFramedByte MaxPayload handler) c

/-- One byte of a read in TEXT mode, and whether the handshake succeeded. -/
def processTextByte (c : CLI) (b : UInt8) : Bool × CLI :=
  if b = kFrameDelimiter then
    let probed :=
      if c.probeActive ∧ 0 < c.probeBuf.length then c.tryHandshakeProbe MaxPayload handler
      else (false, c)
    if probed.1 then probed
    else (false, { probed.2 with probeActive := true, probeBuf := [] })
  else if c.probeActive then
    if c.probeBuf.length < kMaxProbeSize then (false, { c with probeBuf := c.probeBuf ++ [b] })
    else (false, { c with probeActive := false, probeBuf := [] }.feedParser cfg b)
  else (false, c.feedParser cfg b)

def processTextBytes (c : CLI) : List UInt8 → CLI
  | [] => c
  | b::bs =>
    let done := c.processTextByte cfg MaxPayload handler b
    if done.1 then done.2.processFramedBytes MaxPayload handler bs
    else processTextBytes done.2 bs

def tick (c : CLI) (read : Read) : CLI :=
  if c.mode = .text then c.processTextBytes cfg MaxPayload handler read.bytes
  else c.processFramedBytes MaxPayload handler read.bytes

end Input

end CLI

section Loops

variable (cfg : Cfg) (MaxPayload : ℕ) (handler : IProtocolHandler CLI)

/-- A probe succeeds exactly on a handshake frame and otherwise changes nothing. -/
theorem tryHandshakeProbe_cases (c : CLI) (h : c.hasRouter = true) :
    (isHandshake MaxPayload c.probeBuf = false ∧
      c.tryHandshakeProbe MaxPayload handler = (false, c)) ∨
    (isHandshake MaxPayload c.probeBuf = true ∧ ∃ version seqNum,
      c.tryHandshakeProbe MaxPayload handler =
        (true, (handler.onHandshakeRequest version seqNum c).enterFramedMode)) := by
  unfold CLI.tryHandshakeProbe isHandshake
  rw [if_neg (by simp [h])]
  dsimp only
  generalize (FrameDecoder.initial.feed MaxPayload c.probeBuf).feedByte MaxPayload
    kFrameDelimiter = result
  by_cases hr : result.1 = .frameReady
  · by_cases ht : result.2.msgType = .handshakeReq
    · by_cases hp : HandshakePayload result.2.payload
      · right
        simp only [hr, ht, hp, dispatch_handshakeReq, ne_eq, not_true_eq_false, if_false, if_true]
        exact ⟨by decide, _, _, rfl⟩
      · left
        simp [hr, ht, hp, dispatch_handshakeReq]
    · left
      simp [hr, ht]
  · left
    simp [hr]

theorem processTextByte_mode (c : CLI) (h : c.hasRouter = true) (hm : c.mode = .text) (b : UInt8) :
    (c.processTextByte cfg MaxPayload handler b).2.mode =
      if (c.processTextByte cfg MaxPayload handler b).1 then .framed else .text := by
  by_cases hb : b = kFrameDelimiter
  · by_cases hp : c.probeActive ∧ 0 < c.probeBuf.length
    · rcases tryHandshakeProbe_cases MaxPayload handler c h with ⟨-, ht⟩ | ⟨-, v, n, ht⟩
      · simp only [CLI.processTextByte, if_pos hb, if_pos hp, ht]
        simp [hm]
      · simp only [CLI.processTextByte, if_pos hb, if_pos hp, ht]
        simp [CLI.enterFramedMode]
    · simp only [CLI.processTextByte, if_pos hb, if_neg hp]
      simp [hm]
  · by_cases ha : c.probeActive
    · by_cases hl : c.probeBuf.length < kMaxProbeSize
      · simp [CLI.processTextByte, hb, ha, hl, hm]
      · simp [CLI.processTextByte, CLI.feedParser, hb, ha, hl, hm]
    · simp [CLI.processTextByte, CLI.feedParser, hb, ha, hm]

def CLI.processByte (c : CLI) (b : UInt8) : CLI :=
  if c.mode = .text then (c.processTextByte cfg MaxPayload handler b).2
  else c.processFramedByte MaxPayload handler b

def CLI.processBytes (c : CLI) (bs : List UInt8) : CLI :=
  if c.mode = .text then c.processTextBytes cfg MaxPayload handler bs
  else c.processFramedBytes MaxPayload handler bs

/-- The rest of a read is processed in the mode a byte leaves, unless the byte
returned the command line to TEXT mode. -/
theorem processBytes_cons (c : CLI) (h : c.hasRouter = true) (b : UInt8) (bs : List UInt8)
    (hexit : c.mode = .text ∨ (c.processByte cfg MaxPayload handler b).mode = .framed ∨ bs = []) :
    c.processBytes cfg MaxPayload handler (b::bs) =
      (c.processByte cfg MaxPayload handler b).processBytes cfg MaxPayload handler bs := by
  by_cases hm : c.mode = .text
  · have hmode := processTextByte_mode cfg MaxPayload handler c h hm b
    have hbyte : c.processByte cfg MaxPayload handler b =
        (c.processTextByte cfg MaxPayload handler b).2 := if_pos hm
    rw [CLI.processBytes, if_pos hm, CLI.processTextBytes, hbyte, CLI.processBytes, hmode]
    by_cases hd : (c.processTextByte cfg MaxPayload handler b).1
    · simp [hd]
    · simp [hd]
  · have hbyte : c.processByte cfg MaxPayload handler b =
        c.processFramedByte MaxPayload handler b := if_neg hm
    have hcons : c.processBytes cfg MaxPayload handler (b::bs) =
        (c.processFramedByte MaxPayload handler b).processFramedBytes MaxPayload handler bs :=
      if_neg hm
    rw [hcons, hbyte, CLI.processBytes]
    rcases hexit with ht | hf | hn
    · exact absurd ht hm
    · rw [hbyte] at hf
      rw [if_neg (by simp [hf])]
    · simp [hn, CLI.processTextBytes, CLI.processFramedBytes]

end Loops

end SputterOS.CommandLine
