import SputterOS.Comms.CommandLine

/-!
# The communications task

The task is the protocol handler of its command line. A tick processes one
read and then drains the command slot of the current mode: every command taken
from it is offered to the queue and acknowledged or rejected. The stream and
the queue are present, as the dependency check demands before a build.
-/

set_option autoImplicit false

namespace SputterOS.ScheduledCommsTask
open SputterOS.FrameCodec SputterOS.ProtocolRouter SputterOS.ResponseSerializer SputterOS.Logic
  SputterOS.Utils SputterOS.CommandLine Foundation.NumberText

/-- The payload bound of `CLI<Cfg>`, the default of its template parameter. -/
def kMaxPayload : ℕ := 256

/-- What other parties decide, as functions of everything the task did before:
the answer of the queue, and the snapshot if its callback is set. -/
structure Environment where
  try_push : List Effect → Command → Bool
  snapshotFn : Option (List Effect → PerformanceSnapshot)

section Handler

variable (env : Environment)

def onMetricsRequest (seqNum : UInt8) (c : CLI) : CLI :=
  match env.snapshotFn with
  | none => c.sendFramedMetricsResp kMaxPayload .onMetricsRequest seqNum none 0
  | some snapshotFn =>
    let outCap := kMetricsHeaderSize+kMaxSnapshotTasks*kMetricsTaskSize
    let buf := serializeMetrics (snapshotFn c.history) outCap
    c.sendFramedMetricsResp kMaxPayload .onMetricsRequest seqNum (some buf) buf.length

/-- The task as the handler of its command line. Commands stay in the slot of
the command line. -/
def protocolHandler : IProtocolHandler CLI where
  onCommand _ _ c := c
  onHandshakeRequest _ seqNum c :=
    c.sendFramedHandshakeResp kMaxPayload .onHandshakeRequest seqNum
  onExitHandshake seqNum c :=
    (c.sendFramedAck kMaxPayload .onExitHandshake seqNum
      MessageType.exitHandshake.value).exitFramedMode
  onMetricsRequest := onMetricsRequest env
  onHeartbeat seqNum c := c.sendFramedHeartbeat kMaxPayload .onHeartbeat seqNum

end Handler

section Tick

variable (cfg : Cfg) (env : Environment)

def ackText (b : LightweightStringBuilder) (cmd : Command) : LightweightStringBuilder :=
  let b := b.clear.append (ascii "ACK ")
  let b := b.appendInt32 cmd.id.toUInt32.toInt32
  b.appendChar 0x0A

def nackText (b : LightweightStringBuilder) (cmd : Command) : LightweightStringBuilder :=
  let b := b.clear.append (ascii "NACK ")
  let b := (b.appendInt32 cmd.id.toUInt32.toInt32).appendChar 0x20
  let b := (b.appendInt32 cmd.targetDevice.toUInt32.toInt32).appendChar 0x20
  let b := b.append (cfg.floatText cmd.value)
  b.appendChar 0x0A

def sendTextAck (c : CLI) (cmd : Command) : CLI :=
  { c with builder := ackText c.builder cmd }.flush .tick

def sendTextNack (c : CLI) (cmd : Command) : CLI :=
  { c with builder := nackText cfg c.builder cmd }.flush .tick

def tryPush (c : CLI) (cmd : Command) : Bool × CLI :=
  let accepted := env.try_push c.history cmd
  (accepted, { c with history := c.history ++ [.tryPush cmd accepted] })

def answer (c : CLI) (cmd : Command) : CLI :=
  let pushed := tryPush env c cmd
  let c := pushed.2
  if pushed.1 then
    if c.mode = .framed then c.sendFramedAck kMaxPayload .tick c.framedSeqNum cmd.id
    else sendTextAck c cmd
  else if c.mode = .framed then
    c.sendFramedNack kMaxPayload .tick c.framedSeqNum cmd.id cmd.targetDevice cmd.value
  else sendTextNack cfg c cmd

def drainStep (c : CLI) : CLI :=
  match c.getCommand with
  | (some cmd, c) => answer cfg env c cmd
  | (none, c) => c

/-- The loop of a tick; nothing when it does not end within the fuel. -/
def drain : ℕ → CLI → Option CLI
  | 0, c => if c.hasCommand then none else some c
  | fuel+1, c => if c.hasCommand then drain fuel (drainStep cfg env c) else some c

def tick (fuel : ℕ) (c : CLI) (read : Read) : Option CLI :=
  drain cfg env fuel (c.tick cfg kMaxPayload (protocolHandler env) read)

/-- The task after `init`, which reads the stream once without draining. -/
def init (read : Read) : CLI :=
  CLI.initial.setProtocolHandler.tick cfg kMaxPayload (protocolHandler env) read

def run (fuel : ℕ) (atInit : Read) (reads : List Read) : Option CLI :=
  reads.foldlM (tick cfg env fuel) (init cfg env atInit)

end Tick

end SputterOS.ScheduledCommsTask
