import SputterOS.Comms.CommandLine

/-!
# What a byte stream says

A receiver reads the stream byte by byte and reports the commands, handshakes
and exits it completes. It keeps no command: what it reports does not depend
on how the stream is cut into reads. This is the meaning of the stream to which
the command line is compared.
-/

set_option autoImplicit false

namespace SputterOS.ReceivedStream
open SputterOS.FrameCodec SputterOS.ProtocolRouter SputterOS.Logic SputterOS.CommandLine
  Foundation.Transition

structure Received where
  seqNum : Option UInt8
  command : Command
  deriving DecidableEq, Repr

inductive Reception where
  | command (received : Received)
  | handshake
  | exit
  deriving DecidableEq, Repr

def Reception.received : Reception → Option Received
  | .command received => some received
  | .handshake => none
  | .exit => none

/-- `line` is the text since the last terminator, `probe` the bytes since a
zero, if a probe is running. -/
structure Receiver where
  mode : CommsMode
  line : List UInt8
  probe : Option (List UInt8)
  decoder : FrameDecoder
  deriving DecidableEq, Repr

def initial : Receiver := { mode := .text, line := [], probe := none, decoder := .initial }

variable (cfg : Cfg) (MaxPayload : ℕ)

def receiveText (r : Receiver) (b : UInt8) : Option Reception × Receiver :=
  let fed := CommandParser.feedByte cfg { CommandParser.initial with buf := r.line } b
  (if fed.1 then some (.command ⟨none, fed.2.pending⟩) else none, { r with line := fed.2.buf })

def receiveProbed (r : Receiver) (b : UInt8) : Option Reception × Receiver :=
  if b = kFrameDelimiter then
    if r.probe.any (isHandshake MaxPayload) then
      (some .handshake, { r with mode := .framed, probe := none, decoder := .initial })
    else (none, { r with probe := some [] })
  else if r.probe = none then receiveText cfg r b
  else if (r.probe.getD []).length < kMaxProbeSize then
    (none, { r with probe := some (r.probe.getD [] ++ [b]) })
  else receiveText cfg { r with probe := none } b

def receiveFramed (r : Receiver) (b : UInt8) : Option Reception × Receiver :=
  let fed := r.decoder.feedByte MaxPayload b
  let r := { r with decoder := fed.2 }
  if fed.1 = .frameReady then
    if fed.2.msgType = .command ∧ fed.2.payload.length = kCommandPayloadSize then
      (some (.command ⟨some fed.2.seqNum, readCommand fed.2.payload⟩), r)
    else if fed.2.msgType = .exitHandshake then (some .exit, { r with mode := .text, line := [] })
    else (none, r)
  else (none, r)

def receive (r : Receiver) (b : UInt8) : Option Reception × Receiver :=
  if r.mode = .text then receiveProbed cfg MaxPayload r b else receiveFramed MaxPayload r b

def after (r : Receiver) (bs : List UInt8) : Receiver :=
  run (fun r b => (receive cfg MaxPayload r b).2) r bs

def receptions : Receiver → List UInt8 → List (Option Reception)
  | _, [] => []
  | r, b::bs => (receive cfg MaxPayload r b).1 :: receptions (receive cfg MaxPayload r b).2 bs

def commands (es : List (Option Reception)) : List Received :=
  es.filterMap fun e => e.bind Reception.received

theorem receptions_append (r : Receiver) (xs ys : List UInt8) :
    receptions cfg MaxPayload r (xs ++ ys) =
      receptions cfg MaxPayload r xs ++
        receptions cfg MaxPayload (after cfg MaxPayload r xs) ys := by
  induction xs generalizing r with
  | nil => rfl
  | cons x xs ih =>
    have hx : after cfg MaxPayload r (x::xs) =
        after cfg MaxPayload (receive cfg MaxPayload r x).2 xs := rfl
    simp only [List.cons_append, receptions, ih, hx]

theorem commands_append (es fs : List (Option Reception)) :
    commands (es ++ fs) = commands es ++ commands fs :=
  List.filterMap_append

theorem isHandshake_nil : isHandshake MaxPayload [] = false := by
  simp [isHandshake, FrameDecoder.feed, feedByte_delimiter, FrameDecoder.initial, kFrameDelimiter]

end SputterOS.ReceivedStream
