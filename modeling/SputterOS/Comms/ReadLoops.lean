import SputterOS.Comms.ReceivedStream

/-!
# The loops of a read

A read enters the loop of the current mode. A handshake hands the rest of its
read to the framed loop, but a frame that leaves FRAMED mode does not hand it
back: the loop a byte is processed in and the mode of the command line differ
from there to the end of the read.
-/

set_option autoImplicit false

namespace SputterOS.ReadLoops
open SputterOS.FrameCodec SputterOS.ProtocolRouter SputterOS.Logic SputterOS.CommandLine
  SputterOS.ReceivedStream Foundation.Transition

structure Loop where
  mode : CommsMode
  cli : CLI

structure Step where
  loop : CommsMode
  completed : Option Reception
  effects : List Effect
  mode : CommsMode

def view (c : CLI) : Receiver :=
  { mode := c.mode, line := c.parser.buf, decoder := c.frameDecoder
    probe := if c.probeActive then some c.probeBuf else none }

namespace Loop

def enter (c : CLI) : Loop := { mode := c.mode, cli := c }

variable (cfg : Cfg) (MaxPayload : ℕ) (handler : IProtocolHandler CLI)

def step (s : Loop) (b : UInt8) : Loop :=
  if s.mode = .text then
    let done := s.cli.processTextByte cfg MaxPayload handler b
    { mode := if done.1 then .framed else .text, cli := done.2 }
  else { mode := .framed, cli := s.cli.processFramedByte MaxPayload handler b }

def completed (s : Loop) (b : UInt8) : Option Reception :=
  (receive cfg MaxPayload { view s.cli with mode := s.mode } b).1

def observe (s : Loop) (b : UInt8) : Step :=
  let s' := s.step cfg MaxPayload handler b
  { loop := s.mode, completed := s.completed cfg MaxPayload b, mode := s'.cli.mode
    effects := s'.cli.history.drop s.cli.history.length }

def steps : Loop → List UInt8 → List Step
  | _, [] => []
  | s, b::bs => s.observe cfg MaxPayload handler b ::
      steps (s.step cfg MaxPayload handler b) bs

def after (s : Loop) (bs : List UInt8) : Loop := run (step cfg MaxPayload handler) s bs

end Loop

section Reads

variable (cfg : Cfg) (MaxPayload : ℕ) (handler : IProtocolHandler CLI)

theorem framed_after (c : CLI) (bs : List UInt8) :
    (Loop.mk .framed c).after cfg MaxPayload handler bs =
      ⟨.framed, c.processFramedBytes MaxPayload handler bs⟩ := by
  induction bs generalizing c with
  | nil => rfl
  | cons b bs ih => exact ih (c.processFramedByte MaxPayload handler b)

theorem text_after (c : CLI) (bs : List UInt8) :
    ((Loop.mk .text c).after cfg MaxPayload handler bs).cli =
      c.processTextBytes cfg MaxPayload handler bs := by
  induction bs generalizing c with
  | nil => rfl
  | cons b bs ih =>
    have hstep : (Loop.mk .text c).after cfg MaxPayload handler (b::bs) =
        (Loop.mk (if (c.processTextByte cfg MaxPayload handler b).1 then .framed else .text)
          (c.processTextByte cfg MaxPayload handler b).2).after cfg MaxPayload handler bs := rfl
    rw [hstep, CLI.processTextBytes]
    by_cases hd : (c.processTextByte cfg MaxPayload handler b).1
    · simp only [hd, if_true]
      rw [framed_after]
    · simp only [hd, Bool.false_eq_true, if_false]
      exact ih _

/-- A tick of the command line is a run of the loop its read enters. -/
theorem tick_eq (c : CLI) (read : Read) :
    c.tick cfg MaxPayload handler read =
      ((Loop.enter c).after cfg MaxPayload handler read.bytes).cli := by
  unfold CLI.tick Loop.enter
  cases hm : c.mode with
  | text => exact (text_after cfg MaxPayload handler c read.bytes).symm
  | framed =>
    rw [framed_after]
    rfl

end Reads

end SputterOS.ReadLoops
