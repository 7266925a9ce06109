import SputterOS.Foundation.OverwritingFifo
import SputterOS.Utils.LightweightStringBuilder
import Mathlib.Logic.Function.Basic

/-!
# The telemetry logger

Calls of `log`, `drain` and `clear` run on any tasks, and their steps interleave
in any order. Every call tries to lock the mutex without waiting, works on the
ring whether it has got the mutex or not, and unlocks it. The effects of the
calls, the written lines and who unlocked whose mutex are not read by the code.
-/

set_option autoImplicit false

namespace SputterOS.Telemetry
open Foundation.OverwritingFifo Utils

inductive Verbosity where
  | critical
  | status
  | info
  | debug
  deriving DecidableEq, Repr

def Verbosity.value : Verbosity → ℕ
  | .critical => 0
  | .status => 1
  | .info => 2
  | .debug => 3

inductive TaskID where
  | control
  | comms
  | diagnostics
  | system
  deriving DecidableEq, Repr

def taskName : TaskID → List UInt8
  | .control => [0x43, 0x6F, 0x6E, 0x74, 0x72, 0x6F, 0x6C, 0x54, 0x61, 0x73, 0x6B]
  | .comms => [0x43, 0x6F, 0x6D, 0x6D, 0x73, 0x54, 0x61, 0x73, 0x6B]
  | .diagnostics =>
    [0x44, 0x69, 0x61, 0x67, 0x6E, 0x6F, 0x73, 0x74, 0x69, 0x63, 0x73, 0x54, 0x61, 0x73, 0x6B]
  | .system => [0x53, 0x79, 0x73, 0x74, 0x65, 0x6D]

def kTextLen : ℕ := 64
def kCapacity : ℕ := 32

def sizeValues : ℕ := 2^64

structure Text where
  chars : List UInt8
  bound : chars.length < kTextLen
  deriving DecidableEq

def Text.copy (text : List UInt8) : Text where
  chars := (text.takeWhile (· ≠ 0)).take (kTextLen-1)
  bound := Nat.lt_succ_of_le (List.length_take_le _ _)

structure Entry where
  timestamp : UInt64
  task : TaskID
  level : Verbosity
  text : Text
  deriving DecidableEq

structure TelemetryLogger where
  buf : ℕ → Entry
  head : ℕ
  tail : ℕ
  count : ℕ
  verbosity : Verbosity

/-- What a ring's slots hold before anything is logged is never read. -/
def TelemetryLogger.new (verbosity : Verbosity) : TelemetryLogger :=
  ⟨fun _ => ⟨0, .control, .critical, .copy []⟩, 0, 0, 0, verbosity⟩

def TelemetryLogger.entries (m : TelemetryLogger) : List Entry :=
  (List.range m.count).map (fun i => m.buf ((m.tail+i) % kCapacity))

def format (timestamp : UInt64) (task : TaskID) (text : Text) : List UInt8 :=
  (LightweightStringBuilder.initial.clear
    |>.appendChar 0x5B
    |>.append (renderU32 (timestamp/1000).toUInt32)
    |>.appendChar 0x5D
    |>.appendChar 0x5B
    |>.append (taskName task)
    |>.appendChar 0x5D
    |>.appendChar 0x20
    |>.append text.chars
    |>.appendChar 0x0A).buf

inductive Log where
  | testCount
  | loadTail
  | storeTail (tail : ℕ)
  | loadCount
  | storeCount (count : ℕ)
  | loadSlot
  | writeTimestamp (slot : ℕ)
  | writeTask (slot : ℕ)
  | writeLevel (slot : ℕ)
  | writeText (slot : ℕ)
  | loadHead
  | storeHead (head : ℕ)
  deriving DecidableEq

def TelemetryLogger.write (m : TelemetryLogger) (slot : ℕ) (e : Entry) : TelemetryLogger :=
  { m with buf := Function.update m.buf slot e }

def logStep (e : Entry) : Log → TelemetryLogger → TelemetryLogger × Option Log
  | .testCount, m => (m, some (if m.count = kCapacity then .loadTail else .loadCount))
  | .loadTail, m => (m, some (.storeTail m.tail))
  | .storeTail tail, m => ({ m with tail := (tail+1) % kCapacity }, some .loadSlot)
  | .loadCount, m => (m, some (.storeCount m.count))
  | .storeCount count, m => ({ m with count := (count+1) % sizeValues }, some .loadSlot)
  | .loadSlot, m => (m, some (.writeTimestamp m.head))
  | .writeTimestamp slot, m =>
    (m.write slot { m.buf slot with timestamp := e.timestamp }, some (.writeTask slot))
  | .writeTask slot, m =>
    (m.write slot { m.buf slot with task := e.task }, some (.writeLevel slot))
  | .writeLevel slot, m =>
    (m.write slot { m.buf slot with level := e.level }, some (.writeText slot))
  | .writeText slot, m => (m.write slot { m.buf slot with text := e.text }, some .loadHead)
  | .loadHead, m => (m, some (.storeHead m.head))
  | .storeHead head, m => ({ m with head := (head+1) % kCapacity }, none)

inductive Drain where
  | testCount
  | loadSlot
  | loadTail (slot : ℕ)
  | storeTail (slot tail : ℕ)
  | loadCount (slot : ℕ)
  | storeCount (slot count : ℕ)
  | testLevel (slot : ℕ)
  | readTimestamp (slot : ℕ)
  | readTask (slot : ℕ) (timestamp : UInt64)
  | readText (slot : ℕ) (timestamp : UInt64) (task : TaskID)
  | writeLine (timestamp : UInt64) (task : TaskID) (text : Text)
  deriving DecidableEq

def drainStep : Drain → TelemetryLogger → TelemetryLogger × Option Drain
  | .testCount, m => (m, if 0 < m.count then some .loadSlot else none)
  | .loadSlot, m => (m, some (.loadTail m.tail))
  | .loadTail slot, m => (m, some (.storeTail slot m.tail))
  | .storeTail slot tail, m => ({ m with tail := (tail+1) % kCapacity }, some (.loadCount slot))
  | .loadCount slot, m => (m, some (.storeCount slot m.count))
  | .storeCount slot count, m =>
    ({ m with count := (count+sizeValues-1) % sizeValues }, some (.testLevel slot))
  | .testLevel slot, m =>
    (m, some (if m.verbosity.value < (m.buf slot).level.value then .testCount
      else .readTimestamp slot))
  | .readTimestamp slot, m => (m, some (.readTask slot (m.buf slot).timestamp))
  | .readTask slot timestamp, m => (m, some (.readText slot timestamp (m.buf slot).task))
  | .readText slot timestamp task, m => (m, some (.writeLine timestamp task (m.buf slot).text))
  | .writeLine _ _ _, m => (m, some .testCount)

inductive Clear where
  | storeHead
  | storeTail
  | storeCount
  deriving DecidableEq

def clearStep : Clear → TelemetryLogger → TelemetryLogger × Option Clear
  | .storeHead, m => ({ m with head := 0 }, some .storeTail)
  | .storeTail, m => ({ m with tail := 0 }, some .storeCount)
  | .storeCount, m => ({ m with count := 0 }, none)

inductive Body where
  | log (e : Entry) (place : Log)
  | drain (place : Drain)
  | clear (place : Clear)
  deriving DecidableEq

def bodyStep : Body → TelemetryLogger → TelemetryLogger × Option Body
  | .log e place, m => ((logStep e place m).1, (logStep e place m).2.map (Body.log e))
  | .drain place, m => ((drainStep place m).1, (drainStep place m).2.map Body.drain)
  | .clear place, m => ((clearStep place m).1, (clearStep place m).2.map Body.clear)

/-- A log and a clear take effect with their last steps, and a drain takes an entry
out with the store of the count. -/
def bodyEffect : Body → List (Operation Entry)
  | .log e (.storeHead _) => [.push e]
  | .drain (.storeCount _ _) => [.pop]
  | .clear .storeCount => [.clear]
  | _ => []

def bodyLine : Body → List (List UInt8)
  | .drain (.writeLine timestamp task text) => [format timestamp task text]
  | _ => []

inductive Call where
  | idle
  | lock (body : Body)
  | inside (body : Body)
  | unlock
  | returned
  deriving DecidableEq

structure Release where
  caller : ℕ
  owner : Option ℕ
  deriving DecidableEq

/-- Every call has a number of its own. -/
structure State where
  logger : TelemetryLogger
  owner : Option ℕ
  call : ℕ → Call
  releases : List Release
  effects : List (Operation Entry)
  written : List (List UInt8)

def boot (verbosity : Verbosity) : State :=
  ⟨.new verbosity, none, fun _ => .idle, [], [], []⟩

inductive Action where
  | log (k : ℕ) (task : TaskID) (text : List UInt8) (level : Verbosity) (timestamp : UInt64)
  | drain (k : ℕ) (writeFn : Bool)
  | clear (k : ℕ)
  | step (k : ℕ)

def State.goto (s : State) (k : ℕ) (call : Call) : State :=
  { s with call := Function.update s.call k call }

def State.enter (s : State) (k : ℕ) (call : Call) : State :=
  match s.call k with
  | .idle => s.goto k call
  | _ => s

/-- A conforming mutex is locked without waiting exactly if nobody owns it. The
calls go on in either case. -/
def stepCall (s : State) (k : ℕ) : State :=
  match s.call k with
  | .lock body => { s with owner := s.owner <|> some k }.goto k (.inside body)
  | .inside body =>
    { s with
      logger := (bodyStep body s.logger).1
      effects := s.effects ++ bodyEffect body
      written := s.written ++ bodyLine body }.goto k
        ((bodyStep body s.logger).2.elim .unlock .inside)
  | .unlock =>
    { s with
      owner := none
      releases := s.releases ++ [Release.mk k s.owner] }.goto k .returned
  | _ => s

def step (s : State) : Action → State
  | .log k task text level timestamp =>
    s.enter k (.lock (.log ⟨timestamp, task, level, .copy text⟩ .testCount))
  | .drain k writeFn => s.enter k (if writeFn then .lock (.drain .testCount) else .returned)
  | .clear k => s.enter k (.lock (.clear .storeHead))
  | .step k => stepCall s k

def Call.Inside : Call → Prop
  | .inside _ => True
  | .unlock => True
  | _ => False

def Entry.line (e : Entry) : List UInt8 :=
  [0x5B] ++ renderU32 (e.timestamp/1000).toUInt32 ++ [0x5D, 0x5B] ++ taskName e.task ++
    [0x5D, 0x20] ++ e.text.chars ++ [0x0A]

def lines (verbosity : Verbosity) (es : List Entry) : List (List UInt8) :=
  (es.filter (fun e => e.level.value ≤ verbosity.value)).map Entry.line

/-- The ring is the queue that overwrites its oldest entry, every entry logged is
in it or has left it once, and the lines written are those of what was drained. -/
structure Sound (s : State) : Prop where
  entries : s.logger.entries = (play kCapacity s.effects).held
  conserved : List.Perm (pushed s.effects) ((play kCapacity s.effects).delivered ++
    (play kCapacity s.effects).overwritten ++ (play kCapacity s.effects).cleared ++
    s.logger.entries)
  written : s.written = lines s.logger.verbosity (play kCapacity s.effects).delivered

structure Guarded (s : State) : Prop where
  exclusion : ∀ j k, (s.call j).Inside → (s.call k).Inside → j = k
  owned : ∀ r ∈ s.releases, r.owner = some r.caller
  sound : (∀ k, ¬ (s.call k).Inside) → Sound s

end SputterOS.Telemetry
