import SputterOS.Foundation.BoundedFifo
import SputterOS.Foundation.OverwritingFifo
import SputterOS.Foundation.Transition

/-!
# The error logger

A task logs and reads entries of a ring, and an interrupt may come between any
two steps and log an entry of its own before the interrupted call goes on. The
effects of the calls, in an order that respects their times, and the entries
logged and returned are not read by the code.
-/

set_option autoImplicit false

namespace SputterOS.ErrorLog
open Foundation.OverwritingFifo

inductive ErrorCode where
  | stateTransition
  | interlockTrip
  | softAbort
  | hardFault
  | arcDetected
  | sensorError
  | watchdogKick
  | timerRollover
  | invalidState
  | crunchOverrun
  | deadlineMiss
  deriving DecidableEq, Repr

/-- `value` is the bit pattern of the source's number. -/
structure Entry where
  code : ErrorCode
  timestamp : UInt64
  value : UInt32
  deriving DecidableEq, Repr

def kCapacity : ℕ := 32
def kSlots : ℕ := kCapacity+1

structure ErrorLogger where
  buf : ℕ → Entry
  head : ℕ
  tail : ℕ

/-- What a ring's slots hold before anything is logged is never read. -/
def ErrorLogger.new : ErrorLogger := ⟨fun _ => ⟨.stateTransition, 0, 0⟩, 0, 0⟩

def ErrorLogger.count (m : ErrorLogger) : ℕ :=
  if m.head ≥ m.tail then m.head-m.tail else kSlots-m.tail+m.head

def ErrorLogger.clear (m : ErrorLogger) : ErrorLogger := { m with tail := m.head }

def ErrorLogger.entriesFrom (m : ErrorLogger) : ℕ → ℕ → List Entry
  | 0, _ => []
  | slots+1, tail =>
    if tail = m.head then []
    else m.buf tail :: m.entriesFrom slots ((tail+1) % kSlots)

def ErrorLogger.entries (m : ErrorLogger) : List Entry := m.entriesFrom kSlots m.tail

inductive Log where
  | loadHead
  | testFull (head : ℕ)
  | loadTail (head : ℕ)
  | exchange (head expected : ℕ)
  | writeCode (head : ℕ)
  | writeTimestamp (head : ℕ)
  | writeValue (head : ℕ)
  | storeHead (head : ℕ)
  deriving DecidableEq

def ErrorLogger.write (m : ErrorLogger) (slot : ℕ) (e : Entry) : ErrorLogger :=
  { m with buf := Function.update m.buf slot e }

def logStep (e : Entry) : Log → ErrorLogger → ErrorLogger × Option Log
  | .loadHead, m => (m, some (.testFull m.head))
  | .testFull head, m =>
    (m, some (if (head+1) % kSlots = m.tail then .loadTail head else .writeCode head))
  | .loadTail head, m => (m, some (.exchange head m.tail))
  | .exchange head expected, m =>
    (if m.tail = expected then { m with tail := (expected+1) % kSlots } else m,
      some (.writeCode head))
  | .writeCode head, m =>
    (m.write head { m.buf head with code := e.code }, some (.writeTimestamp head))
  | .writeTimestamp head, m =>
    (m.write head { m.buf head with timestamp := e.timestamp }, some (.writeValue head))
  | .writeValue head, m =>
    (m.write head { m.buf head with value := e.value }, some (.storeHead head))
  | .storeHead head, m => ({ m with head := (head+1) % kSlots }, none)

inductive Read where
  | loadTail
  | loadHead (tail : ℕ)
  | copyCode (tail : ℕ)
  | copyTimestamp (tail : ℕ) (code : ErrorCode)
  | copyValue (tail : ℕ) (code : ErrorCode) (timestamp : UInt64)
  | storeTail (tail : ℕ) (entry : Entry)
  deriving DecidableEq

inductive ReadResult where
  | next (place : Read)
  | returned (entry : Option Entry)
  deriving DecidableEq

def readStep : Read → ErrorLogger → ErrorLogger × ReadResult
  | .loadTail, m => (m, .next (.loadHead m.tail))
  | .loadHead tail, m =>
    (m, if tail = m.head then .returned none else .next (.copyCode tail))
  | .copyCode tail, m => (m, .next (.copyTimestamp tail (m.buf tail).code))
  | .copyTimestamp tail code, m => (m, .next (.copyValue tail code (m.buf tail).timestamp))
  | .copyValue tail code timestamp, m =>
    (m, .next (.storeTail tail ⟨code, timestamp, (m.buf tail).value⟩))
  | .storeTail tail entry, m => ({ m with tail := (tail+1) % kSlots }, .returned (some entry))

inductive Call where
  | log (e : Entry) (place : Log)
  | read (place : Read)
  deriving DecidableEq

/-- The calls that have not returned: the running one, then those it interrupts,
each before the one it has interrupted itself. -/
structure State where
  logger : ErrorLogger
  calls : List Call
  logged : List Entry
  effects : List (Operation Entry)
  returned : List Entry

def boot : State := ⟨.new, [], [], [], []⟩

inductive Action where
  | log (e : Entry)
  | read
  | interrupt (e : Entry)
  | step

def logEffect (e : Entry) : Option Log → List (Operation Entry)
  | none => [.push e]
  | some _ => []

/-- A read takes effect when it has found the ring not empty. -/
def readEffect : ReadResult → List (Operation Entry)
  | .next (.copyCode _) => [.pop]
  | _ => []

def ReadResult.calls : ReadResult → List Call
  | .next place => [.read place]
  | .returned _ => []

def ReadResult.entry : ReadResult → Option Entry
  | .next _ => none
  | .returned entry => entry

def stepCall (s : State) (rest : List Call) : Call → State
  | .log e place =>
    { s with
      logger := (logStep e place s.logger).1
      calls := ((logStep e place s.logger).2.map (Call.log e)).toList ++ rest
      effects := s.effects ++ logEffect e (logStep e place s.logger).2 }
  | .read place =>
    { s with
      logger := (readStep place s.logger).1
      calls := (readStep place s.logger).2.calls ++ rest
      effects := s.effects ++ readEffect (readStep place s.logger).2
      returned := s.returned ++ (readStep place s.logger).2.entry.toList }

/-- The task calls `log` or `read` while nothing runs, and an interrupt logs at
any time. Only the innermost call takes steps. -/
def step (s : State) : Action → State
  | .log e =>
    match s.calls with
    | [] => { s with calls := [.log e .loadHead], logged := s.logged ++ [e] }
    | _ => s
  | .read =>
    match s.calls with
    | [] => { s with calls := [.read .loadTail] }
    | _ => s
  | .interrupt e =>
    { s with calls := .log e .loadHead :: s.calls, logged := s.logged ++ [e] }
  | .step =>
    match s.calls with
    | [] => s
    | call::rest => stepCall s rest call

end SputterOS.ErrorLog
