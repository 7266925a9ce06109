import Mathlib.Data.UInt
import Mathlib.Logic.Function.Basic

/-!
# Synchronization of the cores

Every core has one atomic word. The barriers and the queries read the words one
after the other, one read in a step, and any core may write between two reads.
-/

set_option autoImplicit false

namespace SputterOS.MultiCoreSync

inductive CoreState where
  | unborn
  | init
  | ready
  | error
  | shutdown
  deriving DecidableEq, Repr

def CoreState.value : CoreState → UInt8
  | .unborn => 0
  | .init => 1
  | .ready => 2
  | .error => 3
  | .shutdown => 4

/-- The words of the cores, and what an error handler was told if there is one. -/
structure Sync where
  states : ℕ → CoreState
  errorHandler : Bool
  coreErrors : List (ℕ × String)

def Sync.new (errorHandler : Bool) : Sync := ⟨fun _ => .unborn, errorHandler, []⟩

def Sync.store (m : Sync) (coreId : ℕ) (state : CoreState) : Sync :=
  { m with states := Function.update m.states coreId state }

def Sync.setInit (m : Sync) (coreId : ℕ) : Sync := m.store coreId .init

def Sync.setReady (m : Sync) (coreId : ℕ) : Sync := m.store coreId .ready

def Sync.setError (m : Sync) (coreId : ℕ) (reason : String) : Sync :=
  { m.store coreId .error with
    coreErrors := if m.errorHandler then m.coreErrors ++ [(coreId, reason)] else m.coreErrors }

def Sync.setShutdown (m : Sync) (coreId : ℕ) : Sync := m.store coreId .shutdown

inductive Scan where
  | load (i : ℕ)
  | result (answer : Bool)
  deriving DecidableEq, Repr

def anyErrorStep (n : ℕ) (m : Sync) (i : ℕ) : Scan :=
  if i < n then if m.states i = .error then .result true else .load (i+1) else .result false

def allInStateStep (n : ℕ) (target : CoreState) (m : Sync) (i : ℕ) : Scan :=
  if i < n then if m.states i ≠ target then .result false else .load (i+1) else .result true

def allTerminatedStep (n : ℕ) (m : Sync) (i : ℕ) : Scan :=
  if i < n then
    if m.states i ≠ .shutdown ∧ m.states i ≠ .error then .result false else .load (i+1)
  else .result true

/-- The turns of the busy loop for a delay, 125000 to the millisecond in a word of
32 bits. -/
def pollDelay (ms : UInt32) : UInt32 := ms*125000

/-- From 34360 ms on the product wraps. -/
example : pollDelay 34359 = 4294875000 ∧ pollDelay 34360 = 32704 := by decide

inductive StartupBarrier where
  | setReady
  | timeTest (elapsed : UInt32)
  | anyError (elapsed : UInt32) (i : ℕ)
  | allReady (elapsed : UInt32) (i : ℕ)
  | pollDelay (elapsed : UInt32)
  | peerError
  | timedOut
  | returned (result : Bool)
  deriving DecidableEq, Repr

def startupBarrierStep (n : ℕ) (timeoutMs pollIntervalMs : UInt32) (coreId : ℕ) (m : Sync) :
    StartupBarrier → Sync × StartupBarrier
  | .setReady => (m.setReady coreId, .timeTest 0)
  | .timeTest elapsed => (m, if elapsed < timeoutMs then .anyError elapsed 0 else .timedOut)
  | .anyError elapsed i =>
    match anyErrorStep n m i with
    | .load j => (m, .anyError elapsed j)
    | .result true => (m, .peerError)
    | .result false => (m, .allReady elapsed 0)
  | .allReady elapsed i =>
    match allInStateStep n .ready m i with
    | .load j => (m, .allReady elapsed j)
    | .result true => (m, .returned true)
    | .result false => (m, .pollDelay elapsed)
  | .pollDelay elapsed => (m, .timeTest (elapsed+pollIntervalMs))
  | .peerError =>
    (m.setError coreId "Peer entered ERROR during startup barrier", .returned false)
  | .timedOut => (m.setError coreId "Startup barrier timeout", .returned false)
  | .returned result => (m, .returned result)

inductive ShutdownBarrier where
  | setShutdown
  | timeTest (elapsed : UInt32)
  | allTerminated (elapsed : UInt32) (i : ℕ)
  | pollDelay (elapsed : UInt32)
  | returned (result : Bool)
  deriving DecidableEq, Repr

def shutdownBarrierStep (n : ℕ) (timeoutMs pollIntervalMs : UInt32) (coreId : ℕ) (m : Sync) :
    ShutdownBarrier → Sync × ShutdownBarrier
  | .setShutdown => (m.setShutdown coreId, .timeTest 0)
  | .timeTest elapsed =>
    (m, if elapsed < timeoutMs then .allTerminated elapsed 0 else .returned false)
  | .allTerminated elapsed i =>
    match allTerminatedStep n m i with
    | .load j => (m, .allTerminated elapsed j)
    | .result true => (m, .returned true)
    | .result false => (m, .pollDelay elapsed)
  | .pollDelay elapsed => (m, .timeTest (elapsed+pollIntervalMs))
  | .returned result => (m, .returned result)

inductive WaitForCore where
  | timeTest (elapsed : UInt32)
  | load (elapsed : UInt32)
  | pollDelay (elapsed : UInt32)
  | returned (result : Bool)
  deriving DecidableEq, Repr

def waitForCoreStep (peerId : ℕ) (target : CoreState) (timeoutMs pollIntervalMs : UInt32)
    (m : Sync) : WaitForCore → WaitForCore
  | .timeTest elapsed => if elapsed < timeoutMs then .load elapsed else .returned false
  | .load elapsed =>
    if (m.states peerId).value ≥ target.value then .returned true else .pollDelay elapsed
  | .pollDelay elapsed => .timeTest (elapsed+pollIntervalMs)
  | .returned result => .returned result

section Words

variable (m : Sync) (c : ℕ)

@[simp] theorem store_states (state : CoreState) :
    (m.store c state).states = Function.update m.states c state := rfl

@[simp] theorem setInit_states :
    (m.setInit c).states = Function.update m.states c .init := rfl

@[simp] theorem setReady_states :
    (m.setReady c).states = Function.update m.states c .ready := rfl

@[simp] theorem setError_states (reason : String) :
    (m.setError c reason).states = Function.update m.states c .error := rfl

@[simp] theorem setShutdown_states :
    (m.setShutdown c).states = Function.update m.states c .shutdown := rfl

end Words

section Steps

variable (n : ℕ) (timeoutMs pollIntervalMs : UInt32) (c : ℕ) (m : Sync)

inductive StartupMove : StartupBarrier → Sync → StartupBarrier → Prop where
  | arrive : StartupMove .setReady (m.setReady c) (.timeTest 0)
  | poll (elapsed : UInt32) : elapsed < timeoutMs →
      StartupMove (.timeTest elapsed) m (.anyError elapsed 0)
  | expire (elapsed : UInt32) : ¬ elapsed < timeoutMs → StartupMove (.timeTest elapsed) m .timedOut
  | seeError (elapsed : UInt32) (i : ℕ) : i < n → m.states i = .error →
      StartupMove (.anyError elapsed i) m .peerError
  | seeNoError (elapsed : UInt32) (i : ℕ) : i < n → m.states i ≠ .error →
      StartupMove (.anyError elapsed i) m (.anyError elapsed (i+1))
  | noError (elapsed : UInt32) (i : ℕ) : ¬ i < n →
      StartupMove (.anyError elapsed i) m (.allReady elapsed 0)
  | seeReady (elapsed : UInt32) (i : ℕ) : i < n → m.states i = .ready →
      StartupMove (.allReady elapsed i) m (.allReady elapsed (i+1))
  | seeNotReady (elapsed : UInt32) (i : ℕ) : i < n → m.states i ≠ .ready →
      StartupMove (.allReady elapsed i) m (.pollDelay elapsed)
  | pass (elapsed : UInt32) (i : ℕ) : ¬ i < n →
      StartupMove (.allReady elapsed i) m (.returned true)
  | delay (elapsed : UInt32) :
      StartupMove (.pollDelay elapsed) m (.timeTest (elapsed+pollIntervalMs))
  | follow : StartupMove .peerError
      (m.setError c "Peer entered ERROR during startup barrier") (.returned false)
  | fail : StartupMove .timedOut (m.setError c "Startup barrier timeout") (.returned false)
  | done (result : Bool) : StartupMove (.returned result) m (.returned result)

theorem startupBarrierStep_move (b : StartupBarrier) :
    StartupMove n timeoutMs pollIntervalMs c m b
      (startupBarrierStep n timeoutMs pollIntervalMs c m b).1
      (startupBarrierStep n timeoutMs pollIntervalMs c m b).2 := by
  cases b with
  | setReady => exact .arrive
  | timeTest elapsed =>
    by_cases h : elapsed < timeoutMs
    · simpa [startupBarrierStep, h] using StartupMove.poll elapsed h
    · simpa [startupBarrierStep, h] using StartupMove.expire elapsed h
  | anyError elapsed i =>
    by_cases hi : i < n
    · by_cases he : m.states i = .error
      · simpa [startupBarrierStep, anyErrorStep, hi, he] using StartupMove.seeError elapsed i hi he
      · simpa [startupBarrierStep, anyErrorStep, hi, he] using
          StartupMove.seeNoError elapsed i hi he
    · simpa [startupBarrierStep, anyErrorStep, hi] using StartupMove.noError elapsed i hi
  | allReady elapsed i =>
    by_cases hi : i < n
    · by_cases hr : m.states i = .ready
      · simpa [startupBarrierStep, allInStateStep, hi, hr] using
          StartupMove.seeReady elapsed i hi hr
      · simpa [startupBarrierStep, allInStateStep, hi, hr] using
          StartupMove.seeNotReady elapsed i hi hr
    · simpa [startupBarrierStep, allInStateStep, hi] using StartupMove.pass elapsed i hi
  | pollDelay elapsed => exact .delay elapsed
  | peerError => exact .follow
  | timedOut => exact .fail
  | returned result => exact .done result

theorem shutdownBarrierStep_states (b : ShutdownBarrier) :
    (shutdownBarrierStep n timeoutMs pollIntervalMs c m b).1.states = m.states ∨
      (shutdownBarrierStep n timeoutMs pollIntervalMs c m b).1.states =
        Function.update m.states c .shutdown := by
  cases b with
  | setShutdown => exact Or.inr rfl
  | allTerminated elapsed i =>
    left
    simp only [shutdownBarrierStep]
    split <;> rfl
  | _ => exact Or.inl rfl

end Steps

end SputterOS.MultiCoreSync
