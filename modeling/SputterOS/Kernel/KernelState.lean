import Mathlib.Data.List.Basic
import Mathlib.Data.UInt

/-!
# The lifecycle state and what every core reads of it

The abort flag, the lifecycle state, the registered stop conditions and the
clock are shared. Other cores and the platform change them between any two
steps of a core.
-/

set_option autoImplicit false

namespace SputterOS.Kernel

inductive KernelState where
  | unconfigured
  | configured
  | initializing
  | running
  | suspending
  | suspended
  | aborting
  | aborted
  | shuttingDown
  | shutdown
  deriving DecidableEq, Repr

def isActiveState : KernelState → Bool
  | .running => true
  | .suspending => true
  | .suspended => true
  | _ => false

def validTransition : KernelState → KernelState → Bool
  | .unconfigured, target => target = .configured
  | .configured, target => target = .initializing
  | .initializing, target => target = .running
  | .running, target => target = .suspending || target = .aborting || target = .shuttingDown
  | .suspending, target => target = .suspended
  | .suspended, target => target = .running || target = .shuttingDown
  | .aborting, target => target = .aborted
  | .aborted, target => target = .running || target = .shuttingDown
  | .shuttingDown, target => target = .shutdown
  | .shutdown, _ => false

/-- An invalid transition leaves the state. -/
def transitionTo (state target : KernelState) : KernelState :=
  if validTransition state target then target else state

/-- Shared state, with the current answer of every registered stop condition. -/
structure Shared where
  safetyAbort : Bool
  kernelState : KernelState
  stopConditions : List Bool
  micros : UInt64
  deriving DecidableEq, Repr

inductive External where
  | signalSafetyAbort
  | clearSafetyAbort
  | setKernelState (state : KernelState)
  | setStopCondition (i : ℕ) (fires : Bool)
  | setMicros (micros : UInt64)
  deriving DecidableEq, Repr

def Shared.external (v : Shared) : External → Shared
  | .signalSafetyAbort => { v with safetyAbort := true }
  | .clearSafetyAbort => { v with safetyAbort := false }
  | .setKernelState state => { v with kernelState := state }
  | .setStopCondition i fires => { v with stopConditions := v.stopConditions.set i fires }
  | .setMicros micros => { v with micros := micros }

/-- A transition made only from the expected state. -/
def Shared.advance (v : Shared) (expected target : KernelState) : Shared :=
  if v.kernelState = expected then
    { v with kernelState := transitionTo v.kernelState target }
  else v

theorem safetyAbort_external (v : Shared) (e : External) (h : v.safetyAbort = true)
    (he : e ≠ .clearSafetyAbort) : (v.external e).safetyAbort = true := by
  cases e <;> first | exact h | rfl | contradiction

end SputterOS.Kernel
