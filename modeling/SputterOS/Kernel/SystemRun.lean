import SputterOS.Builder.BackgroundCore
import SputterOS.Kernel.CrunchDispatcher
import Mathlib.Logic.Function.Basic

/-!
# Running the cores of a system

Every core calls `run` with its own number and the steps of the cores
interleave. The barriers have a time limit, so a core passes them at any
moment. There is one crunch dispatcher for all cores.
-/

set_option autoImplicit false

namespace SputterOS.SystemRun
open SputterOS.Kernel SputterOS.Builder SputterOS.CrunchDispatcher Foundation.Transition

inductive CorePc where
  | setInit
  | initCheck
  | beginInit
  | initTasks
  | initCrunchTask
  | endInit
  | markInit
  | startupBarrier
  | dispatch
  | configureTask (task : ℕ)
  | configureKick
  | crunch (loop : Loop ℕ)
  | flatKernelTest
  | flatStopTest (i : ℕ)
  | tick
  | shutdownRunning
  | shutdownShuttingDown
  | shutdownBarrier
  | returned
  deriving DecidableEq, Repr

inductive Call where
  | init (task : ℕ)
  | dispatcher (event : Event ℕ)
  deriving DecidableEq

def Call.task : Call → Option ℕ
  | .init task => some task
  | .dispatcher (.crunchBegin task _) => some task
  | .dispatcher (.crunchEnd task) => some task
  | .dispatcher (.maxIterationUs task _) => some task
  | .dispatcher (.onCrunchAbort task _) => some task
  | .dispatcher _ => none

structure State where
  shared : Shared
  crunchDispatcher : Dispatcher ℕ
  coreInitialized : ℕ → Bool
  core : ℕ → CorePc
  calls : List (ℕ × Call)

def boot (sys : System) (stopConditions : List Bool) (micros : UInt64) : State :=
  ⟨⟨false, sys.kernelState, stopConditions, micros⟩, .idle, fun _ => false, fun _ => .setInit, []⟩

def State.goto (s : State) (c : ℕ) (pc : CorePc) : State :=
  { s with core := Function.update s.core c pc }

def afterLoop : Loop ℕ → CorePc
  | .returned _ => .shutdownRunning
  | loop => .crunch loop

def stepCore (crunchMaxOverruns : UInt32) (maxIterationUs : ℕ → UInt64) (sys : System) (s : State)
    (c : ℕ) : State :=
  match s.core c with
  | .setInit => s.goto c .initCheck
  | .initCheck => if s.coreInitialized c then s.goto c .startupBarrier else s.goto c .beginInit
  | .beginInit =>
    { s with shared := s.shared.advance .configured .initializing }.goto c .initTasks
  | .initTasks => s.goto c .initCrunchTask
  | .initCrunchTask =>
    match (sys.cores c).mode, (sys.cores c).crunchTask with
    | .crunch, some task => { s with calls := s.calls ++ [(c, Call.init task)] }.goto c .endInit
    | _, _ => s.goto c .endInit
  | .endInit => { s with shared := s.shared.advance .initializing .running }.goto c .markInit
  | .markInit =>
    { s with coreInitialized := Function.update s.coreInitialized c true }.goto c .startupBarrier
  | .startupBarrier => s.goto c .dispatch
  | .dispatch =>
    match (sys.cores c).mode, (sys.cores c).crunchTask with
    | .crunch, some task => s.goto c (.configureTask task)
    | _, _ => s.goto c .flatKernelTest
  | .configureTask task =>
    { s with crunchDispatcher := { s.crunchDispatcher with task := some task } }.goto c
      .configureKick
  | .configureKick =>
    { s with
      crunchDispatcher := { s.crunchDispatcher with watchdogKick := sys.watchdogKickFn } }.goto c
      (.crunch .resetCounters)
  | .crunch loop =>
    let r := loopStep crunchMaxOverruns maxIterationUs c s.shared s.crunchDispatcher loop
    { s with
      crunchDispatcher := r.1
      calls := s.calls ++ r.2.2.map (fun e => (c, Call.dispatcher e)) }.goto c (afterLoop r.2.1)
  | .flatKernelTest =>
    if isActiveState s.shared.kernelState then s.goto c (.flatStopTest 0)
    else s.goto c .shutdownRunning
  | .flatStopTest i =>
    match s.shared.stopConditions[i]? with
    | none => s.goto c .tick
    | some false => s.goto c (.flatStopTest (i+1))
    | some true => s.goto c .shutdownRunning
  | .tick => s.goto c .flatKernelTest
  | .shutdownRunning =>
    { s with shared := s.shared.advance .running .shuttingDown }.goto c .shutdownShuttingDown
  | .shutdownShuttingDown =>
    { s with shared := s.shared.advance .shuttingDown .shutdown }.goto c .shutdownBarrier
  | .shutdownBarrier => s.goto c .returned
  | .returned => s

inductive Action where
  | core (c : ℕ)
  | external (e : External)

/-- A core number beyond the configured ones returns at once. -/
def step (cfg : Config) (crunchMaxOverruns : UInt32) (maxIterationUs : ℕ → UInt64) (sys : System)
    (s : State) : Action → State
  | .core c => if c < cfg.kCoreCount then stepCore crunchMaxOverruns maxIterationUs sys s c else s
  | .external e => { s with shared := s.shared.external e }

def InLoop : CorePc → Prop
  | .crunch _ => True
  | _ => False

def State.counters (s : State) : UInt32 × UInt32 :=
  (s.crunchDispatcher.consecutiveOverruns, s.crunchDispatcher.totalOverruns)

/-- Every call to a crunch task comes from the core that task is registered on. -/
def CallsOwn (sys : System) (s : State) : Prop :=
  ∀ c call task, (c, call) ∈ s.calls → call.task = some task → (sys.cores c).crunchTask = some task

/-- No step of one core changes the counters another core is looping on. -/
def CountersOwn (cfg : Config) (crunchMaxOverruns : UInt32) (maxIterationUs : ℕ → UInt64)
    (sys : System) (s : State) : Prop :=
  ∀ c d, c ≠ d → InLoop (s.core d) →
    (step cfg crunchMaxOverruns maxIterationUs sys s (.core c)).counters = s.counters

def Isolated (cfg : Config) (crunchMaxOverruns : UInt32) (maxIterationUs : ℕ → UInt64)
    (sys : System) (s : State) : Prop :=
  CallsOwn sys s ∧ CountersOwn cfg crunchMaxOverruns maxIterationUs sys s

end SputterOS.SystemRun
