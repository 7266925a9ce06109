import SputterOS.Builder.BackgroundCore
import SputterOS.Kernel.CrunchDispatcher
import SputterOS.Osal.MultiCoreSync

/-!
# The run of a core in single steps

A core reads the lifecycle state in one step and makes its transition in
another, and every call of a task takes as long as it takes. What a core did is
recorded in the order of all cores. The result of the startup barrier is
recorded too, and `run` does not look at it.
-/

set_option autoImplicit false

namespace SputterOS.CoreRun
open SputterOS.Kernel SputterOS.Builder SputterOS.CrunchDispatcher SputterOS.MultiCoreSync
  Foundation.Transition

/-- The interface of a synchronization. A barrier is called with the time limit
and the poll interval, and is stepped until it has a result. -/
structure SyncType (ω β γ : Type*) where
  setInit : ω → ℕ → ω
  startupCall : β
  startupBarrier : UInt32 → UInt32 → ℕ → ω → β → ω × β
  startupResult : β → Option Bool
  shutdownCall : γ
  shutdownBarrier : UInt32 → UInt32 → ℕ → ω → γ → ω × γ
  shutdownResult : γ → Option Bool

def startupResult : StartupBarrier → Option Bool
  | .returned result => some result
  | _ => none

def shutdownResult : ShutdownBarrier → Option Bool
  | .returned result => some result
  | _ => none

def multiCoreSync (n : ℕ) : SyncType Sync StartupBarrier ShutdownBarrier where
  setInit := Sync.setInit
  startupCall := .setReady
  startupBarrier := startupBarrierStep n
  startupResult := startupResult
  shutdownCall := .setShutdown
  shutdownBarrier := shutdownBarrierStep n
  shutdownResult := shutdownResult

def noOpMultiCoreSync : SyncType Sync StartupBarrier ShutdownBarrier where
  setInit m _ := m
  startupCall := .returned true
  startupBarrier _ _ _ m b := (m, b)
  startupResult := startupResult
  shutdownCall := .returned true
  shutdownBarrier _ _ _ m b := (m, b)
  shutdownResult := shutdownResult

def syncType (cfg : Config) : SyncType Sync StartupBarrier ShutdownBarrier :=
  if cfg.kCoreCount ≥ 2 then multiCoreSync cfg.kCoreCount else noOpMultiCoreSync

inductive InitCall where
  | task (task : TaskPtr)
  | crunchTask (task : ℕ)
  | backgroundTask (task : BackgroundPtr)
  deriving DecidableEq, Repr

def initCalls (sys : System) (c : ℕ) : List InitCall :=
  (sys.cores c).tasks.map InitCall.task ++
    (if (sys.cores c).mode = .crunch then (sys.cores c).crunchTask.toList.map InitCall.crunchTask
      else []) ++
    if c = sys.backgroundCoreId then sys.backgroundTasks.map InitCall.backgroundTask else []

inductive CorePc (β γ : Type*) where
  | setInit
  | initCheck
  | configuredTest
  | toInitializing
  | init (k : ℕ)
  | inInit (k : ℕ) (call : InitCall)
  | initializingTest
  | toRunning
  | markInit
  | startupBarrier (b : β)
  | dispatch
  | configureTask (task : ℕ)
  | configureKick
  | crunch (loop : Loop ℕ)
  | kernelTest
  | stopTest (i : ℕ)
  | tick
  | inTick
  | runningTest
  | toShuttingDown
  | shuttingDownTest
  | toShutdown
  | shutdownBarrier (b : γ)
  | returned
  deriving DecidableEq

inductive Event where
  | entered (state : KernelState)
  | invalidState (target : KernelState)
  | initBegin (call : InitCall)
  | initEnd (call : InitCall)
  | startupBarrier (result : Bool)
  | tickBegin (now : UInt64)
  | tickEnd
  | dispatcher (event : CrunchDispatcher.Event ℕ)
  | shutdownBarrier (result : Bool)
  deriving DecidableEq

def Event.isStart : Event → Bool
  | .tickBegin _ => true
  | .dispatcher event => event.isCrunchBegin
  | _ => false

def Event.state : Event → Option KernelState
  | .entered state => some state
  | _ => none

structure Turn (ω β γ : Type*) where
  shared : Shared
  sync : ω
  crunchDispatcher : Dispatcher ℕ
  coreInitialized : Bool
  pc : CorePc β γ
  events : List Event

section Turns

variable {ω β γ : Type*}

/-- The whole of `transitionTo` is one step. -/
def Turn.transitionTo (t : Turn ω β γ) (target : KernelState) (pc : CorePc β γ) : Turn ω β γ :=
  if validTransition t.shared.kernelState target then
    { t with
      shared := { t.shared with kernelState := target }
      pc := pc
      events := [.entered target] }
  else
    { t with
      pc := pc
      events := [.invalidState target] }

def afterLoop : Loop ℕ → CorePc β γ
  | .returned _ => .runningTest
  | loop => .crunch loop

def coreStep (crunchMaxOverruns : UInt32) (maxIterationUs : ℕ → UInt64) (sync : SyncType ω β γ)
    (sys : System) (c : ℕ) (t : Turn ω β γ) : Turn ω β γ :=
  match t.pc with
  | .setInit =>
    { t with
      sync := sync.setInit t.sync c
      pc := .initCheck }
  | .initCheck =>
    { t with pc := if t.coreInitialized then .startupBarrier sync.startupCall else .configuredTest }
  | .configuredTest =>
    { t with pc := if t.shared.kernelState = .configured then .toInitializing else .init 0 }
  | .toInitializing => t.transitionTo .initializing (.init 0)
  | .init k =>
    match (initCalls sys c)[k]? with
    | some call =>
      { t with
        pc := .inInit k call
        events := [.initBegin call] }
    | none => { t with pc := .initializingTest }
  | .inInit k call =>
    { t with
      pc := .init (k+1)
      events := [.initEnd call] }
  | .initializingTest =>
    { t with pc := if t.shared.kernelState = .initializing then .toRunning else .markInit }
  | .toRunning => t.transitionTo .running .markInit
  | .markInit =>
    { t with
      coreInitialized := true
      pc := .startupBarrier sync.startupCall }
  | .startupBarrier b =>
    match sync.startupResult b with
    | some result =>
      { t with
        pc := .dispatch
        events := [.startupBarrier result] }
    | none =>
      let r := sync.startupBarrier 2000 1 c t.sync b
      { t with
        sync := r.1
        pc := .startupBarrier r.2 }
  | .dispatch =>
    match (sys.cores c).mode, (sys.cores c).crunchTask with
    | .crunch, some task => { t with pc := .configureTask task }
    | _, _ => { t with pc := .kernelTest }
  | .configureTask task =>
    { t with
      crunchDispatcher := { t.crunchDispatcher with task := some task }
      pc := .configureKick }
  | .configureKick =>
    { t with
      crunchDispatcher := { t.crunchDispatcher with watchdogKick := sys.watchdogKickFn }
      pc := .crunch .resetCounters }
  | .crunch loop =>
    let r := loopStep crunchMaxOverruns maxIterationUs c t.shared t.crunchDispatcher loop
    { t with
      crunchDispatcher := r.1
      pc := afterLoop r.2.1
      events := r.2.2.map Event.dispatcher }
  | .kernelTest =>
    { t with pc := if isActiveState t.shared.kernelState then .stopTest 0 else .runningTest }
  | .stopTest i =>
    match t.shared.stopConditions[i]? with
    | none => { t with pc := .tick }
    | some false => { t with pc := .stopTest (i+1) }
    | some true => { t with pc := .runningTest }
  | .tick =>
    { t with
      pc := .inTick
      events := [.tickBegin t.shared.micros] }
  | .inTick =>
    { t with
      pc := .kernelTest
      events := [.tickEnd] }
  | .runningTest =>
    { t with
      pc := if t.shared.kernelState = .running then .toShuttingDown else .shuttingDownTest }
  | .toShuttingDown => t.transitionTo .shuttingDown .shuttingDownTest
  | .shuttingDownTest =>
    { t with
      pc :=
        if t.shared.kernelState = .shuttingDown then .toShutdown
        else .shutdownBarrier sync.shutdownCall }
  | .toShutdown => t.transitionTo .shutdown (.shutdownBarrier sync.shutdownCall)
  | .shutdownBarrier b =>
    match sync.shutdownResult b with
    | some result =>
      { t with
        pc := .returned
        events := [.shutdownBarrier result] }
    | none =>
      let r := sync.shutdownBarrier 2000 1 c t.sync b
      { t with
        sync := r.1
        pc := .shutdownBarrier r.2 }
  | .returned => t

end Turns

structure State (ω β γ : Type*) where
  shared : Shared
  sync : ω
  crunchDispatcher : Dispatcher ℕ
  coreInitialized : ℕ → Bool
  core : ℕ → CorePc β γ
  events : List (ℕ × Event)

/-- What changes from outside. Only the cores write the lifecycle state. -/
inductive Input where
  | signalSafetyAbort
  | clearSafetyAbort
  | setStopCondition (i : ℕ) (fires : Bool)
  | setMicros (micros : UInt64)
  deriving DecidableEq, Repr

def Input.external : Input → External
  | .signalSafetyAbort => .signalSafetyAbort
  | .clearSafetyAbort => .clearSafetyAbort
  | .setStopCondition i fires => .setStopCondition i fires
  | .setMicros micros => .setMicros micros

inductive Action where
  | core (c : ℕ)
  | input (e : Input)
  deriving DecidableEq, Repr

section Runs

variable {ω β γ : Type*}

def boot (sys : System) (w : ω) (stopConditions : List Bool) (micros : UInt64) : State ω β γ :=
  ⟨⟨false, sys.kernelState, stopConditions, micros⟩, w, .idle, fun _ => false, fun _ => .setInit,
    []⟩

def State.turn (s : State ω β γ) (c : ℕ) : Turn ω β γ :=
  ⟨s.shared, s.sync, s.crunchDispatcher, s.coreInitialized c, s.core c, []⟩

def State.put (s : State ω β γ) (c : ℕ) (t : Turn ω β γ) : State ω β γ :=
  ⟨t.shared, t.sync, t.crunchDispatcher, Function.update s.coreInitialized c t.coreInitialized,
    Function.update s.core c t.pc, s.events ++ t.events.map (fun e => (c, e))⟩

/-- A core number beyond the configured ones returns at once. -/
def step (cfg : Config) (crunchMaxOverruns : UInt32) (maxIterationUs : ℕ → UInt64)
    (sync : SyncType ω β γ) (sys : System) (s : State ω β γ) : Action → State ω β γ
  | .core c =>
    if c < cfg.kCoreCount then
      s.put c (coreStep crunchMaxOverruns maxIterationUs sync sys c (s.turn c))
    else s
  | .input e => { s with shared := s.shared.external e.external }

theorem put_core (s : State ω β γ) (c d : ℕ) (t : Turn ω β γ) (P : ℕ → CorePc β γ → Prop)
    (hc : P c t.pc) (hd : P d (s.core d)) : P d ((s.put c t).core d) := by
  show P d (Function.update s.core c t.pc d)
  by_cases hdc : d = c
  · subst hdc
    simpa using hc
  · simpa [hdc] using hd

theorem put_coreInitialized (s : State ω β γ) (c d : ℕ) (t : Turn ω β γ) (P : ℕ → Prop)
    (hc : t.coreInitialized = true → P c) (hd : s.coreInitialized d = true → P d)
    (h : (s.put c t).coreInitialized d = true) : P d := by
  have hupdate : Function.update s.coreInitialized c t.coreInitialized d = true := h
  by_cases hdc : d = c
  · subst hdc
    exact hc (by simpa using hupdate)
  · exact hd (by simpa [hdc] using hupdate)

@[simp] theorem external_kernelState (v : Shared) (e : Input) :
    (v.external e.external).kernelState = v.kernelState := by
  cases e <;> rfl

end Runs

end SputterOS.CoreRun
