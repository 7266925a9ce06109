import SputterOS.Kernel.BackgroundRing
import SputterOS.Kernel.CoreRun
import SputterOS.Kernel.SystemStatics

/-!
# Calls of the system

The cores call `init`, `tick` and `run`, and the steps of their calls interleave
with each other and with the calls of the builder. What a task of the user does
inside its own calls are service calls, which come at any time and from anywhere.
A reset is only called while no core is inside a call.
-/

set_option autoImplicit false

namespace SputterOS.SystemCalls
open SputterOS.Kernel SputterOS.Builder SputterOS.Metrics SputterOS.MultiCoreSync
  SputterOS.Watchdog SputterOS.StaticData SputterOS.CoreRun
open SputterOS.Telemetry (Verbosity TaskID Text)

/-- Where a core stands in `tick`. Behind the sampled time come the slot or the
pass, the task, and the accumulated times. At its end a core has read the metrics
that all cores share, and stores them with its gap in a step of its own. -/
inductive Tick where
  | start (now : UInt64)
  | slot (now : UInt64) (t : ℕ) (busy : UInt64)
  | inTask (now : UInt64) (t : ℕ) (task : TaskPtr) (busy : UInt64)
  | background (now : UInt64) (i : ℕ) (busy used : UInt64)
  | inBackground (now : UInt64) (i : ℕ) (task : BackgroundPtr) (busy used : UInt64)
  | stopBackground (now : UInt64) (i : ℕ) (task : BackgroundPtr) (busy used : UInt64)
  | finish (now busy : UInt64)
  | recordGap (read : SchedulerHealthMetrics) (gapUs tickEndTime : UInt64)
  | returned
  deriving DecidableEq

inductive Call where
  | init
  | tick
  | run
  deriving DecidableEq

/-- A call in progress. Its tick matters while the core is inside `tick`. -/
structure Frame where
  call : Call
  pc : CorePc StartupBarrier ShutdownBarrier
  tick : Tick
  deriving DecidableEq

/-- The system, its tasks and the platform. The written lines are not read by the
code. -/
structure State (α : Type*) where
  statics : Statics α
  timers : Timers
  micros : UInt64
  stopAnswer : ℕ → Bool
  core : ℕ → Option Frame
  written : List ((ℕ × ℕ) × List UInt8)

section Ticks

variable {α : Type*} (setup : Setup)

/-- A task timer reads the platform clock itself. -/
def State.clock (s : State α) (t : Task) : UInt64 := if s.timers.clocked t then s.micros else 0

def State.updateTimer (s : State α) (t : Task) (f : TaskTimer → TaskTimer) : State α :=
  { s with
    timers := { s.timers with
      timer := Function.update s.timers.timer t (f (s.timers.timer t)) } }

def State.startTimer (s : State α) (t : Task) : State α :=
  s.updateTimer t fun timer => timer.begin (s.clock t)

def State.stopTimer (s : State α) (t : Task) : State α :=
  s.updateTimer t fun timer => timer.stop (s.clock t)

def State.lastDuration (s : State α) (t : Task) : UInt64 := (s.timers.timer t).lastDuration

def State.log (s : State α) (e : ErrorLog.Entry) : State α := { s with statics := s.statics.log e }

def State.detectRollover (s : State α) (c : ℕ) (now : UInt64) : State α :=
  if now < s.statics.lastTime c ∧ s.statics.lastTime c ≠ 0 then
    s.log ⟨.timerRollover, now, setup.floatBits 0⟩
  else s

def State.beginTick (s : State α) (c : ℕ) (now : UInt64) : State α :=
  { s with
    statics := { s.statics with
      lastTime := Function.update s.statics.lastTime c now
      utilTracker := Function.update s.statics.utilTracker c
        ((s.statics.utilTracker c).recordTickStart now) } }

def managed (task : TaskPtr) : Prop := setup.managesPeriod task ∧ setup.periodUs task > 0

instance (task : TaskPtr) : Decidable (managed setup task) := by unfold managed; infer_instance

def skipped (statics : Statics α) (c t : ℕ) (task : TaskPtr) (now : UInt64) : Prop :=
  managed setup task ∧ statics.lastDispatch c t ≠ 0 ∧
    now-statics.lastDispatch c t < setup.periodUs task

instance (statics : Statics α) (c t : ℕ) (task : TaskPtr) (now : UInt64) :
    Decidable (skipped setup statics c t task now) := by unfold skipped; infer_instance

def State.markDispatch (s : State α) (c t : ℕ) (task : TaskPtr) (now : UInt64) : State α :=
  if managed setup task then
    { s with
      statics := { s.statics with
        lastDispatch := Function.update s.statics.lastDispatch c
          (Function.update (s.statics.lastDispatch c) t now) } }
  else s

/-- A task that took longer than it declares. The call of its `onOverrun` is its
own affair. -/
def State.checkDeadline (s : State α) (task : TaskPtr) (now : UInt64) : State α :=
  if setup.declaredWcet task > 0 ∧ s.lastDuration (.scheduled task) > setup.declaredWcet task then
    (s.updateTimer (.scheduled task) TaskTimer.recordDeadlineMiss).log
      ⟨.deadlineMiss, now, setup.floatBits (s.lastDuration (.scheduled task))⟩
  else s

def State.advanceRing (s : State α) : State α :=
  { s with
    statics := { s.statics with
      bgRoundRobin :=
        (s.statics.bgRoundRobin+1) % s.statics.system.backgroundTasks.length } }

def State.diagTick (s : State α) : State α :=
  match s.statics.kernelTasks with
  | none => s
  | some d =>
    { s with
      statics := s.statics.diagTick setup s.timers.timer d
      written := s.written ++ s.statics.diagLines d }

def State.callBackground (s : State α) : BackgroundPtr → State α
  | .diagsTask => s.diagTick setup
  | .user _ => s

/-- The gap of a tick is the wall time that its tasks did not use. -/
def gapUs (now tickEndTime busy : UInt64) : UInt64 :=
  if (if tickEndTime ≥ now then tickEndTime-now else 0) ≥ busy then
    (if tickEndTime ≥ now then tickEndTime-now else 0)-busy
  else 0

def State.endTick (s : State α) (c : ℕ) (busy : UInt64) : State α :=
  { s with
    statics := { s.statics with
      utilTracker := Function.update s.statics.utilTracker c
        ((s.statics.utilTracker c).recordTickEnd (s.statics.nowMicros s.micros) busy) } }

/-- What another core stored since the metrics were read is lost. -/
def State.storeGap (s : State α) (c : ℕ) (read : SchedulerHealthMetrics)
    (gapUs tickEndTime : UInt64) : State α :=
  { s with
    statics := { s.statics with
      schedulerHealth := (s.statics.schedulerHealth.withGaps read).recordGap gapUs tickEndTime
      queueMonitor :=
        if c = 0 then s.statics.queueMonitor.sample s.statics.commandQueue.length tickEndTime
        else s.statics.queueMonitor } }

/-- One step of `tick` on core `c`. A null pointer in the ring is passed over. -/
def tickStep (c : ℕ) (s : State α) : Tick → State α × Tick
  | .start now => ((s.detectRollover setup c now).beginTick c now, .slot now 0 0)
  | .slot now t busy =>
    match (s.statics.system.cores c).tasks[t]? with
    | none =>
      (s, if c = s.statics.system.backgroundCoreId then .background now 0 busy 0
        else .finish now busy)
    | some task =>
      if skipped setup s.statics c t task now then (s, .slot now (t+1) busy)
      else
        ((s.markDispatch setup c t task now).startTimer (.scheduled task), .inTask now t task busy)
  | .inTask now t task busy =>
    ((s.stopTimer (.scheduled task)).checkDeadline setup task now,
      .slot now (t+1) (busy+(s.stopTimer (.scheduled task)).lastDuration (.scheduled task)))
  | .background now i busy used =>
    if i < s.statics.system.backgroundTasks.length then
      match s.statics.system.backgroundTasks[s.statics.bgRoundRobin]? with
      | none => (s.advanceRing, .background now (i+1) busy used)
      | some task =>
        if i > 0 ∧ used+setup.backgroundBudgetUs task >
            BackgroundRing.gapBudget setup.cfg.controlBudgetUs busy then
          (s.advanceRing, .finish now (busy+used))
        else
          (s.advanceRing.startTimer (.background task), .inBackground now i task busy used)
    else (s, .finish now (busy+used))
  | .inBackground now i task busy used =>
    (s.callBackground setup task, .stopBackground now i task busy used)
  | .stopBackground now i task busy used =>
    (s.stopTimer (.background task),
      .background now (i+1) busy
        (used+(s.stopTimer (.background task)).lastDuration (.background task)))
  | .finish now busy =>
    (s.endTick c busy,
      .recordGap s.statics.schedulerHealth (gapUs now (s.statics.nowMicros s.micros) busy)
        (s.statics.nowMicros s.micros))
  | .recordGap read gap tickEndTime => (s.storeGap c read gap tickEndTime, .returned)
  | .returned => (s, .returned)

/-- Behind its scheduled tasks the core goes on as the pass through the ring does:
it calls the task of the slot that the pass dispatches next, or ends with it. -/
theorem background_pass (c : ℕ) (s : State α) (now : UInt64) (i : ℕ) (busy used : UInt64)
    (inp : BackgroundRing.TickInput) (task : BackgroundPtr)
    (hi : i < s.statics.system.backgroundTasks.length) (hbusy : inp.busyAccum = busy)
    (htask : s.statics.system.backgroundTasks[s.statics.bgRoundRobin]? = some task)
    (hbudget : inp.maxBudgetUs s.statics.bgRoundRobin = setup.backgroundBudgetUs task) :
    (tickStep setup c s (.background now i busy used)).2 =
      if (BackgroundRing.passFrom s.statics.system.backgroundTasks.length
          (BackgroundRing.gapBudget setup.cfg.controlBudgetUs inp.busyAccum) inp
          (s.statics.system.backgroundTasks.length-i) i s.statics.bgRoundRobin used).dispatched = []
      then .finish now (busy+used) else .inBackground now i task busy used := by
  obtain ⟨todo, htodo⟩ : ∃ todo, s.statics.system.backgroundTasks.length-i = todo+1 :=
    ⟨s.statics.system.backgroundTasks.length-i-1, by omega⟩
  rw [tickStep, if_pos hi, htask, htodo, BackgroundRing.passFrom, hbudget, hbusy]
  dsimp only
  split
  · rfl
  · simp

end Ticks

section Cores

variable {α : Type*} (setup : Setup)

def crunchCode : CrunchDispatcher.ErrorCode → ErrorLog.ErrorCode
  | .softAbort => .softAbort
  | .hardFault => .hardFault
  | .crunchOverrun => .crunchOverrun

def State.kick (s : State α) (c : ℕ) (now : UInt64) : State α :=
  { s with
    statics := { s.statics with
      watchdog := ⟨Function.update s.statics.watchdog.lastKick c now.toInt64,
        Function.update s.statics.watchdog.alive c true⟩ } }

def State.dispatched (s : State α) : CrunchDispatcher.Event ℕ → State α
  | .watchdogKick c now => s.kick c now
  | .log code timestamp value => s.log ⟨crunchCode code, timestamp, setup.floatBits value⟩
  | .platformKick => s
  | .crunchBegin _ _ => s
  | .crunchEnd _ => s
  | .maxIterationUs _ _ => s
  | .onCrunchAbort _ _ => s

def State.diagInit (s : State α) : State α :=
  match s.statics.kernelTasks with
  | none => s
  | some d =>
    { s with
      statics := { s.statics with memProfiler := s.statics.memProfiler.reset }
      timers := s.timers.resetMonitored d }

def State.called (s : State α) : InitCall → State α
  | .backgroundTask .diagsTask => s.diagInit
  | .backgroundTask (.user _) => s
  | .task _ => s
  | .crunchTask _ => s

def State.record (s : State α) : Event → State α
  | .invalidState target => s.log (invalidState setup target)
  | .initBegin call => s.called call
  | .dispatcher event => s.dispatched setup event
  | .entered _ => s
  | .initEnd _ => s
  | .startupBarrier _ => s
  | .tickBegin _ => s
  | .tickEnd => s
  | .shutdownBarrier _ => s

def State.turn (s : State α) (c : ℕ) (pc : CorePc StartupBarrier ShutdownBarrier) :
    Turn Sync StartupBarrier ShutdownBarrier where
  shared :=
    { safetyAbort := s.statics.safetyAbort
      kernelState := s.statics.system.kernelState
      stopConditions := s.statics.stopConditions.map s.stopAnswer
      micros := s.statics.nowMicros s.micros }
  sync := s.statics.sync
  crunchDispatcher := s.statics.crunchDispatcher
  coreInitialized := s.statics.coreInitialized c
  pc := pc
  events := []

def returns : Call → CorePc StartupBarrier ShutdownBarrier → Bool
  | .init, .startupBarrier _ => true
  | .tick, .kernelTest => true
  | .run, .returned => true
  | _, _ => false

def State.settle (s : State α) (c : ℕ) (call : Call)
    (t : Turn Sync StartupBarrier ShutdownBarrier) : State α :=
  { s with
    core := Function.update s.core c
      (if returns call t.pc then none else some ⟨call, t.pc, .start t.shared.micros⟩) }

def State.put (s : State α) (c : ℕ) (t : Turn Sync StartupBarrier ShutdownBarrier) : State α :=
  { s with
    statics := { s.statics with
      system := { s.statics.system with kernelState := t.shared.kernelState }
      sync := t.sync
      crunchDispatcher := t.crunchDispatcher
      coreInitialized := Function.update s.statics.coreInitialized c t.coreInitialized } }

def State.advance (s : State α) (c : ℕ) (call : Call)
    (pc : CorePc StartupBarrier ShutdownBarrier) : State α :=
  let t := coreStep setup.crunchMaxOverruns setup.maxIterationUs (syncType setup.cfg)
    s.statics.system c (s.turn c pc)
  (t.events.foldl (State.record setup) (s.put c t)).settle c call t

def stepCore (s : State α) (c : ℕ) : State α :=
  match s.core c with
  | none => s
  | some frame =>
    if frame.pc = .inTick ∧ frame.tick ≠ .returned then
      { (tickStep setup c s frame.tick).1 with
        core := Function.update s.core c
          (some { frame with tick := (tickStep setup c s frame.tick).2 }) }
    else s.advance setup c frame.call frame.pc

/-- An assertion stops a call before the build, and a core number beyond the
configured ones returns at once. -/
def State.enter (s : State α) (c : ℕ) (frame : Frame) : State α :=
  if s.statics.system.built ∧ c < setup.cfg.kCoreCount ∧ s.core c = none then
    { s with core := Function.update s.core c (some frame) }
  else s

end Cores

section Services

variable {α : Type*} (setup : Setup)

inductive Service (α : Type*) where
  | logError (e : ErrorLog.Entry)
  | readError
  | clearErrors
  | logTelemetry (task : TaskID) (text : List UInt8) (level : Verbosity) (timestamp : UInt64)
  | drainTelemetry (writeFn ctx : ℕ)
  | clearTelemetry
  | setVerbosity (level : Verbosity)
  | signalSafetyAbort
  | clearSafetyAbort
  | push (cmd : α)
  | pop
  | kick (c : ℕ) (now : UInt64)
  | setError (c : ℕ) (reason : String)
  | setErrorHandler (handler : Bool)
  | recordOverrun (task : Task)

def State.serve (s : State α) : Service α → State α
  | .logError e => s.log e
  | .readError => { s with statics := { s.statics with errorLog := s.statics.errorLog.tail } }
  | .clearErrors => { s with statics := { s.statics with errorLog := [] } }
  | .logTelemetry task text level timestamp =>
    { s with
      statics := { s.statics with
        telemetry := overwrite Telemetry.kCapacity s.statics.telemetry
          ⟨timestamp, task, level, .copy text⟩ } }
  | .drainTelemetry writeFn ctx =>
    { s with
      statics := { s.statics with telemetry := [] }
      written := s.written ++ s.statics.lines.map fun line => ((writeFn, ctx), line) }
  | .clearTelemetry => { s with statics := { s.statics with telemetry := [] } }
  | .setVerbosity level => { s with statics := { s.statics with verbosity := level } }
  | .signalSafetyAbort => { s with statics := { s.statics with safetyAbort := true } }
  | .clearSafetyAbort => { s with statics := { s.statics with safetyAbort := false } }
  | .push cmd =>
    if s.statics.commandQueue.length < setup.queueCapacity then
      { s with
        statics := { s.statics with commandQueue := s.statics.commandQueue ++ [cmd] } }
    else s
  | .pop =>
    { s with statics := { s.statics with commandQueue := s.statics.commandQueue.tail } }
  | .kick c now => s.kick c now
  | .setError c reason =>
    { s with statics := { s.statics with sync := s.statics.sync.setError c reason } }
  | .setErrorHandler handler =>
    { s with
      statics := { s.statics with sync := { s.statics.sync with errorHandler := handler } } }
  | .recordOverrun task => s.updateTimer task TaskTimer.recordOverrun

inductive Action (α : Type*) where
  | register (r : Registration)
  | addStopCondition (fn : ℕ)
  | setTelemetryDrain (fn : Option ℕ) (ctx : ℕ)
  | setTelemetryMutex (mutex : Option ℕ)
  | build (deps : Dependencies) (clockSource : Bool)
  | init (c : ℕ)
  | tick (c : ℕ) (now : UInt64)
  | run (c : ℕ)
  | core (c : ℕ)
  | service (x : Service α)
  | setMicros (micros : UInt64)
  | setStopAnswer (fn : ℕ) (fires : Bool)
  | reset

def Quiet (s : State α) : Prop := ∀ c < setup.cfg.kCoreCount, s.core c = none

instance (s : State α) : Decidable (Quiet setup s) := by unfold Quiet; infer_instance

def step (s : State α) : Action α → State α
  | .register r =>
    { s with statics := { s.statics with system := register setup.cfg s.statics.system r } }
  | .addStopCondition fn =>
    if s.statics.stopConditions.length < kMaxStopConditions then
      { s with
        statics := { s.statics with stopConditions := s.statics.stopConditions ++ [fn] } }
    else s
  | .setTelemetryDrain fn ctx =>
    { s with statics := { s.statics with drainFn := fn, drainCtx := ctx } }
  | .setTelemetryMutex mutex =>
    { s with statics := { s.statics with telemetryMutex := mutex } }
  | .build deps clockSource =>
    { s with
      statics := s.statics.build setup deps clockSource s.micros
      timers := s.timers.build setup s.statics.system deps clockSource }
  | .init c => s.enter setup c ⟨.init, .configuredTest, .returned⟩
  | .tick c now => s.enter setup c ⟨.tick, .inTick, .start now⟩
  | .run c => s.enter setup c ⟨.run, .setInit, .returned⟩
  | .core c => stepCore setup s c
  | .service x => s.serve setup x
  | .setMicros micros => { s with micros := micros }
  | .setStopAnswer fn fires =>
    { s with stopAnswer := Function.update s.stopAnswer fn fires }
  | .reset => if Quiet setup s then { s with statics := s.statics.reset } else s

def boot (timers : Timers) (micros : UInt64) : State α :=
  ⟨.new, timers, micros, fun _ => false, fun _ => none, []⟩

end Services

def dualSetup : Setup where
  cfg := dualCore
  user := plainTasks
  metricsWindowUs := kDefaultWindowUs
  crunchMaxOverruns := 10
  queueCapacity := 16
  declaredWcetUs := fun _ => 100
  kernelManagedPeriod := fun _ => false
  maxBudgetUs := fun _ => 1000
  maxIterationUs := fun _ => 100
  floatBits := fun _ => 0
  quotientBits := fun _ _ => 0

def freshTimers : Timers := ⟨fun _ => .new, fun _ => false⟩

end SputterOS.SystemCalls
