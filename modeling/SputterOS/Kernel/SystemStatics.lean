import SputterOS.Builder.SystemBuilder
import SputterOS.Comms.ResponseSerializer
import SputterOS.Kernel.CrunchDispatcher
import SputterOS.Kernel.Metrics
import SputterOS.Osal.MultiCoreSync
import SputterOS.Osal.WatchdogSync
import SputterOS.Utils.ErrorLogger
import SputterOS.Utils.TelemetryLogger

/-!
# The static data of the system

The queue and the two logs are the contents that their rings show. The timers of
the tasks belong to the tasks, the kernel tasks included, and stand beside the
static data. Single-precision numbers are their bit patterns.
-/

set_option autoImplicit false

namespace SputterOS.StaticData
open SputterOS.Kernel SputterOS.Builder SputterOS.Metrics SputterOS.MultiCoreSync
  SputterOS.Watchdog SputterOS.CrunchDispatcher SputterOS.ResponseSerializer
open SputterOS.Telemetry (Verbosity)
open Foundation

structure Setup where
  cfg : Config
  user : UserTasks
  metricsWindowUs : UInt64
  crunchMaxOverruns : UInt32
  queueCapacity : ℕ
  declaredWcetUs : ℕ → UInt64
  kernelManagedPeriod : ℕ → Bool
  maxBudgetUs : ℕ → UInt64
  maxIterationUs : ℕ → UInt64
  floatBits : UInt64 → UInt32
  quotientBits : UInt64 → UInt64 → UInt32

/-- Any task with a timer. -/
inductive Task where
  | scheduled (task : TaskPtr)
  | background (task : BackgroundPtr)
  | crunch (task : ℕ)
  deriving DecidableEq

def kMaxMonitoredTasks : ℕ := 16
def kMemCheckInterval : UInt32 := 100

structure Diagnostics where
  monitoredTasks : List TaskPtr
  controlBudget : UInt64
  tickCount : UInt32
  schedulerHealth : Bool
  telemetryDrain : Option (ℕ × ℕ)
  deriving DecidableEq

/-- Functions and mutexes of the user are numbers, and `kernelTasks` are emplaced
and destroyed together. -/
structure Statics (α : Type*) where
  system : System
  kernelTasks : Option Diagnostics
  allTasks : List TaskPtr
  bgRoundRobin : ℕ
  errorLog : List ErrorLog.Entry
  telemetry : List Telemetry.Entry
  telemetryMutex : Option ℕ
  verbosity : Verbosity
  commandQueue : List α
  watchdog : WatchdogSync
  sync : Sync
  timer : Option UInt64
  utilTracker : ℕ → CoreUtilizationTracker
  queueMonitor : QueueDepthMonitor
  schedulerHealth : SchedulerHealthMetrics
  memProfiler : MemoryProfiler
  crunchDispatcher : Dispatcher ℕ
  lastTime : ℕ → UInt64
  lastDispatch : ℕ → ℕ → UInt64
  coreInitialized : ℕ → Bool
  safetyAbort : Bool
  stopConditions : List ℕ
  drainFn : Option ℕ
  drainCtx : ℕ

def kMaxStopConditions : ℕ := 8

section Members

variable {α : Type*}

def Statics.new : Statics α where
  system := .reset
  kernelTasks := none
  allTasks := []
  bgRoundRobin := 0
  errorLog := []
  telemetry := []
  telemetryMutex := none
  verbosity := .status
  commandQueue := []
  watchdog := .new
  sync := .new false
  timer := none
  utilTracker := fun _ => .new
  queueMonitor := .new
  schedulerHealth := .new
  memProfiler := .new
  crunchDispatcher := .idle
  lastTime := fun _ => 0
  lastDispatch := fun _ _ => 0
  coreInitialized := fun _ => false
  safetyAbort := false
  stopConditions := []
  drainFn := none
  drainCtx := 0

/-- The members that are not named here keep their values. -/
def Statics.reset (s : Statics α) : Statics α :=
  { s with
    system := .reset
    kernelTasks := none
    allTasks := []
    bgRoundRobin := 0
    errorLog := []
    telemetry := []
    commandQueue := []
    watchdog := .new
    sync := .new false
    timer := none
    utilTracker := fun c => (s.utilTracker c).reset
    queueMonitor := s.queueMonitor.reset
    schedulerHealth := s.schedulerHealth.reset
    lastTime := fun _ => 0
    lastDispatch := fun _ _ => 0
    coreInitialized := fun _ => false
    safetyAbort := false
    stopConditions := []
    drainFn := none
    drainCtx := 0 }

def overwrite {ε : Type*} (capacity : ℕ) (held : List ε) (e : ε) : List ε :=
  (OverwritingFifo.apply capacity ⟨held, [], [], []⟩ (.push e)).held

def Statics.log (s : Statics α) (e : ErrorLog.Entry) : Statics α :=
  { s with errorLog := overwrite ErrorLog.kCapacity s.errorLog e }

def Statics.logAll (s : Statics α) (es : List ErrorLog.Entry) : Statics α :=
  { s with errorLog := es.foldl (overwrite ErrorLog.kCapacity) s.errorLog }

/-- The reading of the system timer for a reading of the platform clock. -/
def Statics.nowMicros (s : Statics α) (micros : UInt64) : UInt64 :=
  match s.timer with
  | none => 0
  | some epoch => micros-epoch

end Members

section Diagnostics

variable {α : Type*} (setup : Setup) (timers : Task → TaskTimer)

def Diagnostics.violations (d : Diagnostics) : List ErrorLog.Entry :=
  d.monitoredTasks.filterMap fun t =>
    if (timers (.scheduled t)).isOverBudget d.controlBudget then
      some ⟨.sensorError, 0, setup.floatBits (timers (.scheduled t)).lastDuration⟩
    else none

def Diagnostics.aggregate (d : Diagnostics) (m : SchedulerHealthMetrics) : SchedulerHealthMetrics :=
  if d.schedulerHealth then
    m.setAggregates (d.monitoredTasks.map fun t => (timers (.scheduled t)).overrunCount).sum
      (d.monitoredTasks.map fun t => (timers (.scheduled t)).deadlineMissCount).sum
  else m

def Diagnostics.countTick (d : Diagnostics) : Diagnostics :=
  { d with tickCount := if d.tickCount+1 ≥ kMemCheckInterval then 0 else d.tickCount+1 }

def Diagnostics.memCheck (d : Diagnostics) (p : MemoryProfiler) : List ErrorLog.Entry :=
  if d.tickCount+1 ≥ kMemCheckInterval then
    [⟨.watchdogKick, 0, setup.floatBits (UInt64.ofNat p.peakUsedBytes)⟩]
  else []

/-- Kicking the platform watchdog changes nothing here. -/
def Statics.diagTick (s : Statics α) (d : Diagnostics) : Statics α :=
  { s with
    errorLog := (s.logAll (d.violations setup timers ++
      d.memCheck setup s.memProfiler.update)).errorLog
    memProfiler := s.memProfiler.update
    schedulerHealth := d.aggregate timers s.schedulerHealth
    kernelTasks := some d.countTick
    telemetry := if d.telemetryDrain.isSome then [] else s.telemetry }

def Statics.lines (s : Statics α) : List (List UInt8) :=
  (s.telemetry.filter fun e => e.level.value ≤ s.verbosity.value).map fun e =>
    Telemetry.format e.timestamp e.task e.text

def Statics.diagLines (s : Statics α) (d : Diagnostics) : List ((ℕ × ℕ) × List UInt8) :=
  d.telemetryDrain.toList.flatMap fun drain => s.lines.map fun line => (drain, line)

end Diagnostics

section Snapshots

variable {α : Type*} (setup : Setup) (timers : Task → TaskTimer)

def taskSnapshot (c t : ℕ) (timer : TaskTimer) : TaskSnapshot where
  taskIndex := t
  coreId := c
  lastUs := timer.lastDuration.toNat
  minUs := timer.shown.minDuration.toNat
  maxUs := timer.shown.maxDuration.toNat
  avgUs := timer.getAverageDurationUs setup.quotientBits
  samples := timer.shown.sampleCount.toNat
  overruns := timer.overrunCount.toNat
  misses := timer.deadlineMissCount.toNat

def taskSnapshots (sys : System) : List TaskSnapshot :=
  ((List.range setup.cfg.kCoreCount).flatMap fun c =>
    (sys.cores c).tasks.mapIdx fun t task =>
      taskSnapshot setup c t (timers (.scheduled task))).take kMaxSnapshotTasks

/-- A snapshot is zero where nothing is written. -/
def Statics.snapshot (s : Statics α) (micros : UInt64) : PerformanceSnapshot where
  timestamp := (s.nowMicros micros).toNat
  coreCount := setup.cfg.kCoreCount
  coreUtilization := fun c =>
    if c < setup.cfg.kCoreCount ∧ c < kMaxSnapshotCores then
      (s.utilTracker c).getUtilization setup.quotientBits
    else 0
  queueDepth := s.queueMonitor.lastDepth
  queueMaxDepth := s.queueMonitor.maxDepthShown
  queueAvgDepth := s.queueMonitor.averageDepth setup.quotientBits
  peakHeapUsed := s.memProfiler.peakUsedBytes
  freeHeap := MemoryProfiler.getFreeHeapBytes
  stackHighWater := 0
  totalGapUs := s.schedulerHealth.totalGapUs.toNat
  maxGapUs := s.schedulerHealth.maxGapUs.toNat
  avgGapUs := s.schedulerHealth.averageGapUs setup.quotientBits
  schedulerTickCount := s.schedulerHealth.tickCount.toNat
  totalOverruns := s.schedulerHealth.totalOverruns.toNat
  totalDeadlineMisses := s.schedulerHealth.totalDeadlineMisses.toNat
  taskCount := (taskSnapshots setup timers s.system).length
  tasks := fun i => (taskSnapshots setup timers s.system)[i]?.getD ⟨0, 0, 0, 0, 0, 0, 0, 0, 0⟩

end Snapshots

section Building

variable {α : Type*} (setup : Setup)

structure Timers where
  timer : Task → TaskTimer
  clocked : Task → Bool

def isKernelTask : Task → Bool
  | .scheduled .controlTask => true
  | .scheduled .commsTask => true
  | .scheduled (.user _) => false
  | .background .diagsTask => true
  | .background (.user _) => false
  | .crunch _ => false

def Timers.resetMonitored (ts : Timers) (d : Diagnostics) : Timers :=
  { ts with
    timer := fun t =>
      if t ∈ d.monitoredTasks.map Task.scheduled then (ts.timer t).reset else ts.timer t }

def Timers.emplace (ts : Timers) : Timers where
  timer := fun t => if isKernelTask t then .new else ts.timer t
  clocked := fun t => if isKernelTask t then false else ts.clocked t

def registered (cfg : Config) (sys : System) : Task → Bool
  | .scheduled task => (List.range cfg.kCoreCount).any fun c => task ∈ (sys.cores c).tasks
  | .background task => task ∈ sys.backgroundTasks
  | .crunch task => (List.range cfg.kCoreCount).any fun c => (sys.cores c).crunchTask = some task

def Timers.propagate (ts : Timers) (sys : System) (clockSource : Bool) : Timers where
  timer := fun t =>
    if registered setup.cfg sys t then (ts.timer t).setMetricsWindowUs setup.metricsWindowUs
    else ts.timer t
  clocked := fun t => ts.clocked t || (clockSource && registered setup.cfg sys t)

def Setup.declaredWcet : TaskPtr → UInt64
  | .controlTask => 0
  | .commsTask => 0
  | .user task => setup.declaredWcetUs task

def Setup.managesPeriod : TaskPtr → Bool
  | .controlTask => false
  | .commsTask => false
  | .user task => setup.kernelManagedPeriod task

def Setup.backgroundBudgetUs : BackgroundPtr → UInt64
  | .diagsTask => 1000
  | .user task => setup.maxBudgetUs task

def Setup.periodUs (task : TaskPtr) : UInt64 :=
  (taskInfo setup.cfg setup.user ⟨false, false, false⟩ task).periodUs

/-- The share of a core that a task declares, in thousandths. -/
def Setup.share (task : TaskPtr) : UInt64 :=
  if setup.declaredWcet task > 0 ∧ setup.periodUs task > 0 then
    setup.declaredWcet task*1000/setup.periodUs task
  else 0

def utilizationWarnings (sys : System) : List ErrorLog.Entry :=
  (List.range setup.cfg.kCoreCount).filterMap fun c =>
    if ((sys.cores c).tasks.map setup.share).sum > 800 then
      some ⟨.sensorError, 0, setup.quotientBits ((sys.cores c).tasks.map setup.share).sum 1000⟩
    else none

def buildWarnings (deps : Dependencies) (sys : System) : List ErrorLog.Entry :=
  if anyActive setup.cfg sys ∧
      validateSchedulingConstraints setup.cfg setup.user deps sys = none then
    utilizationWarnings setup sys
  else []

def kernelStateValue : KernelState → UInt64
  | .unconfigured => 0
  | .configured => 1
  | .initializing => 2
  | .running => 3
  | .suspending => 4
  | .suspended => 5
  | .aborting => 6
  | .aborted => 7
  | .shuttingDown => 8
  | .shutdown => 9

def invalidState (target : KernelState) : ErrorLog.Entry :=
  ⟨.invalidState, 0, setup.floatBits (kernelStateValue target)⟩

/-- The diagnostics task before it gets its monitored tasks. Its pointer to the
scheduler health stays null. -/
def Statics.emplaceDiags (s : Statics α) : Diagnostics :=
  ⟨[], setup.cfg.controlBudgetUs.toUInt64, 0, false, s.drainFn.map fun fn => (fn, s.drainCtx)⟩

/-- What a build that is not refused at once writes before and while it validates. -/
def Statics.prepare (s : Statics α) (deps : Dependencies) : Statics α :=
  { s.logAll (buildWarnings setup deps (prepared setup.cfg setup.user deps s.system)) with
    kernelTasks := if deps.app then some (s.emplaceDiags setup) else s.kernelTasks
    system := (Builder.build setup.cfg setup.user deps s.system).1 }

def Diagnostics.setMonitoredTasks (d : Diagnostics) (tasks : List TaskPtr) : Diagnostics :=
  { d with monitoredTasks := tasks.take kMaxMonitoredTasks }

def Statics.wireTasks (s : Statics α) (deps : Dependencies) (tasks : List TaskPtr) : Statics α :=
  if deps.app then
    { s with
      allTasks := tasks
      kernelTasks := s.kernelTasks.map fun d => d.setMonitoredTasks tasks }
  else s

def Statics.propagate (s : Statics α) (clockSource : Bool) (micros : UInt64) : Statics α :=
  { s with
    timer := if clockSource then some micros else s.timer
    queueMonitor := s.queueMonitor.setMetricsWindowUs setup.metricsWindowUs
    schedulerHealth := s.schedulerHealth.setMetricsWindowUs setup.metricsWindowUs }

def Statics.complete (s : Statics α) (deps : Dependencies) (clockSource : Bool)
    (micros : UInt64) : Statics α :=
  (s.wireTasks deps ((Builder.allTasks setup.cfg s.system).take
    (setup.cfg.kCoreCount*kMaxTasksPerCore))).propagate setup clockSource micros

/-- The error of a transition to `configured` that is refused. -/
def Statics.configured (s : Statics α) (before : KernelState) : Statics α :=
  if validTransition before .configured then s else s.log (invalidState setup .configured)

def Statics.build (s : Statics α) (deps : Dependencies) (clockSource : Bool) (micros : UInt64) :
    Statics α :=
  if s.system.built then s
  else if (Builder.build setup.cfg setup.user deps s.system).2 = none then
    ((s.prepare setup deps).complete setup deps clockSource micros).configured setup
      s.system.kernelState
  else s.prepare setup deps

def Timers.build (ts : Timers) (sys : System) (deps : Dependencies) (clockSource : Bool) : Timers :=
  if sys.built then ts
  else if (Builder.build setup.cfg setup.user deps sys).2 = none then
    (if deps.app then ts.emplace else ts).propagate setup
      (Builder.build setup.cfg setup.user deps sys).1 clockSource
  else if deps.app then ts.emplace else ts

end Building

end SputterOS.StaticData
