import Mathlib.Data.UInt
import Mathlib.Logic.Function.Basic

/-!
# The metrics

Counters run over a window of time, and behind the first complete window the
accessors return the figures of the last complete one. An average is kept as the
sum it divides by its count.
-/

set_option autoImplicit false

namespace SputterOS.Metrics

def kDefaultWindowUs : UInt64 := 60000000

/-- A quotient of single-precision numbers by its bit pattern, and zero without
samples. -/
def average (quotient : UInt64 → UInt64 → UInt32) (sum count : UInt64) : UInt32 :=
  if count = 0 then 0 else quotient sum count

def windowEnds (windowUs windowStartUs now : UInt64) : Bool :=
  windowUs > 0 && now ≥ windowStartUs && now-windowStartUs ≥ windowUs

def kHistogramBuckets : ℕ := 8
def kHistogramBucketWidthUs : UInt64 := 512

structure TaskWindow where
  minDuration : UInt64
  maxDuration : UInt64
  sumDurationUs : UInt64
  sampleCount : UInt32
  overrunCount : UInt32
  deadlineMissCount : UInt32
  histogram : ℕ → UInt32

def TaskWindow.empty : TaskWindow := ⟨0xFFFFFFFFFFFFFFFF, 0, 0, 0, 0, 0, fun _ => 0⟩

/-- The clock readings are arguments, and are 0 without a clock source. -/
structure TaskTimer where
  lastDuration : UInt64
  start : UInt64
  current : TaskWindow
  windowUs : UInt64
  windowStartUs : UInt64
  reported : TaskWindow

namespace TaskTimer

def new : TaskTimer := ⟨0, 0, .empty, kDefaultWindowUs, 0, .empty⟩

def setMetricsWindowUs (t : TaskTimer) (windowUs : UInt64) : TaskTimer :=
  { t with windowUs := windowUs }

def begin (t : TaskTimer) (now : UInt64) : TaskTimer := { t with start := now }

/-- A `size_t` of 64 bits holds the whole quotient. -/
def bucket (elapsed : UInt64) : ℕ :=
  min (elapsed/kHistogramBucketWidthUs).toNat (kHistogramBuckets-1)

def sample (t : TaskTimer) (elapsed : UInt64) : TaskTimer :=
  { t with
    lastDuration := elapsed
    current := { t.current with
      minDuration := min elapsed t.current.minDuration
      maxDuration := max elapsed t.current.maxDuration
      sumDurationUs := t.current.sumDurationUs+elapsed
      sampleCount := t.current.sampleCount+1
      histogram := Function.update t.current.histogram (bucket elapsed)
        (t.current.histogram (bucket elapsed)+1) } }

def rotateWindow (t : TaskTimer) (now : UInt64) : TaskTimer :=
  { t with reported := t.current, current := .empty, windowStartUs := now }

def stop (t : TaskTimer) (now : UInt64) : TaskTimer :=
  let s := t.sample (if now ≥ t.start then now-t.start else 0)
  if windowEnds s.windowUs s.windowStartUs now then s.rotateWindow now else s

def shown (t : TaskTimer) : TaskWindow := if t.reported.sampleCount > 0 then t.reported else t.current

def overrunCount (t : TaskTimer) : UInt32 := t.shown.overrunCount

def deadlineMissCount (t : TaskTimer) : UInt32 := t.shown.deadlineMissCount

def getAverageDurationUs (quotient : UInt64 → UInt64 → UInt32) (t : TaskTimer) : UInt32 :=
  average quotient t.shown.sumDurationUs t.shown.sampleCount.toUInt64

def isOverBudget (t : TaskTimer) (budgetUs : UInt64) : Bool := t.lastDuration > budgetUs

def recordOverrun (t : TaskTimer) : TaskTimer :=
  { t with current := { t.current with overrunCount := t.current.overrunCount+1 } }

def recordDeadlineMiss (t : TaskTimer) : TaskTimer :=
  { t with current := { t.current with deadlineMissCount := t.current.deadlineMissCount+1 } }

/-- The window duration and the start of the current tick stay. -/
def reset (t : TaskTimer) : TaskTimer := { new with start := t.start, windowUs := t.windowUs }

end TaskTimer

structure CoreUtilizationTracker where
  tickStart : UInt64
  busyUs : UInt64
  totalUs : UInt64
  tickCount : UInt32
  reportedBusyUs : UInt64
  reportedTotalUs : UInt64
  reportedTicks : UInt32
  deriving DecidableEq

namespace CoreUtilizationTracker

def kWindowTicks : UInt32 := 1000

def new : CoreUtilizationTracker := ⟨0, 0, 0, 0, 0, 0, 0⟩

def recordTickStart (u : CoreUtilizationTracker) (now : UInt64) : CoreUtilizationTracker :=
  { u with tickStart := now }

def recordTickEnd (u : CoreUtilizationTracker) (now busyDuration : UInt64) :
    CoreUtilizationTracker :=
  let v := { u with
    busyUs := u.busyUs+busyDuration
    totalUs := u.totalUs+(if now ≥ u.tickStart then now-u.tickStart else 0)
    tickCount := u.tickCount+1 }
  if v.tickCount ≥ kWindowTicks then
    ⟨v.tickStart, 0, 0, 0, v.busyUs, v.totalUs, v.tickCount⟩
  else v

def getUtilization (quotient : UInt64 → UInt64 → UInt32) (u : CoreUtilizationTracker) : UInt32 :=
  if u.reportedTotalUs > 0 then average quotient u.reportedBusyUs u.reportedTotalUs
  else average quotient u.busyUs u.totalUs

def reset (_ : CoreUtilizationTracker) : CoreUtilizationTracker := new

end CoreUtilizationTracker

structure QueueDepthMonitor where
  lastDepth : ℕ
  maxDepth : ℕ
  sumDepth : UInt64
  sampleCount : UInt32
  windowUs : UInt64
  windowStartUs : UInt64
  reportedMaxDepth : ℕ
  reportedSumDepth : UInt64
  reportedSampleCount : UInt32
  deriving DecidableEq

namespace QueueDepthMonitor

def new : QueueDepthMonitor := ⟨0, 0, 0, 0, kDefaultWindowUs, 0, 0, 0, 0⟩

def setMetricsWindowUs (q : QueueDepthMonitor) (windowUs : UInt64) : QueueDepthMonitor :=
  { q with windowUs := windowUs }

def rotateWindow (q : QueueDepthMonitor) (now : UInt64) : QueueDepthMonitor :=
  { q with
    reportedMaxDepth := q.maxDepth
    reportedSumDepth := q.sumDepth
    reportedSampleCount := q.sampleCount
    maxDepth := 0
    sumDepth := 0
    sampleCount := 0
    windowStartUs := now }

def sample (q : QueueDepthMonitor) (currentDepth : ℕ) (now : UInt64) : QueueDepthMonitor :=
  let r := { q with
    lastDepth := currentDepth
    maxDepth := max currentDepth q.maxDepth
    sumDepth := q.sumDepth+UInt64.ofNat currentDepth
    sampleCount := q.sampleCount+1 }
  if windowEnds r.windowUs r.windowStartUs now then r.rotateWindow now else r

def maxDepthShown (q : QueueDepthMonitor) : ℕ :=
  if q.reportedSampleCount > 0 then q.reportedMaxDepth else q.maxDepth

def averageDepth (quotient : UInt64 → UInt64 → UInt32) (q : QueueDepthMonitor) : UInt32 :=
  if q.reportedSampleCount > 0 then
    average quotient q.reportedSumDepth q.reportedSampleCount.toUInt64
  else average quotient q.sumDepth q.sampleCount.toUInt64

/-- The window duration stays. -/
def reset (q : QueueDepthMonitor) : QueueDepthMonitor := { new with windowUs := q.windowUs }

@[simp] theorem sample_windowUs (q : QueueDepthMonitor) (currentDepth : ℕ) (now : UInt64) :
    (q.sample currentDepth now).windowUs = q.windowUs := by
  unfold sample
  dsimp only
  split <;> rfl

theorem reset_eq_new_iff (q : QueueDepthMonitor) : q.reset = new ↔ q.windowUs = kDefaultWindowUs := by
  simp [reset, new]

end QueueDepthMonitor

structure SchedulerHealthMetrics where
  gapUs : UInt64
  maxGap : UInt64
  ticks : UInt32
  overruns : UInt32
  deadlineMisses : UInt32
  windowUs : UInt64
  windowStartUs : UInt64
  reportedTotalGapUs : UInt64
  reportedMaxGapUs : UInt64
  reportedTickCount : UInt32
  deriving DecidableEq

namespace SchedulerHealthMetrics

def new : SchedulerHealthMetrics := ⟨0, 0, 0, 0, 0, kDefaultWindowUs, 0, 0, 0, 0⟩

def setMetricsWindowUs (m : SchedulerHealthMetrics) (windowUs : UInt64) : SchedulerHealthMetrics :=
  { m with windowUs := windowUs }

def rotateWindow (m : SchedulerHealthMetrics) (now : UInt64) : SchedulerHealthMetrics :=
  { m with
    reportedTotalGapUs := m.gapUs
    reportedMaxGapUs := m.maxGap
    reportedTickCount := m.ticks
    gapUs := 0
    maxGap := 0
    ticks := 0
    windowStartUs := now }

def recordGap (m : SchedulerHealthMetrics) (gapUs now : UInt64) : SchedulerHealthMetrics :=
  let r := { m with maxGap := max gapUs m.maxGap, gapUs := m.gapUs+gapUs, ticks := m.ticks+1 }
  if windowEnds r.windowUs r.windowStartUs now then r.rotateWindow now else r

/-- The members that `recordGap` writes, as they were read, among the others. -/
def withGaps (m read : SchedulerHealthMetrics) : SchedulerHealthMetrics :=
  { read with overruns := m.overruns, deadlineMisses := m.deadlineMisses, windowUs := m.windowUs }

def setAggregates (m : SchedulerHealthMetrics) (overruns misses : UInt32) :
    SchedulerHealthMetrics :=
  { m with overruns := overruns, deadlineMisses := misses }

def totalGapUs (m : SchedulerHealthMetrics) : UInt64 :=
  if m.reportedTickCount > 0 then m.reportedTotalGapUs else m.gapUs

def maxGapUs (m : SchedulerHealthMetrics) : UInt64 :=
  if m.reportedTickCount > 0 then m.reportedMaxGapUs else m.maxGap

def averageGapUs (quotient : UInt64 → UInt64 → UInt32) (m : SchedulerHealthMetrics) : UInt32 :=
  if m.reportedTickCount > 0 then
    average quotient m.reportedTotalGapUs m.reportedTickCount.toUInt64
  else average quotient m.gapUs m.ticks.toUInt64

def tickCount (m : SchedulerHealthMetrics) : UInt32 :=
  if m.reportedTickCount > 0 then m.reportedTickCount else m.ticks

def totalOverruns (m : SchedulerHealthMetrics) : UInt32 := m.overruns

def totalDeadlineMisses (m : SchedulerHealthMetrics) : UInt32 := m.deadlineMisses

/-- The window duration stays. -/
def reset (m : SchedulerHealthMetrics) : SchedulerHealthMetrics := { new with windowUs := m.windowUs }

@[simp] theorem recordGap_overruns (m : SchedulerHealthMetrics) (gapUs now : UInt64) :
    (m.recordGap gapUs now).overruns = m.overruns := by
  unfold recordGap
  dsimp only
  split <;> rfl

@[simp] theorem recordGap_deadlineMisses (m : SchedulerHealthMetrics) (gapUs now : UInt64) :
    (m.recordGap gapUs now).deadlineMisses = m.deadlineMisses := by
  unfold recordGap
  dsimp only
  split <;> rfl

@[simp] theorem recordGap_windowUs (m : SchedulerHealthMetrics) (gapUs now : UInt64) :
    (m.recordGap gapUs now).windowUs = m.windowUs := by
  unfold recordGap
  dsimp only
  split <;> rfl

theorem reset_eq_new_iff (m : SchedulerHealthMetrics) :
    m.reset = new ↔ m.windowUs = kDefaultWindowUs := by
  simp [reset, new]

end SchedulerHealthMetrics

structure MemoryProfiler where
  baselineFreeBytes : ℕ
  peakUsedBytes : ℕ
  deriving DecidableEq

namespace MemoryProfiler

/-- The library does not know the heap of the platform. -/
def getFreeHeapBytes : ℕ := 0

def new : MemoryProfiler := ⟨getFreeHeapBytes, 0⟩

def update (p : MemoryProfiler) : MemoryProfiler :=
  { p with peakUsedBytes := max (p.baselineFreeBytes-getFreeHeapBytes) p.peakUsedBytes }

def reset (_ : MemoryProfiler) : MemoryProfiler := new

theorem update_new : new.update = new := rfl

end MemoryProfiler

end SputterOS.Metrics
