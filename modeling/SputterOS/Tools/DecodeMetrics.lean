import SputterOS.Foundation.OffsetReader
import SputterOS.Comms.ResponseSerializer

/-!
# The host's view of a metrics payload

The command-line tool unpacks the payload field by field at a moving offset,
little-endian and without padding. A payload that is too short for its header
or for the records it announces gives no metrics. Floats are their bit
patterns.
-/

set_option autoImplicit false

namespace SputterOS.DecodeMetrics
open Foundation.OffsetReader SputterOS.ResponseSerializer

def METRICS_HEADER_SIZE : ℕ := 66
def METRICS_TASK_SIZE : ℕ := 26

structure TaskMetrics where
  task_index : ℕ
  core_id : ℕ
  last_us : ℕ
  min_us : ℕ
  max_us : ℕ
  avg_us : UInt32
  samples : ℕ
  overruns : ℕ
  misses : ℕ
  deriving DecidableEq

structure PerformanceMetrics where
  timestamp : ℕ
  core_count : ℕ
  core_utilization : List UInt32
  queue_depth : ℕ
  queue_max_depth : ℕ
  queue_avg_depth : UInt32
  peak_heap_used : ℕ
  free_heap : ℕ
  stack_high_water : ℕ
  total_gap_us : ℕ
  max_gap_us : ℕ
  avg_gap_us : UInt32
  scheduler_tick_count : ℕ
  total_overruns : ℕ
  total_deadline_misses : ℕ
  tasks : List TaskMetrics
  deriving DecidableEq

def float : Reader UInt32 := do
  let bits ← unsigned 4
  pure (UInt32.ofNat bits)

def task : Reader TaskMetrics := do
  let ti ← unsigned 1
  let ci ← unsigned 1
  let last ← unsigned 4
  let mn ← unsigned 4
  let mx ← unsigned 4
  let avg ← float
  let samples ← unsigned 4
  let ovr ← unsigned 2
  let mis ← unsigned 2
  pure { task_index := ti, core_id := ci, last_us := last, min_us := mn, max_us := mx,
         avg_us := avg, samples := samples, overruns := ovr, misses := mis }

/-- The body of `decode_metrics`; `none` is its `None`, and a failed read an exception. -/
def metrics : Reader (Option PerformanceMetrics) := do
  let len ← size
  if len < METRICS_HEADER_SIZE then pure none
  else
    let timestamp ← unsigned 8
    let core_count ← unsigned 1
    let core_util ← times float 4
    let queue_depth ← unsigned 2
    let queue_max_depth ← unsigned 2
    let queue_avg_depth ← float
    let peak_heap ← unsigned 4
    let free_heap ← unsigned 4
    let stack_hw ← unsigned 4
    let total_gap ← unsigned 4
    let max_gap ← unsigned 4
    let avg_gap ← float
    let tick_count ← unsigned 4
    let total_overruns ← unsigned 2
    let total_misses ← unsigned 2
    let task_count ← unsigned 1
    if len < METRICS_HEADER_SIZE+task_count*METRICS_TASK_SIZE then pure none
    else
      let tasks ← times task task_count
      pure (some
        { timestamp := timestamp, core_count := core_count, core_utilization := core_util,
          queue_depth := queue_depth, queue_max_depth := queue_max_depth,
          queue_avg_depth := queue_avg_depth, peak_heap_used := peak_heap, free_heap := free_heap,
          stack_high_water := stack_hw, total_gap_us := total_gap, max_gap_us := max_gap,
          avg_gap_us := avg_gap, scheduler_tick_count := tick_count,
          total_overruns := total_overruns, total_deadline_misses := total_misses,
          tasks := tasks })

def decode_metrics (payload : List UInt8) : Option (Option PerformanceMetrics × ℕ) :=
  metrics payload 0

structure TaskFits (ts : TaskSnapshot) : Prop where
  taskIndex : ts.taskIndex < 2^8
  coreId : ts.coreId < 2^8
  lastUs : ts.lastUs < 2^32
  minUs : ts.minUs < 2^32
  maxUs : ts.maxUs < 2^32
  samples : ts.samples < 2^32
  overruns : ts.overruns < 2^16
  misses : ts.misses < 2^16

structure SnapshotFits (snap : PerformanceSnapshot) : Prop where
  timestamp : snap.timestamp < 2^64
  coreCount : snap.coreCount < 2^8
  queueDepth : snap.queueDepth < 2^16
  queueMaxDepth : snap.queueMaxDepth < 2^16
  peakHeapUsed : snap.peakHeapUsed < 2^32
  freeHeap : snap.freeHeap < 2^32
  stackHighWater : snap.stackHighWater < 2^32
  totalGapUs : snap.totalGapUs < 2^32
  maxGapUs : snap.maxGapUs < 2^32
  schedulerTickCount : snap.schedulerTickCount < 2^32
  totalOverruns : snap.totalOverruns < 2^16
  totalDeadlineMisses : snap.totalDeadlineMisses < 2^16
  tasks : ∀ t, t < snap.taskCount → TaskFits (snap.tasks t)

def received (ts : TaskSnapshot) : TaskMetrics :=
  { task_index := ts.taskIndex, core_id := ts.coreId, last_us := ts.lastUs, min_us := ts.minUs,
    max_us := ts.maxUs, avg_us := ts.avgUs, samples := ts.samples, overruns := ts.overruns,
    misses := ts.misses }

def receivedMetrics (snap : PerformanceSnapshot) : PerformanceMetrics :=
  { timestamp := snap.timestamp, core_count := snap.coreCount,
    core_utilization := (List.range kMaxSnapshotCores).map snap.coreUtilization,
    queue_depth := snap.queueDepth, queue_max_depth := snap.queueMaxDepth,
    queue_avg_depth := snap.queueAvgDepth, peak_heap_used := snap.peakHeapUsed,
    free_heap := snap.freeHeap, stack_high_water := snap.stackHighWater,
    total_gap_us := snap.totalGapUs, max_gap_us := snap.maxGapUs, avg_gap_us := snap.avgGapUs,
    scheduler_tick_count := snap.schedulerTickCount, total_overruns := snap.totalOverruns,
    total_deadline_misses := snap.totalDeadlineMisses,
    tasks := (List.range snap.taskCount).map (fun t => received (snap.tasks t)) }

theorem leNat_leBytes (width n : ℕ) (h : n < 256^width) : leNat (leBytes width n) = n := by
  induction width generalizing n with
  | zero =>
    rw [Nat.pow_zero] at h
    show 0 = n
    omega
  | succ width ih =>
    have hrest : n >>> 8 < 256^width := by
      rw [Nat.shiftRight_eq_div_pow]
      apply Nat.div_lt_of_lt_mul
      rw [Nat.pow_succ, Nat.mul_comm] at h
      exact h
    have hlow : (UInt8.ofNat n).toNat = n % 256 := UInt8.toNat_ofNat'
    rw [leBytes, leNat, ih _ hrest, hlow, Nat.shiftRight_eq_div_pow]
    omega

section Fields

variable {buf : List UInt8}

theorem unsigned_leBytes {width n : ℕ} (h : n < 256^width) :
    Decodes buf (unsigned width) (leBytes width n) n :=
  Decodes.unsigned (leBytes_length width n) (leNat_leBytes width n h)

theorem float_leBytes (bits : UInt32) : Decodes buf float (leBytes 4 bits.toNat) bits := by
  have hlt : bits.toNat < 256^4 := bits.toNat_lt
  have h : Decodes buf float (leBytes 4 bits.toNat) (UInt32.ofNat bits.toNat) :=
    (unsigned_leBytes hlt).map UInt32.ofNat
  rwa [UInt32.ofNat_toNat] at h

theorem task_metricsTask (ts : TaskSnapshot) (h : TaskFits ts) :
    Decodes buf task (metricsTask ts) (received ts) := by
  unfold task metricsTask
  simp only [List.append_assoc]
  refine (unsigned_leBytes h.taskIndex).bind ?_
  refine (unsigned_leBytes h.coreId).bind ?_
  refine (unsigned_leBytes h.lastUs).bind ?_
  refine (unsigned_leBytes h.minUs).bind ?_
  refine (unsigned_leBytes h.maxUs).bind ?_
  refine (float_leBytes ts.avgUs).bind ?_
  refine (unsigned_leBytes h.samples).bind ?_
  refine (unsigned_leBytes h.overruns).bind ?_
  exact (unsigned_leBytes h.misses).map _

end Fields

theorem metrics_payload (snap : PerformanceSnapshot) (h : SnapshotFits snap)
    (hcount : snap.taskCount < 2^8) (payload : List UInt8)
    (hpayload : payload = metricsHeader snap ++
      (List.range snap.taskCount).flatMap (fun t => metricsTask (snap.tasks t))) :
    Decodes payload metrics payload (some (receivedMetrics snap)) := by
  have hlen : payload.length = METRICS_HEADER_SIZE+snap.taskCount*METRICS_TASK_SIZE := by
    rw [hpayload, List.length_append, metricsHeader_length, metricsTasks_length]
    rfl
  have hheader : ¬ payload.length < METRICS_HEADER_SIZE := by omega
  have hrecords : ¬ payload.length < METRICS_HEADER_SIZE+snap.taskCount*METRICS_TASK_SIZE := by
    omega
  have hbytes : Decodes payload metrics ([] ++ (metricsHeader snap ++
      (List.range snap.taskCount).flatMap (fun t => metricsTask (snap.tasks t))))
      (some (receivedMetrics snap)) := by
    unfold metrics metricsHeader
    simp only [List.append_assoc]
    refine Decodes.size.bind ?_
    rw [if_neg hheader]
    refine (unsigned_leBytes h.timestamp).bind ?_
    refine (unsigned_leBytes h.coreCount).bind ?_
    refine (Decodes.times kMaxSnapshotCores (fun i _ => float_leBytes _)).bind ?_
    refine (unsigned_leBytes h.queueDepth).bind ?_
    refine (unsigned_leBytes h.queueMaxDepth).bind ?_
    refine (float_leBytes snap.queueAvgDepth).bind ?_
    refine (unsigned_leBytes h.peakHeapUsed).bind ?_
    refine (unsigned_leBytes h.freeHeap).bind ?_
    refine (unsigned_leBytes h.stackHighWater).bind ?_
    refine (unsigned_leBytes h.totalGapUs).bind ?_
    refine (unsigned_leBytes h.maxGapUs).bind ?_
    refine (float_leBytes snap.avgGapUs).bind ?_
    refine (unsigned_leBytes h.schedulerTickCount).bind ?_
    refine (unsigned_leBytes h.totalOverruns).bind ?_
    refine (unsigned_leBytes h.totalDeadlineMisses).bind ?_
    refine (unsigned_leBytes hcount).bind ?_
    rw [if_neg hrecords]
    exact (Decodes.times snap.taskCount
      (fun t ht => task_metricsTask (snap.tasks t) (h.tasks t ht))).map _
  rwa [List.nil_append, ← hpayload] at hbytes

/-- The host decodes what the device serializes, field by field, and reads
exactly the bytes that were written. -/
theorem metrics_round_trip (snap : PerformanceSnapshot) (outCap : ℕ)
    (hcount : snap.taskCount ≤ kMaxSnapshotTasks) (h : SnapshotFits snap)
    (hcap : kMetricsHeaderSize+snap.taskCount*kMetricsTaskSize ≤ outCap) :
    decode_metrics (serializeMetrics snap outCap) =
      some (some (receivedMetrics snap), (serializeMetrics snap outCap).length) ∧
    (serializeMetrics snap outCap).length = kMetricsHeaderSize+snap.taskCount*kMetricsTaskSize := by
  have hser : serializeMetrics snap outCap = metricsHeader snap ++
      (List.range snap.taskCount).flatMap (fun t => metricsTask (snap.tasks t)) :=
    if_neg (Nat.not_lt.mpr hcap)
  have hbyte : snap.taskCount < 2^8 := by
    simp only [kMaxSnapshotTasks] at hcount
    omega
  have hdec := metrics_payload snap h hbyte _ hser
  constructor
  · have hempty := hdec [] [] (by simp)
    simpa [decode_metrics] using hempty
  · rw [hser, List.length_append, metricsHeader_length, metricsTasks_length]

def busyTask (taskIndex : ℕ) : TaskSnapshot :=
  { taskIndex := taskIndex, coreId := 1, lastUs := 70000, minUs := 3, maxUs := 80000,
    avgUs := 0x42C80000, samples := 300, overruns := 2, misses := 1 }

def busySnapshot : PerformanceSnapshot :=
  { timestamp := 5000000000, coreCount := 2, coreUtilization := fun _ => 0x3F000000,
    queueDepth := 4, queueMaxDepth := 300, queueAvgDepth := 0x40000000, peakHeapUsed := 65536,
    freeHeap := 1024, stackHighWater := 2048, totalGapUs := 123456, maxGapUs := 99,
    avgGapUs := 0x41200000, schedulerTickCount := 70000, totalOverruns := 4,
    totalDeadlineMisses := 2, taskCount := 2, tasks := busyTask }

theorem metrics_round_trip_busy :
    busySnapshot.taskCount ≤ kMaxSnapshotTasks ∧
    decode_metrics (serializeMetrics busySnapshot 482) =
      some (some (receivedMetrics busySnapshot), 118) := by
  have hfits : SnapshotFits busySnapshot := by
    constructor <;> try decide
    intro t ht
    have ht : t < 2 := ht
    constructor <;> simp [busySnapshot, busyTask]
    omega
  obtain ⟨hdec, hlen⟩ := metrics_round_trip busySnapshot 482 (by decide) hfits (by decide)
  rw [hlen] at hdec
  exact ⟨by decide, hdec⟩

end SputterOS.DecodeMetrics
