import SputterOS.Comms.Crc16

/-!
# Payloads of outgoing frames

Every serializer fills a buffer of a given capacity and returns the bytes it
wrote; nothing is written when they do not fit. Fields are stored low byte
first. Floats are their bit patterns.
-/

set_option autoImplicit false

namespace SputterOS.ResponseSerializer

def kProtocolVersion : ℕ := 1

/-- "SPOS" in ASCII. -/
def kHandshakeMagic : UInt32 := 0x53504F53

def leBytes : ℕ → ℕ → List UInt8
  | 0, _ => []
  | width+1, n => UInt8.ofNat n :: leBytes width (n >>> 8)

def serializeAck (cmdId : UInt8) (outCap : ℕ) : List UInt8 :=
  if outCap < 1 then [] else [cmdId]

def serializeNack (cmdId targetDevice : UInt8) (value : UInt32) (outCap : ℕ) : List UInt8 :=
  if outCap < 6 then [] else cmdId :: targetDevice :: leBytes 4 value.toNat

def serializeHandshakeResp (outCap : ℕ) : List UInt8 :=
  if outCap < 6 then [] else leBytes 2 kProtocolVersion ++ leBytes 4 kHandshakeMagic.toNat

/-- A string is given by its characters. -/
def serializeLog (level : UInt8) (text : List UInt8) (outCap : ℕ) : List UInt8 :=
  if outCap < 1+text.length then [] else level :: text

section Metrics

structure TaskSnapshot where
  taskIndex : ℕ
  coreId : ℕ
  lastUs : ℕ
  minUs : ℕ
  maxUs : ℕ
  avgUs : UInt32
  samples : ℕ
  overruns : ℕ
  misses : ℕ

def kMaxSnapshotTasks : ℕ := 16
def kMaxSnapshotCores : ℕ := 4

/-- The fields that are sent; arrays are read by index. -/
structure PerformanceSnapshot where
  timestamp : ℕ
  coreCount : ℕ
  coreUtilization : ℕ → UInt32
  queueDepth : ℕ
  queueMaxDepth : ℕ
  queueAvgDepth : UInt32
  peakHeapUsed : ℕ
  freeHeap : ℕ
  stackHighWater : ℕ
  totalGapUs : ℕ
  maxGapUs : ℕ
  avgGapUs : UInt32
  schedulerTickCount : ℕ
  totalOverruns : ℕ
  totalDeadlineMisses : ℕ
  taskCount : ℕ
  tasks : ℕ → TaskSnapshot

def kMetricsHeaderSize : ℕ := 66
def kMetricsTaskSize : ℕ := 26

def metricsHeader (snap : PerformanceSnapshot) : List UInt8 :=
  leBytes 8 snap.timestamp ++ leBytes 1 snap.coreCount ++
  (List.range kMaxSnapshotCores).flatMap (fun i => leBytes 4 (snap.coreUtilization i).toNat) ++
  leBytes 2 snap.queueDepth ++ leBytes 2 snap.queueMaxDepth ++
  leBytes 4 snap.queueAvgDepth.toNat ++ leBytes 4 snap.peakHeapUsed ++
  leBytes 4 snap.freeHeap ++ leBytes 4 snap.stackHighWater ++
  leBytes 4 snap.totalGapUs ++ leBytes 4 snap.maxGapUs ++ leBytes 4 snap.avgGapUs.toNat ++
  leBytes 4 snap.schedulerTickCount ++ leBytes 2 snap.totalOverruns ++
  leBytes 2 snap.totalDeadlineMisses ++ leBytes 1 snap.taskCount

def metricsTask (ts : TaskSnapshot) : List UInt8 :=
  leBytes 1 ts.taskIndex ++ leBytes 1 ts.coreId ++ leBytes 4 ts.lastUs ++ leBytes 4 ts.minUs ++
  leBytes 4 ts.maxUs ++ leBytes 4 ts.avgUs.toNat ++ leBytes 4 ts.samples ++
  leBytes 2 ts.overruns ++ leBytes 2 ts.misses

def serializeMetrics (snap : PerformanceSnapshot) (outCap : ℕ) : List UInt8 :=
  if outCap < kMetricsHeaderSize+snap.taskCount*kMetricsTaskSize then []
  else metricsHeader snap ++ (List.range snap.taskCount).flatMap (fun t => metricsTask (snap.tasks t))

end Metrics

theorem leBytes_length (width n : ℕ) : (leBytes width n).length = width := by
  induction width generalizing n with
  | zero => rfl
  | succ width ih => simp [leBytes, ih]

theorem metricsHeader_length (snap : PerformanceSnapshot) :
    (metricsHeader snap).length = kMetricsHeaderSize := by
  simp [metricsHeader, leBytes_length, kMaxSnapshotCores, kMetricsHeaderSize, List.length_flatMap,
    List.map_const']

theorem metricsTask_length (ts : TaskSnapshot) : (metricsTask ts).length = kMetricsTaskSize := by
  simp [metricsTask, leBytes_length, kMetricsTaskSize]

theorem metricsTasks_length (n : ℕ) (tasks : ℕ → TaskSnapshot) :
    ((List.range n).flatMap (fun t => metricsTask (tasks t))).length = n*kMetricsTaskSize := by
  simp [List.length_flatMap, metricsTask_length, List.map_const']

end SputterOS.ResponseSerializer
