import SputterOS.Foundation.TruncatedText
import SputterOS.Comms.ResponseSerializer
import SputterOS.Kernel.Metrics
import SputterOS.Utils.LightweightStringBuilder

/-!
# The performance formatter

A snapshot is written as lines `key=value` or as comma separated rows, by appends
that stop in front of the last byte of the buffer. Each append may be the one that
is cut. The buffer holds the longest prefix of the whole text that fits, and a null.
-/

set_option autoImplicit false

namespace SputterOS.PerformanceFormatter
open Foundation.NumberText (ascii decimal decimal_digit decimal_digits)
open Foundation.TruncatedText
open SputterOS.ResponseSerializer
open SputterOS.Metrics (kHistogramBuckets)
open SputterOS.Utils (digitsLow digitsLow_length digitsLow_decimal)

section Appends

def copy (pos bufLen : ℕ) : List UInt8 → Cells UInt8 → ℕ → Cells UInt8 × ℕ
  | [], buf, written => (buf, written)
  | c::cs, buf, written =>
    if pos+written+1 < bufLen then
      copy pos bufLen cs (Function.update buf (pos+written) (some c)) (written+1)
    else (buf, written)

/-- A string is given by its characters before the null. -/
def appendStr (buf : Cells UInt8) (pos bufLen : ℕ) (str : List UInt8) : Cells UInt8 × ℕ :=
  copy pos bufLen str buf 0

def appendChar (buf : Cells UInt8) (pos bufLen : ℕ) (c : UInt8) : Cells UInt8 × ℕ :=
  if pos+1 < bufLen then (Function.update buf pos (some c), 1) else (buf, 0)

def tmpDigits (val : ℕ) : List UInt8 :=
  if val = 0 then [] else UInt8.ofNat (0x30+val%10) :: tmpDigits (val/10)

def appendU64 (buf : Cells UInt8) (pos bufLen : ℕ) (val : UInt64) : Cells UInt8 × ℕ :=
  let tmp := if val = 0 then [0x30] else tmpDigits val.toNat
  copy pos bufLen tmp.reverse buf 0

def appendU32 (buf : Cells UInt8) (pos bufLen : ℕ) (val : UInt32) : Cells UInt8 × ℕ :=
  appendU64 buf pos bufLen val.toUInt64

/-- One `pos += append…(buf, pos, bufLen, …)`. -/
inductive Part where
  | str (str : List UInt8)
  | char (c : UInt8)
  | u64 (val : UInt64)
  | u32 (val : UInt32)

def append (buf : Cells UInt8) (pos bufLen : ℕ) : Part → Cells UInt8 × ℕ
  | .str str => appendStr buf pos bufLen str
  | .char c => appendChar buf pos bufLen c
  | .u64 val => appendU64 buf pos bufLen val
  | .u32 val => appendU32 buf pos bufLen val

def appendAll (bufLen : ℕ) : List Part → Cells UInt8 → ℕ → Cells UInt8 × ℕ
  | [], buf, pos => (buf, pos)
  | a::appends, buf, pos =>
    let r := append buf pos bufLen a
    appendAll bufLen appends r.1 (pos+r.2)

/-- What the float arithmetic makes of a value that is not negative: its integer part,
and the thousandths before they are limited. Values are bit patterns. -/
structure FloatDigits where
  intPart : UInt32 → UInt32
  fracInt : UInt32 → UInt32

/-- `val < 0.0f`, which a negative zero and a NaN are not. -/
def negative (val : UInt32) : Bool := 0x80000000 < val && val ≤ 0xFF800000

def magnitude (val : UInt32) : UInt32 := if negative val then val ^^^ 0x80000000 else val

def thousandths (digits : FloatDigits) (val : UInt32) : UInt32 :=
  if 1000 ≤ digits.fracInt (magnitude val) then 999 else digits.fracInt (magnitude val)

/-- The appends of `appendFloat`; its caller adds to `pos` what they write together. -/
def appendFloat (digits : FloatDigits) (val : UInt32) : List Part :=
  List.flatten
    [if negative val then [.char 0x2D] else [],
      [.u32 (digits.intPart (magnitude val)), .char 0x2E],
      if thousandths digits val < 100 then [.char 0x30] else [],
      if thousandths digits val < 10 then [.char 0x30] else [],
      [.u32 (thousandths digits val)]]

end Appends

section Formats

structure Snapshot extends PerformanceSnapshot where
  histogram : ℕ → ℕ → UInt32

def key (name : String) : List UInt8 := ascii name ++ [0x3D]

def kvU64 (name : String) (val : ℕ) : List Part :=
  [.str (key name), .u64 (UInt64.ofNat val), .char 0x0A]

def kvU32 (name : String) (val : ℕ) : List Part :=
  [.str (key name), .u32 (UInt32.ofNat val), .char 0x0A]

def kvFloat (digits : FloatDigits) (name : String) (val : UInt32) : List Part :=
  List.flatten [[.str (key name)], appendFloat digits val, [.char 0x0A]]

def kvCore (digits : FloatDigits) (snap : Snapshot) (c : ℕ) : List Part :=
  List.flatten
    [[.str (ascii "core"), .u32 (UInt32.ofNat c), .str (key "_util")],
      appendFloat digits (snap.coreUtilization c), [.char 0x0A]]

def taskPrefix (i : ℕ) : List UInt8 :=
  [0x74] ++ (if 10 ≤ i then [UInt8.ofNat (0x30+i/10)] else []) ++ [UInt8.ofNat (0x30+i%10), 0x5F]

def kvHistogram (snap : Snapshot) (i : ℕ) : List Part :=
  (List.range kHistogramBuckets).flatMap fun b =>
    List.flatten [if 0 < b then [.char 0x2C] else [], [.u32 (snap.histogram i b)]]

def kvTaskLine (i : ℕ) (name : String) (value : List Part) : List Part :=
  List.flatten [[.str (taskPrefix i), .str (key name)], value, [.char 0x0A]]

def kvTask (digits : FloatDigits) (snap : Snapshot) (i : ℕ) : List Part :=
  let t := snap.tasks i
  List.flatten
    [kvTaskLine i "core" [.u32 (UInt32.ofNat t.coreId)],
      kvTaskLine i "last" [.u64 (UInt64.ofNat t.lastUs)],
      kvTaskLine i "min" [.u64 (UInt64.ofNat t.minUs)],
      kvTaskLine i "max" [.u64 (UInt64.ofNat t.maxUs)],
      kvTaskLine i "avg" (appendFloat digits t.avgUs),
      kvTaskLine i "samples" [.u32 (UInt32.ofNat t.samples)],
      kvTaskLine i "overruns" [.u32 (UInt32.ofNat t.overruns)],
      kvTaskLine i "misses" [.u32 (UInt32.ofNat t.misses)],
      kvTaskLine i "hist" (kvHistogram snap i)]

def keyValue (digits : FloatDigits) (snap : Snapshot) : List Part :=
  List.flatten
    [kvU64 "timestamp" snap.timestamp, kvU32 "cores" snap.coreCount,
      (List.range (min snap.coreCount kMaxSnapshotCores)).flatMap (kvCore digits snap),
      kvU64 "queue_depth" snap.queueDepth, kvU64 "queue_max" snap.queueMaxDepth,
      kvFloat digits "queue_avg" snap.queueAvgDepth,
      kvU64 "heap_peak" snap.peakHeapUsed, kvU64 "heap_free" snap.freeHeap,
      kvU64 "stack_hw" snap.stackHighWater,
      kvU64 "gap_total" snap.totalGapUs, kvU64 "gap_max" snap.maxGapUs,
      kvFloat digits "gap_avg" snap.avgGapUs, kvU32 "sched_ticks" snap.schedulerTickCount,
      kvU32 "overruns" snap.totalOverruns, kvU32 "deadline_misses" snap.totalDeadlineMisses,
      kvU32 "task_count" snap.taskCount,
      (List.range (min snap.taskCount kMaxSnapshotTasks)).flatMap (kvTask digits snap)]

def csvHeader : List Part :=
  [.str (ascii "timestamp,cores,queue_depth,queue_max,queue_avg," ++
    ascii "heap_peak,heap_free,stack_hw," ++
    ascii "gap_total,gap_max,gap_avg,sched_ticks,overruns,deadline_misses\n")]

def comma : Part := .char 0x2C

def csvSystem (digits : FloatDigits) (snap : Snapshot) : List Part :=
  List.flatten
    [[.u64 (UInt64.ofNat snap.timestamp), comma, .u32 (UInt32.ofNat snap.coreCount), comma,
        .u64 (UInt64.ofNat snap.queueDepth), comma, .u64 (UInt64.ofNat snap.queueMaxDepth), comma],
      appendFloat digits snap.queueAvgDepth,
      [comma, .u64 (UInt64.ofNat snap.peakHeapUsed), comma, .u64 (UInt64.ofNat snap.freeHeap),
        comma, .u64 (UInt64.ofNat snap.stackHighWater), comma,
        .u64 (UInt64.ofNat snap.totalGapUs), comma, .u64 (UInt64.ofNat snap.maxGapUs), comma],
      appendFloat digits snap.avgGapUs,
      [comma, .u32 (UInt32.ofNat snap.schedulerTickCount), comma,
        .u32 (UInt32.ofNat snap.totalOverruns), comma,
        .u32 (UInt32.ofNat snap.totalDeadlineMisses), .char 0x0A]]

def csvTaskHeader : List Part :=
  List.flatten
    [[.str (ascii "task_idx,core,last,min,max,avg,samples,overruns,misses")],
      (List.range kHistogramBuckets).flatMap fun b => [.str (ascii ",h"), .u32 (UInt32.ofNat b)],
      [.char 0x0A]]

def csvTask (digits : FloatDigits) (snap : Snapshot) (i : ℕ) : List Part :=
  let t := snap.tasks i
  List.flatten
    [[.u32 (UInt32.ofNat t.taskIndex), comma, .u32 (UInt32.ofNat t.coreId), comma,
        .u64 (UInt64.ofNat t.lastUs), comma, .u64 (UInt64.ofNat t.minUs), comma,
        .u64 (UInt64.ofNat t.maxUs), comma],
      appendFloat digits t.avgUs,
      [comma, .u32 (UInt32.ofNat t.samples), comma, .u32 (UInt32.ofNat t.overruns), comma,
        .u32 (UInt32.ofNat t.misses)],
      (List.range kHistogramBuckets).flatMap fun b => [comma, .u32 (snap.histogram i b)],
      [.char 0x0A]]

def csv (digits : FloatDigits) (snap : Snapshot) : List Part :=
  List.flatten
    [csvHeader, csvSystem digits snap, csvTaskHeader,
      (List.range (min snap.taskCount kMaxSnapshotTasks)).flatMap (csvTask digits snap)]

def terminate (bufLen : ℕ) (r : Cells UInt8 × ℕ) : Cells UInt8 × ℕ :=
  if r.2 < bufLen then (Function.update r.1 r.2 (some 0), r.2)
  else if 0 < bufLen then (Function.update r.1 (bufLen-1) (some 0), r.2)
  else r

/-- The cells written and the result; `buf` tells whether a buffer is given. -/
def format (appends : List Part) (buf : Bool) (bufLen : ℕ) : Cells UInt8 × ℕ :=
  if buf = false ∨ bufLen < 2 then (fun _ => none, 0)
  else terminate bufLen (appendAll bufLen appends (fun _ => none) 0)

def formatKeyValue (digits : FloatDigits) (snap : Snapshot) (buf : Bool) (bufLen : ℕ) :
    Cells UInt8 × ℕ := format (keyValue digits snap) buf bufLen

def formatCSV (digits : FloatDigits) (snap : Snapshot) (buf : Bool) (bufLen : ℕ) :
    Cells UInt8 × ℕ := format (csv digits snap) buf bufLen

end Formats

section Cuts

theorem copy_store (pos bufLen : ℕ) (cs : List UInt8) (buf : Cells UInt8) (written : ℕ) :
    ((copy pos bufLen cs buf written).1, pos+(copy pos bufLen cs buf written).2) =
      store (bufLen-1) cs buf (pos+written) := by
  induction cs generalizing buf written with
  | nil => rfl
  | cons c cs ih =>
    unfold copy store
    by_cases hroom : pos+written+1 < bufLen
    · rw [if_pos hroom, if_pos (by omega), ih, Nat.add_assoc]
    · rw [if_neg hroom, if_neg (by omega)]

theorem tmpDigits_low (tmpLen val : ℕ) (h : val < 10^tmpLen) :
    tmpDigits val = digitsLow tmpLen val := by
  induction tmpLen generalizing val with
  | zero =>
    obtain rfl : val = 0 := by simpa using h
    rw [tmpDigits, if_pos rfl, digitsLow]
  | succ tmpLen ih =>
    rw [tmpDigits, digitsLow, ih (val/10) (by rw [pow_succ] at h; omega)]

/-- Twenty digits are enough; `tmp` has room for 21 characters. -/
theorem tmpDigits_length (val : UInt64) : (tmpDigits val.toNat).length ≤ 20 := by
  rw [tmpDigits_low 20 val.toNat (Nat.lt_trans val.toNat_lt (by decide))]
  exact digitsLow_length 20 _

theorem tmp_decimal (val : UInt64) :
    (if val = 0 then [0x30] else tmpDigits val.toNat).reverse = decimal val.toNat := by
  split_ifs with hzero
  · rw [hzero, decimal_digit _ (by decide)]
    rfl
  · have hne : val.toNat ≠ 0 := fun h => hzero (UInt64.toNat_inj.mp h)
    have hlt : val.toNat < 10^20 := Nat.lt_trans val.toNat_lt (by decide)
    rw [tmpDigits_low 20 _ hlt, digitsLow_decimal 20 _ hlt, if_neg hne]

def Part.text : Part → List UInt8
  | .str s => s
  | .char c => [c]
  | .u64 val => decimal val.toNat
  | .u32 val => decimal val.toNat

def rendered (appends : List Part) : List UInt8 := appends.flatMap Part.text

theorem rendered_nil : rendered [] = [] := rfl

theorem rendered_cons (a : Part) (as : List Part) :
    rendered (a::as) = a.text ++ rendered as := rfl

theorem rendered_append (as bs : List Part) :
    rendered (as ++ bs) = rendered as ++ rendered bs := List.flatMap_append

theorem rendered_flatMap {ι : Type*} (f : ι → List Part) (is : List ι) :
    rendered (is.flatMap f) = is.flatMap fun i => rendered (f i) := List.flatMap_assoc

theorem append_copy (buf : Cells UInt8) (pos bufLen : ℕ) (a : Part) :
    append buf pos bufLen a = copy pos bufLen a.text buf 0 := by
  cases a with
  | str str => rfl
  | char c => simp [append, appendChar, Part.text, copy]
  | u64 val => rw [append, appendU64, tmp_decimal, Part.text]
  | u32 val =>
    rw [append, appendU32, appendU64, tmp_decimal, Part.text, UInt32.toNat_toUInt64]

theorem append_holds (bufLen : ℕ) (text : List UInt8) (buf : Cells UInt8) (pos : ℕ) (a : Part)
    (h : Holds (bufLen-1) text buf pos) :
    Holds (bufLen-1) (text ++ a.text) (append buf pos bufLen a).1
      (pos+(append buf pos bufLen a).2) := by
  have hcopy := copy_store pos bufLen a.text buf 0
  have hstored := h.stored a.text
  rw [Nat.add_zero] at hcopy
  rw [← hcopy] at hstored
  rwa [append_copy]

theorem appendAll_holds (bufLen : ℕ) (appends : List Part) (text : List UInt8)
    (buf : Cells UInt8) (pos : ℕ) (h : Holds (bufLen-1) text buf pos) :
    Holds (bufLen-1) (text ++ rendered appends) (appendAll bufLen appends buf pos).1
      (appendAll bufLen appends buf pos).2 := by
  induction appends generalizing text buf pos with
  | nil => simpa [appendAll, rendered] using h
  | cons a appends ih =>
    have hrest := ih _ _ _ (append_holds bufLen text buf pos a h)
    rwa [List.append_assoc] at hrest

/-- The buffer holds the longest prefix of a text that fits in front of a null, the
result counts it, and nothing is written beyond the buffer. -/
structure Truncated (text : List UInt8) (bufLen : ℕ) (r : Cells UInt8 × ℕ) : Prop
    extends Terminated 0 (bufLen-1) text r.1 r.2 where
  inside : ∀ i, bufLen ≤ i → r.1 i = none

theorem Truncated.whole {text : List UInt8} {bufLen : ℕ} {r : Cells UInt8 × ℕ}
    (h : Truncated text bufLen r) (hlong : text.length < bufLen) :
    r.2 = text.length ∧ ∀ i, r.1 i = (text ++ [0])[i]? := by
  have hlength : r.2 = text.length := by
    have hlen := h.length
    omega
  refine ⟨hlength, fun i => ?_⟩
  rcases Nat.lt_trichotomy i r.2 with hlt | heq | hgt
  · rw [h.chars i hlt, List.getElem?_append_left (by omega)]
  · rw [heq, h.terminator, hlength, List.getElem?_concat_length]
  · rw [h.free i hgt, List.getElem?_eq_none (by rw [List.length_append, List.length_singleton]; omega)]

theorem format_truncated (appends : List Part) (bufLen : ℕ) (h : 2 ≤ bufLen) :
    Truncated (rendered appends) bufLen (format appends true bufLen) := by
  have hholds := appendAll_holds bufLen appends [] _ 0 (holds_nil (bufLen-1))
  rw [List.nil_append] at hholds
  have hlen := hholds.length_le
  have hgiven : ¬ (true = false ∨ bufLen < 2) := by
    rintro (hnull | hshort)
    · cases hnull
    · omega
  rw [format, if_neg hgiven, terminate, if_pos (by omega)]
  have hterminated := hholds.terminated 0
  refine ⟨hterminated, fun i hi => hterminated.free i ?_⟩
  show (appendAll bufLen appends (fun _ => none) 0).2 < i
  omega

end Cuts

section Texts

def number64 (val : ℕ) : List UInt8 := decimal (val % 2^64)
def number32 (val : ℕ) : List UInt8 := decimal (val % 2^32)

def threeDigits (n : ℕ) : List UInt8 :=
  [UInt8.ofNat (0x30+n/100), UInt8.ofNat (0x30+n/10%10), UInt8.ofNat (0x30+n%10)]

def fixedPoint (digits : FloatDigits) (val : UInt32) : List UInt8 :=
  (if negative val then [0x2D] else []) ++ decimal (digits.intPart (magnitude val)).toNat ++
  [0x2E] ++ threeDigits (min (digits.fracInt (magnitude val)).toNat 999)

def line (name value : List UInt8) : List UInt8 := name ++ [0x3D] ++ value ++ [0x0A]

def coreLine (digits : FloatDigits) (snap : Snapshot) (c : ℕ) : List UInt8 :=
  line (ascii "core" ++ decimal c ++ ascii "_util") (fixedPoint digits (snap.coreUtilization c))

def taskLines (digits : FloatDigits) (snap : Snapshot) (i : ℕ) : List UInt8 :=
  let t := snap.tasks i
  let taskLine (name : String) := line ([0x74] ++ decimal i ++ [0x5F] ++ ascii name)
  List.flatten
    [taskLine "core" (number32 t.coreId), taskLine "last" (number64 t.lastUs),
      taskLine "min" (number64 t.minUs), taskLine "max" (number64 t.maxUs),
      taskLine "avg" (fixedPoint digits t.avgUs), taskLine "samples" (number32 t.samples),
      taskLine "overruns" (number32 t.overruns), taskLine "misses" (number32 t.misses),
      taskLine "hist" ([0x2C].intercalate
        ((List.range kHistogramBuckets).map fun b => decimal (snap.histogram i b).toNat))]

def keyValueText (digits : FloatDigits) (snap : Snapshot) : List UInt8 :=
  List.flatten
    [line (ascii "timestamp") (number64 snap.timestamp),
      line (ascii "cores") (number32 snap.coreCount),
      (List.range (min snap.coreCount kMaxSnapshotCores)).flatMap (coreLine digits snap),
      line (ascii "queue_depth") (number64 snap.queueDepth),
      line (ascii "queue_max") (number64 snap.queueMaxDepth),
      line (ascii "queue_avg") (fixedPoint digits snap.queueAvgDepth),
      line (ascii "heap_peak") (number64 snap.peakHeapUsed),
      line (ascii "heap_free") (number64 snap.freeHeap),
      line (ascii "stack_hw") (number64 snap.stackHighWater),
      line (ascii "gap_total") (number64 snap.totalGapUs),
      line (ascii "gap_max") (number64 snap.maxGapUs),
      line (ascii "gap_avg") (fixedPoint digits snap.avgGapUs),
      line (ascii "sched_ticks") (number32 snap.schedulerTickCount),
      line (ascii "overruns") (number32 snap.totalOverruns),
      line (ascii "deadline_misses") (number32 snap.totalDeadlineMisses),
      line (ascii "task_count") (number32 snap.taskCount),
      (List.range (min snap.taskCount kMaxSnapshotTasks)).flatMap (taskLines digits snap)]

def row (fields : List (List UInt8)) : List UInt8 := [0x2C].intercalate fields ++ [0x0A]

def systemNames : List (List UInt8) :=
  ["timestamp", "cores", "queue_depth", "queue_max", "queue_avg", "heap_peak", "heap_free",
    "stack_hw", "gap_total", "gap_max", "gap_avg", "sched_ticks", "overruns",
    "deadline_misses"].map ascii

def systemFields (digits : FloatDigits) (snap : Snapshot) : List (List UInt8) :=
  [number64 snap.timestamp, number32 snap.coreCount, number64 snap.queueDepth,
    number64 snap.queueMaxDepth, fixedPoint digits snap.queueAvgDepth,
    number64 snap.peakHeapUsed, number64 snap.freeHeap, number64 snap.stackHighWater,
    number64 snap.totalGapUs, number64 snap.maxGapUs, fixedPoint digits snap.avgGapUs,
    number32 snap.schedulerTickCount, number32 snap.totalOverruns,
    number32 snap.totalDeadlineMisses]

def taskNames : List (List UInt8) :=
  ["task_idx", "core", "last", "min", "max", "avg", "samples", "overruns", "misses"].map ascii ++
  (List.range kHistogramBuckets).map fun b => ascii "h" ++ decimal b

def taskFields (digits : FloatDigits) (snap : Snapshot) (i : ℕ) : List (List UInt8) :=
  let t := snap.tasks i
  [number32 t.taskIndex, number32 t.coreId, number64 t.lastUs, number64 t.minUs,
    number64 t.maxUs, fixedPoint digits t.avgUs, number32 t.samples, number32 t.overruns,
    number32 t.misses] ++
  (List.range kHistogramBuckets).map fun b => decimal (snap.histogram i b).toNat

def csvText (digits : FloatDigits) (snap : Snapshot) : List UInt8 :=
  List.flatten
    [row systemNames, row (systemFields digits snap), row taskNames,
      (List.range (min snap.taskCount kMaxSnapshotTasks)).flatMap fun i =>
        row (taskFields digits snap i)]

theorem fields_named (digits : FloatDigits) (snap : Snapshot) (i : ℕ) :
    (systemFields digits snap).length = systemNames.length ∧
      (taskFields digits snap i).length = taskNames.length := by
  constructor
  · rfl
  · simp [taskFields, taskNames]

theorem decimal_two_digits (n : ℕ) (h : 10 ≤ n) (hn : n < 100) :
    decimal n = [UInt8.ofNat (0x30+n/10), UInt8.ofNat (0x30+n%10)] := by
  rw [decimal_digits n (by omega), decimal_digit _ (by omega), List.singleton_append]

theorem taskPrefix_decimal (i : ℕ) (h : i < 100) :
    taskPrefix i = [0x74] ++ decimal i ++ [0x5F] := by
  unfold taskPrefix
  split_ifs with hi
  · rw [decimal_two_digits i hi h]
    rfl
  · rw [decimal_digit i (by omega), Nat.mod_eq_of_lt (by omega)]
    rfl

theorem threeDigits_padded (n : ℕ) (h : n < 1000) :
    (if n < 100 then [0x30] else []) ++ (if n < 10 then [0x30] else []) ++ decimal n =
      threeDigits n := by
  by_cases hten : n < 10
  · have hdiv : n/100 = 0 ∧ n/10 = 0 ∧ n%10 = n := by omega
    rw [if_pos (by omega), if_pos hten, decimal_digit n hten, threeDigits, hdiv.1, hdiv.2.1,
      hdiv.2.2]
    rfl
  by_cases hhundred : n < 100
  · have hdiv : n/100 = 0 ∧ n/10%10 = n/10 := by omega
    rw [if_pos hhundred, if_neg hten, decimal_two_digits n (by omega) hhundred, threeDigits,
      hdiv.1, hdiv.2]
    rfl
  · have hdiv : n/10/10 = n/100 := by omega
    rw [if_neg hhundred, if_neg hten, decimal_digits n hten,
      decimal_two_digits (n/10) (by omega) (by omega), threeDigits, hdiv]
    rfl

theorem thousandths_toNat (digits : FloatDigits) (val : UInt32) :
    (thousandths digits val).toNat = min (digits.fracInt (magnitude val)).toNat 999 := by
  unfold thousandths
  split_ifs with h
  · have hle : 1000 ≤ (digits.fracInt (magnitude val)).toNat := UInt32.le_iff_toNat_le.mp h
    show 999 = _
    exact (Nat.min_eq_right (by omega)).symm
  · have hlt : (digits.fracInt (magnitude val)).toNat < 1000 :=
      UInt32.lt_iff_toNat_lt.mp (UInt32.not_le.mp h)
    exact (Nat.min_eq_left (by omega)).symm

theorem rendered_flatten (as : List (List Part)) :
    rendered as.flatten = (as.map rendered).flatten := by
  induction as with
  | nil => rfl
  | cons a as ih => rw [List.flatten_cons, rendered_append, ih, List.map_cons, List.flatten_cons]

theorem appendFloat_rendered (digits : FloatDigits) (val : UInt32) :
    rendered (appendFloat digits val) = fixedPoint digits val := by
  have hfrac := thousandths_toNat digits val
  have hpadded := threeDigits_padded (thousandths digits val).toNat (by omega)
  have hhundred : thousandths digits val < 100 ↔ (thousandths digits val).toNat < 100 :=
    UInt32.lt_iff_toNat_lt
  have hten : thousandths digits val < 10 ↔ (thousandths digits val).toNat < 10 :=
    UInt32.lt_iff_toNat_lt
  have hif (p : Prop) [Decidable p] (c : UInt8) :
      rendered (if p then [.char c] else []) = if p then [c] else [] := by
    split_ifs <;> rfl
  rw [fixedPoint, ← hfrac, ← hpadded]
  simp only [appendFloat, List.flatten_cons, List.flatten_nil, rendered_append, hhundred, hten,
    hif, rendered_cons, rendered_nil, Part.text, List.append_assoc, List.append_nil]

theorem rendered_range (f : ℕ → List Part) (g : ℕ → List UInt8) (n : ℕ)
    (h : ∀ i < n, rendered (f i) = g i) :
    rendered ((List.range n).flatMap f) = (List.range n).flatMap g := by
  rw [rendered_flatMap]
  exact List.flatMap_congr fun i hi => h i (List.mem_range.mp hi)

theorem kvU64_rendered (name : String) (val : ℕ) :
    rendered (kvU64 name val) = line (ascii name) (number64 val) := by
  simp only [kvU64, rendered_cons, rendered_nil, Part.text, key, UInt64.toNat_ofNat', line,
    number64, List.append_assoc, List.append_nil]

theorem kvU32_rendered (name : String) (val : ℕ) :
    rendered (kvU32 name val) = line (ascii name) (number32 val) := by
  simp only [kvU32, rendered_cons, rendered_nil, Part.text, key, UInt32.toNat_ofNat', line,
    number32, List.append_assoc, List.append_nil]

theorem line_rendered (name : List UInt8) (parts value : List Part)
    (h : rendered parts = name ++ [0x3D]) :
    rendered (List.flatten [parts, value, [.char 0x0A]]) = line name (rendered value) := by
  simp only [List.flatten_cons, List.flatten_nil, rendered_append, h, rendered_cons, rendered_nil,
    Part.text, line, List.append_assoc, List.append_nil]

theorem kvFloat_rendered (digits : FloatDigits) (name : String) (val : UInt32) :
    rendered (kvFloat digits name val) = line (ascii name) (fixedPoint digits val) := by
  rw [kvFloat, line_rendered (ascii name) _ _ (by simp [rendered, Part.text, key]),
    appendFloat_rendered]

theorem kvCore_rendered (digits : FloatDigits) (snap : Snapshot) (c : ℕ) (hc : c < 2^32) :
    rendered (kvCore digits snap c) = coreLine digits snap c := by
  rw [kvCore, coreLine, line_rendered (ascii "core" ++ decimal c ++ ascii "_util") _ _ ?_,
    appendFloat_rendered]
  simp only [rendered_cons, rendered_nil, Part.text, key, UInt32.toNat_ofNat',
    Nat.mod_eq_of_lt hc, List.append_assoc, List.append_nil]

theorem kvTaskLine_rendered (i : ℕ) (hi : i < 100) (name : String) (value : List Part) :
    rendered (kvTaskLine i name value) =
      line ([0x74] ++ decimal i ++ [0x5F] ++ ascii name) (rendered value) := by
  rw [kvTaskLine, taskPrefix_decimal i hi]
  exact line_rendered _ _ _ (by simp [rendered, Part.text, key])

theorem kvHistogram_rendered (snap : Snapshot) (i : ℕ) :
    rendered (kvHistogram snap i) = [0x2C].intercalate
      ((List.range kHistogramBuckets).map fun b => decimal (snap.histogram i b).toNat) := rfl

theorem kvTask_rendered (digits : FloatDigits) (snap : Snapshot) (i : ℕ) (hi : i < 100) :
    rendered (kvTask digits snap i) = taskLines digits snap i := by
  simp only [kvTask, rendered_flatten, List.map_cons, List.map_nil, kvTaskLine_rendered i hi,
    appendFloat_rendered, kvHistogram_rendered, taskLines, rendered_cons, rendered_nil, Part.text,
    UInt32.toNat_ofNat', UInt64.toNat_ofNat', number32, number64, List.append_nil]

theorem keyValue_rendered (digits : FloatDigits) (snap : Snapshot) :
    rendered (keyValue digits snap) = keyValueText digits snap := by
  have hcores := rendered_range (kvCore digits snap) (coreLine digits snap)
    (min snap.coreCount kMaxSnapshotCores) fun c hc =>
      kvCore_rendered digits snap c (by simp only [kMaxSnapshotCores] at hc; omega)
  have htasks := rendered_range (kvTask digits snap) (taskLines digits snap)
    (min snap.taskCount kMaxSnapshotTasks) fun i hi =>
      kvTask_rendered digits snap i (by simp only [kMaxSnapshotTasks] at hi; omega)
  simp only [keyValue, rendered_flatten, List.map_cons, List.map_nil, kvU64_rendered,
    kvU32_rendered, kvFloat_rendered, hcores, htasks, keyValueText]

theorem row_cons (field : List UInt8) (fields : List (List UInt8)) :
    row (field::fields) = field ++ fields.flatMap ([0x2C] ++ ·) ++ [0x0A] := by
  rw [row]
  congr 1
  induction fields generalizing field with
  | nil => simp
  | cons next fields ih => rw [List.intercalate_cons_cons, ih, List.flatMap_cons]; simp

theorem csvHeader_rendered : rendered csvHeader = row systemNames := by
  rw [csvHeader, rendered_cons, rendered_nil, Part.text, List.append_nil]
  decide +kernel

theorem csvSystem_rendered (digits : FloatDigits) (snap : Snapshot) :
    rendered (csvSystem digits snap) = row (systemFields digits snap) := by
  simp only [csvSystem, comma, List.flatten_cons, List.flatten_nil, rendered_append,
    appendFloat_rendered, rendered_cons, rendered_nil, Part.text,
    UInt32.toNat_ofNat', UInt64.toNat_ofNat', systemFields, row_cons, List.flatMap_cons,
    List.flatMap_nil, number32, number64, List.append_assoc, List.append_nil]

theorem csvTaskHeader_rendered : rendered csvTaskHeader = row taskNames := by
  have hnames : rendered [.str (ascii "task_idx,core,last,min,max,avg,samples,overruns,misses")] =
      ascii "task_idx" ++ ["core", "last", "min", "max", "avg", "samples", "overruns",
        "misses"].flatMap ([0x2C] ++ ascii ·) := by
    rw [rendered_cons, rendered_nil, Part.text, List.append_nil]
    decide +kernel
  have hbuckets (b : ℕ) (hb : b < kHistogramBuckets) :
      rendered [.str (ascii ",h"), .u32 (UInt32.ofNat b)] = [0x2C] ++ (ascii "h" ++ decimal b) := by
    have hb : b < 2^32 := Nat.lt_trans hb (by decide)
    rw [rendered_cons, rendered_cons, rendered_nil, Part.text, Part.text,
      UInt32.toNat_ofNat', Nat.mod_eq_of_lt hb, List.append_nil]
    rfl
  have hrow := row_cons (ascii "task_idx") (["core", "last", "min", "max", "avg", "samples",
    "overruns", "misses"].map ascii ++
      (List.range kHistogramBuckets).map fun b => ascii "h" ++ decimal b)
  rw [List.flatMap_append, List.flatMap_map, List.flatMap_map, ← List.append_assoc,
    ← hnames, ← rendered_range _ _ _ hbuckets] at hrow
  rw [csvTaskHeader, rendered_flatten]
  simp only [List.map_cons, List.map_nil, List.flatten_cons, List.flatten_nil, List.append_nil,
    ← List.append_assoc]
  exact hrow.symm

theorem csvTask_rendered (digits : FloatDigits) (snap : Snapshot) (i : ℕ) :
    rendered (csvTask digits snap i) = row (taskFields digits snap i) := by
  simp only [csvTask, comma, List.flatten_cons, List.flatten_nil, rendered_append,
    appendFloat_rendered, rendered_flatMap, rendered_cons, rendered_nil,
    Part.text, UInt32.toNat_ofNat', UInt64.toNat_ofNat', taskFields, List.cons_append, row_cons,
    List.flatMap_map, List.flatMap_cons, List.nil_append, number32, number64, List.append_assoc,
    List.append_nil]

theorem csv_rendered (digits : FloatDigits) (snap : Snapshot) :
    rendered (csv digits snap) = csvText digits snap := by
  simp only [csv, rendered_flatten, List.map_cons, List.map_nil, rendered_flatMap,
    csvHeader_rendered, csvSystem_rendered, csvTaskHeader_rendered, csvTask_rendered, csvText]

end Texts

/-- Both formats write the longest prefix of their text that fits, at every cut and for
every number of cores and tasks. A buffer longer than the text gets all of it. -/
theorem formats_truncated (digits : FloatDigits) (snap : Snapshot) (bufLen : ℕ) (h : 2 ≤ bufLen) :
    Truncated (keyValueText digits snap) bufLen (formatKeyValue digits snap true bufLen) ∧
      Truncated (csvText digits snap) bufLen (formatCSV digits snap true bufLen) := by
  rw [← keyValue_rendered, ← csv_rendered]
  exact ⟨format_truncated _ bufLen h, format_truncated _ bufLen h⟩

def blankTask : TaskSnapshot := ⟨0, 0, 0, 0, 0, 0, 0, 0, 0⟩

def sampled : Snapshot where
  timestamp := 2^64-1
  coreCount := 1
  coreUtilization := fun _ => 0x3E800000
  queueDepth := 3
  queueMaxDepth := 7
  queueAvgDepth := 0x40200000
  peakHeapUsed := 1024
  freeHeap := 0
  stackHighWater := 0
  totalGapUs := 50000
  maxGapUs := 200
  avgGapUs := 0x42480000
  schedulerTickCount := 1000
  totalOverruns := 2^32-1
  totalDeadlineMisses := 0
  taskCount := 2
  tasks := fun _ => blankTask
  histogram := fun _ b => UInt32.ofNat b

def sampledDigits : FloatDigits where
  intPart val := if val = 0x40200000 then 2 else if val = 0x42480000 then 50 else 0
  fracInt val := if val = 0x3E800000 then 250 else if val = 0x40200000 then 500 else 0

theorem sampled_truncated : 2 ≤ 64 ∧
    Truncated (keyValueText sampledDigits sampled) 64
      (formatKeyValue sampledDigits sampled true 64) ∧
    Truncated (csvText sampledDigits sampled) 64 (formatCSV sampledDigits sampled true 64) :=
  ⟨by decide, formats_truncated sampledDigits sampled 64 (by decide)⟩

end SputterOS.PerformanceFormatter
