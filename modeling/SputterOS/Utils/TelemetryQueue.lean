import SputterOS.Foundation.Numerals
import SputterOS.Utils.TelemetryExclusion

/-!
# The telemetry logger as a queue of lines

The calls of one context run one behind another, with nothing between their
steps. Against them stands a queue of whole messages: a drain writes a line for
the newest ones that pass the threshold. The lines of the logger are never cut,
but the milliseconds in them are reduced to 32 bits.
-/

set_option autoImplicit false

namespace SputterOS.TelemetryQueue
open Foundation.NumberText (decimal decimal_injective)
open Foundation.Transition SputterOS.Telemetry

structure Message where
  task : TaskID
  text : List UInt8
  level : Verbosity
  timestamp : UInt64

def Message.entry (x : Message) : Entry := ⟨x.timestamp, x.task, x.level, .copy x.text⟩

section Calls

def log (m : TelemetryLogger) (x : Message) : TelemetryLogger :=
  let m :=
    if m.count = kCapacity then { m with tail := (m.tail+1) % kCapacity }
    else { m with count := (m.count+1) % sizeValues }
  let m := m.write m.head x.entry
  { m with head := (m.head+1) % kCapacity }

def drainLoop (m : TelemetryLogger) : TelemetryLogger × List (List UInt8) :=
  if 0 < m.count then
    let e := m.buf m.tail
    let rest := drainLoop { m with tail := (m.tail+1) % kCapacity, count := m.count-1 }
    if m.verbosity.value < e.level.value then rest
    else (rest.1, format e.timestamp e.task e.text :: rest.2)
  else (m, [])
termination_by m.count

def drain (m : TelemetryLogger) (writeFn : Bool) : TelemetryLogger × List (List UInt8) :=
  if writeFn then drainLoop m else (m, [])

def setVerbosity (m : TelemetryLogger) (level : Verbosity) : TelemetryLogger :=
  { m with verbosity := level }

def clear (m : TelemetryLogger) : TelemetryLogger := { m with head := 0, tail := 0, count := 0 }

inductive Call where
  | log (x : Message)
  | drain (writeFn : Bool)
  | clear
  | setVerbosity (level : Verbosity)

def call (m : TelemetryLogger) : Call → TelemetryLogger × List (List UInt8)
  | .log x => (log m x, [])
  | .drain writeFn => drain m writeFn
  | .clear => (clear m, [])
  | .setVerbosity level => (setVerbosity m level, [])

end Calls

section Steps

def alone : ℕ → Body → TelemetryLogger → Option (TelemetryLogger × List (List UInt8))
  | 0, _, _ => none
  | fuel+1, body, m =>
    match (bodyStep body m).2 with
    | none => some ((bodyStep body m).1, bodyLine body)
    | some next => (alone fuel next (bodyStep body m).1).map fun r => (r.1, bodyLine body ++ r.2)

theorem alone_log (m : TelemetryLogger) (x : Message) (fuel : ℕ) :
    alone (fuel+10) (.log x.entry .testCount) m = some (log m x, []) := by
  by_cases hfull : m.count = kCapacity
  · simp [alone, bodyStep, bodyLine, logStep, log, hfull, TelemetryLogger.write]
  · simp [alone, bodyStep, bodyLine, logStep, log, hfull, TelemetryLogger.write]

theorem alone_clear (m : TelemetryLogger) (fuel : ℕ) :
    alone (fuel+3) (.clear .storeHead) m = some (clear m, []) := rfl

theorem decrement (count : ℕ) (hpos : 0 < count) (h : count < sizeValues) :
    (count+sizeValues-1) % sizeValues = count-1 := by
  have heq : count+sizeValues-1 = count-1+sizeValues := by omega
  rw [heq, Nat.add_mod_right, Nat.mod_eq_of_lt (by omega)]

/-- One turn of the loop of a drain takes seven steps for an entry that does not
pass, and eleven for one that does. -/
theorem alone_suppressed (m : TelemetryLogger) (fuel : ℕ) (hpos : 0 < m.count)
    (h : m.count < sizeValues) (hlevel : m.verbosity.value < (m.buf m.tail).level.value) :
    alone (fuel+7) (.drain .testCount) m = alone fuel (.drain .testCount)
      { m with tail := (m.tail+1) % kCapacity, count := m.count-1 } := by
  have hcount := decrement m.count hpos h
  simp [alone, bodyStep, bodyLine, drainStep, hpos, hcount, hlevel]

theorem alone_written (m : TelemetryLogger) (fuel : ℕ) (hpos : 0 < m.count)
    (h : m.count < sizeValues) (hlevel : ¬ m.verbosity.value < (m.buf m.tail).level.value) :
    alone (fuel+11) (.drain .testCount) m = (alone fuel (.drain .testCount)
      { m with tail := (m.tail+1) % kCapacity, count := m.count-1 }).map fun r =>
        (r.1, format (m.buf m.tail).timestamp (m.buf m.tail).task (m.buf m.tail).text :: r.2) := by
  have hcount := decrement m.count hpos h
  simp [alone, bodyStep, bodyLine, drainStep, hpos, hcount, hlevel]
  rfl

theorem alone_drain (m : TelemetryLogger) (fuel : ℕ) (h : m.count < sizeValues) :
    alone (fuel+11*m.count+1) (.drain .testCount) m = some (drainLoop m) := by
  induction hn : m.count generalizing m fuel with
  | zero =>
    rw [drainLoop]
    simp [alone, bodyStep, bodyLine, drainStep, hn]
  | succ n ih =>
    have hpos : 0 < m.count := by omega
    have hrest := fun fuel => ih { m with tail := (m.tail+1) % kCapacity, count := m.count-1 } fuel
      (Nat.lt_of_le_of_lt (Nat.sub_le _ _) h) (by simp [hn])
    rw [drainLoop, if_pos hpos]
    by_cases hlevel : m.verbosity.value < (m.buf m.tail).level.value
    · have hfuel : fuel+11*(n+1)+1 = fuel+4+11*n+1+7 := by omega
      rw [hfuel, alone_suppressed m _ hpos h hlevel, hrest]
      simp only [if_pos hlevel]
    · have hfuel : fuel+11*(n+1)+1 = fuel+11*n+1+11 := by omega
      rw [hfuel, alone_written m _ hpos h hlevel, hrest]
      simp only [if_neg hlevel, Option.map_some]

end Steps

/-- The messages that wait, oldest first, and the threshold in force. Nothing is
dropped until a drain asks for the newest ones. -/
structure LineQueue where
  undrained : List Message
  threshold : Verbosity

def newest {α : Type*} (xs : List α) : List α := xs.drop (xs.length-kCapacity)

/-- The whole line of a message: the timestamp in milliseconds, the name of the task
and at most 63 characters of the text. -/
def Message.line (x : Message) : List UInt8 :=
  [0x5B] ++ decimal (x.timestamp.toNat/1000) ++ [0x5D, 0x5B] ++ taskName x.task ++
    [0x5D, 0x20] ++ (x.text.takeWhile (· ≠ 0)).take 63 ++ [0x0A]

def LineQueue.due (q : LineQueue) : List Message :=
  (newest q.undrained).filter (fun x => x.level.value ≤ q.threshold.value)

def LineQueue.next (q : LineQueue) : Call → LineQueue
  | .log x => { q with undrained := q.undrained ++ [x] }
  | .drain writeFn => if writeFn then { q with undrained := [] } else q
  | .clear => { q with undrained := [] }
  | .setVerbosity level => { q with threshold := level }

def LineQueue.writes (q : LineQueue) : Call → List (List UInt8)
  | .drain true => q.due.map Message.line
  | _ => []

structure State where
  logger : TelemetryLogger
  queue : LineQueue

def boot : State := ⟨.new .status, ⟨[], .status⟩⟩

def step (s : State) (c : Call) : State := ⟨(call s.logger c).1, s.queue.next c⟩

structure Inv (s : State) : Prop where
  holds : Holds s.logger ((newest s.queue.undrained).map Message.entry)
  threshold : s.logger.verbosity = s.queue.threshold

section Runs

theorem newest_snoc {α : Type*} (xs : List α) (x : α) :
    newest (xs ++ [x]) = (newest xs ++ [x]).drop ((newest xs).length+1-kCapacity) := by
  have hlen : xs.length-kCapacity+(xs.length-(xs.length-kCapacity)+1-kCapacity) =
      xs.length+1-kCapacity := by
    simp only [kCapacity]
    omega
  rw [newest, newest, List.length_drop, ← List.drop_append_of_le_length (Nat.sub_le _ _),
    List.drop_drop, hlen, List.length_append, List.length_singleton]

theorem log_holds (m : TelemetryLogger) (q : List Entry) (x : Message) (h : Holds m q) :
    Holds (log m x) ((q ++ [x.entry]).drop (q.length+1-kCapacity)) := by
  have hcount := h.count
  have hcapacity := h.ring.capacity
  unfold log
  by_cases hfull : m.count = kCapacity
  · simp only [if_pos hfull]
    have hroom := room_full m q h (by omega)
    exact storeHead_holds _ q x.entry (room_write _ q x.entry hroom) (write_buf _ _ _) hcapacity
  · simp only [if_neg hfull]
    have hroom := room_free m q h (by omega)
    exact storeHead_holds _ q x.entry (room_write _ q x.entry hroom) (write_buf _ _ _) hcapacity

theorem drain_holds (m : TelemetryLogger) (q : List Entry) (h : Holds m q) :
    Holds (drainLoop m).1 [] ∧ (drainLoop m).1.verbosity = m.verbosity ∧
      (drainLoop m).2 = lines m.verbosity q := by
  induction q generalizing m with
  | nil =>
    have hcount := h.count
    rw [drainLoop, if_neg (by simp [hcount])]
    exact ⟨h, rfl, rfl⟩
  | cons x q ih =>
    have hcount := h.count
    rw [List.length_cons] at hcount
    have hslot := h.ring.slots 0 (Nat.zero_lt_succ _)
    rw [Nat.add_zero, Nat.mod_eq_of_lt h.ring.tail] at hslot
    obtain rfl : x = m.buf m.tail := Option.some.inj hslot
    have hrest : Holds { m with tail := (m.tail+1) % kCapacity, count := m.count-1 } q := by
      have hring := ring_tail m _ q h.ring
      exact ⟨⟨hring.capacity, hring.tail, hring.head, hring.slots⟩, by simp [hcount]⟩
    obtain ⟨hempty, hverbosity, hlines⟩ := ih _ hrest
    rw [drainLoop, if_pos (by omega)]
    by_cases hlevel : m.verbosity.value < (m.buf m.tail).level.value
    · rw [if_pos hlevel]
      refine ⟨hempty, hverbosity, ?_⟩
      rw [hlines]
      simp [lines, Nat.not_le_of_lt hlevel]
    · rw [if_neg hlevel]
      refine ⟨hempty, hverbosity, ?_⟩
      rw [hlines, format_line]
      simp [lines, Nat.le_of_not_lt hlevel]

theorem step_inv (s : State) (c : Call) (h : Inv s) : Inv (step s c) := by
  have hholds := h.holds
  cases c with
  | log x =>
    have hlog := log_holds s.logger _ x h.holds
    rw [List.length_map, ← List.map_singleton, ← List.map_append, ← List.map_drop,
      ← newest_snoc] at hlog
    refine ⟨hlog, ?_⟩
    simp only [step, call, log, LineQueue.next]
    split <;> exact h.threshold
  | drain writeFn =>
    cases writeFn with
    | false => exact h
    | true =>
      obtain ⟨hempty, hverbosity, -⟩ := drain_holds s.logger _ h.holds
      exact ⟨hempty, hverbosity.trans h.threshold⟩
  | clear => exact ⟨⟨⟨Nat.zero_le _, Nat.zero_lt_succ _, rfl, nofun⟩, rfl⟩, h.threshold⟩
  | setVerbosity level =>
    exact ⟨⟨⟨hholds.ring.capacity, hholds.ring.tail, hholds.ring.head, hholds.ring.slots⟩,
      hholds.count⟩, rfl⟩

theorem boot_inv : Inv boot := ⟨⟨⟨Nat.zero_le _, by decide, rfl, nofun⟩, rfl⟩, rfl⟩

theorem run_inv (calls : List Call) : Inv (run step boot calls) :=
  run_preserves step Inv step_inv boot boot_inv calls

end Runs

section Lines

open SputterOS.Utils (renderU32_decimal)

theorem line_eq_iff (x : Message) :
    x.entry.line = x.line ↔ x.timestamp.toNat/1000 < 2^32 := by
  have hms : (x.entry.timestamp/1000).toUInt32.toNat = x.timestamp.toNat/1000 % 2^32 := by
    simp [Message.entry]
  have htext : x.entry.text.chars = (x.text.takeWhile (· ≠ 0)).take 63 := rfl
  have htask : x.entry.task = x.task := rfl
  rw [Entry.line, Message.line, renderU32_decimal, htext, htask, hms]
  simp only [List.append_assoc, List.append_cancel_left_eq, List.append_cancel_right_eq,
    decimal_injective.eq_iff]
  omega

theorem lines_due (q : LineQueue) :
    lines q.threshold ((newest q.undrained).map Message.entry) =
      q.due.map (fun x => x.entry.line) := by
  rw [lines, LineQueue.due, List.filter_map, List.map_map]
  rfl

end Lines

/-- A call writes what the queue of lines writes, and a drain leaves the buffer
empty. -/
structure Refines (s : State) (c : Call) : Prop where
  writes : (call s.logger c).2 = s.queue.writes c
  empty : c = .drain true → (call s.logger c).1.count = 0

/-- The milliseconds of all messages that a drain has to write fit 32 bits. -/
def InRange (q : LineQueue) (c : Call) : Prop :=
  c = .drain true → ∀ x ∈ q.due, x.timestamp.toNat/1000 < 2^32

theorem drain_refines_iff (s : State) (h : Inv s) :
    Refines s (.drain true) ↔ ∀ x ∈ s.queue.due, x.timestamp.toNat/1000 < 2^32 := by
  obtain ⟨hempty, -, hlines⟩ := drain_holds s.logger _ h.holds
  rw [h.threshold, lines_due] at hlines
  have hwrites : (call s.logger (.drain true)).2 = s.queue.writes (.drain true) ↔
      ∀ x ∈ s.queue.due, x.entry.line = x.line := by
    change (drainLoop s.logger).2 = s.queue.due.map Message.line ↔ _
    rw [hlines, List.map_inj_left]
  simp only [line_eq_iff] at hwrites
  exact ⟨fun hr => hwrites.mp hr.writes, fun hrange => ⟨hwrites.mpr hrange, fun _ => hempty.count⟩⟩

/-- Behind any calls the next call does what the queue of lines does, as long as the
timestamps of what a drain has to write stay below 2³² milliseconds. -/
theorem line_queue_iff (calls : List Call) (c : Call) :
    Refines (run step boot calls) c ↔ InRange (run step boot calls).queue c := by
  cases c with
  | drain writeFn =>
    cases writeFn with
    | true =>
      rw [drain_refines_iff _ (run_inv calls)]
      exact ⟨fun h _ => h, fun h => h rfl⟩
    | false => exact iff_of_true ⟨rfl, nofun⟩ nofun
  | _ => exact iff_of_true ⟨rfl, nofun⟩ nofun

def wrapped : Message := ⟨.system, [0x41], .status, 4294967296000⟩

theorem milliseconds_wrapped : ¬ ∀ calls c, Refines (run step boot calls) c := by
  intro h
  have hrange := (drain_refines_iff _ (run_inv [.log wrapped])).mp (h [.log wrapped] (.drain true))
  have hdue : (run step boot [.log wrapped]).queue.due = [wrapped] := rfl
  rw [hdue] at hrange
  exact absurd (hrange wrapped (by simp)) (by decide)

end SputterOS.TelemetryQueue
