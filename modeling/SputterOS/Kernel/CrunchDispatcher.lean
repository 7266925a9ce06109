import SputterOS.Foundation.Transition
import SputterOS.Kernel.KernelState

/-!
# The crunch dispatcher

One step of the loop is one read of shared state, one call or one update of
the dispatcher. The task is the one the dispatcher holds at the moment of the
call. What the loop does is recorded as events, which it does not read.
-/

set_option autoImplicit false

namespace SputterOS.CrunchDispatcher
open SputterOS.Kernel

variable {τ : Type*}

structure Dispatcher (τ : Type*) where
  task : Option τ
  watchdogKick : Bool
  consecutiveOverruns : UInt32
  totalOverruns : UInt32
  deriving DecidableEq

def Dispatcher.idle : Dispatcher τ := ⟨none, false, 0, 0⟩

def Dispatcher.configure (d : Dispatcher τ) (task : τ) (watchdogKick : Bool) : Dispatcher τ :=
  { d with task := some task, watchdogKick := watchdogKick }

inductive Abort where
  | preLoop
  | safety
  | overrun
  deriving DecidableEq, Repr

inductive ErrorCode where
  | softAbort
  | hardFault
  | crunchOverrun
  deriving DecidableEq, Repr

inductive Event (τ : Type*) where
  | watchdogKick (coreId : ℕ) (now : UInt64)
  | platformKick
  | crunchBegin (task : τ) (now : UInt64)
  | crunchEnd (task : τ)
  | maxIterationUs (task : τ) (elapsed : UInt64)
  | onCrunchAbort (task : τ) (cause : Abort)
  | log (code : ErrorCode) (timestamp value : UInt64)
  deriving DecidableEq

/-- Where the loop stands and which local values it holds. A call ends for the task
it began for. The loop returns either behind an abort or through its condition. -/
inductive Loop (τ : Type*) where
  | resetCounters
  | preLoopAbortTest
  | kernelTest
  | stopTest (i : ℕ)
  | abortTest
  | readNow
  | kick (now : UInt64)
  | platformKick (now : UInt64)
  | readStart (now : UInt64)
  | crunch (now start : UInt64)
  | crunching (begun : τ) (now start : UInt64)
  | readElapsed (now start : UInt64)
  | overrunTest (now elapsed : UInt64)
  | thresholdTest (now : UInt64)
  | aborting (cause : Abort) (now : UInt64)
  | logging (cause : Abort) (now : UInt64)
  | returned (cause : Option Abort)
  deriving DecidableEq, Repr

/-- The log entry of an abort: an overrun fault logs the time of its iteration
and the count, any other abort the current time. -/
def abortEntry (v : Shared) (d : Dispatcher τ) (now : UInt64) : Abort → Event τ
  | .overrun => .log .hardFault now d.consecutiveOverruns.toUInt64
  | _ => .log .softAbort v.micros 0

/-- One step of the loop of core `coreId`. A loop without a task has no
behaviour, and `configure` excludes it. -/
def loopStep (crunchMaxOverruns : UInt32) (maxIterationUs : τ → UInt64) (coreId : ℕ) (v : Shared)
    (d : Dispatcher τ) (loop : Loop τ) : Dispatcher τ × Loop τ × List (Event τ) :=
  match d.task with
  | none => (d, loop, [])
  | some task =>
    match loop with
    | .resetCounters =>
      ({ d with consecutiveOverruns := 0, totalOverruns := 0 }, .preLoopAbortTest, [])
    | .preLoopAbortTest =>
      if v.safetyAbort then (d, .aborting .preLoop 0, []) else (d, .kernelTest, [])
    | .kernelTest =>
      if isActiveState v.kernelState then (d, .stopTest 0, []) else (d, .returned none, [])
    | .stopTest i =>
      match v.stopConditions[i]? with
      | none => (d, .abortTest, [])
      | some false => (d, .stopTest (i+1), [])
      | some true => (d, .returned none, [])
    | .abortTest =>
      if v.safetyAbort then (d, .aborting .safety 0, []) else (d, .readNow, [])
    | .readNow => (d, .kick v.micros, [])
    | .kick now => (d, .platformKick now, [.watchdogKick coreId now])
    | .platformKick now => (d, .readStart now, if d.watchdogKick then [.platformKick] else [])
    | .readStart now => (d, .crunch now v.micros, [])
    | .crunch now start => (d, .crunching task now start, [.crunchBegin task now])
    | .crunching begun now start => (d, .readElapsed now start, [.crunchEnd begun])
    | .readElapsed now start => (d, .overrunTest now (v.micros-start), [])
    | .overrunTest now elapsed =>
      if elapsed > maxIterationUs task then
        ({ d with
            consecutiveOverruns := d.consecutiveOverruns+1
            totalOverruns := d.totalOverruns+1 },
          .thresholdTest now,
          [.maxIterationUs task elapsed, .log .crunchOverrun now elapsed])
      else
        ({ d with consecutiveOverruns := 0 }, .kernelTest, [.maxIterationUs task elapsed])
    | .thresholdTest now =>
      if crunchMaxOverruns > 0 ∧ d.consecutiveOverruns ≥ crunchMaxOverruns then
        (d, .aborting .overrun now, [])
      else (d, .kernelTest, [])
    | .aborting cause now => (d, .logging cause now, [.onCrunchAbort task cause])
    | .logging cause now => (d, .returned (some cause), [abortEntry v d now cause])
    | .returned cause => (d, .returned cause, [])

structure State (τ : Type*) where
  shared : Shared
  dispatcher : Dispatcher τ
  loop : Loop τ
  events : List (Event τ)
  deriving DecidableEq

inductive Action where
  | loop
  | external (e : External)
  deriving DecidableEq, Repr

def step (crunchMaxOverruns : UInt32) (maxIterationUs : τ → UInt64) (coreId : ℕ) (s : State τ) :
    Action → State τ
  | .loop =>
    let r := loopStep crunchMaxOverruns maxIterationUs coreId s.shared s.dispatcher s.loop
    { s with dispatcher := r.1, loop := r.2.1, events := s.events ++ r.2.2 }
  | .external e => { s with shared := s.shared.external e }

def entry (v : Shared) (d : Dispatcher τ) (task : τ) (watchdogKick : Bool) : State τ :=
  ⟨v, d.configure task watchdogKick, .resetCounters, []⟩

def Loop.begun : Loop τ → Option τ
  | .crunching task _ _ => some task
  | _ => none

def Loop.exit : Loop τ → Option (Option Abort)
  | .aborting cause _ => some (some cause)
  | .logging cause _ => some (some cause)
  | .returned cause => some cause
  | _ => none

def Event.isCrunchBegin : Event τ → Bool
  | .crunchBegin _ _ => true
  | _ => false

def Event.isCrunchEnd : Event τ → Bool
  | .crunchEnd _ => true
  | _ => false

def Event.isWatchdogKick : Event τ → Bool
  | .watchdogKick _ _ => true
  | _ => false

def Event.isAbort : Event τ → Bool
  | .onCrunchAbort _ _ => true
  | _ => false

def Event.isOverrunAbort : Event τ → Bool
  | .onCrunchAbort _ .overrun => true
  | _ => false

def Event.isMeasured : Event τ → Bool
  | .maxIterationUs _ _ => true
  | _ => false

def Event.duration : Event τ → Option UInt64
  | .maxIterationUs _ elapsed => some elapsed
  | _ => none

def durations (es : List (Event τ)) : List UInt64 := es.filterMap Event.duration

inductive Next (crunchMaxOverruns : UInt32) (maxIterationUs : τ → UInt64) (coreId : ℕ) (v : Shared)
    (d : Dispatcher τ) (task : τ) : Loop τ → Dispatcher τ → Loop τ → List (Event τ) → Prop where
  | reset : Next _ _ _ _ _ _ .resetCounters
      { d with consecutiveOverruns := 0, totalOverruns := 0 } .preLoopAbortTest []
  | preLoopAborted : v.safetyAbort = true →
      Next _ _ _ _ _ _ .preLoopAbortTest d (.aborting .preLoop 0) []
  | preLoopPassed : v.safetyAbort = false → Next _ _ _ _ _ _ .preLoopAbortTest d .kernelTest []
  | active : isActiveState v.kernelState = true → Next _ _ _ _ _ _ .kernelTest d (.stopTest 0) []
  | inactive : isActiveState v.kernelState = false →
      Next _ _ _ _ _ _ .kernelTest d (.returned none) []
  | stopsTested (i : ℕ) : v.stopConditions[i]? = none →
      Next _ _ _ _ _ _ (.stopTest i) d .abortTest []
  | stopQuiet (i : ℕ) : v.stopConditions[i]? = some false →
      Next _ _ _ _ _ _ (.stopTest i) d (.stopTest (i+1)) []
  | stopFired (i : ℕ) : v.stopConditions[i]? = some true →
      Next _ _ _ _ _ _ (.stopTest i) d (.returned none) []
  | aborted : v.safetyAbort = true → Next _ _ _ _ _ _ .abortTest d (.aborting .safety 0) []
  | passed : v.safetyAbort = false → Next _ _ _ _ _ _ .abortTest d .readNow []
  | now : Next _ _ _ _ _ _ .readNow d (.kick v.micros) []
  | kicked (now : UInt64) :
      Next _ _ _ _ _ _ (.kick now) d (.platformKick now) [.watchdogKick coreId now]
  | platformKicked (now : UInt64) : Next _ _ _ _ _ _ (.platformKick now) d (.readStart now)
      (if d.watchdogKick then [.platformKick] else [])
  | start (now : UInt64) : Next _ _ _ _ _ _ (.readStart now) d (.crunch now v.micros) []
  | crunchBegin (now start : UInt64) :
      Next _ _ _ _ _ _ (.crunch now start) d (.crunching task now start) [.crunchBegin task now]
  | crunchEnd (begun : τ) (now start : UInt64) :
      Next _ _ _ _ _ _ (.crunching begun now start) d (.readElapsed now start) [.crunchEnd begun]
  | elapsed (now start : UInt64) :
      Next _ _ _ _ _ _ (.readElapsed now start) d (.overrunTest now (v.micros-start)) []
  | overrun (now elapsed : UInt64) : elapsed > maxIterationUs task →
      Next _ _ _ _ _ _ (.overrunTest now elapsed)
        { d with
          consecutiveOverruns := d.consecutiveOverruns+1
          totalOverruns := d.totalOverruns+1 }
        (.thresholdTest now) [.maxIterationUs task elapsed, .log .crunchOverrun now elapsed]
  | clean (now elapsed : UInt64) : ¬ elapsed > maxIterationUs task →
      Next _ _ _ _ _ _ (.overrunTest now elapsed) { d with consecutiveOverruns := 0 } .kernelTest
        [.maxIterationUs task elapsed]
  | fault (now : UInt64) :
      crunchMaxOverruns > 0 ∧ d.consecutiveOverruns ≥ crunchMaxOverruns →
      Next _ _ _ _ _ _ (.thresholdTest now) d (.aborting .overrun now) []
  | tolerated (now : UInt64) :
      ¬ (crunchMaxOverruns > 0 ∧ d.consecutiveOverruns ≥ crunchMaxOverruns) →
      Next _ _ _ _ _ _ (.thresholdTest now) d .kernelTest []
  | abortCalled (cause : Abort) (now : UInt64) :
      Next _ _ _ _ _ _ (.aborting cause now) d (.logging cause now) [.onCrunchAbort task cause]
  | abortLogged (cause : Abort) (now : UInt64) :
      Next _ _ _ _ _ _ (.logging cause now) d (.returned (some cause)) [abortEntry v d now cause]
  | done (cause : Option Abort) : Next _ _ _ _ _ _ (.returned cause) d (.returned cause) []

theorem loopStep_next (crunchMaxOverruns : UInt32) (maxIterationUs : τ → UInt64) (coreId : ℕ)
    (v : Shared) (d : Dispatcher τ) (loop : Loop τ) (task : τ) (hd : d.task = some task) :
    Next crunchMaxOverruns maxIterationUs coreId v d task loop
      (loopStep crunchMaxOverruns maxIterationUs coreId v d loop).1
      (loopStep crunchMaxOverruns maxIterationUs coreId v d loop).2.1
      (loopStep crunchMaxOverruns maxIterationUs coreId v d loop).2.2 := by
  obtain ⟨t, w, c, o⟩ := d
  obtain rfl : t = some task := hd
  cases loop with
  | preLoopAbortTest =>
    cases h : v.safetyAbort with
    | true => simpa [loopStep, h] using Next.preLoopAborted h
    | false => simpa [loopStep, h] using Next.preLoopPassed h
  | kernelTest =>
    cases h : isActiveState v.kernelState with
    | true => simpa [loopStep, h] using Next.active h
    | false => simpa [loopStep, h] using Next.inactive h
  | stopTest i =>
    rcases h : v.stopConditions[i]? with _ | _ | _
    · simpa [loopStep, h] using Next.stopsTested i h
    · simpa [loopStep, h] using Next.stopQuiet i h
    · simpa [loopStep, h] using Next.stopFired i h
  | abortTest =>
    cases h : v.safetyAbort with
    | true => simpa [loopStep, h] using Next.aborted h
    | false => simpa [loopStep, h] using Next.passed h
  | overrunTest now elapsed =>
    by_cases h : elapsed > maxIterationUs task
    · simp only [loopStep]
      rw [if_pos h]
      exact Next.overrun now elapsed h
    · simp only [loopStep]
      rw [if_neg h]
      exact Next.clean now elapsed h
  | thresholdTest now =>
    by_cases h : crunchMaxOverruns > 0 ∧ c ≥ crunchMaxOverruns
    · simp only [loopStep]
      rw [if_pos h]
      exact Next.fault now h
    · simp only [loopStep]
      rw [if_neg h]
      exact Next.tolerated now h
  | resetCounters => exact Next.reset
  | readNow => exact Next.now
  | kick now => exact Next.kicked now
  | platformKick now => exact Next.platformKicked now
  | readStart now => exact Next.start now
  | crunch now start => exact Next.crunchBegin now start
  | crunching begun now start => exact Next.crunchEnd begun now start
  | readElapsed now start => exact Next.elapsed now start
  | aborting cause now => exact Next.abortCalled cause now
  | logging cause now => exact Next.abortLogged cause now
  | returned cause => exact Next.done cause

section Runs
open Foundation.Transition

variable (crunchMaxOverruns : UInt32) (maxIterationUs : τ → UInt64) (coreId : ℕ)

theorem next_task (v : Shared) (d d' : Dispatcher τ) (task : τ) (l l' : Loop τ) (es : List (Event τ))
    (h : Next crunchMaxOverruns maxIterationUs coreId v d task l d' l' es) : d'.task = d.task := by
  cases h <;> rfl

theorem step_task (task : τ) (s : State τ) (a : Action) (hs : s.dispatcher.task = some task) :
    (step crunchMaxOverruns maxIterationUs coreId s a).dispatcher.task = some task := by
  cases a with
  | loop =>
    exact (next_task crunchMaxOverruns maxIterationUs coreId _ _ _ _ _ _ _
      (loopStep_next crunchMaxOverruns maxIterationUs coreId _ _ _ task hs)).trans hs
  | external e => exact hs

theorem run_invariant_loop (I : Dispatcher τ → Loop τ → List (Event τ) → Prop) (task : τ)
    (hnext : ∀ v d l es d' l' es', I d l es →
      Next crunchMaxOverruns maxIterationUs coreId v d task l d' l' es' → I d' l' (es ++ es'))
    (s : State τ) (hs : s.dispatcher.task = some task) (h : I s.dispatcher s.loop s.events)
    (as : List Action) :
    I (run (step crunchMaxOverruns maxIterationUs coreId) s as).dispatcher
      (run (step crunchMaxOverruns maxIterationUs coreId) s as).loop
      (run (step crunchMaxOverruns maxIterationUs coreId) s as).events := by
  refine (run_preserves _ (fun s => s.dispatcher.task = some task ∧
    I s.dispatcher s.loop s.events) ?_ s ⟨hs, h⟩ as).2
  intro s a ⟨ht, hi⟩
  refine ⟨step_task crunchMaxOverruns maxIterationUs coreId task s a ht, ?_⟩
  cases a with
  | loop =>
    exact hnext _ _ _ _ _ _ _ hi
      (loopStep_next crunchMaxOverruns maxIterationUs coreId _ _ _ task ht)
  | external e => exact hi

/-- Two kinds of events whose counts differ by what the place of the loop says. -/
theorem run_balanced (p q : Event τ → Bool) (f : Loop τ → ℕ) (task : τ)
    (hnext : ∀ v d l d' l' es, Next crunchMaxOverruns maxIterationUs coreId v d task l d' l' es →
      es.countP p+f l = es.countP q+f l')
    (h₀ : f .resetCounters = 0) (v : Shared) (d : Dispatcher τ) (watchdogKick : Bool)
    (as : List Action) :
    (run (step crunchMaxOverruns maxIterationUs coreId)
        (entry v d task watchdogKick) as).events.countP p =
      (run (step crunchMaxOverruns maxIterationUs coreId)
        (entry v d task watchdogKick) as).events.countP q+
      f (run (step crunchMaxOverruns maxIterationUs coreId) (entry v d task watchdogKick) as).loop := by
  apply run_invariant_loop crunchMaxOverruns maxIterationUs coreId
    (fun _ l es => es.countP p = es.countP q+f l) task _ _ rfl (by simp [entry, h₀]) as
  intro v d l es d' l' es' hi h
  have hcount := hnext v d l d' l' es' h
  rw [List.countP_append, List.countP_append]
  omega

theorem run_counted (p : Event τ → Bool) (f : Loop τ → ℕ) (task : τ)
    (hnext : ∀ v d l d' l' es, Next crunchMaxOverruns maxIterationUs coreId v d task l d' l' es →
      es.countP p+f l = f l')
    (h₀ : f .resetCounters = 0) (v : Shared) (d : Dispatcher τ) (watchdogKick : Bool)
    (as : List Action) :
    (run (step crunchMaxOverruns maxIterationUs coreId)
        (entry v d task watchdogKick) as).events.countP p =
      f (run (step crunchMaxOverruns maxIterationUs coreId) (entry v d task watchdogKick) as).loop := by
  have h := run_balanced crunchMaxOverruns maxIterationUs coreId p (fun _ => false) f task
    (fun v d l d' l' es hn => by simpa using hnext v d l d' l' es hn) h₀ v d watchdogKick as
  simpa using h

end Runs

end SputterOS.CrunchDispatcher
