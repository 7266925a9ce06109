import SputterOS.Kernel.KeptMembers
import Mathlib.Algebra.Order.BigOperators.Group.List
import Mathlib.Algebra.Order.Group.Nat

/-!
# The aggregates of the scheduler health

The diagnostics task adds up the counters of its monitored tasks for a
scheduler health to which no build connects it. So a snapshot shows the sums
exactly while there is nothing to add up.
-/

set_option autoImplicit false

namespace SputterOS.HealthAggregates
open SputterOS.Kernel SputterOS.Builder SputterOS.Metrics SputterOS.StaticData
  SputterOS.SystemCalls Foundation.Transition

variable {α : Type*} (setup : Setup)

def AtDiagTick (s : State α) (c : ℕ) : Prop :=
  ∃ call now i busy used, s.core c = some ⟨call, .inTick, .inBackground now i .diagsTask busy used⟩

def snapshot (s : State α) : ResponseSerializer.PerformanceSnapshot :=
  s.statics.snapshot setup s.timers.timer s.micros

def scheduledTimers (s : State α) : List TaskTimer :=
  (allTasks setup.cfg s.statics.system).map fun t => s.timers.timer (.scheduled t)

/-- The snapshot shows the sums of the counters of all scheduled tasks. -/
def Aggregated (s : State α) : Prop :=
  (snapshot setup s).totalOverruns =
      ((scheduledTimers setup s).map fun timer => timer.overrunCount.toNat).sum ∧
    (snapshot setup s).totalDeadlineMisses =
      ((scheduledTimers setup s).map fun timer => timer.deadlineMissCount.toNat).sum

instance (s : State α) : Decidable (Aggregated setup s) := by
  unfold Aggregated
  infer_instance

theorem zero_eq_sum_iff (timers : List TaskTimer) (count : TaskTimer → UInt32) :
    0 = (timers.map fun timer => (count timer).toNat).sum ↔ ∀ timer ∈ timers, count timer = 0 := by
  rw [eq_comm, List.sum_eq_zero_iff]
  simp [← UInt32.toNat_inj]

theorem run_totals (timers : Timers) (micros : UInt64) (as : List (Action α)) :
    (snapshot setup (run (step setup) (boot timers micros) as)).totalOverruns = 0 ∧
      (snapshot setup (run (step setup) (boot timers micros) as)).totalDeadlineMisses = 0 := by
  have h := run_unwired setup timers micros as
  exact ⟨congrArg UInt32.toNat h.overruns, congrArg UInt32.toNat h.deadlineMisses⟩

theorem diagTick_scheduledTimers (s : State α) (c : ℕ) (h : AtDiagTick s c) :
    scheduledTimers setup (step setup s (.core c)) = scheduledTimers setup s := by
  obtain ⟨call, now, i, busy, used, hframe⟩ := h
  have hstep : step setup s (.core c) =
      { s.callBackground setup .diagsTask with
        core := Function.update s.core c
          (some ⟨call, .inTick, .stopBackground now i .diagsTask busy used⟩) } := by
    rw [step, stepCore, hframe]
    rfl
  rw [hstep, State.callBackground, State.diagTick]
  cases s.statics.kernelTasks with
  | none => rfl
  | some d => rfl

/-- In every run, the snapshot behind a tick of the diagnostics task shows the sums
exactly if no scheduled task has an overrun or a deadline miss to show. -/
theorem aggregated_iff (timers : Timers) (micros : UInt64) (as : List (Action α)) (c : ℕ)
    (h : AtDiagTick (run (step setup) (boot timers micros) as) c) :
    Aggregated setup (run (step setup) (boot timers micros) (as ++ [.core c])) ↔
      ∀ timer ∈ scheduledTimers setup (run (step setup) (boot timers micros) as),
        timer.overrunCount = 0 ∧ timer.deadlineMissCount = 0 := by
  obtain ⟨hoverruns, hmisses⟩ := run_totals setup timers micros (as ++ [.core c])
  have htimers := diagTick_scheduledTimers setup _ c h
  rw [← run_nil (step setup) (step setup _ _), ← run_cons, ← run_append] at htimers
  rw [Aggregated, hoverruns, hmisses, htimers, zero_eq_sum_iff, zero_eq_sum_iff]
  exact forall₂_and.symm

section Witnesses

def initialized : List (Action ℕ) :=
  [.register (.addScheduledTask 0 0), .build fullDependencies true, .init 0] ++
    List.replicate 12 (.core 0) ++ [.init 1] ++ List.replicate 12 (.core 1)

def backgroundTick : List (Action ℕ) := .tick 1 600 :: List.replicate 5 (.core 1)

def missedDeadline : List (Action ℕ) :=
  initialized ++ .tick 0 0 :: List.replicate 4 (.core 0) ++ [.setMicros 500] ++
    List.replicate 5 (.core 0) ++ backgroundTick

theorem aggregated_iff_dualCore :
    Aggregated dualSetup
      (run (step dualSetup) (boot freshTimers 0) (initialized ++ backgroundTick ++ [.core 1])) :=
  (aggregated_iff dualSetup freshTimers 0 (initialized ++ backgroundTick) 1
    ⟨.tick, 600, 0, 0, 0, by decide +kernel⟩).mpr (by decide +kernel)

theorem deadline_miss_unreported :
    AtDiagTick (run (step dualSetup) (boot freshTimers 0) missedDeadline) 1 ∧
      (scheduledTimers dualSetup
        (run (step dualSetup) (boot freshTimers 0) missedDeadline)).map
          TaskTimer.deadlineMissCount = [0, 1, 0] ∧
      ¬ Aggregated dualSetup
        (run (step dualSetup) (boot freshTimers 0) (missedDeadline ++ [.core 1])) :=
  ⟨⟨.tick, 600, 0, 0, 0, by decide +kernel⟩, by decide +kernel, by decide +kernel⟩

end Witnesses

end SputterOS.HealthAggregates
