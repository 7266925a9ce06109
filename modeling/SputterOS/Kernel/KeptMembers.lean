import SputterOS.Kernel.SystemCalls

/-!
# Members that the calls leave alone

Few calls write the members that a reset forgets, and none connects the
diagnostics task to the scheduler health. So the aggregates and the memory
profiler keep their first values in every run.
-/

set_option autoImplicit false

namespace SputterOS.SystemCalls
open SputterOS.Kernel SputterOS.Builder SputterOS.Metrics SputterOS.MultiCoreSync
  SputterOS.StaticData SputterOS.CoreRun Foundation.Transition
open SputterOS.Telemetry (Verbosity)

structure Kept where
  telemetryMutex : Option ℕ
  verbosity : Verbosity
  queueWindowUs : UInt64
  healthWindowUs : UInt64
  crunchDispatcher : CrunchDispatcher.Dispatcher ℕ
  memProfiler : MemoryProfiler
  overruns : UInt32
  deadlineMisses : UInt32
  wired : Bool
  deriving DecidableEq

structure Kept.Unwired (k : Kept) : Prop where
  memProfiler : k.memProfiler = .new
  overruns : k.overruns = 0
  deadlineMisses : k.deadlineMisses = 0
  wired : k.wired = false

section Members

variable {α : Type*} (setup : Setup)

def kept (s : Statics α) : Kept where
  telemetryMutex := s.telemetryMutex
  verbosity := s.verbosity
  queueWindowUs := s.queueMonitor.windowUs
  healthWindowUs := s.schedulerHealth.windowUs
  crunchDispatcher := s.crunchDispatcher
  memProfiler := s.memProfiler
  overruns := s.schedulerHealth.overruns
  deadlineMisses := s.schedulerHealth.deadlineMisses
  wired := s.kernelTasks.any Diagnostics.schedulerHealth

theorem diagTick_kept (timers : Task → TaskTimer) (s : Statics α) (d : Diagnostics)
    (hd : s.kernelTasks = some d) (h : (kept s).Unwired) :
    kept (s.diagTick setup timers d) = kept s := by
  have hwired : d.schedulerHealth = false := by
    have hkept := h.wired
    rw [kept, hd] at hkept
    exact hkept
  have hmem : s.memProfiler.update = s.memProfiler := by
    rw [show s.memProfiler = .new from h.memProfiler]
    exact MemoryProfiler.update_new
  have haggregate : d.aggregate timers s.schedulerHealth = s.schedulerHealth := by
    rw [Diagnostics.aggregate, hwired]
    rfl
  simp only [kept, Statics.diagTick, hmem, haggregate, hd]
  rfl

end Members

section Steps

variable {α : Type*} (setup : Setup)

theorem detectRollover_kept (c : ℕ) (now : UInt64) (s : State α) :
    kept (s.detectRollover setup c now).statics = kept s.statics := by
  unfold State.detectRollover
  split <;> rfl

theorem markDispatch_kept (c t : ℕ) (task : TaskPtr) (now : UInt64) (s : State α) :
    kept (s.markDispatch setup c t task now).statics = kept s.statics := by
  unfold State.markDispatch
  split <;> rfl

theorem checkDeadline_kept (task : TaskPtr) (now : UInt64) (s : State α) :
    kept (s.checkDeadline setup task now).statics = kept s.statics := by
  unfold State.checkDeadline
  split <;> rfl

theorem storeGap_kept (c : ℕ) (read : SchedulerHealthMetrics) (gap tickEndTime : UInt64)
    (s : State α) : kept (s.storeGap c read gap tickEndTime).statics = kept s.statics := by
  by_cases hc : c = 0 <;>
    simp [kept, State.storeGap, SchedulerHealthMetrics.withGaps, hc]

theorem callBackground_kept (task : BackgroundPtr) (s : State α)
    (h : (kept s.statics).Unwired) :
    kept (s.callBackground setup task).statics = kept s.statics := by
  cases task with
  | user t => rfl
  | diagsTask =>
    rw [State.callBackground, State.diagTick]
    cases hd : s.statics.kernelTasks with
    | none => rfl
    | some d => exact diagTick_kept setup s.timers.timer s.statics d hd h

theorem tickStep_kept (c : ℕ) (tick : Tick) (s : State α) (h : (kept s.statics).Unwired) :
    kept (tickStep setup c s tick).1.statics = kept s.statics := by
  cases tick with
  | start now => exact detectRollover_kept setup c now s
  | slot now t busy =>
    rw [tickStep]
    split
    · rfl
    · split
      · rfl
      · exact markDispatch_kept setup c t _ now s
  | inTask now t task busy => exact checkDeadline_kept setup task now _
  | background now i busy used =>
    rw [tickStep]
    split
    · split
      · rfl
      · split <;> rfl
    · rfl
  | inBackground now i task busy used => exact callBackground_kept setup task s h
  | stopBackground now i task busy used => rfl
  | finish now busy => rfl
  | recordGap read gap tickEndTime => exact storeGap_kept c read gap tickEndTime s
  | returned => rfl

theorem diagInit_kept (s : State α) (h : (kept s.statics).Unwired) :
    kept s.diagInit.statics = kept s.statics := by
  unfold State.diagInit
  split
  · rfl
  · have hmem : s.statics.memProfiler = .new := h.memProfiler
    simp [kept, MemoryProfiler.reset, hmem]

theorem record_kept (s : State α) (e : Event) (h : (kept s.statics).Unwired) :
    kept (s.record setup e).statics = kept s.statics := by
  cases e with
  | initBegin call =>
    cases call with
    | backgroundTask task =>
      cases task with
      | diagsTask => exact diagInit_kept s h
      | user t => rfl
    | task t => rfl
    | crunchTask t => rfl
  | dispatcher event => cases event <;> rfl
  | invalidState target => rfl
  | entered state => rfl
  | initEnd call => rfl
  | startupBarrier result => rfl
  | tickBegin now => rfl
  | tickEnd => rfl
  | shutdownBarrier result => rfl

theorem records_kept (es : List Event) (s : State α) (h : (kept s.statics).Unwired) :
    kept (es.foldl (State.record setup) s).statics = kept s.statics := by
  induction es generalizing s with
  | nil => rfl
  | cons e es ih =>
    have he : kept (s.record setup e).statics = kept s.statics := record_kept setup s e h
    rw [List.foldl_cons, ih _ (by rw [he]; exact h), he]

theorem advance_kept (s : State α) (c : ℕ) (call : Call)
    (pc : CorePc StartupBarrier ShutdownBarrier) (h : (kept s.statics).Unwired) :
    kept (s.advance setup c call pc).statics =
      { kept s.statics with
        crunchDispatcher := (coreStep setup.crunchMaxOverruns setup.maxIterationUs
          (syncType setup.cfg) s.statics.system c (s.turn c pc)).crunchDispatcher } := by
  have hput : ∀ t, kept (s.put c t).statics =
      { kept s.statics with crunchDispatcher := t.crunchDispatcher } := fun _ => rfl
  have hput_unwired : ∀ t, (kept (s.put c t).statics).Unwired := by
    intro t
    rw [hput]
    exact ⟨h.memProfiler, h.overruns, h.deadlineMisses, h.wired⟩
  exact (records_kept setup _ _ (hput_unwired _)).trans (hput _)

theorem stepCore_unwired (s : State α) (c : ℕ) (h : (kept s.statics).Unwired) :
    (kept (stepCore setup s c).statics).Unwired := by
  unfold stepCore
  split
  · exact h
  · split
    · have htick := tickStep_kept setup c (by assumption : Frame).tick s h
      exact (show kept (tickStep setup c s _).1.statics = _ from htick) ▸ h
    · rw [advance_kept setup s c _ _ h]
      exact ⟨h.memProfiler, h.overruns, h.deadlineMisses, h.wired⟩

end Steps

section Builds

variable {α : Type*} (setup : Setup)

theorem prepare_kept (s : Statics α) (deps : Dependencies) :
    kept (s.prepare setup deps) =
      { kept s with wired := if deps.app then false else (kept s).wired } := by
  cases happ : deps.app <;> simp [kept, Statics.prepare, Statics.logAll, Statics.emplaceDiags, happ]

theorem wireTasks_kept (s : Statics α) (deps : Dependencies) (tasks : List TaskPtr) :
    kept (s.wireTasks deps tasks) = kept s := by
  unfold Statics.wireTasks
  split
  · cases hd : s.kernelTasks <;> simp [kept, hd, Diagnostics.setMonitoredTasks]
  · rfl

theorem complete_kept (s : Statics α) (deps : Dependencies) (clockSource : Bool)
    (micros : UInt64) :
    kept (s.complete setup deps clockSource micros) =
      { kept s with
        queueWindowUs := setup.metricsWindowUs
        healthWindowUs := setup.metricsWindowUs } := by
  have hpropagate : ∀ s' : Statics α, kept (s'.propagate setup clockSource micros) =
      { kept s' with
        queueWindowUs := setup.metricsWindowUs
        healthWindowUs := setup.metricsWindowUs } := fun _ => rfl
  rw [Statics.complete, hpropagate, wireTasks_kept]

theorem configured_kept (s : Statics α) (before : KernelState) :
    kept (s.configured setup before) = kept s := by
  unfold Statics.configured
  split <;> rfl

theorem build_unwired (s : Statics α) (deps : Dependencies) (clockSource : Bool)
    (micros : UInt64) (h : (kept s).Unwired) :
    (kept (s.build setup deps clockSource micros)).Unwired := by
  have hwired : (if deps.app then false else (kept s).wired) = false := by
    rw [h.wired]
    exact ite_self false
  unfold Statics.build
  split
  · exact h
  · split
    · rw [configured_kept, complete_kept, prepare_kept]
      exact ⟨h.memProfiler, h.overruns, h.deadlineMisses, hwired⟩
    · rw [prepare_kept]
      exact ⟨h.memProfiler, h.overruns, h.deadlineMisses, hwired⟩

theorem reset_unwired (s : Statics α) (h : (kept s).Unwired) : (kept s.reset).Unwired :=
  ⟨h.memProfiler, rfl, rfl, rfl⟩

theorem serve_unwired (s : State α) (x : Service α) (h : (kept s.statics).Unwired) :
    (kept (s.serve setup x).statics).Unwired := by
  cases x with
  | push cmd =>
    rw [State.serve]
    split <;> exact h
  | _ => exact ⟨h.memProfiler, h.overruns, h.deadlineMisses, h.wired⟩

def Action.writes : Action α → Bool
  | .setTelemetryMutex _ => true
  | .build _ _ => true
  | .core _ => true
  | .service _ => true
  | .reset => true
  | _ => false

theorem step_kept (s : State α) (a : Action α) (ha : a.writes = false) :
    kept (step setup s a).statics = kept s.statics := by
  have henter : ∀ c frame, kept (s.enter setup c frame).statics = kept s.statics := by
    intro c frame
    unfold State.enter
    split <;> rfl
  cases a with
  | register r => rfl
  | addStopCondition fn =>
    rw [step]
    split <;> rfl
  | setTelemetryDrain fn ctx => rfl
  | init c => exact henter c _
  | tick c now => exact henter c _
  | run c => exact henter c _
  | setMicros micros => rfl
  | setStopAnswer fn fires => rfl
  | setTelemetryMutex mutex => cases ha
  | build deps clockSource => cases ha
  | core c => cases ha
  | service x => cases ha
  | reset => cases ha

theorem step_unwired (s : State α) (a : Action α) (h : (kept s.statics).Unwired) :
    (kept (step setup s a).statics).Unwired := by
  cases a with
  | setTelemetryMutex mutex => exact ⟨h.memProfiler, h.overruns, h.deadlineMisses, h.wired⟩
  | build deps clockSource => exact build_unwired setup s.statics deps clockSource s.micros h
  | core c => exact stepCore_unwired setup s c h
  | service x => exact serve_unwired setup s x h
  | reset =>
    rw [step]
    split
    · exact reset_unwired s.statics h
    · exact h
  | _ =>
    rw [step_kept setup s _ rfl]
    exact h

/-- No run connects the diagnostics task to the scheduler health or counts heap. -/
theorem run_unwired (timers : Timers) (micros : UInt64) (as : List (Action α)) :
    (kept (run (step setup) (boot timers micros) as).statics).Unwired :=
  run_preserves (step setup) (fun s : State α => (kept s.statics).Unwired) (step_unwired setup)
    (boot timers micros) ⟨rfl, rfl, rfl, rfl⟩ as

end Builds

end SputterOS.SystemCalls
