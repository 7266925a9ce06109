import SputterOS.Kernel.KeptMembers

/-!
# Reset

A reset writes all members but a few, so it restores the first state exactly
when these few have their first values. In every run they keep them unless one
of a few calls is made.
-/

set_option autoImplicit false

namespace SputterOS.SystemReset
open SputterOS.Builder SputterOS.Metrics SputterOS.MultiCoreSync SputterOS.StaticData
  SputterOS.SystemCalls Foundation.Transition
open SputterOS.CoreRun (CorePc Turn SyncType coreStep syncType)

variable {α : Type*} (setup : Setup)

def fresh (s : State α) : State α := { s with statics := .new }

/-- After a reset all that follows is as with a never-used system. -/
def Restored (s : State α) : Prop :=
  ∀ bs, run (step setup) (step setup s .reset) bs = run (step setup) (fresh s) bs

/-- The members that a reset forgets have their first values. -/
structure Unmarked (s : Statics α) : Prop where
  telemetryMutex : s.telemetryMutex = none
  verbosity : s.verbosity = .status
  queueWindowUs : s.queueMonitor.windowUs = kDefaultWindowUs
  healthWindowUs : s.schedulerHealth.windowUs = kDefaultWindowUs
  crunchDispatcher : s.crunchDispatcher = .idle

theorem reset_eq_new_iff (s : Statics α) (h : s.memProfiler = .new) :
    s.reset = .new ↔ Unmarked s := by
  constructor
  · intro hreset
    refine ⟨?_, ?_, ?_, ?_, ?_⟩
    · exact congrArg Statics.telemetryMutex hreset
    · exact congrArg Statics.verbosity hreset
    · exact s.queueMonitor.reset_eq_new_iff.mp (congrArg Statics.queueMonitor hreset)
    · exact s.schedulerHealth.reset_eq_new_iff.mp (congrArg Statics.schedulerHealth hreset)
    · exact congrArg Statics.crunchDispatcher hreset
  · rintro ⟨hmutex, hverbosity, hqueue, hhealth, hcrunch⟩
    have hmonitor := s.queueMonitor.reset_eq_new_iff.mpr hqueue
    have hmetrics := s.schedulerHealth.reset_eq_new_iff.mpr hhealth
    simp only [Statics.reset, Statics.new, hmutex, hverbosity, hmonitor, hmetrics, hcrunch, h,
      CoreUtilizationTracker.reset]

theorem restored_iff (s : State α) (hmem : s.statics.memProfiler = .new)
    (hquiet : Quiet setup s) : Restored setup s ↔ Unmarked s.statics := by
  have hreset : step setup s .reset = { s with statics := s.statics.reset } := if_pos hquiet
  rw [← reset_eq_new_iff s.statics hmem, Restored, hreset]
  constructor
  · intro h
    exact congrArg State.statics (h [])
  · intro h bs
    rw [h]
    rfl

/-- In every run, a reset between the calls restores the first state exactly if
the forgotten members have their first values. -/
theorem reset_restores_iff (timers : Timers) (micros : UInt64) (as : List (Action α))
    (hquiet : Quiet setup (run (step setup) (boot timers micros) as)) :
    Restored setup (run (step setup) (boot timers micros) as) ↔
      Unmarked (run (step setup) (boot timers micros) as).statics :=
  restored_iff setup _ (run_unwired setup timers micros as).memProfiler hquiet

section Runs

def Configures : CorePc StartupBarrier ShutdownBarrier → Prop
  | .configureTask _ => True
  | .configureKick => True
  | _ => False

def Unmarking (s : State α) : Action α → Prop
  | .setTelemetryMutex mutex => mutex = none
  | .service (.setVerbosity level) => level = .status
  | .build deps _ =>
    s.statics.system.built = false →
      (Builder.build setup.cfg setup.user deps s.statics.system).2 = none →
        setup.metricsWindowUs = kDefaultWindowUs
  | .core c => ∀ frame, s.core c = some frame → ¬ Configures frame.pc
  | _ => True

theorem coreStep_idle (crunchMaxOverruns : UInt32) (maxIterationUs : ℕ → UInt64)
    (sync : SyncType Sync StartupBarrier ShutdownBarrier) (sys : System) (c : ℕ)
    (t : Turn Sync StartupBarrier ShutdownBarrier) (hpc : ¬ Configures t.pc)
    (h : t.crunchDispatcher = .idle) :
    (coreStep crunchMaxOverruns maxIterationUs sync sys c t).crunchDispatcher = .idle := by
  have htransition : ∀ target pc, (t.transitionTo target pc).crunchDispatcher = .idle := by
    intro target pc
    unfold Turn.transitionTo
    split <;> exact h
  cases hplace : t.pc with
  | configureTask task | configureKick =>
    rw [hplace] at hpc
    exact absurd trivial hpc
  | crunch loop =>
    have htask : t.crunchDispatcher.task = none := by rw [h]; rfl
    simp only [coreStep, hplace, CrunchDispatcher.loopStep, htask]
    exact h
  | toInitializing | toRunning | toShuttingDown | toShutdown =>
    simp only [coreStep, hplace]
    exact htransition _ _
  | init k | dispatch | stopTest i | startupBarrier b | shutdownBarrier b =>
    simp only [coreStep, hplace]
    split <;> exact h
  | _ =>
    simp only [coreStep, hplace]
    exact h

theorem unmarked_iff (s : Statics α) :
    Unmarked s ↔
      (kept s).telemetryMutex = none ∧ (kept s).verbosity = .status ∧
        (kept s).queueWindowUs = kDefaultWindowUs ∧ (kept s).healthWindowUs = kDefaultWindowUs ∧
          (kept s).crunchDispatcher = .idle :=
  ⟨fun h => ⟨h.telemetryMutex, h.verbosity, h.queueWindowUs, h.healthWindowUs,
    h.crunchDispatcher⟩, fun ⟨hm, hv, hq, hh, hc⟩ => ⟨hm, hv, hq, hh, hc⟩⟩

theorem build_unmarked (s : Statics α) (deps : Dependencies) (clockSource : Bool)
    (micros : UInt64)
    (hwindow : s.system.built = false →
      (Builder.build setup.cfg setup.user deps s.system).2 = none →
        setup.metricsWindowUs = kDefaultWindowUs) (h : Unmarked s) :
    Unmarked (s.build setup deps clockSource micros) := by
  unfold Statics.build
  split
  · exact h
  · next hbuilt =>
    split
    · next hnone =>
      have hus := hwindow (by simpa using hbuilt) hnone
      rw [unmarked_iff, configured_kept, complete_kept, prepare_kept]
      exact ⟨h.telemetryMutex, h.verbosity, hus, hus, h.crunchDispatcher⟩
    · rw [unmarked_iff, prepare_kept]
      exact (unmarked_iff s).mp h

theorem stepCore_unmarked (s : State α) (c : ℕ)
    (hcore : ∀ frame, s.core c = some frame → ¬ Configures frame.pc)
    (hu : (kept s.statics).Unwired) (h : Unmarked s.statics) :
    Unmarked (stepCore setup s c).statics := by
  unfold stepCore
  split
  · exact h
  · next frame hframe =>
    split
    · rw [unmarked_iff, tickStep_kept setup c frame.tick s hu]
      exact (unmarked_iff s.statics).mp h
    · have hidle := coreStep_idle setup.crunchMaxOverruns setup.maxIterationUs
        (syncType setup.cfg) s.statics.system c (s.turn c frame.pc) (hcore frame hframe)
        h.crunchDispatcher
      rw [unmarked_iff, advance_kept setup s c frame.call frame.pc hu]
      exact ⟨h.telemetryMutex, h.verbosity, h.queueWindowUs, h.healthWindowUs, hidle⟩

theorem serve_unmarked (s : State α) (x : Service α) (hx : Unmarking setup s (.service x))
    (h : Unmarked s.statics) : Unmarked (s.serve setup x).statics := by
  cases x with
  | setVerbosity level =>
    exact ⟨h.telemetryMutex, hx, h.queueWindowUs, h.healthWindowUs, h.crunchDispatcher⟩
  | push cmd =>
    rw [State.serve]
    split
    · exact (unmarked_iff _).mpr ((unmarked_iff s.statics).mp h)
    · exact h
  | _ => exact (unmarked_iff _).mpr ((unmarked_iff s.statics).mp h)

theorem step_unmarked (s : State α) (a : Action α) (ha : Unmarking setup s a)
    (hu : (kept s.statics).Unwired) (h : Unmarked s.statics) :
    Unmarked (step setup s a).statics := by
  cases a with
  | setTelemetryMutex mutex =>
    exact ⟨ha, h.verbosity, h.queueWindowUs, h.healthWindowUs, h.crunchDispatcher⟩
  | build deps clockSource => exact build_unmarked setup s.statics deps clockSource s.micros ha h
  | core c => exact stepCore_unmarked setup s c ha hu h
  | service x => exact serve_unmarked setup s x ha h
  | reset =>
    rw [step]
    split
    · exact ⟨h.telemetryMutex, h.verbosity, h.queueWindowUs, h.healthWindowUs,
        h.crunchDispatcher⟩
    · exact h
  | _ =>
    rw [unmarked_iff, step_kept setup s _ rfl]
    exact (unmarked_iff s.statics).mp h

/-- A run that never sets a mutex or another verbosity, never completes a build
with another window and never configures the crunch dispatcher can be reset at
any place between its calls. -/
theorem restored_along (timers : Timers) (micros : UInt64) (as : List (Action α))
    (ha : Along (step setup) (Unmarking setup) (boot timers micros) as)
    (hquiet : Quiet setup (run (step setup) (boot timers micros) as)) :
    Restored setup (run (step setup) (boot timers micros) as) := by
  have hrun := run_along (step setup)
    (fun s : State α => (kept s.statics).Unwired ∧ Unmarked s.statics) (Unmarking setup)
    (fun s a ha h => ⟨step_unwired setup s a h.1, step_unmarked setup s a ha h.1 h.2⟩)
    (boot timers micros) ⟨⟨rfl, rfl, rfl, rfl⟩, ⟨rfl, rfl, rfl, rfl, rfl⟩⟩ as ha
  exact (restored_iff setup _ hrun.1.memProfiler hquiet).mpr hrun.2

end Runs

section Witnesses

def abortedCalls : List (Action ℕ) :=
  [.register (.addScheduledTask 0 0), .build fullDependencies true, .init 0] ++
    List.replicate 12 (.core 0) ++ [.service .signalSafetyAbort]

theorem reset_restores_iff_aborted :
    Restored dualSetup (run (step dualSetup) (boot freshTimers 0) abortedCalls) :=
  (reset_restores_iff dualSetup freshTimers 0 abortedCalls (by decide +kernel)).mpr
    ⟨by decide +kernel, by decide +kernel, by decide +kernel, by decide +kernel,
      by decide +kernel⟩

def telemetryCalls : List (Action ℕ) :=
  [.setTelemetryMutex (some 0), .service (.setVerbosity .debug)]

theorem telemetry_settings_kept :
    Quiet dualSetup (run (step dualSetup) (boot freshTimers 0) telemetryCalls) ∧
      ¬ Restored dualSetup (run (step dualSetup) (boot freshTimers 0) telemetryCalls) := by
  refine ⟨by decide +kernel, fun h => ?_⟩
  have hmutex := congrArg (fun s => s.statics.telemetryMutex) (h [])
  exact absurd hmutex (by decide +kernel)

end Witnesses

end SputterOS.SystemReset
