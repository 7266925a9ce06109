import SputterOS.Kernel.KeptMembers

/-!
# What the calls do to the schedule and the clocks

The task lists, the last dispatches, the utilization trackers and the starts of
the task timers are written by the ticks, the builds and the resets only. Every
other call leaves them as they are, and the steps of a tick write few of them.
-/

set_option autoImplicit false

namespace SputterOS.SystemCalls
open SputterOS.Kernel SputterOS.Builder SputterOS.Metrics SputterOS.MultiCoreSync
  SputterOS.StaticData SputterOS.CoreRun

structure Steady {α : Type*} (s s' : State α) : Prop where
  cores : s'.statics.system.cores = s.statics.system.cores
  built : s'.statics.system.built = s.statics.system.built
  timer : s'.statics.timer = s.statics.timer
  lastDispatch : s'.statics.lastDispatch = s.statics.lastDispatch
  utilTracker : s'.statics.utilTracker = s.statics.utilTracker
  clocked : s'.timers.clocked = s.timers.clocked
  start : ∀ t, (s'.timers.timer t).start = (s.timers.timer t).start
  micros : s'.micros = s.micros
  core : s'.core = s.core

namespace Steady

variable {α : Type*} {s s' s'' : State α}

theorem refl (s : State α) : Steady s s := ⟨rfl, rfl, rfl, rfl, rfl, rfl, fun _ => rfl, rfl, rfl⟩

theorem trans (h : Steady s s') (h' : Steady s' s'') : Steady s s'' where
  cores := h'.cores.trans h.cores
  built := h'.built.trans h.built
  timer := h'.timer.trans h.timer
  lastDispatch := h'.lastDispatch.trans h.lastDispatch
  utilTracker := h'.utilTracker.trans h.utilTracker
  clocked := h'.clocked.trans h.clocked
  start t := (h'.start t).trans (h.start t)
  micros := h'.micros.trans h.micros
  core := h'.core.trans h.core

end Steady

section Parts

variable {α : Type*} (setup : Setup)

theorem log_steady (s : State α) (e : ErrorLog.Entry) : Steady s (s.log e) :=
  ⟨rfl, rfl, rfl, rfl, rfl, rfl, fun _ => rfl, rfl, rfl⟩

theorem updateTimer_steady (s : State α) (task : Task) (f : TaskTimer → TaskTimer)
    (hf : ∀ timer, (f timer).start = timer.start) : Steady s (s.updateTimer task f) where
  cores := rfl
  built := rfl
  timer := rfl
  lastDispatch := rfl
  utilTracker := rfl
  clocked := rfl
  start t := by
    show (Function.update s.timers.timer task (f (s.timers.timer task)) t).start = _
    by_cases ht : t = task
    · subst ht
      rw [Function.update_self, hf]
    · rw [Function.update_of_ne ht]
  micros := rfl
  core := rfl

theorem stop_start (timer : TaskTimer) (now : UInt64) : (timer.stop now).start = timer.start := by
  unfold TaskTimer.stop
  dsimp only
  split_ifs <;> rfl

theorem stopTimer_steady (s : State α) (task : Task) : Steady s (s.stopTimer task) :=
  updateTimer_steady s task _ (fun timer => stop_start timer _)

theorem checkDeadline_steady (task : TaskPtr) (now : UInt64) (s : State α) :
    Steady s (s.checkDeadline setup task now) := by
  unfold State.checkDeadline
  split
  · exact (updateTimer_steady s _ TaskTimer.recordDeadlineMiss (fun _ => rfl)).trans
      (log_steady _ _)
  · exact .refl s

theorem detectRollover_steady (c : ℕ) (now : UInt64) (s : State α) :
    Steady s (s.detectRollover setup c now) := by
  unfold State.detectRollover
  split
  · exact log_steady s _
  · exact .refl s

theorem advanceRing_steady (s : State α) : Steady s s.advanceRing :=
  ⟨rfl, rfl, rfl, rfl, rfl, rfl, fun _ => rfl, rfl, rfl⟩

theorem callBackground_steady (task : BackgroundPtr) (s : State α) :
    Steady s (s.callBackground setup task) := by
  cases task with
  | user t => exact .refl s
  | diagsTask =>
    rw [State.callBackground, State.diagTick]
    split
    · exact .refl s
    · exact ⟨rfl, rfl, rfl, rfl, rfl, rfl, fun _ => rfl, rfl, rfl⟩

theorem resetMonitored_start (ts : Timers) (d : Diagnostics) (t : Task) :
    ((ts.resetMonitored d).timer t).start = (ts.timer t).start := by
  show (if t ∈ d.monitoredTasks.map Task.scheduled then (ts.timer t).reset
    else ts.timer t).start = _
  split <;> rfl

theorem diagInit_steady (s : State α) : Steady s s.diagInit := by
  unfold State.diagInit
  split
  · exact .refl s
  · exact ⟨rfl, rfl, rfl, rfl, rfl, rfl, resetMonitored_start s.timers _, rfl, rfl⟩

theorem record_steady (s : State α) (e : Event) : Steady s (s.record setup e) := by
  cases e with
  | initBegin call =>
    cases call with
    | backgroundTask task =>
      cases task with
      | diagsTask => exact diagInit_steady s
      | user t => exact .refl s
    | task t => exact .refl s
    | crunchTask t => exact .refl s
  | dispatcher event =>
    cases event <;> exact ⟨rfl, rfl, rfl, rfl, rfl, rfl, fun _ => rfl, rfl, rfl⟩
  | invalidState target => exact log_steady s _
  | _ => exact .refl s

theorem records_steady (es : List Event) (s : State α) :
    Steady s (es.foldl (State.record setup) s) := by
  induction es generalizing s with
  | nil => exact .refl s
  | cons e es ih => exact (record_steady setup s e).trans (ih _)

theorem coreStep_micros {ω β γ : Type*} (crunchMaxOverruns : UInt32) (maxIterationUs : ℕ → UInt64)
    (sync : SyncType ω β γ) (sys : System) (c : ℕ) (t : Turn ω β γ) :
    (coreStep crunchMaxOverruns maxIterationUs sync sys c t).shared.micros = t.shared.micros := by
  have htransition : ∀ target pc, (t.transitionTo target pc).shared.micros = t.shared.micros := by
    intro target pc
    unfold Turn.transitionTo
    split <;> rfl
  cases hplace : t.pc with
  | toInitializing | toRunning | toShuttingDown | toShutdown =>
    simp only [coreStep, hplace]
    exact htransition _ _
  | init k | dispatch | stopTest i | startupBarrier b | shutdownBarrier b =>
    simp only [coreStep, hplace]
    split <;> rfl
  | _ => simp only [coreStep, hplace]

theorem advance_steady (s : State α) (c : ℕ) (call : Call)
    (pc : CorePc StartupBarrier ShutdownBarrier) :
    ∃ mid x, Steady s mid ∧
      s.advance setup c call pc = { mid with core := Function.update mid.core c x } ∧
      ∀ frame, x = some frame → frame.call = call ∧
        frame.tick = .start (s.statics.nowMicros s.micros) := by
  have hput : ∀ t, Steady s (s.put c t) :=
    fun _ => ⟨rfl, rfl, rfl, rfl, rfl, rfl, fun _ => rfl, rfl, rfl⟩
  refine ⟨_, _, (hput _).trans (records_steady setup _ _), rfl, ?_⟩
  intro frame hframe
  split at hframe
  · cases hframe
  · rw [← Option.some.inj hframe]
    exact ⟨rfl, congrArg Tick.start (coreStep_micros _ _ _ _ _ _)⟩

theorem serve_steady (s : State α) (x : Service α) : Steady s (s.serve setup x) := by
  cases x with
  | push cmd =>
    rw [State.serve]
    split <;> exact ⟨rfl, rfl, rfl, rfl, rfl, rfl, fun _ => rfl, rfl, rfl⟩
  | recordOverrun task => exact updateTimer_steady s task TaskTimer.recordOverrun (fun _ => rfl)
  | _ => exact ⟨rfl, rfl, rfl, rfl, rfl, rfl, fun _ => rfl, rfl, rfl⟩

def Action.paces : Action α → Bool
  | .register _ => true
  | .build _ _ => true
  | .core _ => true
  | .setMicros _ => true
  | .reset => true
  | _ => false

def Entered (a : Action α) (c : ℕ) (frame : Frame) : Prop :=
  frame.tick = .returned ∨ ∃ now, a = .tick c now ∧ frame = ⟨.tick, .inTick, .start now⟩

theorem step_steady (s : State α) (a : Action α) (ha : a.paces = false) :
    Steady s { step setup s a with core := s.core } ∧
      ∀ c, (step setup s a).core c = s.core c ∨
        s.core c = none ∧ s.statics.system.built = true ∧ c < setup.cfg.kCoreCount ∧
          ∃ frame, (step setup s a).core c = some frame ∧ Entered a c frame := by
  have hsame : ∀ s', step setup s a = s' → Steady s s' →
      Steady s { step setup s a with core := s.core } ∧
        ∀ c, (step setup s a).core c = s.core c ∨
          s.core c = none ∧ s.statics.system.built = true ∧ c < setup.cfg.kCoreCount ∧
            ∃ frame, (step setup s a).core c = some frame ∧ Entered a c frame := by
    rintro s' rfl h
    refine ⟨⟨h.cores, h.built, h.timer, h.lastDispatch, h.utilTracker, h.clocked, h.start,
      h.micros, rfl⟩, fun c => Or.inl (congrFun h.core c)⟩
  have henter : ∀ c frame, step setup s a = s.enter setup c frame → Entered a c frame →
      Steady s { step setup s a with core := s.core } ∧
        ∀ c, (step setup s a).core c = s.core c ∨
          s.core c = none ∧ s.statics.system.built = true ∧ c < setup.cfg.kCoreCount ∧
            ∃ frame, (step setup s a).core c = some frame ∧ Entered a c frame := by
    intro c frame hstep hframe
    rw [hstep]
    unfold State.enter
    split
    · next hidle =>
      refine ⟨⟨rfl, rfl, rfl, rfl, rfl, rfl, fun _ => rfl, rfl, rfl⟩, fun d => ?_⟩
      by_cases hd : d = c
      · subst hd
        exact Or.inr ⟨hidle.2.2, hidle.1, hidle.2.1, frame, Function.update_self .., hframe⟩
      · exact Or.inl (Function.update_of_ne hd ..)
    · exact ⟨.refl s, fun d => Or.inl rfl⟩
  cases a with
  | addStopCondition fn =>
    apply hsame _ rfl
    rw [step]
    split <;> exact ⟨rfl, rfl, rfl, rfl, rfl, rfl, fun _ => rfl, rfl, rfl⟩
  | setTelemetryDrain fn ctx =>
    exact hsame _ rfl ⟨rfl, rfl, rfl, rfl, rfl, rfl, fun _ => rfl, rfl, rfl⟩
  | setTelemetryMutex mutex =>
    exact hsame _ rfl ⟨rfl, rfl, rfl, rfl, rfl, rfl, fun _ => rfl, rfl, rfl⟩
  | setStopAnswer fn fires =>
    exact hsame _ rfl ⟨rfl, rfl, rfl, rfl, rfl, rfl, fun _ => rfl, rfl, rfl⟩
  | service x => exact hsame _ rfl (serve_steady setup s x)
  | init c => exact henter c _ rfl (Or.inl rfl)
  | run c => exact henter c _ rfl (Or.inl rfl)
  | tick c now => exact henter c _ rfl (Or.inr ⟨now, rfl, rfl⟩)
  | setMicros micros => cases ha
  | register r => cases ha
  | build deps clockSource => cases ha
  | core c => cases ha
  | reset => cases ha

end Parts

section Ticks

variable {α : Type*} (setup : Setup)

theorem stepCore_tick (s : State α) (c : ℕ) (call : Call) (tick : Tick)
    (hframe : s.core c = some ⟨call, .inTick, tick⟩) (htick : tick ≠ .returned) :
    stepCore setup s c =
      { (tickStep setup c s tick).1 with
        core := Function.update s.core c
          (some ⟨call, .inTick, (tickStep setup c s tick).2⟩) } := by
  rw [stepCore, hframe]
  exact if_pos ⟨rfl, htick⟩

theorem stepCore_tick_core (s : State α) (c : ℕ) (call : Call) (tick : Tick)
    (hframe : s.core c = some ⟨call, .inTick, tick⟩) (htick : tick ≠ .returned) :
    (stepCore setup s c).core c = some ⟨call, .inTick, (tickStep setup c s tick).2⟩ := by
  rw [stepCore_tick setup s c call tick hframe htick]
  exact Function.update_self ..

theorem stepCore_tick_statics (s : State α) (c : ℕ) (call : Call) (tick : Tick)
    (hframe : s.core c = some ⟨call, .inTick, tick⟩) (htick : tick ≠ .returned) :
    (stepCore setup s c).statics = (tickStep setup c s tick).1.statics := by
  rw [stepCore_tick setup s c call tick hframe htick]

structure TickKeeps (s s' : State α) : Prop where
  cores : s'.statics.system.cores = s.statics.system.cores
  built : s'.statics.system.built = s.statics.system.built
  timer : s'.statics.timer = s.statics.timer
  clocked : s'.timers.clocked = s.timers.clocked
  micros : s'.micros = s.micros

theorem TickKeeps.of_steady {s s' : State α} (h : Steady s s') : TickKeeps s s' :=
  ⟨h.cores, h.built, h.timer, h.clocked, h.micros⟩

theorem markDispatch_keeps (c t : ℕ) (task : TaskPtr) (now : UInt64) (s : State α) :
    TickKeeps s (s.markDispatch setup c t task now) := by
  unfold State.markDispatch
  split <;> exact ⟨rfl, rfl, rfl, rfl, rfl⟩

theorem tickStep_keeps (c : ℕ) (tick : Tick) (s : State α) :
    TickKeeps s (tickStep setup c s tick).1 := by
  cases tick with
  | start now =>
    have h := detectRollover_steady setup c now s
    exact ⟨h.cores, h.built, h.timer, h.clocked, h.micros⟩
  | slot now t busy =>
    rw [tickStep]
    split
    · exact .of_steady (.refl s)
    · split
      · exact .of_steady (.refl s)
      · have h := markDispatch_keeps setup c t (by assumption) now s
        exact ⟨h.cores, h.built, h.timer, h.clocked, h.micros⟩
  | inTask now t task busy =>
    exact .of_steady ((stopTimer_steady s _).trans (checkDeadline_steady setup task now _))
  | background now i busy used =>
    rw [tickStep]
    split
    · split
      · exact .of_steady (advanceRing_steady s)
      · split
        · exact .of_steady (advanceRing_steady s)
        · exact ⟨rfl, rfl, rfl, rfl, rfl⟩
    · exact .of_steady (.refl s)
  | inBackground now i task busy used => exact .of_steady (callBackground_steady setup task s)
  | stopBackground now i task busy used => exact .of_steady (stopTimer_steady s _)
  | finish now busy => exact ⟨rfl, rfl, rfl, rfl, rfl⟩
  | recordGap read gap tickEndTime => exact ⟨rfl, rfl, rfl, rfl, rfl⟩
  | returned => exact .of_steady (.refl s)

theorem stepCore_core (s : State α) (c d : ℕ) (h : d ≠ c ∨ s.core d = none) :
    (stepCore setup s c).core d = s.core d := by
  unfold stepCore
  split
  · rfl
  · next frame hframe =>
    have hd : d ≠ c := by
      rcases h with h | h
      · exact h
      · rintro rfl
        rw [h] at hframe
        cases hframe
    split
    · exact Function.update_of_ne hd ..
    · obtain ⟨mid, x, hmid, heq, -⟩ := advance_steady setup s c frame.call frame.pc
      rw [heq]
      show Function.update mid.core c x d = _
      rw [Function.update_of_ne hd, hmid.core]

theorem stepCore_keeps (s : State α) (c : ℕ) : TickKeeps s (stepCore setup s c) := by
  unfold stepCore
  split
  · exact .of_steady (.refl s)
  · next frame hframe =>
    split
    · have h := tickStep_keeps setup c frame.tick s
      exact ⟨h.cores, h.built, h.timer, h.clocked, h.micros⟩
    · obtain ⟨mid, x, h, heq, -⟩ := advance_steady setup s c frame.call frame.pc
      rw [heq]
      exact ⟨h.cores, h.built, h.timer, h.clocked, h.micros⟩

end Ticks

section Idle

variable {α : Type*} (setup : Setup)

structure Idle (s : State α) : Prop where
  core : ∀ c, s.core c = none
  lastDispatch : ∀ c t, s.statics.lastDispatch c t = 0
  utilTracker : ∀ c, s.statics.utilTracker c = .new

def IdleUnbuilt (s : State α) : Prop :=
  (∀ c, setup.cfg.kCoreCount ≤ c → s.core c = none) ∧
    (s.statics.system.built = false → Idle s)

theorem register_built (sys : System) (r : Registration) :
    (register setup.cfg sys r).built = sys.built := by
  cases r with
  | addBackgroundTask task =>
    rw [register]
    split <;> rfl
  | _ => rfl

theorem prepared_built (deps : Dependencies) (sys : System) :
    (prepared setup.cfg setup.user deps sys).built = sys.built := by
  have hregister : (registerKernelTasks setup.cfg sys).built = sys.built := by
    unfold registerKernelTasks
    split_ifs <;> rfl
  show (if deps.app then createKernelTasks setup.cfg deps sys else sys).built = _
  split
  · exact hregister
  · rfl

theorem completed_eq (st : Statics α) (deps : Dependencies) (clockSource : Bool)
    (micros : UInt64) (before : KernelState) :
    ∃ all kernel entries,
      (st.complete setup deps clockSource micros).configured setup before =
        { st.propagate setup clockSource micros with
          allTasks := all, kernelTasks := kernel, errorLog := entries } := by
  have hwire : ∀ tasks, ∃ all kernel, st.wireTasks deps tasks =
      { st with allTasks := all, kernelTasks := kernel } := by
    intro tasks
    unfold Statics.wireTasks
    split
    · exact ⟨_, _, rfl⟩
    · exact ⟨st.allTasks, st.kernelTasks, rfl⟩
  have hconfigured : ∀ st : Statics α, ∃ entries,
      st.configured setup before = { st with errorLog := entries } := by
    intro st
    unfold Statics.configured
    split
    · exact ⟨st.errorLog, rfl⟩
    · exact ⟨_, rfl⟩
  obtain ⟨entries, hlog⟩ := hconfigured (st.complete setup deps clockSource micros)
  obtain ⟨all, kernel, htasks⟩ := hwire ((Builder.allTasks setup.cfg st.system).take
    (setup.cfg.kCoreCount*kMaxTasksPerCore))
  refine ⟨all, kernel, entries, ?_⟩
  rw [hlog, Statics.complete, htasks]
  rfl

/-- A build that succeeds leaves the prepared task lists and touches neither the
cores nor what they measure. -/
theorem step_build_succeeded (s : State α) (deps : Dependencies) (clockSource : Bool)
    (hunbuilt : s.statics.system.built = false)
    (hbuilt : (step setup s (.build deps clockSource)).statics.system.built = true) :
    (step setup s (.build deps clockSource)).statics.system.cores =
        (prepared setup.cfg setup.user deps s.statics.system).cores ∧
      (step setup s (.build deps clockSource)).statics.timer =
        (if clockSource then some s.micros else s.statics.timer) := by
  have hstatics : (step setup s (.build deps clockSource)).statics =
      s.statics.build setup deps clockSource s.micros := rfl
  rw [hstatics, Statics.build, if_neg (by simp [hunbuilt])] at hbuilt ⊢
  by_cases hnone : (Builder.build setup.cfg setup.user deps s.statics.system).2 = none
  · have hcores : (Builder.build setup.cfg setup.user deps s.statics.system).1.cores =
        (prepared setup.cfg setup.user deps s.statics.system).cores := by
      rw [Builder.build, if_neg (by simp [hunbuilt])]
      split <;> rfl
    obtain ⟨all, kernel, entries, hcompleted⟩ := completed_eq setup (s.statics.prepare setup deps)
      deps clockSource s.micros s.statics.system.kernelState
    rw [if_pos hnone, hcompleted]
    exact ⟨hcores, rfl⟩
  · -- a build with an error does not mark the system as built
    have herror : (Builder.build setup.cfg setup.user deps s.statics.system).1.built = false := by
      cases hvalid : validate setup.cfg setup.user
          ((prepared setup.cfg setup.user deps s.statics.system).held deps)
          (prepared setup.cfg setup.user deps s.statics.system) with
      | none => simp [Builder.build, hunbuilt, hvalid] at hnone
      | some error => simp [Builder.build, hunbuilt, hvalid, prepared_built]
    rw [if_neg hnone] at hbuilt
    exact absurd (herror.symm.trans hbuilt) (by decide)

theorem step_build_built (s : State α) (deps : Dependencies) (clockSource : Bool)
    (hbuilt : s.statics.system.built = true) : step setup s (.build deps clockSource) = s := by
  have hstatics : s.statics.build setup deps clockSource s.micros = s.statics := by
    rw [Statics.build, if_pos hbuilt]
  have htimers : s.timers.build setup s.statics.system deps clockSource = s.timers := by
    rw [Timers.build, if_pos hbuilt]
  rw [step, hstatics, htimers]

theorem step_build_idle (s : State α) (deps : Dependencies) (clockSource : Bool) (h : Idle s) :
    Idle (step setup s (.build deps clockSource)) := by
  have hbuild : (s.statics.build setup deps clockSource s.micros).lastDispatch =
        s.statics.lastDispatch ∧
      (s.statics.build setup deps clockSource s.micros).utilTracker = s.statics.utilTracker := by
    unfold Statics.build
    split
    · exact ⟨rfl, rfl⟩
    · split
      · obtain ⟨all, kernel, entries, hcompleted⟩ := completed_eq setup
          (s.statics.prepare setup deps) deps clockSource s.micros s.statics.system.kernelState
        rw [hcompleted]
        exact ⟨rfl, rfl⟩
      · exact ⟨rfl, rfl⟩
  refine ⟨h.core, fun c t => ?_, fun c => ?_⟩
  · show (s.statics.build setup deps clockSource s.micros).lastDispatch c t = 0
    rw [hbuild.1, h.lastDispatch]
  · show (s.statics.build setup deps clockSource s.micros).utilTracker c = .new
    rw [hbuild.2, h.utilTracker]

theorem step_idleUnbuilt (s : State α) (a : Action α) (h : IdleUnbuilt setup s) :
    IdleUnbuilt setup (step setup s a) := by
  obtain ⟨hbeyond, hidle⟩ := h
  cases hpaces : a.paces with
  | false =>
    obtain ⟨hsteady, hcore⟩ := step_steady setup s a hpaces
    have hbuilt : (step setup s a).statics.system.built = s.statics.system.built := hsteady.built
    refine ⟨fun c hc => ?_, fun hunbuilt => ?_⟩
    · rcases hcore c with h | ⟨-, -, hlt, -⟩
      · rw [h, hbeyond c hc]
      · omega
    · have hfalse := hbuilt.symm.trans hunbuilt
      obtain ⟨hnone, hlast, htracker⟩ := hidle hfalse
      refine ⟨fun c => ?_, fun c t => ?_, fun c => ?_⟩
      · rcases hcore c with h | ⟨-, htrue, -⟩
        · rw [h, hnone c]
        · rw [hfalse] at htrue
          cases htrue
      · rw [show (step setup s a).statics.lastDispatch = _ from hsteady.lastDispatch, hlast]
      · rw [show (step setup s a).statics.utilTracker = _ from hsteady.utilTracker, htracker]
  | true =>
    cases a with
    | register r =>
      refine ⟨hbeyond, fun hunbuilt => ?_⟩
      have h := hidle ((register_built setup s.statics.system r).symm.trans hunbuilt)
      exact ⟨h.core, h.lastDispatch, h.utilTracker⟩
    | setMicros micros =>
      exact ⟨hbeyond, fun hunbuilt =>
        ⟨(hidle hunbuilt).core, (hidle hunbuilt).lastDispatch, (hidle hunbuilt).utilTracker⟩⟩
    | build deps clockSource =>
      refine ⟨hbeyond, fun hunbuilt => ?_⟩
      cases hbuilt : s.statics.system.built with
      | false => exact step_build_idle setup s deps clockSource (hidle hbuilt)
      | true =>
        rw [step_build_built setup s deps clockSource hbuilt, hbuilt] at hunbuilt
        cases hunbuilt
    | core c =>
      rw [step]
      refine ⟨fun d hd => ?_, fun hunbuilt => ?_⟩
      · rw [stepCore_core setup s c d (Or.inr (hbeyond d hd)), hbeyond d hd]
      · have h := hidle ((stepCore_keeps setup s c).built.symm.trans hunbuilt)
        have hstay : stepCore setup s c = s := by
          rw [stepCore, h.core c]
        rw [hstay]
        exact h
    | reset =>
      rw [step]
      split
      · next hquiet =>
        refine ⟨hbeyond, fun _ => ⟨fun c => ?_, fun c t => rfl, fun c => rfl⟩⟩
        rcases Nat.lt_or_ge c setup.cfg.kCoreCount with hc | hc
        · exact hquiet c hc
        · exact hbeyond c hc
      · exact ⟨hbeyond, hidle⟩
    | _ => cases hpaces

theorem run_idleUnbuilt (timers : Timers) (micros : UInt64) (as : List (Action α)) :
    IdleUnbuilt setup (Foundation.Transition.run (step setup) (boot timers micros) as) :=
  Foundation.Transition.run_preserves (step setup) (IdleUnbuilt setup)
    (step_idleUnbuilt setup) (boot timers micros)
    ⟨fun _ _ => rfl, fun _ => ⟨fun _ => rfl, fun _ _ => rfl, fun _ => rfl⟩⟩ as

end Idle

end SputterOS.SystemCalls
