import SputterOS.Foundation.RollingWindow
import SputterOS.Foundation.RunningStatistics
import SputterOS.Kernel.SteadyMembers

/-!
# What the snapshot tells of the ticks

At its end a tick records its gap, and on the first core the depth of the command
queue. Both go into windows of time. The cores share the metrics of the gaps, which
each of them reads and stores without a lock. While no two of them do so at once, a
snapshot shows the figures of the last complete windows since a reset, whatever
builds, services and other cores do in between.
-/

set_option autoImplicit false

namespace SputterOS.HealthWindows
open SputterOS.Kernel SputterOS.Builder SputterOS.Metrics SputterOS.MultiCoreSync
  SputterOS.StaticData SputterOS.SystemCalls Foundation.RollingWindow
  Foundation.RunningStatistics Foundation.Transition
open SputterOS.CoreRun (CorePc Event)

structure Figures where
  peak : ℕ
  total : UInt64
  count : UInt32

namespace Figures

def empty : Figures := ⟨0, 0, 0⟩

def add (f : Figures) (x : ℕ) : Figures := ⟨max x f.peak, f.total+UInt64.ofNat x, f.count+1⟩

end Figures

def depthFigures (q : QueueDepthMonitor) : Rolling Figures UInt64 :=
  ⟨q.windowStartUs, ⟨q.maxDepth, q.sumDepth, q.sampleCount⟩,
    ⟨q.reportedMaxDepth, q.reportedSumDepth, q.reportedSampleCount⟩⟩

def gapFigures (m : SchedulerHealthMetrics) : Rolling Figures UInt64 :=
  ⟨m.windowStartUs, ⟨m.maxGap.toNat, m.gapUs, m.ticks⟩,
    ⟨m.reportedMaxGapUs.toNat, m.reportedTotalGapUs, m.reportedTickCount⟩⟩

@[simp] theorem gapFigures_withGaps (m read : SchedulerHealthMetrics) :
    gapFigures (m.withGaps read) = gapFigures read := rfl

def shownFigures (r : Rolling Figures UInt64) : Figures :=
  if 0 < r.reported.count.toNat then r.reported else r.current

section Monitors

theorem sample_depthFigures (q : QueueDepthMonitor) (depth : ℕ) (now : UInt64) :
    depthFigures (q.sample depth now) =
      (depthFigures q).sample .empty .add (windowEnds q.windowUs q.windowStartUs) depth now := by
  unfold QueueDepthMonitor.sample Rolling.sample
  dsimp only
  split <;> rfl

theorem recordGap_gapFigures (m : SchedulerHealthMetrics) (gap now : UInt64) :
    gapFigures (m.recordGap gap now) =
      (gapFigures m).sample .empty .add (windowEnds m.windowUs m.windowStartUs) gap.toNat now := by
  have hadd : Figures.add ⟨m.maxGap.toNat, m.gapUs, m.ticks⟩ gap.toNat =
      ⟨(max gap m.maxGap).toNat, m.gapUs+gap, m.ticks+1⟩ := by
    have hmax : (max gap m.maxGap).toNat = max gap.toNat m.maxGap.toNat := by
      change (if gap ≤ m.maxGap then m.maxGap else gap).toNat = _
      rw [Nat.max_def]
      simp only [UInt64.le_iff_toNat_le]
      split_ifs <;> rfl
    rw [Figures.add, hmax, UInt64.ofNat_toNat]
  have hcurrent : (gapFigures m).current = ⟨m.maxGap.toNat, m.gapUs, m.ticks⟩ := rfl
  unfold SchedulerHealthMetrics.recordGap Rolling.sample
  dsimp only
  rw [hcurrent, hadd]
  split <;> rfl

theorem accumulate_peak (xs : List ℕ) : (accumulate Figures.empty Figures.add xs).peak = greatest xs := by
  induction xs using List.reverseRecOn with
  | nil => rfl
  | append_singleton xs x ih => rw [accumulate_snoc, greatest_snoc, ← ih]; rfl

theorem accumulate_total (xs : List ℕ) :
    (accumulate Figures.empty Figures.add xs).total = UInt64.ofNat xs.sum := by
  induction xs using List.reverseRecOn with
  | nil => rfl
  | append_singleton xs x ih =>
    rw [accumulate_snoc, List.sum_append, List.sum_singleton, UInt64.ofNat_add, ← ih]
    rfl

theorem accumulate_count (xs : List ℕ) :
    (accumulate Figures.empty Figures.add xs).count = UInt32.ofNat xs.length := by
  induction xs using List.reverseRecOn with
  | nil => rfl
  | append_singleton xs x ih =>
    rw [accumulate_snoc, List.length_append, List.length_singleton, UInt32.ofNat_add, ← ih]
    rfl

theorem count_toNat (xs : List ℕ) (h : xs.length < 2^32) :
    (accumulate Figures.empty Figures.add xs).count.toNat = xs.length := by
  rw [accumulate_count]
  exact UInt32.toNat_ofNat_of_lt' h

end Monitors

section Views

variable {α : Type*} (setup : Setup)

structure View (α : Type*) where
  gaps : Rolling Figures UInt64
  depths : Rolling Figures UInt64
  lastDepth : ℕ
  queue : List α

def view (s : Statics α) : View α :=
  ⟨gapFigures s.schedulerHealth, depthFigures s.queueMonitor, s.queueMonitor.lastDepth,
    s.commandQueue⟩

theorem callBackground_view (task : BackgroundPtr) (s : State α) :
    view (s.callBackground setup task).statics = view s.statics := by
  cases task with
  | user t => rfl
  | diagsTask =>
    rw [State.callBackground, State.diagTick]
    split
    · rfl
    · next d hd =>
      have hgaps : gapFigures (d.aggregate s.timers.timer s.statics.schedulerHealth) =
          gapFigures s.statics.schedulerHealth := by
        unfold Diagnostics.aggregate
        split <;> rfl
      simp only [view, Statics.diagTick, hgaps]

theorem tickStep_view (c : ℕ) (tick : Tick) (s : State α)
    (htick : ∀ read gap tickEndTime, tick ≠ .recordGap read gap tickEndTime) :
    view (tickStep setup c s tick).1.statics = view s.statics := by
  cases tick with
  | start now =>
    rw [tickStep, State.detectRollover]
    split <;> rfl
  | slot now t busy =>
    rw [tickStep]
    split
    · rfl
    · split
      · rfl
      · rw [State.markDispatch]
        split <;> rfl
  | inTask now t task busy =>
    rw [tickStep, State.checkDeadline]
    split <;> rfl
  | background now i busy used =>
    rw [tickStep]
    split
    · split
      · rfl
      · split <;> rfl
    · rfl
  | inBackground now i task busy used => exact callBackground_view setup task s
  | stopBackground now i task busy used => rfl
  | finish now busy => rfl
  | recordGap read gap tickEndTime => exact absurd rfl (htick read gap tickEndTime)
  | returned => rfl

theorem record_view (s : State α) (e : Event) : view (s.record setup e).statics = view s.statics := by
  cases e with
  | initBegin call =>
    cases call with
    | backgroundTask task =>
      cases task with
      | diagsTask =>
        rw [State.record, State.called, State.diagInit]
        split <;> rfl
      | user t => rfl
    | task t => rfl
    | crunchTask t => rfl
  | dispatcher event => cases event <;> rfl
  | _ => rfl

theorem records_view (es : List Event) (s : State α) :
    view (es.foldl (State.record setup) s).statics = view s.statics := by
  induction es generalizing s with
  | nil => rfl
  | cons e es ih => rw [List.foldl_cons, ih, record_view]

theorem advance_view (s : State α) (c : ℕ) (call : Call)
    (pc : CorePc StartupBarrier ShutdownBarrier) :
    view (s.advance setup c call pc).statics = view s.statics :=
  (records_view setup _ (s.put c _)).trans rfl

theorem build_view (s : Statics α) (deps : Dependencies) (clockSource : Bool) (micros : UInt64) :
    view (s.build setup deps clockSource micros) = view s := by
  have hprepare : view (s.prepare setup deps) = view s := rfl
  unfold Statics.build
  split
  · rfl
  · split
    · obtain ⟨all, kernel, entries, hcompleted⟩ := completed_eq setup (s.prepare setup deps) deps
        clockSource micros s.system.kernelState
      rw [hcompleted]
      exact hprepare
    · exact hprepare

end Views

section Runs

variable {α : Type*} (setup : Setup)

structure Measured (α : Type*) where
  system : State α
  gaps : Windows ℕ UInt64
  depths : Windows ℕ UInt64

def finished (s : State α) : Action α → Option (ℕ × UInt64 × UInt64)
  | .core c =>
    match s.core c with
    | some ⟨_, .inTick, .recordGap _ gap tickEndTime⟩ => some (c, gap, tickEndTime)
    | _ => none
  | _ => none

def Measured.finish (m : Measured α) (c : ℕ) (gap tickEndTime : UInt64) : Measured α :=
  let statics := m.system.statics
  { m with
    gaps :=
      m.gaps.sample (windowEnds statics.schedulerHealth.windowUs m.gaps.start) gap.toNat tickEndTime
    depths :=
      if c = 0 then
        m.depths.sample (windowEnds statics.queueMonitor.windowUs m.depths.start)
          statics.commandQueue.length tickEndTime
      else m.depths }

def measure (m : Measured α) (a : Action α) : Measured α :=
  match a with
  | .reset => if Quiet setup m.system then { m with gaps := .fresh 0, depths := .fresh 0 } else m
  | _ =>
    match finished m.system a with
    | some (c, gap, tickEndTime) => m.finish c gap tickEndTime
    | none => m

def mstep (m : Measured α) (a : Action α) : Measured α :=
  { measure setup m a with system := step setup m.system a }

def start (timers : Timers) (micros : UInt64) : Measured α :=
  ⟨boot timers micros, .fresh 0, .fresh 0⟩

structure Tracked (v : View α) (gs ds : Windows ℕ UInt64) : Prop where
  gaps : Accumulates .empty .add v.gaps gs
  depths : Accumulates .empty .add v.depths ds
  lastDepth : v.lastDepth = ds.samples.getLast?.getD 0
  queue : v.queue.length ≤ setup.queueCapacity
  bounded : ∀ d ∈ ds.samples, d ≤ setup.queueCapacity

theorem fresh_tracked :
    Tracked setup (⟨⟨0, .empty, .empty⟩, ⟨0, .empty, .empty⟩, 0, []⟩ : View α) (.fresh 0)
      (.fresh 0) where
  gaps := fresh_accumulates _ _ _
  depths := fresh_accumulates _ _ _
  lastDepth := rfl
  queue := Nat.zero_le _
  bounded := fun _ hd => absurd hd List.not_mem_nil

/-- What a core has read of the shared metrics and has not stored yet. -/
def gapRead : Option Frame → Option SchedulerHealthMetrics
  | some ⟨_, .inTick, .recordGap read _ _⟩ => some read
  | _ => none

def ending : Option Frame → Bool
  | some ⟨_, .inTick, .finish _ _⟩ => true
  | _ => false

/-- A core only comes to record its gap while no core records one. -/
def Apart (s : State α) : Action α → Prop
  | .core c => ending (s.core c) → ∀ d < setup.cfg.kCoreCount, gapRead (s.core d) = none
  | _ => True

instance (s : State α) : ∀ a : Action α, Decidable (Apart setup s a)
  | .core c => inferInstanceAs (Decidable (ending (s.core c) → _))
  | .register _ | .addStopCondition _ | .setTelemetryDrain _ _ | .setTelemetryMutex _
  | .build _ _ | .init _ | .tick _ _ | .run _ | .service _ | .setMicros _ | .setStopAnswer _ _
  | .reset => isTrue trivial

structure Alone (s : State α) : Prop where
  exclusive : ∀ c d r r', gapRead (s.core c) = some r → gapRead (s.core d) = some r' → c = d
  current : ∀ c r, gapRead (s.core c) = some r →
    gapFigures r = gapFigures s.statics.schedulerHealth

theorem Alone.of_none (s : State α) (h : ∀ c, gapRead (s.core c) = none) : Alone s where
  exclusive c _ r _ hc _ := by
    rw [h c] at hc
    cases hc
  current c r hc := by
    rw [h c] at hc
    cases hc

theorem Alone.of_gaps {s s' : State α} (h : Alone s)
    (hgaps : gapFigures s'.statics.schedulerHealth = gapFigures s.statics.schedulerHealth)
    (hcore : ∀ c, gapRead (s'.core c) = gapRead (s.core c) ∨ gapRead (s'.core c) = none) :
    Alone s' := by
  have hread : ∀ c r, gapRead (s'.core c) = some r → gapRead (s.core c) = some r := by
    intro c r hc
    rcases hcore c with heq | hnone
    · rw [← heq, hc]
    · rw [hnone] at hc
      cases hc
  refine ⟨fun c d r r' hc hd => ?_, fun c r hc => ?_⟩
  · exact h.exclusive c d r r' (hread c r hc) (hread d r' hd)
  · rw [hgaps]
    exact h.current c r (hread c r hc)

theorem gapRead_none (frame : Frame)
    (h : ∀ read gap tickEndTime, frame.tick ≠ .recordGap read gap tickEndTime) :
    gapRead (some frame) = none := by
  unfold gapRead
  split
  · next heq =>
    cases heq
    exact absurd rfl (h _ _ _)
  · rfl

theorem tickStep_recordGap (c : ℕ) (tick : Tick) (s : State α)
    (htick : ∀ now busy, tick ≠ .finish now busy) (read : SchedulerHealthMetrics)
    (gap tickEndTime : UInt64) : (tickStep setup c s tick).2 ≠ .recordGap read gap tickEndTime := by
  cases tick with
  | slot now t busy =>
    rw [tickStep]
    split
    · dsimp only
      split <;> exact fun heq => by cases heq
    · split <;> exact fun heq => by cases heq
  | background now i busy used =>
    rw [tickStep]
    split
    · split
      · exact fun heq => by cases heq
      · split <;> exact fun heq => by cases heq
    · exact fun heq => by cases heq
  | finish now busy => exact absurd rfl (htick now busy)
  | _ => exact fun heq => by cases heq

theorem advance_gapRead (s : State α) (c d : ℕ) (call : Call)
    (pc : CorePc StartupBarrier ShutdownBarrier) :
    gapRead ((s.advance setup c call pc).core d) = gapRead (s.core d) ∨
      gapRead ((s.advance setup c call pc).core d) = none := by
  obtain ⟨mid, x, hsteady, heq, hstart⟩ := advance_steady setup s c call pc
  rw [heq]
  by_cases hd : d = c
  · subst hd
    right
    show gapRead (Function.update mid.core d x d) = none
    rw [Function.update_self]
    cases x with
    | none => rfl
    | some frame =>
      refine gapRead_none frame fun read gap tickEndTime htick => ?_
      rw [(hstart frame rfl).2] at htick
      cases htick
  · left
    show gapRead (Function.update mid.core c x d) = _
    rw [Function.update_of_ne hd, hsteady.core]

/-- The gap of a tick goes into the windows as it is, if what its core has read is
still what the metrics hold. -/
theorem storeGap_tracked (m : Measured α) (c : ℕ) (read : SchedulerHealthMetrics)
    (gap tickEndTime : UInt64) (h : Tracked setup (view m.system.statics) m.gaps m.depths)
    (hread : gapFigures read = gapFigures m.system.statics.schedulerHealth) :
    Tracked setup (view (m.system.storeGap c read gap tickEndTime).statics)
      (m.finish c gap tickEndTime).gaps (m.finish c gap tickEndTime).depths := by
  have hgaps : (m.system.statics.schedulerHealth.withGaps read).windowStartUs = m.gaps.start :=
    (congrArg Rolling.start hread).trans h.gaps.start
  have hdepths : m.system.statics.queueMonitor.windowStartUs = m.depths.start := h.depths.start
  constructor
  · show Accumulates _ _
      (gapFigures ((m.system.statics.schedulerHealth.withGaps read).recordGap _ _)) _
    rw [recordGap_gapFigures, hgaps, gapFigures_withGaps, hread]
    exact sample_accumulates _ _ _ _ _ _ _ h.gaps
  · by_cases hc : c = 0
    · simp only [view, State.storeGap, Measured.finish, if_pos hc]
      rw [sample_depthFigures, hdepths]
      exact sample_accumulates _ _ _ _ _ _ _ h.depths
    · simp only [view, State.storeGap, Measured.finish, if_neg hc]
      exact h.depths
  · by_cases hc : c = 0
    · simp only [view, State.storeGap, Measured.finish, if_pos hc, sample_samples,
        List.getLast?_concat, Option.getD_some]
      unfold QueueDepthMonitor.sample
      dsimp only
      split <;> rfl
    · simp only [view, State.storeGap, Measured.finish, if_neg hc]
      exact h.lastDepth
  · exact h.queue
  · by_cases hc : c = 0
    · simp only [Measured.finish, if_pos hc, sample_samples]
      intro d hd
      rcases List.mem_append.mp hd with hd | hd
      · exact h.bounded d hd
      · rw [List.mem_singleton.mp hd]
        exact h.queue
    · simp only [Measured.finish, if_neg hc]
      exact h.bounded

structure Recorded (m : Measured α) : Prop where
  idle : IdleUnbuilt setup m.system
  alone : Alone m.system
  tracked : Tracked setup (view m.system.statics) m.gaps m.depths

/-- A core that reads the metrics while no core records its gap is the only one to
record one, and what it has read is what they hold. -/
theorem finish_alone (s : State α) (c : ℕ) (call : Call) (now busy : UInt64)
    (hframe : s.core c = some ⟨call, .inTick, .finish now busy⟩) (hidle : IdleUnbuilt setup s)
    (hapart : Apart setup s (.core c)) : Alone (stepCore setup s c) := by
  have hne : Tick.finish now busy ≠ .returned := fun heq => by cases heq
  have hstatics := stepCore_tick_statics setup s c call _ hframe hne
  have hcore := stepCore_tick_core setup s c call _ hframe hne
  have hnone : ∀ d, gapRead (s.core d) = none := by
    intro d
    rcases Nat.lt_or_ge d setup.cfg.kCoreCount with hd | hd
    · apply hapart _ d hd
      rw [hframe]
      rfl
    · rw [hidle.1 d hd]
      rfl
  have honly : ∀ d r, gapRead ((stepCore setup s c).core d) = some r → d = c := by
    intro d r hd
    by_contra hdc
    rw [stepCore_core setup s c d (Or.inl hdc), hnone d] at hd
    cases hd
  refine ⟨fun d e r r' hd he => (honly d r hd).trans (honly e r' he).symm, fun d r hd => ?_⟩
  rw [honly d r hd, hcore] at hd
  cases hd
  rw [hstatics]
  rfl

theorem recordGap_alone (s : State α) (c : ℕ) (call : Call) (read : SchedulerHealthMetrics)
    (gap tickEndTime : UInt64)
    (hframe : s.core c = some ⟨call, .inTick, .recordGap read gap tickEndTime⟩) (h : Alone s) :
    Alone (stepCore setup s c) := by
  have hne : Tick.recordGap read gap tickEndTime ≠ .returned := fun heq => by cases heq
  have hcore := stepCore_tick_core setup s c call _ hframe hne
  refine Alone.of_none _ fun d => ?_
  by_cases hdc : d = c
  · rw [hdc, hcore]
    rfl
  · rw [stepCore_core setup s c d (Or.inl hdc)]
    cases hd : gapRead (s.core d) with
    | none => rfl
    | some r =>
      refine absurd (h.exclusive d c r read hd ?_) hdc
      rw [hframe]
      rfl

theorem core_alone (s : State α) (c : ℕ) (hidle : IdleUnbuilt setup s) (h : Alone s)
    (hapart : Apart setup s (.core c)) : Alone (stepCore setup s c) := by
  cases hframe : s.core c with
  | none =>
    rw [stepCore, hframe]
    exact h
  | some frame =>
    obtain ⟨call, pc, tick⟩ := frame
    by_cases hin : pc = .inTick ∧ tick ≠ .returned
    · obtain ⟨rfl, hne⟩ := hin
      have hstatics := stepCore_tick_statics setup s c call tick hframe hne
      have hcore := stepCore_tick_core setup s c call tick hframe hne
      cases tick with
      | finish now busy => exact finish_alone setup s c call now busy hframe hidle hapart
      | recordGap read gap tickEndTime =>
        exact recordGap_alone setup s c call read gap tickEndTime hframe h
      | _ =>
        apply h.of_gaps
        · refine congrArg View.gaps (?_ : view _ = view _)
          rw [hstatics]
          refine tickStep_view setup c _ s fun read gap tickEndTime heq => ?_
          cases heq
        · intro d
          by_cases hdc : d = c
          · right
            rw [hdc, hcore]
            refine gapRead_none _ (tickStep_recordGap setup c _ s fun now busy heq => ?_)
            cases heq
          · exact Or.inl (congrArg gapRead (stepCore_core setup s c d (Or.inl hdc)))
    · have hadvance : stepCore setup s c = s.advance setup c call pc := by
        rw [stepCore, hframe]
        exact if_neg hin
      rw [hadvance]
      exact h.of_gaps (congrArg View.gaps (advance_view setup s c call pc))
        (fun d => advance_gapRead setup s c d call pc)

theorem core_tracked (m : Measured α) (c : ℕ) (halone : Alone m.system)
    (h : Tracked setup (view m.system.statics) m.gaps m.depths) :
    Tracked setup (view (stepCore setup m.system c).statics) (mstep setup m (.core c)).gaps
      (mstep setup m (.core c)).depths := by
  have hquiet : finished m.system (.core c) = none →
      view (stepCore setup m.system c).statics = view m.system.statics →
      Tracked setup (view (stepCore setup m.system c).statics) (mstep setup m (.core c)).gaps
        (mstep setup m (.core c)).depths := by
    intro hnone hview
    have hmeasure : measure setup m (.core c) = m := by simp only [measure, hnone]
    rw [mstep, hmeasure, hview]
    exact h
  cases hframe : m.system.core c with
  | none =>
    apply hquiet
    · simp only [finished, hframe]
    · rw [stepCore, hframe]
  | some frame =>
    obtain ⟨call, pc, tick⟩ := frame
    by_cases hin : pc = .inTick ∧ tick ≠ .returned
    · obtain ⟨rfl, hne⟩ := hin
      have hstatics := stepCore_tick_statics setup m.system c call tick hframe hne
      cases tick with
      | recordGap read gap tickEndTime =>
        have hmeasure : measure setup m (.core c) = m.finish c gap tickEndTime := by
          simp only [measure, finished, hframe]
        have hread : gapRead (m.system.core c) = some read := by
          rw [hframe]
          rfl
        rw [mstep, hmeasure, hstatics]
        exact storeGap_tracked setup m c read gap tickEndTime h (halone.current c read hread)
      | _ =>
        apply hquiet
        · simp only [finished, hframe]
        · rw [hstatics]
          refine tickStep_view setup c _ m.system fun read gap tickEndTime heq => ?_
          cases heq
    · apply hquiet
      · simp only [finished, hframe]
        split
        · next heq =>
          cases heq
          exact absurd ⟨rfl, fun heq => by cases heq⟩ hin
        · rfl
      · have hadvance : stepCore setup m.system c = m.system.advance setup c call pc := by
          rw [stepCore, hframe]
          exact if_neg hin
        rw [hadvance, advance_view]

theorem serve_tracked (s : State α) (x : Service α) (gs ds : Windows ℕ UInt64)
    (h : Tracked setup (view s.statics) gs ds) :
    Tracked setup (view (s.serve setup x).statics) gs ds := by
  have hqueue : s.statics.commandQueue.length ≤ setup.queueCapacity := h.queue
  cases x with
  | push cmd =>
    rw [State.serve]
    split
    · next hroom =>
      refine ⟨h.gaps, h.depths, h.lastDepth, ?_, h.bounded⟩
      show (s.statics.commandQueue ++ [cmd]).length ≤ _
      rw [List.length_append]
      exact hroom
    · exact h
  | pop =>
    refine ⟨h.gaps, h.depths, h.lastDepth, ?_, h.bounded⟩
    show s.statics.commandQueue.tail.length ≤ _
    rw [List.length_tail]
    omega
  | _ => exact h

theorem mstep_tracked (m : Measured α) (a : Action α)
    (halone : Alone m.system) (h : Tracked setup (view m.system.statics) m.gaps m.depths) :
    Tracked setup (view (mstep setup m a).system.statics) (mstep setup m a).gaps
      (mstep setup m a).depths := by
  have henter : ∀ c frame, view (m.system.enter setup c frame).statics = view m.system.statics := by
    intro c frame
    unfold State.enter
    split <;> rfl
  cases a with
  | core c => exact core_tracked setup m c halone h
  | service x => exact serve_tracked setup m.system x m.gaps m.depths h
  | build deps clockSource =>
    have hview := build_view setup m.system.statics deps clockSource m.system.micros
    show Tracked setup (view (m.system.statics.build setup deps clockSource m.system.micros)) _ _
    rw [hview]
    exact h
  | reset =>
    rw [mstep, measure, step]
    split
    · exact fresh_tracked setup
    · exact h
  | addStopCondition fn =>
    rw [mstep, step]
    split <;> exact h
  | init c =>
    show Tracked setup (view (m.system.enter setup c _).statics) _ _
    rw [henter]
    exact h
  | tick c now =>
    show Tracked setup (view (m.system.enter setup c _).statics) _ _
    rw [henter]
    exact h
  | run c =>
    show Tracked setup (view (m.system.enter setup c _).statics) _ _
    rw [henter]
    exact h
  | _ => exact h

theorem step_schedulerHealth (s : State α) (a : Action α) (ha : a.paces = false) :
    (step setup s a).statics.schedulerHealth = s.statics.schedulerHealth := by
  have henter : ∀ c frame,
      (s.enter setup c frame).statics.schedulerHealth = s.statics.schedulerHealth := by
    intro c frame
    unfold State.enter
    split <;> rfl
  cases a with
  | init c => exact henter c _
  | tick c now => exact henter c _
  | run c => exact henter c _
  | addStopCondition fn =>
    rw [step]
    split <;> rfl
  | service x =>
    cases x with
    | push cmd =>
      rw [step, State.serve]
      split <;> rfl
    | _ => rfl
  | setTelemetryDrain fn ctx => rfl
  | setTelemetryMutex mutex => rfl
  | setStopAnswer fn fires => rfl
  | register r => cases ha
  | build deps clockSource => cases ha
  | core c => cases ha
  | setMicros micros => cases ha
  | reset => cases ha

theorem step_alone (s : State α) (a : Action α) (hidle : IdleUnbuilt setup s) (h : Alone s)
    (hapart : Apart setup s a) : Alone (step setup s a) := by
  cases hpaces : a.paces with
  | false =>
    obtain ⟨-, hcore⟩ := step_steady setup s a hpaces
    refine h.of_gaps (congrArg gapFigures (step_schedulerHealth setup s a hpaces)) fun c => ?_
    rcases hcore c with hsame | ⟨-, -, -, frame, hframe, hentered⟩
    · exact Or.inl (congrArg gapRead hsame)
    · right
      rw [hframe]
      refine gapRead_none frame fun read gap tickEndTime htick => ?_
      rcases hentered with hreturned | ⟨now, -, rfl⟩
      · rw [hreturned] at htick
        cases htick
      · cases htick
  | true =>
    cases a with
    | core c => exact core_alone setup s c hidle h hapart
    | build deps clockSource =>
      exact h.of_gaps (congrArg View.gaps (build_view setup s.statics deps clockSource s.micros))
        fun _ => Or.inl rfl
    | register r => exact h.of_gaps rfl fun _ => Or.inl rfl
    | setMicros micros => exact h.of_gaps rfl fun _ => Or.inl rfl
    | reset =>
      rw [step]
      split
      · next hquiet =>
        refine Alone.of_none _ fun c => ?_
        rcases Nat.lt_or_ge c setup.cfg.kCoreCount with hc | hc
        · exact congrArg gapRead (hquiet c hc)
        · exact congrArg gapRead (hidle.1 c hc)
      · exact h
    | _ => cases hpaces

theorem mstep_recorded (m : Measured α) (a : Action α) (hapart : Apart setup m.system a)
    (h : Recorded setup m) : Recorded setup (mstep setup m a) where
  idle := step_idleUnbuilt setup m.system a h.idle
  alone := step_alone setup m.system a h.idle h.alone hapart
  tracked := mstep_tracked setup m a h.alone h.tracked

theorem apart_measured (m : Measured α) (as : List (Action α))
    (h : Along (step setup) (Apart setup) m.system as) :
    Along (mstep setup) (fun m a => Apart setup m.system a) m as := by
  induction as generalizing m with
  | nil => trivial
  | cons a as ih => exact ⟨h.1, ih (mstep setup m a) h.2⟩

theorem run_recorded (timers : Timers) (micros : UInt64) (as : List (Action α))
    (hapart : Along (step setup) (Apart setup) (boot timers micros) as) :
    Recorded setup (run (mstep setup) (start timers micros) as) :=
  run_along (mstep setup) (Recorded setup) (fun m a => Apart setup m.system a)
    (mstep_recorded setup) (start timers micros)
    ⟨run_idleUnbuilt setup timers micros [], Alone.of_none _ fun _ => rfl, fresh_tracked setup⟩ as
    (apart_measured setup (start timers micros) as hapart)

theorem run_system (m : Measured α) (as : List (Action α)) :
    (run (mstep setup) m as).system = run (step setup) m.system as := by
  induction as generalizing m with
  | nil => rfl
  | cons a as ih => exact ih (mstep setup m a)

theorem shown_figures (r : Rolling Figures UInt64) (w : Windows ℕ UInt64)
    (h : Accumulates .empty .add r w) (hshort : w.Shorter (2^32)) :
    shownFigures r = accumulate .empty .add w.shown :=
  shown_accumulated _ _ (fun f : Figures => f.count.toNat) (2^32) r w count_toNat h hshort

theorem shown_count (w : Windows ℕ UInt64) (hshort : w.Shorter (2^32)) :
    (accumulate Figures.empty Figures.add w.shown).count.toUInt64 =
      UInt64.ofNat w.shown.length := by
  have hlen := shown_length _ w hshort
  rw [← UInt64.toNat_inj, UInt32.toNat_toUInt64, count_toNat _ hlen, UInt64.toNat_ofNat_of_lt']
  exact hlen.trans (by decide)

theorem depths_shown (q : QueueDepthMonitor) :
    q.maxDepthShown = (shownFigures (depthFigures q)).peak ∧
    ∀ quotient, q.averageDepth quotient =
      average quotient (shownFigures (depthFigures q)).total
        (shownFigures (depthFigures q)).count.toUInt64 := by
  have hshown : shownFigures (depthFigures q) =
      if q.reportedSampleCount > 0 then (depthFigures q).reported
      else (depthFigures q).current := rfl
  rw [hshown]
  unfold QueueDepthMonitor.maxDepthShown QueueDepthMonitor.averageDepth
  split <;> exact ⟨rfl, fun _ => rfl⟩

theorem gaps_shown (m : SchedulerHealthMetrics) :
    m.tickCount = (shownFigures (gapFigures m)).count ∧
    m.maxGapUs.toNat = (shownFigures (gapFigures m)).peak ∧
    m.totalGapUs = (shownFigures (gapFigures m)).total ∧
    ∀ quotient, m.averageGapUs quotient =
      average quotient (shownFigures (gapFigures m)).total
        (shownFigures (gapFigures m)).count.toUInt64 := by
  have hshown : shownFigures (gapFigures m) =
      if m.reportedTickCount > 0 then (gapFigures m).reported else (gapFigures m).current := rfl
  rw [hshown]
  unfold SchedulerHealthMetrics.tickCount SchedulerHealthMetrics.maxGapUs
    SchedulerHealthMetrics.totalGapUs SchedulerHealthMetrics.averageGapUs
  split <;> exact ⟨rfl, rfl, rfl, fun _ => rfl⟩

structure Reports (snap : ResponseSerializer.PerformanceSnapshot) (gs ds : Windows ℕ UInt64) :
    Prop where
  schedulerTickCount : snap.schedulerTickCount = gs.shown.length
  maxGapUs : snap.maxGapUs = greatest gs.shown
  totalGapUs : snap.totalGapUs = gs.shown.sum % 2^64
  avgGapUs : snap.avgGapUs = average setup.quotientBits (UInt64.ofNat gs.shown.sum)
    (UInt64.ofNat gs.shown.length)
  queueDepth : snap.queueDepth = ds.samples.getLast?.getD 0
  queueMaxDepth : snap.queueMaxDepth = greatest ds.shown
  queueAvgDepth : snap.queueAvgDepth = average setup.quotientBits (UInt64.ofNat ds.shown.sum)
    (UInt64.ofNat ds.shown.length)
  bounded : snap.queueMaxDepth ≤ setup.queueCapacity

/-- In every run in which no two cores record their gaps at once, the snapshot shows
the figures of the ticks in the last complete windows, or in the current ones before
any is complete. -/
theorem snapshot_measured (timers : Timers) (micros : UInt64) (as : List (Action α))
    (tasks : Task → TaskTimer) (now : UInt64)
    (hapart : Along (step setup) (Apart setup) (boot timers micros) as)
    (hgaps : (run (mstep setup) (start timers micros) as).gaps.Shorter (2^32))
    (hdepths : (run (mstep setup) (start timers micros) as).depths.Shorter (2^32)) :
    Reports setup ((run (step setup) (boot timers micros) as).statics.snapshot setup tasks now)
      (run (mstep setup) (start timers micros) as).gaps
      (run (mstep setup) (start timers micros) as).depths := by
  have h := (run_recorded setup timers micros as hapart).tracked
  have hsystem : (run (mstep setup) (start timers micros) as).system =
      run (step setup) (boot timers micros) as := run_system setup _ as
  rw [hsystem] at h
  generalize (run (mstep setup) (start timers micros) as).gaps = gs at *
  generalize (run (mstep setup) (start timers micros) as).depths = ds at *
  generalize (run (step setup) (boot timers micros) as).statics = s at *
  have hgs := shown_figures _ gs h.gaps hgaps
  have hds := shown_figures _ ds h.depths hdepths
  obtain ⟨hcount, hpeak, htotal, havg⟩ := gaps_shown s.schedulerHealth
  obtain ⟨hdepth, hdepthAvg⟩ := depths_shown s.queueMonitor
  have hview : (view s).gaps = gapFigures s.schedulerHealth := rfl
  have hview' : (view s).depths = depthFigures s.queueMonitor := rfl
  rw [hview] at hgs
  rw [hview'] at hds
  rw [hgs] at hcount hpeak htotal havg
  rw [hds] at hdepth hdepthAvg
  constructor
  · show s.schedulerHealth.tickCount.toNat = _
    rw [hcount, count_toNat _ (shown_length _ gs hgaps)]
  · exact hpeak.trans (accumulate_peak _)
  · show s.schedulerHealth.totalGapUs.toNat = _
    rw [htotal, accumulate_total]
    exact UInt64.toNat_ofNat'
  · exact (havg _).trans (by rw [accumulate_total, shown_count gs hgaps])
  · exact h.lastDepth
  · exact hdepth.trans (accumulate_peak _)
  · exact (hdepthAvg _).trans (by rw [accumulate_total, shown_count ds hdepths])
  · show s.queueMonitor.maxDepthShown ≤ _
    rw [hdepth, accumulate_peak]
    exact greatest_le _ _ fun d hd => h.bounded d (mem_shown ds d hd)

end Runs

section Witnesses

def waitingTick : List (Action ℕ) :=
  [.register (.addScheduledTask 0 0), .build fullDependencies true, .service (.push 7),
    .tick 0 0, .tick 1 0] ++ List.replicate 20 (.core 0) ++ List.replicate 20 (.core 1)

theorem snapshot_measured_tick :
    (run (mstep dualSetup) (start freshTimers 0) waitingTick).depths.shown = [1] ∧
    (run (mstep dualSetup) (start freshTimers 0) waitingTick).gaps.shown = [0, 0] ∧
    Reports dualSetup ((run (step dualSetup) (boot freshTimers 0) waitingTick).statics.snapshot
        dualSetup freshTimers.timer 9)
      (run (mstep dualSetup) (start freshTimers 0) waitingTick).gaps
      (run (mstep dualSetup) (start freshTimers 0) waitingTick).depths :=
  ⟨by decide +kernel, by decide +kernel,
    snapshot_measured dualSetup freshTimers 0 waitingTick freshTimers.timer 9
      (by decide +kernel) (by decide +kernel) (by decide +kernel)⟩

def overlappingTicks : List (Action ℕ) :=
  [.register (.addScheduledTask 0 0), .build fullDependencies true, .tick 0 0, .tick 1 0] ++
    List.replicate 7 (.core 0) ++ List.replicate 20 (.core 1) ++ [.core 0]

example : (run (step dualSetup) (boot freshTimers 0) overlappingTicks).statics.schedulerHealth.ticks
    = 1 := by decide +kernel

end Witnesses

end SputterOS.HealthWindows
