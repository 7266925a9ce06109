import SputterOS.Kernel.SteadyMembers
import Mathlib.Algebra.Order.Field.Basic
import Mathlib.Algebra.Order.Field.Rat

/-!
# What the utilization trackers add up

On a clock that does not go back, the durations of the tasks of a tick fit behind
each other between the begin of the tick and the present. So the busy time of a
tick is at most its wall time, and the sums of a window stay below the present.
-/

set_option autoImplicit false

namespace SputterOS.UtilizationAccounting
open SputterOS.Kernel SputterOS.Builder SputterOS.Metrics SputterOS.MultiCoreSync
  SputterOS.StaticData SputterOS.SystemCalls Foundation.Transition
open SputterOS.CoreRun (CorePc)

section Trackers

theorem add_exact (a b : UInt64) (h : a.toNat+b.toNat < 2^64) :
    (a+b).toNat = a.toNat+b.toNat := by
  rw [UInt64.toNat_add, Nat.mod_eq_of_lt h]

theorem sub_exact (a b : UInt64) (h : b.toNat ≤ a.toNat) : (a-b).toNat = a.toNat-b.toNat :=
  UInt64.toNat_sub_of_le a b (UInt64.le_iff_toNat_le.mpr h)

/-- In the window and in the one before, the busy time is at most the wall time. -/
structure Balanced (u : CoreUtilizationTracker) : Prop where
  current : u.busyUs.toNat ≤ u.totalUs.toNat
  reported : u.reportedBusyUs.toNat ≤ u.reportedTotalUs.toNat

theorem recordTickEnd_balanced (u : CoreUtilizationTracker) (now busy : UInt64) (h : Balanced u)
    (hstart : u.tickStart.toNat+busy.toNat ≤ now.toNat)
    (htotal : u.totalUs.toNat ≤ u.tickStart.toNat) :
    Balanced (u.recordTickEnd now busy) ∧ (u.recordTickEnd now busy).totalUs.toNat ≤ now.toNat := by
  have hnow : now.toNat < 2^64 := now.toNat_lt
  have hcurrent := h.current
  have hwall : (if now ≥ u.tickStart then now-u.tickStart else 0) = now-u.tickStart :=
    if_pos (UInt64.le_iff_toNat_le.mpr (by omega))
  have hwallNat : (now-u.tickStart).toNat = now.toNat-u.tickStart.toNat :=
    sub_exact _ _ (by omega)
  have hbusyNat : (u.busyUs+busy).toNat = u.busyUs.toNat+busy.toNat := add_exact _ _ (by omega)
  have htotalNat : (u.totalUs+(now-u.tickStart)).toNat =
      u.totalUs.toNat+(now.toNat-u.tickStart.toNat) := by
    rw [add_exact _ _ (by omega), hwallNat]
  rw [CoreUtilizationTracker.recordTickEnd, hwall]
  dsimp only
  split
  · refine ⟨⟨by simp, ?_⟩, by simp⟩
    show (u.busyUs+busy).toNat ≤ (u.totalUs+(now-u.tickStart)).toNat
    omega
  · refine ⟨⟨?_, h.reported⟩, ?_⟩
    · show (u.busyUs+busy).toNat ≤ (u.totalUs+(now-u.tickStart)).toNat
      omega
    · show (u.totalUs+(now-u.tickStart)).toNat ≤ now.toNat
      omega

def shownTimes (u : CoreUtilizationTracker) : UInt64 × UInt64 :=
  if u.reportedTotalUs > 0 then (u.reportedBusyUs, u.reportedTotalUs) else (u.busyUs, u.totalUs)

theorem getUtilization_shown (quotient : UInt64 → UInt64 → UInt32) (u : CoreUtilizationTracker) :
    u.getUtilization quotient = average quotient (shownTimes u).1 (shownTimes u).2 := by
  unfold CoreUtilizationTracker.getUtilization shownTimes
  split <;> rfl

def exactUtilization (u : CoreUtilizationTracker) : ℚ :=
  ((shownTimes u).1.toNat : ℚ)/(shownTimes u).2.toNat

theorem exactUtilization_bounds (u : CoreUtilizationTracker) (h : Balanced u) :
    0 ≤ exactUtilization u ∧ exactUtilization u ≤ 1 := by
  have hle : (shownTimes u).1.toNat ≤ (shownTimes u).2.toNat := by
    unfold shownTimes
    split
    · exact h.reported
    · exact h.current
  refine ⟨div_nonneg (Nat.cast_nonneg _) (Nat.cast_nonneg _), ?_⟩
  exact div_le_one_of_le₀ (Nat.cast_le.mpr hle) (Nat.cast_nonneg _)

end Trackers

section Places

variable {α : Type*}

/-- Up to when a tick has been accounted: the begin of the task in progress, or
the present. A timer without a clock source measures nothing. -/
def reached (s : State α) : Option Task → UInt64
  | none => s.micros
  | some t => if s.timers.clocked t then (s.timers.timer t).start else s.micros

structure Within (epoch : UInt64) (u : CoreUtilizationTracker) (s : State α) (now : UInt64)
    (charged : ℕ) (t : Option Task) : Prop where
  tickStart : u.tickStart = now
  total : u.totalUs.toNat ≤ now.toNat
  charged : epoch.toNat+now.toNat+charged ≤ (reached s t).toNat
  present : (reached s t).toNat ≤ s.micros.toNat

def Place (epoch : UInt64) (u : CoreUtilizationTracker) (s : State α) : Tick → Prop
  | .start now => u.totalUs.toNat ≤ now.toNat ∧ epoch.toNat+now.toNat ≤ s.micros.toNat
  | .slot now _ busy => Within epoch u s now busy.toNat none
  | .inTask now _ task busy => Within epoch u s now busy.toNat (some (.scheduled task))
  | .background now _ busy used => Within epoch u s now (busy.toNat+used.toNat) none
  | .inBackground now _ task busy used =>
    Within epoch u s now (busy.toNat+used.toNat) (some (.background task))
  | .stopBackground now _ task busy used =>
    Within epoch u s now (busy.toNat+used.toNat) (some (.background task))
  | .finish now busy => Within epoch u s now busy.toNat none
  | .recordGap _ _ _ => epoch.toNat+u.totalUs.toNat ≤ s.micros.toNat
  | .returned => epoch.toNat+u.totalUs.toNat ≤ s.micros.toNat

def tickOf : Option Frame → Tick
  | some ⟨_, .inTick, tick⟩ => tick
  | _ => .returned

structure Onward (s s' : State α) : Prop where
  micros : s.micros.toNat ≤ s'.micros.toNat
  timers : ∀ t, (reached s t).toNat ≤ s.micros.toNat →
    (reached s t).toNat ≤ (reached s' t).toNat ∧ (reached s' t).toNat ≤ s'.micros.toNat

theorem Within.onward {epoch : UInt64} {u : CoreUtilizationTracker} {s s' : State α}
    {now : UInt64} {charged : ℕ} {t : Option Task} (h : Within epoch u s now charged t)
    (hon : Onward s s') : Within epoch u s' now charged t := by
  obtain ⟨hle, hpresent⟩ := hon.timers t h.present
  exact ⟨h.tickStart, h.total, h.charged.trans hle, hpresent⟩

theorem Place.onward {epoch : UInt64} {u : CoreUtilizationTracker} {s s' : State α} {tick : Tick}
    (h : Place epoch u s tick) (hon : Onward s s') : Place epoch u s' tick := by
  cases tick with
  | start now => exact ⟨h.1, h.2.trans hon.micros⟩
  | recordGap read gap tickEndTime => exact Nat.le_trans h hon.micros
  | returned => exact Nat.le_trans h hon.micros
  | _ => exact Within.onward h hon

theorem reached_steady {s s' : State α} (h : Steady s s') (t : Option Task) :
    reached s' t = reached s t := by
  cases t with
  | none => exact h.micros
  | some t => rw [reached, reached, h.clocked, h.start, h.micros]

theorem Onward.of_eq {s s' : State α} (hmicros : s'.micros = s.micros)
    (h : ∀ t, reached s' t = reached s t ∨ reached s' t = s.micros) : Onward s s' where
  micros := by rw [hmicros]
  timers t ht := by
    rw [hmicros]
    rcases h t with h | h
    · rw [h]
      exact ⟨le_refl _, ht⟩
    · rw [h]
      exact ⟨ht, le_refl _⟩

theorem Onward.trans {s s' s'' : State α} (h : Onward s s') (h' : Onward s' s'') :
    Onward s s'' where
  micros := h.micros.trans h'.micros
  timers t ht := by
    obtain ⟨hle, hpresent⟩ := h.timers t ht
    obtain ⟨hle', hpresent'⟩ := h'.timers t hpresent
    exact ⟨hle.trans hle', hpresent'⟩

theorem Onward.of_core (s : State α) (core : ℕ → Option Frame) :
    Onward s { s with core := core } :=
  .of_eq rfl fun _ => Or.inl rfl

theorem Onward.of_steady {s s' : State α} (h : Steady s s') : Onward s s' :=
  .of_eq h.micros fun t => Or.inl (reached_steady h t)

end Places

section Ticks

variable {α : Type*} (setup : Setup)

theorem updateTimer_reached (s : State α) (t : Task) (f : TaskTimer → TaskTimer) (t' : Task) :
    reached (s.updateTimer t f) (some t') =
      if s.timers.clocked t' then
        if t' = t then (f (s.timers.timer t)).start else (s.timers.timer t').start
      else s.micros := by
  show (if s.timers.clocked t' then
    (Function.update s.timers.timer t (f (s.timers.timer t)) t').start else s.micros) = _
  by_cases ht : t' = t
  · subst ht
    rw [Function.update_self, if_pos rfl]
  · rw [Function.update_of_ne ht, if_neg ht]

theorem startTimer_reached (s : State α) (t : Task) :
    reached (s.startTimer t) (some t) = s.micros := by
  rw [State.startTimer, updateTimer_reached, if_pos rfl]
  split
  · next hclocked => exact if_pos hclocked
  · rfl

theorem startTimer_onward (s : State α) (t : Task) : Onward s (s.startTimer t) := by
  refine .of_eq rfl fun t' => ?_
  cases t' with
  | none => exact Or.inl rfl
  | some t' =>
    by_cases ht : t' = t
    · subst ht
      exact Or.inr (startTimer_reached s t')
    · left
      rw [State.startTimer, updateTimer_reached, if_neg ht]
      rfl

theorem Within.started {epoch : UInt64} {u : CoreUtilizationTracker} {s : State α} {now : UInt64}
    {charged : ℕ} (h : Within epoch u s now charged none) (t : Task) :
    Within epoch u (s.startTimer t) now charged (some t) where
  tickStart := h.tickStart
  total := h.total
  charged := by
    rw [startTimer_reached]
    exact h.charged
  present := by
    rw [startTimer_reached]
    exact le_refl _

theorem markDispatch_utilTracker (s : State α) (c t : ℕ) (task : TaskPtr) (now : UInt64) :
    (s.markDispatch setup c t task now).statics.utilTracker = s.statics.utilTracker := by
  unfold State.markDispatch
  split <;> rfl

theorem markDispatch_onward (s : State α) (c t : ℕ) (task : TaskPtr) (now : UInt64) :
    Onward s (s.markDispatch setup c t task now) := by
  refine .of_eq (markDispatch_keeps setup c t task now s).micros fun t' => Or.inl ?_
  unfold State.markDispatch
  split <;> rfl

theorem stopTimer_lastDuration (s : State α) (t : Task)
    (h : (reached s (some t)).toNat ≤ s.micros.toNat) :
    ((s.stopTimer t).lastDuration t).toNat = s.micros.toNat-(reached s (some t)).toNat := by
  have hstop : ∀ (timer : TaskTimer) now, (timer.stop now).lastDuration =
      if now ≥ timer.start then now-timer.start else 0 := by
    intro timer now
    unfold TaskTimer.stop
    dsimp only
    split_ifs <;> rfl
  have hlast : (s.stopTimer t).lastDuration t =
      if s.clock t ≥ (s.timers.timer t).start then s.clock t-(s.timers.timer t).start else 0 := by
    show (Function.update s.timers.timer t ((s.timers.timer t).stop (s.clock t)) t).lastDuration = _
    rw [Function.update_self, hstop]
  rw [hlast, State.clock]
  rw [reached] at h ⊢
  by_cases hclocked : s.timers.clocked t
  · simp only [hclocked, if_true] at h ⊢
    rw [if_pos (UInt64.le_iff_toNat_le.mpr h)]
    exact sub_exact _ _ h
  · simp only [hclocked, if_false, Bool.false_eq_true] at h ⊢
    split
    · next hge =>
      have hzero : (s.timers.timer t).start = 0 := UInt64.le_zero_iff.mp hge
      rw [hzero]
      simp
    · simp

theorem tickStep_onward (c : ℕ) (tick : Tick) (s : State α) :
    Onward s (tickStep setup c s tick).1 ∧
      ∀ d ≠ c, (tickStep setup c s tick).1.statics.utilTracker d = s.statics.utilTracker d := by
  have hsteady : ∀ s' : State α, Steady s s' →
      Onward s s' ∧ ∀ d ≠ c, s'.statics.utilTracker d = s.statics.utilTracker d := by
    intro s' h
    exact ⟨.of_steady h, fun d _ => congrFun h.utilTracker d⟩
  cases tick with
  | start now =>
    have h := detectRollover_steady setup c now s
    refine ⟨.of_eq h.micros fun t => Or.inl (reached_steady h t), fun d hd => ?_⟩
    rw [← congrFun h.utilTracker d]
    exact Function.update_of_ne hd ..
  | slot now t busy =>
    rw [tickStep]
    split
    · exact hsteady s (.refl s)
    · next task _ =>
      split
      · exact hsteady s (.refl s)
      · have hmark := markDispatch_onward setup s c t task now
        have htracker := markDispatch_utilTracker setup s c t task now
        exact ⟨hmark.trans (startTimer_onward _ _), fun d _ => congrFun htracker d⟩
  | inTask now t task busy =>
    exact hsteady _ ((stopTimer_steady s _).trans (checkDeadline_steady setup task now _))
  | background now i busy used =>
    rw [tickStep]
    split
    · split
      · exact hsteady _ (advanceRing_steady s)
      · split
        · exact hsteady _ (advanceRing_steady s)
        · have hadvance := Onward.of_steady (advanceRing_steady s)
          exact ⟨hadvance.trans (startTimer_onward s.advanceRing _), fun _ _ => rfl⟩
    · exact hsteady s (.refl s)
  | inBackground now i task busy used => exact hsteady _ (callBackground_steady setup task s)
  | stopBackground now i task busy used => exact hsteady _ (stopTimer_steady s _)
  | finish now busy =>
    exact ⟨.of_eq rfl fun _ => Or.inl rfl, fun d hd => Function.update_of_ne hd ..⟩
  | recordGap read gap tickEndTime => exact ⟨.of_eq rfl fun _ => Or.inl rfl, fun _ _ => rfl⟩
  | returned => exact hsteady s (.refl s)

theorem Within.stopped {epoch : UInt64} {s : State α} {t : Task} {u : CoreUtilizationTracker}
    {now sum : UInt64} {before : ℕ} (h : Within epoch u s now (before+sum.toNat) (some t)) :
    Within epoch u (s.stopTimer t) now
      (before+(sum+(s.stopTimer t).lastDuration t).toNat) none where
  tickStart := h.tickStart
  total := h.total
  charged := by
    have hduration := stopTimer_lastDuration s t h.present
    have hcharged := h.charged
    have hpresent := h.present
    have hlt : s.micros.toNat < 2^64 := s.micros.toNat_lt
    have hsum : (sum+(s.stopTimer t).lastDuration t).toNat =
        sum.toNat+((s.stopTimer t).lastDuration t).toNat := add_exact _ _ (by omega)
    show _ ≤ s.micros.toNat
    omega
  present := le_refl _

theorem nowMicros_exact (s : State α) (epoch : UInt64) (htimer : s.statics.timer = some epoch)
    (hepoch : epoch.toNat ≤ s.micros.toNat) :
    (s.statics.nowMicros s.micros).toNat = s.micros.toNat-epoch.toNat := by
  rw [Statics.nowMicros, htimer]
  exact sub_exact _ _ hepoch

/-- A step of a tick charges what its core has done, and its end adds it up. -/
theorem tickStep_place (c : ℕ) (tick : Tick) (s : State α) (epoch : UInt64)
    (htimer : s.statics.timer = some epoch) (hbalanced : Balanced (s.statics.utilTracker c))
    (h : Place epoch (s.statics.utilTracker c) s tick) :
    Place epoch ((tickStep setup c s tick).1.statics.utilTracker c) (tickStep setup c s tick).1
        (tickStep setup c s tick).2 ∧
      Balanced ((tickStep setup c s tick).1.statics.utilTracker c) := by
  have hmicros : (tickStep setup c s tick).1.micros = s.micros :=
    (tickStep_keeps setup c tick s).micros
  cases tick with
  | start now =>
    have hsteady := detectRollover_steady setup c now s
    have htracker : (tickStep setup c s (.start now)).1.statics.utilTracker c =
        (s.statics.utilTracker c).recordTickStart now := by
      show Function.update _ c _ c = _
      rw [Function.update_self, congrFun hsteady.utilTracker c]
    rw [htracker]
    refine ⟨⟨rfl, h.1, ?_, le_refl _⟩, ⟨hbalanced.current, hbalanced.reported⟩⟩
    show epoch.toNat+now.toNat+0 ≤ (tickStep setup c s (.start now)).1.micros.toNat
    rw [hmicros]
    exact h.2
  | slot now t busy =>
    have hwithin : Within epoch (s.statics.utilTracker c) s now busy.toNat none := h
    rw [tickStep]
    split
    · refine ⟨?_, hbalanced⟩
      dsimp only
      split
      · exact hwithin
      · exact hwithin
    · next task _ =>
      split
      · exact ⟨hwithin, hbalanced⟩
      · show Within epoch ((s.markDispatch setup c t task now).statics.utilTracker c) _ now
          busy.toNat _ ∧ Balanced ((s.markDispatch setup c t task now).statics.utilTracker c)
        rw [markDispatch_utilTracker]
        have hmark := markDispatch_onward setup s c t task now
        exact ⟨(Within.onward hwithin hmark).started (.scheduled task), hbalanced⟩
  | inTask now t task busy =>
    have hwithin : Within epoch (s.statics.utilTracker c) s now (0+busy.toNat)
        (some (.scheduled task)) := by
      rw [Nat.zero_add]
      exact h
    have hstopped := hwithin.stopped
    rw [Nat.zero_add] at hstopped
    have hsteady := checkDeadline_steady setup task now (s.stopTimer (.scheduled task))
    have hsame : (tickStep setup c s (.inTask now t task busy)).1.statics.utilTracker c =
        s.statics.utilTracker c := congrFun hsteady.utilTracker c
    rw [hsame]
    exact ⟨hstopped.onward (.of_steady hsteady), hbalanced⟩
  | background now i busy used =>
    have hwithin : Within epoch (s.statics.utilTracker c) s now (busy.toNat+used.toNat) none := h
    have hfinish : Within epoch (s.statics.utilTracker c) s now (busy+used).toNat none := by
      have hcharged : epoch.toNat+now.toNat+(busy.toNat+used.toNat) ≤ s.micros.toNat :=
        hwithin.charged
      have hlt : s.micros.toNat < 2^64 := s.micros.toNat_lt
      rw [add_exact busy used (by omega)]
      exact hwithin
    rw [tickStep]
    split
    · split
      · exact ⟨Within.onward hwithin (.of_steady (advanceRing_steady s)), hbalanced⟩
      · next task _ =>
        split
        · exact ⟨Within.onward hfinish (.of_steady (advanceRing_steady s)), hbalanced⟩
        · have hadvance := Within.onward hwithin (.of_steady (advanceRing_steady s))
          exact ⟨hadvance.started (.background task), hbalanced⟩
    · exact ⟨hfinish, hbalanced⟩
  | inBackground now i task busy used =>
    have hsteady := callBackground_steady setup task s
    show Within epoch ((s.callBackground setup task).statics.utilTracker c) _ now _ _ ∧
      Balanced ((s.callBackground setup task).statics.utilTracker c)
    rw [congrFun hsteady.utilTracker c]
    exact ⟨Within.onward h (.of_steady hsteady), hbalanced⟩
  | stopBackground now i task busy used =>
    have hwithin : Within epoch (s.statics.utilTracker c) s now (busy.toNat+used.toNat)
        (some (.background task)) := h
    exact ⟨hwithin.stopped, hbalanced⟩
  | finish now busy =>
    have hwithin : Within epoch (s.statics.utilTracker c) s now busy.toNat none := h
    have hcharged : epoch.toNat+now.toNat+busy.toNat ≤ s.micros.toNat := hwithin.charged
    have hend := nowMicros_exact s epoch htimer (by omega)
    have htracker : (tickStep setup c s (.finish now busy)).1.statics.utilTracker c =
        (s.statics.utilTracker c).recordTickEnd (s.statics.nowMicros s.micros) busy :=
      Function.update_self ..
    have hstart := congrArg UInt64.toNat hwithin.tickStart
    have htotal := hwithin.total
    obtain ⟨hafter, hsum⟩ := recordTickEnd_balanced (s.statics.utilTracker c)
      (s.statics.nowMicros s.micros) busy hbalanced (by omega) (by omega)
    rw [htracker]
    refine ⟨?_, hafter⟩
    show epoch.toNat+((s.statics.utilTracker c).recordTickEnd _ busy).totalUs.toNat ≤
      s.micros.toNat
    omega
  | recordGap read gap tickEndTime => exact ⟨h, hbalanced⟩
  | returned => exact ⟨h, hbalanced⟩

end Ticks

section Runs

variable {α : Type*} (setup : Setup)

/-- One clock source that does not go back, and ticks from `run` only. -/
def Driven (s : State α) : Action α → Prop
  | .tick _ _ => False
  | .build _ clockSource => clockSource = true
  | .setMicros micros => s.micros ≤ micros
  | _ => True

instance (s : State α) (a : Action α) : Decidable (Driven s a) := by
  cases a <;> unfold Driven <;> infer_instance

structure Accounted (epoch : UInt64) (s : State α) : Prop where
  timer : s.statics.timer = some epoch
  begun : epoch.toNat ≤ s.micros.toNat
  balanced : ∀ c, Balanced (s.statics.utilTracker c)
  place : ∀ c, Place epoch (s.statics.utilTracker c) s (tickOf (s.core c))

def Accounting (s : State α) : Prop :=
  IdleUnbuilt setup s ∧ (s.statics.system.built = true → ∃ epoch, Accounted epoch s)

theorem Accounted.onward {epoch : UInt64} {s s' : State α} (h : Accounted epoch s)
    (htimer : s'.statics.timer = s.statics.timer) (hon : Onward s s')
    (htracker : s'.statics.utilTracker = s.statics.utilTracker)
    (htick : ∀ c, tickOf (s'.core c) = tickOf (s.core c)) : Accounted epoch s' where
  timer := htimer.trans h.timer
  begun := h.begun.trans hon.micros
  balanced c := by
    rw [htracker]
    exact h.balanced c
  place c := by
    rw [htracker, htick]
    exact (h.place c).onward hon

theorem tickOf_returned (frame : Frame) (h : ¬ (frame.pc = .inTick ∧ frame.tick ≠ .returned)) :
    tickOf (some frame) = .returned := by
  obtain ⟨call, pc, tick⟩ := frame
  rw [not_and, not_not] at h
  by_cases hpc : pc = .inTick
  · subst hpc
    exact h rfl
  · cases pc <;> first | rfl | exact absurd rfl hpc

theorem tick_accounted (s : State α) (c : ℕ) (call : Call) (tick : Tick) (epoch : UInt64)
    (hframe : s.core c = some ⟨call, .inTick, tick⟩) (h : Accounted epoch s) :
    Accounted epoch { (tickStep setup c s tick).1 with
      core := Function.update s.core c (some ⟨call, .inTick, (tickStep setup c s tick).2⟩) } := by
  have hplace := h.place c
  rw [hframe] at hplace
  obtain ⟨hon, hothers⟩ := tickStep_onward setup c tick s
  obtain ⟨hnext, hafter⟩ := tickStep_place setup c tick s epoch h.timer (h.balanced c) hplace
  refine ⟨(tickStep_keeps setup c tick s).timer.trans h.timer, h.begun.trans hon.micros,
    fun d => ?_, fun d => ?_⟩
  · by_cases hd : d = c
    · subst hd
      exact hafter
    · show Balanced ((tickStep setup c s tick).1.statics.utilTracker d)
      rw [hothers d hd]
      exact h.balanced d
  · dsimp only
    by_cases hd : d = c
    · subst hd
      rw [Function.update_self]
      exact hnext.onward (.of_core _ _)
    · rw [Function.update_of_ne hd, hothers d hd]
      exact ((h.place d).onward hon).onward (.of_core _ _)

theorem advance_accounted (s : State α) (c : ℕ) (call : Call)
    (pc : CorePc StartupBarrier ShutdownBarrier) (epoch : UInt64) (h : Accounted epoch s)
    (hframe : tickOf (s.core c) = .returned) : Accounted epoch (s.advance setup c call pc) := by
  obtain ⟨mid, x, hmid, hadvance, hx⟩ := advance_steady setup s c call pc
  have hplace := h.place c
  rw [hframe] at hplace
  have hsum : epoch.toNat+(s.statics.utilTracker c).totalUs.toNat ≤ s.micros.toNat := hplace
  have hnow := nowMicros_exact s epoch h.timer h.begun
  have hbegun := h.begun
  have hon : Onward s { mid with core := Function.update mid.core c x } :=
    .of_eq hmid.micros fun t => Or.inl (reached_steady hmid t)
  rw [hadvance]
  refine ⟨hmid.timer.trans h.timer, h.begun.trans hon.micros, fun d => ?_, fun d => ?_⟩
  · show Balanced (mid.statics.utilTracker d)
    rw [hmid.utilTracker]
    exact h.balanced d
  · show Place epoch (mid.statics.utilTracker d) _ (tickOf (Function.update mid.core c x d))
    rw [hmid.utilTracker]
    by_cases hd : d = c
    · subst hd
      rw [Function.update_self]
      by_cases hbegins : ∃ frame, x = some frame ∧ frame.pc = .inTick
      · obtain ⟨frame, rfl, hpc⟩ := hbegins
        have htick : tickOf (some frame) = .start (s.statics.nowMicros s.micros) := by
          rw [← (hx frame rfl).2]
          obtain ⟨call', pc', tick'⟩ := frame
          dsimp only at hpc
          subst hpc
          rfl
        rw [htick]
        refine ⟨by omega, ?_⟩
        show _ ≤ mid.micros.toNat
        rw [hmid.micros]
        omega
      · have htick : tickOf x = .returned := by
          cases x with
          | none => rfl
          | some frame => exact tickOf_returned frame fun hin => hbegins ⟨frame, rfl, hin.1⟩
        rw [htick]
        exact hplace.onward hon
    · rw [Function.update_of_ne hd, hmid.core]
      exact (h.place d).onward (.of_eq hmid.micros fun t => Or.inl (reached_steady hmid t))

theorem stepCore_accounted (s : State α) (c : ℕ) (epoch : UInt64) (h : Accounted epoch s) :
    Accounted epoch (stepCore setup s c) := by
  rw [stepCore]
  split
  · exact h
  · next frame hframe =>
    obtain ⟨call, pc, tick⟩ := frame
    split
    · next hin =>
      obtain ⟨rfl, -⟩ := hin
      exact tick_accounted setup s c call tick epoch hframe h
    · next hout =>
      exact advance_accounted setup s c call pc epoch h
        (by rw [hframe]; exact tickOf_returned _ hout)

theorem step_accounting (s : State α) (a : Action α) (ha : Driven s a) (h : Accounting setup s) :
    Accounting setup (step setup s a) := by
  obtain ⟨hidle, hbuilt⟩ := h
  refine ⟨step_idleUnbuilt setup s a hidle, fun hafter => ?_⟩
  cases hpaces : a.paces with
  | false =>
    obtain ⟨hsteady, hcore⟩ := step_steady setup s a hpaces
    obtain ⟨epoch, hacc⟩ := hbuilt (hsteady.built.symm.trans hafter)
    refine ⟨epoch, hacc.onward hsteady.timer ?_ hsteady.utilTracker fun c => ?_⟩
    · exact .of_eq hsteady.micros fun t => Or.inl (reached_steady hsteady t)
    · rcases hcore c with hsame | ⟨hnone, -, -, frame, hframe, hentered⟩
      · rw [hsame]
      · rw [hnone, hframe]
        rcases hentered with hreturned | ⟨now, rfl, -⟩
        · exact tickOf_returned frame fun hin => hin.2 hreturned
        · exact absurd ha id
  | true =>
    cases a with
    | register r =>
      obtain ⟨epoch, hacc⟩ := hbuilt ((register_built setup s.statics.system r).symm.trans hafter)
      exact ⟨epoch, hacc.onward rfl (.of_eq rfl fun _ => Or.inl rfl) rfl fun _ => rfl⟩
    | setMicros micros =>
      obtain ⟨epoch, hacc⟩ := hbuilt hafter
      have hle : s.micros.toNat ≤ micros.toNat := UInt64.le_iff_toNat_le.mp ha
      refine ⟨epoch, hacc.onward rfl ⟨hle, fun t ht => ?_⟩ rfl fun _ => rfl⟩
      cases t with
      | none => exact ⟨hle, le_refl _⟩
      | some t =>
        simp only [reached] at ht ⊢
        by_cases hclocked : s.timers.clocked t
        · simp only [step, hclocked, if_true] at ht ⊢
          exact ⟨le_refl _, ht.trans hle⟩
        · simp only [step, hclocked, if_false, Bool.false_eq_true]
          exact ⟨hle, le_refl _⟩
    | build deps clockSource =>
      cases hbefore : s.statics.system.built with
      | true =>
        rw [step_build_built setup s deps clockSource hbefore]
        exact hbuilt hbefore
      | false =>
        have hclock : clockSource = true := ha
        obtain ⟨-, htimer⟩ := step_build_succeeded setup s deps clockSource hbefore hafter
        rw [if_pos hclock] at htimer
        have hnew := step_build_idle setup s deps clockSource (hidle.2 hbefore)
        refine ⟨s.micros, htimer, le_refl _, fun c => ?_, fun c => ?_⟩
        · rw [hnew.utilTracker]
          exact ⟨le_refl _, le_refl _⟩
        · rw [hnew.utilTracker, hnew.core]
          exact le_refl _
    | core c =>
      obtain ⟨epoch, hacc⟩ := hbuilt ((stepCore_keeps setup s c).built.symm.trans hafter)
      exact ⟨epoch, stepCore_accounted setup s c epoch hacc⟩
    | reset =>
      rw [step] at hafter ⊢
      split at hafter
      · cases hafter
      · next hbusy =>
        rw [if_neg hbusy]
        exact hbuilt hafter
    | _ => cases hpaces

theorem run_accounting (timers : Timers) (micros : UInt64) (as : List (Action α))
    (ha : Along (step setup) Driven (boot timers micros) as) :
    Accounting setup (run (step setup) (boot timers micros) as) :=
  run_along (step setup) (Accounting setup) Driven (step_accounting setup) (boot timers micros)
    ⟨run_idleUnbuilt setup timers micros [], fun h => by cases h⟩ as ha

/-- What the end of a tick records: a busy time that fits into the wall time, the
gap that fills it up, and sums of the window that do not wrap. -/
structure RecordsExactly (s : State α) (c : ℕ) (now busy : UInt64) : Prop where
  tickStart : (s.statics.utilTracker c).tickStart = now
  begun : now ≤ s.statics.nowMicros s.micros
  fits : busy.toNat ≤ (s.statics.nowMicros s.micros).toNat-now.toNat
  gap : (gapUs now (s.statics.nowMicros s.micros) busy).toNat+busy.toNat =
    (s.statics.nowMicros s.micros).toNat-now.toNat
  busySum : (s.statics.utilTracker c).busyUs.toNat+busy.toNat < 2^64
  totalSum : (s.statics.utilTracker c).totalUs.toNat+
    ((s.statics.nowMicros s.micros).toNat-now.toNat) < 2^64

theorem gapUs_exact (now tickEnd busy : UInt64) (h : now.toNat+busy.toNat ≤ tickEnd.toNat) :
    (gapUs now tickEnd busy).toNat+busy.toNat = tickEnd.toNat-now.toNat := by
  have hwall : (tickEnd-now).toNat = tickEnd.toNat-now.toNat := sub_exact _ _ (by omega)
  rw [gapUs, if_pos (UInt64.le_iff_toNat_le.mpr (show now.toNat ≤ tickEnd.toNat by omega)),
    if_pos (UInt64.le_iff_toNat_le.mpr (show busy.toNat ≤ (tickEnd-now).toNat by omega)),
    sub_exact _ _ (by omega)]
  omega

theorem finish_records (s : State α) (c : ℕ) (epoch : UInt64) (call : Call) (now busy : UInt64)
    (h : Accounted epoch s) (hframe : s.core c = some ⟨call, .inTick, .finish now busy⟩) :
    RecordsExactly s c now busy := by
  have hplace := h.place c
  rw [hframe] at hplace
  have hwithin : Within epoch (s.statics.utilTracker c) s now busy.toNat none := hplace
  have hcharged : epoch.toNat+now.toNat+busy.toNat ≤ s.micros.toNat := hwithin.charged
  have hend := nowMicros_exact s epoch h.timer h.begun
  have hcurrent := (h.balanced c).current
  have htotal := hwithin.total
  have hlt := s.micros.toNat_lt
  exact ⟨hwithin.tickStart, UInt64.le_iff_toNat_le.mpr (by omega), by omega,
    gapUs_exact now (s.statics.nowMicros s.micros) busy (by omega), by omega, by omega⟩

/-- On one clock that does not go back, every tick that `run` makes records a busy
time within its wall time, and the utilization of every window is between 0 and 1. -/
theorem utilization_accounted (timers : Timers) (micros : UInt64) (as : List (Action α)) (c : ℕ)
    (ha : Along (step setup) Driven (boot timers micros) as) :
    (∀ call now busy,
      (run (step setup) (boot timers micros) as).core c =
        some ⟨call, .inTick, .finish now busy⟩ →
      RecordsExactly (run (step setup) (boot timers micros) as) c now busy) ∧
    Balanced ((run (step setup) (boot timers micros) as).statics.utilTracker c) ∧
    0 ≤ exactUtilization ((run (step setup) (boot timers micros) as).statics.utilTracker c) ∧
    exactUtilization ((run (step setup) (boot timers micros) as).statics.utilTracker c) ≤ 1 := by
  obtain ⟨hidle, hbuilt⟩ := run_accounting setup timers micros as ha
  generalize run (step setup) (boot timers micros) as = s at *
  have hbalanced : Balanced (s.statics.utilTracker c) := by
    cases hb : s.statics.system.built with
    | true =>
      obtain ⟨epoch, hacc⟩ := hbuilt hb
      exact hacc.balanced c
    | false =>
      rw [(hidle.2 hb).utilTracker]
      exact ⟨le_refl _, le_refl _⟩
  refine ⟨fun call now busy hframe => ?_, hbalanced, exactUtilization_bounds _ hbalanced⟩
  cases hb : s.statics.system.built with
  | true =>
    obtain ⟨epoch, hacc⟩ := hbuilt hb
    exact finish_records s c epoch call now busy hacc hframe
  | false =>
    rw [(hidle.2 hb).core] at hframe
    cases hframe

end Runs

section Witnesses

def singleSetup : Setup := { dualSetup with cfg := ⟨1, le_refl 1, 10000, 10000, 10, 8⟩ }

def started : List (Action ℕ) :=
  [.register (.addScheduledTask 0 0), .build fullDependencies true, .setMicros 5, .run 0]

def coreSteps (n : ℕ) : List (Action ℕ) := List.replicate n (.core 0)

def clockAt (micros : UInt64) : List (Action ℕ) := [.setMicros micros]

def firstRun : List (Action ℕ) :=
  started ++ coreSteps 27 ++ clockAt 75 ++ coreSteps 6 ++ clockAt 80

theorem utilization_accounted_run :
    RecordsExactly (run (step singleSetup) (boot freshTimers 0) firstRun) 0 5 70 :=
  (utilization_accounted singleSetup freshTimers 0 firstRun 0 (by decide +kernel)).1 .run 5 70
    (by decide +kernel)

end Witnesses

end SputterOS.UtilizationAccounting
