import SputterOS.Foundation.Transition
import Mathlib.Data.UInt
import Mathlib.Logic.Function.Basic

/-!
# Heartbeats of cores

A monitored core samples the clock and stores the time and then its mark of
being alive. Any checker samples the same clock and loads the mark and then the
time, and the steps of all calls interleave. The stored kicks and the answers
are not read by the code.
-/

set_option autoImplicit false

namespace SputterOS.Watchdog
open Foundation.Transition

structure WatchdogSync where
  lastKick : ℕ → Int64
  alive : ℕ → Bool

def WatchdogSync.new : WatchdogSync := ⟨fun _ => 0, fun _ => false⟩

inductive Kick where
  | idle
  | storeKick (systemTimeMicros : UInt64)
  | storeAlive
  deriving DecidableEq

inductive Check where
  | idle
  | loadAlive (coreId : ℕ) (systemTimeMicros timeout : UInt64)
  | loadKick (coreId : ℕ) (systemTimeMicros timeout : UInt64)
  deriving DecidableEq

structure Answer where
  systemTimeMicros : UInt64
  timeout : UInt64
  stale : Bool
  kicks : List UInt64
  deriving DecidableEq

structure State where
  micros : UInt64
  sync : WatchdogSync
  kick : ℕ → Kick
  check : ℕ → Check
  kicks : ℕ → List UInt64
  answers : List Answer

inductive Action where
  | setMicros (micros : UInt64)
  | kick (coreId : ℕ)
  | kicker (coreId : ℕ)
  | isStale (k coreId : ℕ) (timeout : UInt64)
  | checker (k : ℕ)

def boot (micros : UInt64) : State :=
  ⟨micros, .new, fun _ => .idle, fun _ => .idle, fun _ => [], []⟩

def stepKick (s : State) (c : ℕ) : State :=
  match s.kick c with
  | .idle => s
  | .storeKick time =>
    { s with
      sync := { s.sync with lastKick := Function.update s.sync.lastKick c time.toInt64 }
      kick := Function.update s.kick c .storeAlive
      kicks := Function.update s.kicks c (s.kicks c ++ [time]) }
  | .storeAlive =>
    { s with
      sync := { s.sync with alive := Function.update s.sync.alive c true }
      kick := Function.update s.kick c .idle }

def State.answer (s : State) (k c : ℕ) (time timeout : UInt64) (stale : Bool) : State :=
  { s with
    check := Function.update s.check k .idle
    answers := s.answers ++ [⟨time, timeout, stale, s.kicks c⟩] }

def stepCheck (s : State) (k : ℕ) : State :=
  match s.check k with
  | .idle => s
  | .loadAlive c time timeout =>
    if s.sync.alive c then { s with check := Function.update s.check k (.loadKick c time timeout) }
    else s.answer k c time timeout false
  | .loadKick c time timeout =>
    s.answer k c time timeout (time-(s.sync.lastKick c).toUInt64 > timeout)

/-- The clock does not go back, and a call begins with its sample of the clock. -/
def step (s : State) : Action → State
  | .setMicros micros => if s.micros ≤ micros then { s with micros := micros } else s
  | .kick c =>
    match s.kick c with
    | .idle => { s with kick := Function.update s.kick c (.storeKick s.micros) }
    | _ => s
  | .kicker c => stepKick s c
  | .isStale k c timeout =>
    match s.check k with
    | .idle => { s with check := Function.update s.check k (.loadAlive c s.micros timeout) }
    | _ => s
  | .checker k => stepCheck s k

/-- A core is reported stale only if its latest kick is exceeded by more than the
timeout. -/
def Answer.Sound (x : Answer) : Prop :=
  x.stale = true → ∃ t ∈ x.kicks, t.toNat+x.timeout.toNat < x.systemTimeMicros.toNat ∧
    ∀ t' ∈ x.kicks, t' ≤ t

/-- The heartbeat a check loads is not later than its sample of the clock, or
so much later that the difference turns over to no more than the timeout. -/
def Check.NotAhead (sync : WatchdogSync) : Check → Prop
  | .loadKick c time timeout =>
    (sync.lastKick c).toUInt64 ≤ time ∨
      time.toNat+2^64 ≤ (sync.lastKick c).toUInt64.toNat+timeout.toNat
  | _ => True

def NotAhead (s : State) : Action → Prop
  | .checker k => (s.check k).NotAhead s.sync
  | _ => True

structure Beating (micros : UInt64) (kick : Kick) (lastKick : Int64) (alive : Bool)
    (kicks : List UInt64) : Prop where
  latest : ∀ t ∈ kicks, t ≤ lastKick.toUInt64
  carried : kicks ≠ [] → lastKick.toUInt64 ∈ kicks
  past : ∀ t ∈ kicks, t ≤ micros
  pending : ∀ time, kick = .storeKick time → time ≤ micros ∧ ∀ t ∈ kicks, t ≤ time
  stored : kick = .storeAlive → kicks ≠ []
  alive : alive = true → kicks ≠ []

structure Inv (s : State) : Prop where
  beating : ∀ c, Beating s.micros (s.kick c) (s.sync.lastKick c) (s.sync.alive c) (s.kicks c)
  loading : ∀ k c time timeout, s.check k = .loadKick c time timeout → s.kicks c ≠ []

theorem boot_inv (micros : UInt64) : Inv (boot micros) :=
  ⟨fun c => by constructor <;> simp [boot, WatchdogSync.new], fun k c time timeout h => by
    simp [boot] at h⟩

section Beats

variable {micros time : UInt64} {kick : Kick} {lastKick : Int64} {alive : Bool}
  {kicks : List UInt64}

theorem beating_later (h : Beating micros kick lastKick alive kicks) (later : UInt64)
    (hlater : micros ≤ later) : Beating later kick lastKick alive kicks where
  latest := h.latest
  carried := h.carried
  past := fun t ht => UInt64.le_trans (h.past t ht) hlater
  pending := fun time hk => ⟨UInt64.le_trans (h.pending time hk).1 hlater, (h.pending time hk).2⟩
  stored := h.stored
  alive := h.alive

theorem beating_sample (h : Beating micros kick lastKick alive kicks) :
    Beating micros (.storeKick micros) lastKick alive kicks where
  latest := h.latest
  carried := h.carried
  past := h.past
  pending := by
    rintro time ⟨⟩
    exact ⟨UInt64.le_refl _, h.past⟩
  stored := nofun
  alive := h.alive

theorem beating_store (h : Beating micros (.storeKick time) lastKick alive kicks) :
    Beating micros .storeAlive time.toInt64 alive (kicks ++ [time]) := by
  obtain ⟨hpast, hlatest⟩ := h.pending time rfl
  constructor
  · intro t ht
    rw [UInt64.toUInt64_toInt64]
    rcases List.mem_append.mp ht with ht | ht
    · exact hlatest t ht
    · rw [List.mem_singleton.mp ht]
      exact UInt64.le_refl _
  · simp
  · intro t ht
    rcases List.mem_append.mp ht with ht | ht
    · exact h.past t ht
    · rw [List.mem_singleton.mp ht]
      exact hpast
  · nofun
  · simp
  · simp

theorem beating_alive (h : Beating micros .storeAlive lastKick alive kicks) :
    Beating micros .idle lastKick true kicks where
  latest := h.latest
  carried := h.carried
  past := h.past
  pending := nofun
  stored := nofun
  alive := fun _ => h.stored rfl

/-- A difference beyond the timeout comes of a heartbeat that is older or of one
that is ahead of the sample. -/
theorem stale_sound_iff (h : Beating micros kick lastKick alive kicks) (hne : kicks ≠ [])
    (time timeout : UInt64) :
    Answer.Sound ⟨time, timeout, time-lastKick.toUInt64 > timeout, kicks⟩ ↔
      lastKick.toUInt64 ≤ time ∨ time.toNat+2^64 ≤ lastKick.toUInt64.toNat+timeout.toNat := by
  have hcarried := h.carried hne
  have hlatest := h.latest
  generalize lastKick.toUInt64 = last at *
  have hsub := UInt64.toNat_sub time last
  have hlast := last.toNat_lt
  have htime := time.toNat_lt
  simp only [Answer.Sound, decide_eq_true_eq, gt_iff_lt, UInt64.lt_iff_toNat_lt,
    UInt64.le_iff_toNat_le]
  constructor
  · intro hsound
    by_contra hnot
    obtain ⟨hahead, hshort⟩ := not_or.mp hnot
    obtain ⟨t, ht, hexceeds, hmax⟩ := hsound (by omega)
    have hle := hmax last hcarried
    omega
  · intro hcond hstale
    refine ⟨last, hcarried, ?_, hlatest⟩
    omega

end Beats

theorem stepKick_inv (s : State) (c : ℕ) (h : Inv s) : Inv (stepKick s c) := by
  have hc := h.beating c
  unfold stepKick
  split
  · exact h
  · next time hk =>
    rw [hk] at hc
    constructor
    · intro d
      by_cases hd : d = c
      · subst hd
        simpa using beating_store hc
      · simpa [hd] using h.beating d
    · intro k d time' timeout hload
      by_cases hd : d = c
      · subst hd
        simp
      · simpa [hd] using h.loading k d time' timeout hload
  · next hk =>
    rw [hk] at hc
    refine ⟨fun d => ?_, h.loading⟩
    by_cases hd : d = c
    · subst hd
      simpa using beating_alive hc
    · simpa [hd] using h.beating d

theorem goto_inv (s : State) (k : ℕ) (check : Check) (h : Inv s)
    (hcheck : ∀ c time timeout, check = .loadKick c time timeout → s.kicks c ≠ []) :
    Inv { s with check := Function.update s.check k check } := by
  refine ⟨h.beating, ?_⟩
  intro j c time timeout hload
  by_cases hj : j = k
  · subst hj
    exact hcheck c time timeout (by simpa using hload)
  · exact h.loading j c time timeout (by simpa [hj] using hload)

theorem answer_inv (s : State) (k c : ℕ) (time timeout : UInt64) (stale : Bool) (h : Inv s) :
    Inv (s.answer k c time timeout stale) := by
  have hgoto := goto_inv s k .idle h nofun
  exact ⟨hgoto.beating, hgoto.loading⟩

theorem stepCheck_inv (s : State) (k : ℕ) (h : Inv s) : Inv (stepCheck s k) := by
  unfold stepCheck
  split
  · exact h
  · next c time timeout hk =>
    split
    · next halive =>
      apply goto_inv s k _ h
      rintro c' time' timeout' ⟨⟩
      exact (h.beating c).alive halive
    · exact answer_inv s k c time timeout false h
  · next c time timeout hk => exact answer_inv s k c time timeout _ h

theorem step_inv (s : State) (a : Action) (h : Inv s) : Inv (step s a) := by
  cases a with
  | setMicros micros =>
    rw [step]
    split
    · next hle => exact ⟨fun c => beating_later (h.beating c) micros hle, h.loading⟩
    · exact h
  | kick c =>
    rw [step]
    split
    · refine ⟨fun d => ?_, h.loading⟩
      by_cases hd : d = c
      · subst hd
        simpa using beating_sample (h.beating d)
      · simpa [hd] using h.beating d
    · exact h
  | kicker c => exact stepKick_inv s c h
  | isStale k c timeout =>
    rw [step]
    split
    · exact goto_inv s k _ h nofun
    · exact h
  | checker k => exact stepCheck_inv s k h

theorem stepKick_answers (s : State) (c : ℕ) : (stepKick s c).answers = s.answers := by
  unfold stepKick
  split <;> rfl

theorem step_sound_iff (s : State) (a : Action) (h : Inv s) :
    (∀ x ∈ (step s a).answers, x.Sound) ↔ (∀ x ∈ s.answers, x.Sound) ∧ NotAhead s a := by
  cases a with
  | setMicros micros =>
    rw [step]
    split <;> simp [NotAhead]
  | kick c =>
    rw [step]
    split <;> simp [NotAhead]
  | kicker c => simp [step, stepKick_answers, NotAhead]
  | isStale k c timeout =>
    rw [step]
    split <;> simp [NotAhead]
  | checker k =>
    cases hk : s.check k with
    | idle => simp [step, stepCheck, NotAhead, hk, Check.NotAhead]
    | loadAlive c time timeout =>
      simp only [step, stepCheck, NotAhead, hk, Check.NotAhead, and_true]
      split
      · rfl
      · simp [State.answer, or_imp, forall_and, Answer.Sound]
    | loadKick c time timeout =>
      have hsound := stale_sound_iff (h.beating c) (h.loading k c time timeout hk) time timeout
      simp only [step, stepCheck, NotAhead, hk, Check.NotAhead, State.answer, List.mem_append,
        List.mem_singleton, or_imp, forall_and, forall_eq]
      rw [hsound]

/-- Over any run every core reported stale has overrun its timeout exactly if no
check loads a heartbeat ahead of its sample of the clock. -/
theorem no_false_alarm_iff (micros : UInt64) (as : List Action) :
    (∀ x ∈ (run step (boot micros) as).answers, x.Sound) ↔
      Along step NotAhead (boot micros) as := by
  rw [run_iff_along step Inv (fun s => ∀ x ∈ s.answers, x.Sound) NotAhead step_inv step_sound_iff
    (boot micros) (boot_inv micros) as]
  simp [boot]

def kickInWindow : List Action :=
  [.setMicros 5, .kick 0, .kicker 0, .kicker 0, .isStale 1 0 1000, .setMicros 6, .kick 0,
    .kicker 0, .checker 1, .checker 1]

/-- The newest kick is ahead of the sample and the core is reported stale. -/
theorem kicked_and_stale :
    (run step (boot 0) kickInWindow).answers = [⟨5, 1000, true, [5, 6]⟩] ∧
    ¬ ∀ as, ∀ x ∈ (run step (boot 0) as).answers, x.Sound := by
  have hanswers : (run step (boot 0) kickInWindow).answers = [⟨5, 1000, true, [5, 6]⟩] := by
    decide +kernel
  refine ⟨hanswers, fun h => ?_⟩
  obtain ⟨t, ht, hexceeds, -⟩ := h kickInWindow ⟨5, 1000, true, [5, 6]⟩ (by simp [hanswers]) rfl
  have hlt : t.toNat < 5 := Nat.lt_of_le_of_lt (Nat.le_add_right _ _) hexceeds
  rcases List.mem_pair.mp ht with rfl | rfl <;> revert hlt <;> decide

end SputterOS.Watchdog
