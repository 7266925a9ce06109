import SputterOS.Kernel.TimerWindows

/-!
# The lengths of the windows of a task timer

A window runs from the rotation before it, and the first one from the first
recorded sample. The timer has no mark for the first sample: its window start is
zero until the first rotation, so the first window is complete with the first stop
that reads a whole window length on the clock.
-/

set_option autoImplicit false

namespace SputterOS.WindowLengths
open Foundation.Transition SputterOS.Metrics SputterOS.TimerWindows

structure Rotation where
  opened : UInt64
  closed : UInt64
  deriving DecidableEq

structure State where
  timer : TaskTimer
  opened : Option UInt64
  rotations : List Rotation
  seen : List Sample

def boot (t : TaskTimer) : State := ⟨t.reset, none, [], []⟩

def State.sample (s : State) (now : UInt64) : Sample := ⟨s.timer.start, now⟩

def step (sampleTime : Sample → UInt64) (s : State) : Call → State
  | .start now => { s with timer := s.timer.begin now }
  | .stop now =>
    let opened := s.opened.getD (sampleTime (s.sample now))
    if windowEnds s.timer.windowUs s.timer.windowStartUs now then
      ⟨s.timer.stop now, some now, s.rotations ++ [⟨opened, now⟩], s.seen ++ [s.sample now]⟩
    else ⟨s.timer.stop now, some opened, s.rotations, s.seen ++ [s.sample now]⟩

/-- All completed windows have the configured length. -/
def Long (windowUs : UInt64) (rs : List Rotation) : Prop :=
  ∀ r ∈ rs, r.opened.toNat+windowUs.toNat ≤ r.closed.toNat

instance (windowUs : UInt64) (rs : List Rotation) : Decidable (Long windowUs rs) :=
  inferInstanceAs (Decidable (∀ r ∈ rs, r.opened.toNat+windowUs.toNat ≤ r.closed.toNat))

def crossing (windowUs : UInt64) (xs : List Sample) : Option Sample :=
  xs.find? (fun x => windowUs ≤ x.stop)

/-- The first stop that reads at least a window length comes a window length behind
the first sample. -/
def FirstWindow (sampleTime : Sample → UInt64) (windowUs : UInt64) (xs : List Sample) : Prop :=
  ∀ x y, xs.head? = some x → crossing windowUs xs = some y →
    (sampleTime x).toNat+windowUs.toNat ≤ y.stop.toNat

/-- Until the first stop that reads a window length the timer counts from zero, and
from then on from its last rotation. -/
structure Inv (sampleTime : Sample → UInt64) (windowUs : UInt64) (s : State) : Prop where
  length : s.timer.windowUs = windowUs
  fresh : crossing windowUs s.seen = none →
    s.timer.windowStartUs = 0 ∧ s.opened = s.seen.head?.map sampleTime ∧ s.rotations = []
  rotated : ∀ y, crossing windowUs s.seen = some y →
    s.opened = some s.timer.windowStartUs ∧ ∃ x rest, s.seen.head? = some x ∧
      s.rotations = ⟨sampleTime x, y.stop⟩ :: rest ∧ Long windowUs rest

section Runs

variable (sampleTime : Sample → UInt64)

theorem windowEnds_iff (windowUs windowStartUs now : UInt64) (h : 0 < windowUs) :
    windowEnds windowUs windowStartUs now = true ↔
      windowStartUs.toNat+windowUs.toNat ≤ now.toNat := by
  have hpos := UInt64.lt_iff_toNat_lt.mp h
  rw [windowEnds]
  simp only [Bool.and_eq_true, decide_eq_true_eq]
  constructor
  · rintro ⟨⟨-, hge⟩, hlong⟩
    have hsub := UInt64.toNat_sub_of_le now windowStartUs hge
    have hge := UInt64.le_iff_toNat_le.mp hge
    have hlong := UInt64.le_iff_toNat_le.mp hlong
    omega
  · intro hlong
    have hge : windowStartUs ≤ now := UInt64.le_iff_toNat_le.mpr (by omega)
    have hsub := UInt64.toNat_sub_of_le now windowStartUs hge
    exact ⟨⟨h, hge⟩, UInt64.le_iff_toNat_le.mpr (by omega)⟩

theorem stop_windowStart (t : TaskTimer) (now : UInt64) :
    (t.stop now).windowStartUs =
      if windowEnds t.windowUs t.windowStartUs now then now else t.windowStartUs := by
  rw [stop_timer]
  split <;> rfl

theorem step_stop (s : State) (now : UInt64) :
    step sampleTime s (.stop now) =
      if windowEnds s.timer.windowUs s.timer.windowStartUs now then
        ⟨s.timer.stop now, some now,
          s.rotations ++ [⟨s.opened.getD (sampleTime (s.sample now)), now⟩],
          s.seen ++ [s.sample now]⟩
      else ⟨s.timer.stop now, some (s.opened.getD (sampleTime (s.sample now))), s.rotations,
        s.seen ++ [s.sample now]⟩ := rfl

theorem crossing_snoc (windowUs : UInt64) (xs : List Sample) (x : Sample) :
    crossing windowUs (xs ++ [x]) =
      (crossing windowUs xs).or (if windowUs ≤ x.stop then some x else none) := by
  simp [crossing, List.find?_append, List.find?_singleton]

theorem stop_fresh (windowUs : UInt64) (hpos : 0 < windowUs) (s : State) (now : UInt64)
    (h : Inv sampleTime windowUs s) (hnone : crossing windowUs s.seen = none) :
    Inv sampleTime windowUs (step sampleTime s (.stop now)) := by
  obtain ⟨hzero, hopened, hrotations⟩ := h.fresh hnone
  have hfirst : s.opened.getD (sampleTime (s.sample now)) =
      sampleTime (s.seen.head?.getD (s.sample now)) := by
    rw [hopened]
    cases s.seen.head? <;> rfl
  have hends := windowEnds_iff windowUs s.timer.windowStartUs now hpos
  rw [hzero, UInt64.toNat_zero, Nat.zero_add, ← UInt64.le_iff_toNat_le] at hends
  have hlength : (s.timer.stop now).windowUs = windowUs := (stop_windowUs _ _).trans h.length
  have hstart := stop_windowStart s.timer now
  rw [h.length, hzero] at hstart
  have hcrossing : crossing windowUs (s.seen ++ [s.sample now]) =
      if windowUs ≤ now then some (s.sample now) else none := by
    rw [crossing_snoc, hnone, Option.none_or]
    rfl
  rw [step_stop, h.length, hzero, hfirst, hrotations]
  by_cases hlong : windowUs ≤ now
  · rw [if_pos (hends.mpr hlong)] at hstart ⊢
    rw [if_pos hlong] at hcrossing
    refine ⟨hlength, fun hno => ?_, fun y hy => ?_⟩
    · cases hcrossing.symm.trans hno
    · obtain rfl := Option.some.inj (hcrossing.symm.trans hy)
      exact ⟨congrArg some hstart.symm, _, [], List.head?_concat, rfl, nofun⟩
  · rw [if_neg (fun he => hlong (hends.mp he))] at hstart ⊢
    rw [if_neg hlong] at hcrossing
    refine ⟨hlength, fun _ => ⟨hstart, ?_, rfl⟩, fun y hy => ?_⟩
    · rw [List.head?_concat]
      rfl
    · cases hcrossing.symm.trans hy

theorem stop_rotated (windowUs : UInt64) (hpos : 0 < windowUs) (s : State) (now : UInt64)
    (h : Inv sampleTime windowUs s) (y : Sample) (hy : crossing windowUs s.seen = some y) :
    Inv sampleTime windowUs (step sampleTime s (.stop now)) := by
  obtain ⟨hopened, x, rest, hhead, hrotations, hrest⟩ := h.rotated y hy
  have hends := windowEnds_iff windowUs s.timer.windowStartUs now hpos
  have hlength : (s.timer.stop now).windowUs = windowUs := (stop_windowUs _ _).trans h.length
  have hstart := stop_windowStart s.timer now
  rw [h.length] at hstart
  have hcrossing := crossing_snoc windowUs s.seen (s.sample now)
  rw [hy, Option.some_or] at hcrossing
  have hhead' : (s.seen ++ [s.sample now]).head? = some x := by
    rw [List.head?_concat, hhead]
    rfl
  rw [step_stop, h.length, hopened, Option.getD_some, hrotations]
  by_cases hlong : windowEnds windowUs s.timer.windowStartUs now = true
  · rw [if_pos hlong] at hstart ⊢
    refine ⟨hlength, fun hno => ?_, fun z hz => ?_⟩
    · cases hcrossing.symm.trans hno
    · obtain rfl := Option.some.inj (hcrossing.symm.trans hz)
      refine ⟨congrArg some hstart.symm, x, rest ++ [⟨s.timer.windowStartUs, now⟩], hhead', rfl, ?_⟩
      intro r hr
      rcases List.mem_append.mp hr with hr | hr
      · exact hrest r hr
      · rw [List.mem_singleton.mp hr]
        exact hends.mp hlong
  · rw [if_neg hlong] at hstart ⊢
    refine ⟨hlength, fun hno => ?_, fun z hz => ?_⟩
    · cases hcrossing.symm.trans hno
    · obtain rfl := Option.some.inj (hcrossing.symm.trans hz)
      exact ⟨congrArg some hstart.symm, x, rest, hhead', rfl, hrest⟩

theorem step_inv (windowUs : UInt64) (hpos : 0 < windowUs) (s : State) (c : Call)
    (h : Inv sampleTime windowUs s) : Inv sampleTime windowUs (step sampleTime s c) := by
  cases c with
  | start now => exact ⟨h.length, h.fresh, h.rotated⟩
  | stop now =>
    cases hfind : crossing windowUs s.seen with
    | none => exact stop_fresh sampleTime windowUs hpos s now h hfind
    | some y => exact stop_rotated sampleTime windowUs hpos s now h y hfind

theorem run_inv (t : TaskTimer) (h : 0 < t.windowUs) (calls : List Call) :
    Inv sampleTime t.windowUs (run (step sampleTime) (boot t) calls) :=
  run_preserves (step sampleTime) _ (fun s c => step_inv sampleTime t.windowUs h s c) (boot t)
    ⟨rfl, fun _ => ⟨rfl, rfl, rfl⟩, nofun⟩ calls

theorem run_seen (s : State) (calls : List Call) :
    (run (step sampleTime) s calls).seen = s.seen ++ samples s.timer.start calls := by
  induction calls generalizing s with
  | nil => simp [samples]
  | cons c calls ih =>
    rw [run_cons, ih]
    cases c with
    | start now => rfl
    | stop now =>
      rw [samples, step_stop]
      split_ifs <;> simp [State.sample]

end Runs

/-- All completed windows are as long as configured exactly if the first one is; it is
closed by the first stop that reads a window length on the clock. -/
theorem windows_long_iff (sampleTime : Sample → UInt64) (t : TaskTimer) (h : 0 < t.windowUs)
    (calls : List Call) :
    Long t.windowUs (run (step sampleTime) (boot t) calls).rotations ↔
      FirstWindow sampleTime t.windowUs (samples t.start calls) := by
  have hinv := run_inv sampleTime t h calls
  have hseen : (run (step sampleTime) (boot t) calls).seen = samples t.start calls :=
    run_seen sampleTime (boot t) calls
  rw [← hseen]
  cases hfind : crossing t.windowUs (run (step sampleTime) (boot t) calls).seen with
  | none =>
    rw [(hinv.fresh hfind).2.2]
    refine iff_of_true nofun fun x y _ hy => ?_
    rw [hfind] at hy
    cases hy
  | some y =>
    obtain ⟨-, x, rest, hhead, hrotations, hrest⟩ := hinv.rotated y hfind
    rw [hrotations]
    constructor
    · intro hlong x' y' hx' hy'
      obtain rfl := Option.some.inj (hhead.symm.trans hx')
      obtain rfl := Option.some.inj (hfind.symm.trans hy')
      exact hlong _ (List.mem_cons_self ..)
    · intro hfirst r hr
      rcases List.mem_cons.mp hr with rfl | hr
      · exact hfirst x y hhead hfind
      · exact hrest r hr

def promptCalls : List Call := [.start 0, .stop 5, .start 60000000, .stop 60000100]

theorem windows_long_prompt :
    Long kDefaultWindowUs (run (step Sample.stop) (boot .new) promptCalls).rotations := by
  refine (windows_long_iff Sample.stop .new (by decide) promptCalls).mpr fun x y hx hy => ?_
  obtain rfl : (⟨0, 5⟩ : Sample) = x := Option.some.inj hx
  obtain rfl : (⟨60000000, 60000100⟩ : Sample) = y := Option.some.inj hy
  decide

def lateCalls : List Call := [.start 1000000000, .stop 1000000005]

/-- Even from the start of its one sample on the window lasts 5 microseconds. -/
theorem window_of_one_sample :
    ¬ ∀ calls, Clock 0 calls →
      Long kDefaultWindowUs (run (step Sample.start) (boot .new) calls).rotations := by
  intro h
  exact absurd (h lateCalls ⟨by decide, by decide, trivial⟩) (by decide +kernel)

end SputterOS.WindowLengths
