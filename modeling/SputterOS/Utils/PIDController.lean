import Mathlib.Algebra.Order.Ring.Rat
import Mathlib.Data.UInt
import SputterOS.Foundation.Transition

/-!
# The PID controller

Floats are rational numbers. The first sample behind a construction or a reset is
only timed and answered with zero, and a sample without elapsed time is answered with
the last output. Every other output is clamped to the limits in force.
-/

set_option autoImplicit false

namespace SputterOS.PID
open Foundation.Transition

def sput_min (a b : ℚ) : ℚ := if b < a then b else a

def sput_max (a b : ℚ) : ℚ := if a < b then b else a

structure Sample where
  setpoint : ℚ
  measured : ℚ
  timestamp : UInt64
  deriving DecidableEq

def Sample.error (x : Sample) : ℚ := x.setpoint-x.measured

structure PIDController where
  kp : ℚ
  ki : ℚ
  kd : ℚ
  outputMin : ℚ
  outputMax : ℚ
  integral : ℚ
  prevError : ℚ
  lastOutput : ℚ
  lastTimestamp : UInt64
  firstSample : Bool
  deriving DecidableEq

namespace PIDController

def new (kp ki kd outputMin outputMax : ℚ) : PIDController :=
  ⟨kp, ki, kd, outputMin, outputMax, 0, 0, 0, 0, true⟩

section Compute

variable (pid : PIDController) (x : Sample)

def dtUs : UInt64 := x.timestamp-pid.lastTimestamp

/-- Seconds. -/
def dt : ℚ := (pid.dtUs x).toNat*(1/1000000)

def derivative : ℚ := (x.error-pid.prevError)/pid.dt x

def rawIntegral : ℚ := pid.integral+x.error*pid.dt x

def rawOutput : ℚ :=
  pid.kp*x.error+pid.ki*pid.rawIntegral x+pid.kd*pid.derivative x

def saturated : Bool :=
  pid.rawOutput x ≥ pid.outputMax ∨ pid.rawOutput x ≤ pid.outputMin

def sameSign : Bool := x.error*pid.integral > 0

def newIntegral : ℚ :=
  if !pid.saturated x || !pid.sameSign x then pid.rawIntegral x else pid.integral

def output : ℚ :=
  sput_max pid.outputMin (sput_min pid.outputMax
    (pid.kp*x.error+pid.ki*pid.newIntegral x+pid.kd*pid.derivative x))

def compute : ℚ × PIDController :=
  if pid.firstSample then
    (0, { pid with lastTimestamp := x.timestamp, firstSample := false })
  else if pid.dtUs x = 0 then (pid.lastOutput, pid)
  else
    (pid.output x,
      { pid with
        integral := pid.newIntegral x
        prevError := x.error
        lastOutput := pid.output x
        lastTimestamp := x.timestamp })

end Compute

def setGains (pid : PIDController) (kp ki kd : ℚ) : PIDController :=
  { pid with kp := kp, ki := ki, kd := kd }

def setOutputLimits (pid : PIDController) (outputMin outputMax : ℚ) : PIDController :=
  { pid with outputMin := outputMin, outputMax := outputMax }

def reset (pid : PIDController) : PIDController :=
  { pid with
    integral := 0
    prevError := 0
    lastOutput := 0
    lastTimestamp := 0
    firstSample := true }

end PIDController

inductive Call where
  | compute (x : Sample)
  | setGains (kp ki kd : ℚ)
  | setOutputLimits (outputMin outputMax : ℚ)
  | reset

def call (pid : PIDController) : Call → PIDController
  | .compute x => (pid.compute x).2
  | .setGains kp ki kd => pid.setGains kp ki kd
  | .setOutputLimits outputMin outputMax => pid.setOutputLimits outputMin outputMax
  | .reset => pid.reset

/-- The sample is neither the first one nor without elapsed time. -/
def Elapsed (pid : PIDController) (x : Sample) : Prop :=
  pid.firstSample = false ∧ x.timestamp ≠ pid.lastTimestamp

instance (pid : PIDController) (x : Sample) : Decidable (Elapsed pid x) :=
  inferInstanceAs (Decidable (_ ∧ _))

structure State where
  pid : PIDController
  computed : Option (ℚ × ℚ)

def boot (kp ki kd outputMin outputMax : ℚ) : State :=
  ⟨.new kp ki kd outputMin outputMax, none⟩

def step (s : State) (c : Call) : State :=
  ⟨call s.pid c,
    match c with
    | .compute x =>
      if Elapsed s.pid x then some (s.pid.outputMin, s.pid.outputMax) else s.computed
    | .reset => none
    | _ => s.computed⟩

def Within (outputMin outputMax v : ℚ) : Prop :=
  outputMin ≤ outputMax → outputMin ≤ v ∧ v ≤ outputMax

structure Returned (s : State) (x : Sample) (v : ℚ) : Prop where
  first : s.pid.firstSample = true → v = 0
  elapsed : Elapsed s.pid x → Within s.pid.outputMin s.pid.outputMax v
  unset : s.pid.firstSample = false → x.timestamp = s.pid.lastTimestamp → s.computed = none → v = 0
  unchanged : s.pid.firstSample = false → x.timestamp = s.pid.lastTimestamp →
    s.computed = some (s.pid.outputMin, s.pid.outputMax) →
      Within s.pid.outputMin s.pid.outputMax v

/-- The last output was within the limits at its time, and is zero if there was none. -/
structure Inv (s : State) : Prop where
  unset : s.computed = none → s.pid.lastOutput = 0
  computed : ∀ lo hi, s.computed = some (lo, hi) → Within lo hi s.pid.lastOutput

section Runs

theorem sput_min_eq (a b : ℚ) : sput_min a b = min a b := by
  unfold sput_min
  split_ifs with h
  · exact (min_eq_right h.le).symm
  · exact (min_eq_left (not_lt.mp h)).symm

theorem sput_max_eq (a b : ℚ) : sput_max a b = max a b := by
  unfold sput_max
  split_ifs with h
  · exact (max_eq_right h.le).symm
  · exact (max_eq_left (not_lt.mp h)).symm

theorem output_within (pid : PIDController) (x : Sample) :
    Within pid.outputMin pid.outputMax (pid.output x) := by
  intro hlimits
  rw [PIDController.output, sput_max_eq, sput_min_eq]
  exact ⟨le_max_left _ _, max_le hlimits (min_le_left _ _)⟩

theorem dtUs_eq_zero_iff (pid : PIDController) (x : Sample) :
    pid.dtUs x = 0 ↔ x.timestamp = pid.lastTimestamp := by
  rw [PIDController.dtUs]
  constructor
  · intro h
    rw [← UInt64.sub_add_cancel x.timestamp pid.lastTimestamp, h, UInt64.zero_add]
  · rintro h
    rw [h, UInt64.sub_self]

theorem compute_first (pid : PIDController) (x : Sample) (h : pid.firstSample = true) :
    pid.compute x = (0, { pid with lastTimestamp := x.timestamp, firstSample := false }) :=
  if_pos h

theorem compute_idle (pid : PIDController) (x : Sample) (h : pid.firstSample = false)
    (htime : x.timestamp = pid.lastTimestamp) : pid.compute x = (pid.lastOutput, pid) := by
  rw [PIDController.compute, if_neg (by simp [h]), if_pos ((dtUs_eq_zero_iff pid x).mpr htime)]

theorem compute_elapsed (pid : PIDController) (x : Sample) (h : Elapsed pid x) :
    pid.compute x = (pid.output x,
      { pid with
        integral := pid.newIntegral x
        prevError := x.error
        lastOutput := pid.output x
        lastTimestamp := x.timestamp }) := by
  rw [PIDController.compute, if_neg (by simp [h.1]),
    if_neg fun hzero => h.2 ((dtUs_eq_zero_iff pid x).mp hzero)]

theorem compute_lastOutput (pid : PIDController) (x : Sample) (h : ¬ Elapsed pid x) :
    (pid.compute x).2.lastOutput = pid.lastOutput := by
  cases hfirst : pid.firstSample with
  | true => rw [compute_first pid x hfirst]
  | false =>
    rw [compute_idle pid x hfirst]
    by_contra hne
    exact h ⟨hfirst, hne⟩

theorem step_inv (s : State) (c : Call) (h : Inv s) : Inv (step s c) := by
  cases c with
  | compute x =>
    by_cases helapsed : Elapsed s.pid x
    · refine ⟨fun hnone => ?_, fun lo hi hsome => ?_⟩
      · simp [step, helapsed] at hnone
      · simp only [step, if_pos helapsed, Option.some.injEq, Prod.mk.injEq] at hsome
        obtain ⟨rfl, rfl⟩ := hsome
        rw [step, call, compute_elapsed s.pid x helapsed]
        exact output_within s.pid x
    · have hlast : (step s (.compute x)).pid.lastOutput = s.pid.lastOutput :=
        compute_lastOutput s.pid x helapsed
      have hcomputed : (step s (.compute x)).computed = s.computed := if_neg helapsed
      exact ⟨by rw [hlast, hcomputed]; exact h.unset, by rw [hlast, hcomputed]; exact h.computed⟩
  | setGains kp ki kd => exact ⟨h.unset, h.computed⟩
  | setOutputLimits outputMin outputMax => exact ⟨h.unset, h.computed⟩
  | reset => exact ⟨fun _ => rfl, fun lo hi hsome => by cases hsome⟩

theorem run_inv (kp ki kd outputMin outputMax : ℚ) (calls : List Call) :
    Inv (run step (boot kp ki kd outputMin outputMax) calls) :=
  run_preserves step Inv step_inv _ ⟨fun _ => rfl, fun lo hi hsome => by cases hsome⟩ calls

end Runs

/-- Behind any calls, `compute` returns zero for a first sample, a value within the
limits for a sample with elapsed time, and for one without elapsed time a value within
the limits too if they are those of the last output. -/
theorem compute_returned (kp ki kd outputMin outputMax : ℚ) (calls : List Call) (x : Sample) :
    Returned (run step (boot kp ki kd outputMin outputMax) calls) x
      ((run step (boot kp ki kd outputMin outputMax) calls).pid.compute x).1 := by
  have hinv := run_inv kp ki kd outputMin outputMax calls
  generalize run step (boot kp ki kd outputMin outputMax) calls = s at hinv ⊢
  refine ⟨fun hfirst => ?_, fun helapsed => ?_, fun hfirst htime hnone => ?_,
    fun hfirst htime hsome => ?_⟩
  · rw [compute_first s.pid x hfirst]
  · rw [compute_elapsed s.pid x helapsed]
    exact output_within s.pid x
  · rw [compute_idle s.pid x hfirst htime]
    exact hinv.unset hnone
  · rw [compute_idle s.pid x hfirst htime]
    exact hinv.computed _ _ hsome

def loweredLimit : List Call :=
  [.compute ⟨10, 0, 0⟩, .compute ⟨10, 0, 1000000⟩, .setOutputLimits 0 5]

/-- A first sample is answered with zero below the limits, and a sample without elapsed
time with the output from before the limits were lowered. -/
theorem limits_missed :
    ((run step (boot 1 0 0 1 5) []).pid.compute ⟨10, 0, 0⟩).1 = 0 ∧
    ((run step (boot 1 0 0 0 10) loweredLimit).pid.compute ⟨10, 0, 1000000⟩).1 = 10 ∧
    ¬ ∀ kp ki kd outputMin outputMax calls x,
      Within (run step (boot kp ki kd outputMin outputMax) calls).pid.outputMin
        (run step (boot kp ki kd outputMin outputMax) calls).pid.outputMax
        ((run step (boot kp ki kd outputMin outputMax) calls).pid.compute x).1 := by
  refine ⟨by decide +kernel, by decide +kernel, fun h => ?_⟩
  have hfirst := (h 1 0 0 1 5 [] ⟨10, 0, 0⟩ (by decide +kernel)).1
  exact absurd hfirst (by decide +kernel)

end SputterOS.PID
