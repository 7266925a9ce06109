import SputterOS.Foundation.Progress
import SputterOS.Utils.AntiWindup
import Mathlib.Algebra.Order.AbsoluteValue.Basic
import Mathlib.Algebra.Order.Field.Basic

/-!
# Bounds on the integral of the PID controller

The anti-windup freezes the integral only at some samples. It is enough to bound the
integral over whole runs: an integral that moves away from zero is moved by a single
sample from the other side, or by a sample whose output is within the limits. An error
of the other sign then brings the integral back in a bounded number of samples.
-/

set_option autoImplicit false

namespace SputterOS.PID
open Foundation.Transition Foundation.Progress

/-- Bounds on the signals and the settings of a controller: the size of the error, the
seconds between two samples, the size of the derivative term and of the limits, and the
least integral gain. -/
structure Envelope where
  error : ℚ
  dt : ℚ
  derivative : ℚ
  limit : ℚ
  ki : ℚ
  error_nonneg : 0 ≤ error
  dt_nonneg : 0 ≤ dt
  ki_pos : 0 < ki

def Envelope.integral (b : Envelope) : ℚ := max ((b.limit+b.derivative)/b.ki) (b.error*b.dt)

section Bound

variable (b : Envelope) (pid : PIDController) (x : Sample)

structure Tuned : Prop where
  kp : 0 ≤ pid.kp
  ki : b.ki ≤ pid.ki
  outputMin : -b.limit ≤ pid.outputMin
  outputMax : pid.outputMax ≤ b.limit

structure Moderate : Prop where
  error : |x.error| ≤ b.error
  dt : pid.dt x ≤ b.dt
  derivative : |pid.kd*pid.derivative x| ≤ b.derivative

def Tame : PIDController → Call → Prop
  | pid, .compute x => Elapsed pid x → Moderate b pid x
  | _, .setGains kp ki _ => 0 ≤ kp ∧ b.ki ≤ ki
  | _, .setOutputLimits outputMin outputMax => -b.limit ≤ outputMin ∧ outputMax ≤ b.limit
  | _, .reset => True

structure Bounded : Prop where
  tuned : Tuned b pid
  integral : |pid.integral| ≤ b.integral

theorem unsaturated_bounds (htuned : Tuned b pid) (hmoderate : Moderate b pid x)
    (hsat : pid.saturated x = false) :
    (0 ≤ x.error → pid.rawIntegral x ≤ b.integral) ∧
      (x.error ≤ 0 → -b.integral ≤ pid.rawIntegral x) := by
  simp only [PIDController.saturated, ge_iff_le, decide_eq_false_iff_not, not_or, not_le] at hsat
  obtain ⟨habove, hbelow⟩ := hsat
  rw [PIDController.rawOutput] at habove hbelow
  obtain ⟨hderlo, hderhi⟩ := abs_le.mp hmoderate.derivative
  have hmax := htuned.outputMax
  have hmin := htuned.outputMin
  have hbound : (b.limit+b.derivative)/b.ki ≤ b.integral := le_max_left _ _
  have hscaled : b.limit+b.derivative ≤ b.integral*b.ki := (div_le_iff₀ b.ki_pos).mp hbound
  have hnonneg : 0 ≤ b.integral := le_max_of_le_right (mul_nonneg b.error_nonneg b.dt_nonneg)
  have hgain : b.integral*b.ki ≤ pid.ki*b.integral := by
    rw [mul_comm]
    exact mul_le_mul_of_nonneg_right htuned.ki hnonneg
  have hki : 0 < pid.ki := b.ki_pos.trans_le htuned.ki
  constructor
  · intro herror
    have hp := mul_nonneg htuned.kp herror
    exact le_of_mul_le_mul_left (by linarith) hki
  · intro herror
    have hp := mul_nonpos_of_nonneg_of_nonpos htuned.kp herror
    exact le_of_mul_le_mul_left (by rw [mul_neg]; linarith) hki

theorem turned_bounds (h : Elapsed pid x) (hbounded : Bounded b pid) (hmoderate : Moderate b pid x)
    (hsign : x.error*pid.integral ≤ 0) :
    (0 ≤ x.error → pid.rawIntegral x ≤ b.integral) ∧
      (x.error ≤ 0 → -b.integral ≤ pid.rawIntegral x) := by
  have hdt := dt_pos pid x h
  obtain ⟨hlo, hhi⟩ := abs_le.mp hbounded.integral
  have hmove : |x.error*pid.dt x| ≤ b.integral := by
    rw [abs_mul, abs_of_pos hdt]
    exact (mul_le_mul hmoderate.error hmoderate.dt hdt.le b.error_nonneg).trans (le_max_right _ _)
  obtain ⟨hmovelo, hmovehi⟩ := abs_le.mp hmove
  rw [PIDController.rawIntegral]
  constructor
  · intro herror
    rcases le_or_gt pid.integral 0 with hneg | hpos
    · linarith
    · have hzero : x.error = 0 := le_antisymm (nonpos_of_mul_nonpos_left hsign hpos) herror
      simpa [hzero] using hhi
  · intro herror
    rcases le_or_gt 0 pid.integral with hpos | hneg
    · linarith
    · have hzero : x.error = 0 := le_antisymm herror (nonneg_of_mul_nonpos_left hsign hneg)
      simpa [hzero] using hlo

theorem newIntegral_bounded (h : Elapsed pid x) (hbounded : Bounded b pid)
    (hmoderate : Moderate b pid x) : |pid.newIntegral x| ≤ b.integral := by
  obtain ⟨hlo, hhi⟩ := abs_le.mp hbounded.integral
  have hmoved : (0 ≤ x.error → pid.rawIntegral x ≤ b.integral) ∧
      (x.error ≤ 0 → -b.integral ≤ pid.rawIntegral x) → |pid.rawIntegral x| ≤ b.integral := by
    rintro ⟨habove, hbelow⟩
    have hdt := (dt_pos pid x h).le
    rcases le_total 0 x.error with hpos | hneg
    · have hgrow := mul_nonneg hpos hdt
      exact abs_le.mpr ⟨by rw [PIDController.rawIntegral]; linarith, habove hpos⟩
    · have hfall := mul_nonpos_of_nonpos_of_nonneg hneg hdt
      exact abs_le.mpr ⟨hbelow hneg, by rw [PIDController.rawIntegral]; linarith⟩
  cases hsat : pid.saturated x with
  | false =>
    have hraw : pid.newIntegral x = pid.rawIntegral x := by simp [PIDController.newIntegral, hsat]
    rw [hraw]
    exact hmoved (unsaturated_bounds b pid x hbounded.tuned hmoderate hsat)
  | true =>
    rw [newIntegral_saturated pid x hsat]
    split_ifs with hsign
    · exact hbounded.integral
    · exact hmoved (turned_bounds b pid x h hbounded hmoderate (not_lt.mp hsign))

theorem call_bounded (c : Call) (htame : Tame b pid c) (h : Bounded b pid) :
    Bounded b (call pid c) := by
  obtain ⟨⟨hkp, hki, hmin, hmax⟩, hintegral⟩ := h
  cases c with
  | compute x =>
    have hsettings : Tuned b (pid.compute x).2 := by
      unfold PIDController.compute
      split_ifs <;> exact ⟨hkp, hki, hmin, hmax⟩
    refine ⟨hsettings, ?_⟩
    by_cases helapsed : Elapsed pid x
    · rw [call, compute_elapsed pid x helapsed]
      exact newIntegral_bounded b pid x helapsed ⟨⟨hkp, hki, hmin, hmax⟩, hintegral⟩
        (htame helapsed)
    · rw [call, compute_integral pid x helapsed]
      exact hintegral
  | setGains kp ki kd => exact ⟨⟨htame.1, htame.2, hmin, hmax⟩, hintegral⟩
  | setOutputLimits outputMin outputMax => exact ⟨⟨hkp, hki, htame.1, htame.2⟩, hintegral⟩
  | reset =>
    refine ⟨⟨hkp, hki, hmin, hmax⟩, ?_⟩
    rw [call, PIDController.reset, abs_zero]
    exact le_max_of_le_right (mul_nonneg b.error_nonneg b.dt_nonneg)

end Bound

section Recovery

def Call.isCompute : Call → Bool
  | .compute _ => true
  | _ => false

/-- Samples with errors of at least `ε` on the other side of `sign`, `τ` seconds apart. -/
def Opposed (sign ε τ : ℚ) : PIDController → Call → Prop :=
  Computes fun pid x => Elapsed pid x ∧ sign*x.error ≤ -ε ∧ τ ≤ pid.dt x

section Opposed

variable (sign ε τ : ℚ) (hsign : sign*sign = 1) (hε : 0 < ε) (hτ : 0 ≤ τ)

include hsign hε hτ

/-- An opposed sample brings the integral back, whether the output is saturated or not. -/
theorem newIntegral_opposed (pid : PIDController) (x : Sample) (herror : sign*x.error ≤ -ε)
    (hdt : τ ≤ pid.dt x) : sign*pid.newIntegral x ≤ max (sign*pid.integral-ε*τ) 0 := by
  have hmove : sign*pid.rawIntegral x ≤ sign*pid.integral-ε*τ := by
    have hscaled : ε*τ ≤ -(sign*x.error)*pid.dt x :=
      mul_le_mul (le_neg_of_le_neg herror) hdt hτ (by linarith)
    rw [PIDController.rawIntegral]
    linarith
  by_cases hfrozen : pid.saturated x = true ∧ pid.sameSign x = true
  · have hsame : 0 < x.error*pid.integral := by simpa [PIDController.sameSign] using hfrozen.2
    have hkept : pid.newIntegral x = pid.integral := by
      simp [PIDController.newIntegral, hfrozen.1, hfrozen.2]
    have hproduct : 0 < (sign*x.error)*(sign*pid.integral) := by
      rw [mul_mul_mul_comm, hsign, one_mul]
      exact hsame
    rw [hkept]
    exact le_max_of_le_right (neg_of_mul_pos_right hproduct (by linarith)).le
  · have hmoved : pid.newIntegral x = pid.rawIntegral x := by
      rw [PIDController.newIntegral, if_pos (by simpa [imp_iff_not_or] using hfrozen)]
    rw [hmoved]
    exact le_max_of_le_left hmove

theorem call_opposed (pid : PIDController) (c : Call) (h : Opposed sign ε τ pid c) :
    sign*(call pid c).integral ≤ max (sign*pid.integral-if c.isCompute then ε*τ else 0) 0 := by
  cases c with
  | compute x =>
    obtain ⟨helapsed, herror, hdt⟩ := h
    rw [call, compute_elapsed pid x helapsed]
    exact newIntegral_opposed sign ε τ hsign hε hτ pid x herror hdt
  | reset => simp [call, PIDController.reset]
  | _ => simp [call, Call.isCompute, PIDController.setGains, PIDController.setOutputLimits]

/-- As many opposed samples as the integral is large turn it around. -/
theorem opposed_returns (pid : PIDController) (calls : List Call)
    (hcalls : Along call (Opposed sign ε τ) pid calls)
    (hlong : sign*pid.integral ≤ calls.countP Call.isCompute*(ε*τ)) :
    sign*(run call pid calls).integral ≤ 0 := by
  have hfall := run_falls call (Opposed sign ε τ) Call.isCompute (fun s => sign*s.integral) (ε*τ)
    (mul_nonneg hε.le hτ) (call_opposed sign ε τ hsign hε hτ) pid calls hcalls
  exact hfall.trans (max_le (sub_nonpos.mpr hlong) le_rfl)

end Opposed

structure Recovers (b : Envelope) (pid : PIDController) : Prop where
  bounded : |pid.integral| ≤ b.integral
  falls : ∀ ε τ calls, 0 < ε → 0 ≤ τ → Along call (Opposed 1 ε τ) pid calls →
    b.integral ≤ calls.countP Call.isCompute*(ε*τ) → (run call pid calls).integral ≤ 0
  rises : ∀ ε τ calls, 0 < ε → 0 ≤ τ → Along call (Opposed (-1) ε τ) pid calls →
    b.integral ≤ calls.countP Call.isCompute*(ε*τ) → 0 ≤ (run call pid calls).integral

/-- In every run within the bounds the integral is bounded by what drives the output to
its limits and by what a single sample adds, and it comes back in as many samples as that
takes. -/
theorem windup_recovers (b : Envelope) (kp ki kd outputMin outputMax : ℚ) (calls : List Call)
    (htuned : Tuned b (.new kp ki kd outputMin outputMax))
    (htame : Along call (Tame b) (.new kp ki kd outputMin outputMax) calls) :
    Recovers b (run call (.new kp ki kd outputMin outputMax) calls) := by
  have hnew : Bounded b (.new kp ki kd outputMin outputMax) := by
    refine ⟨htuned, ?_⟩
    rw [PIDController.new, abs_zero]
    exact le_max_of_le_right (mul_nonneg b.error_nonneg b.dt_nonneg)
  obtain ⟨-, hintegral⟩ := run_along call (Bounded b) (Tame b)
    (fun pid c hc h => call_bounded b pid c hc h) _ hnew calls htame
  obtain ⟨hlo, hhi⟩ := abs_le.mp hintegral
  refine ⟨hintegral, fun ε τ later hε hτ hlater hlong => ?_, fun ε τ later hε hτ hlater hlong => ?_⟩
  · have hreturns := opposed_returns 1 ε τ (one_mul 1) hε hτ _ later hlater (by linarith)
    linarith
  · have hreturns := opposed_returns (-1) ε τ (by norm_num) hε hτ _ later hlater (by linarith)
    linarith

def windupEnvelope : Envelope :=
  ⟨100, 1, 0, 10, 1, by decide +kernel, by decide +kernel, by decide +kernel⟩

theorem windup_recovers_saturated :
    windupEnvelope.integral = 100 ∧ (run call (.new 0 1 0 0 10) saturatedCalls).integral = 100 ∧
    Recovers windupEnvelope (run call (.new 0 1 0 0 10) saturatedCalls) := by
  refine ⟨by decide +kernel, by decide +kernel, ?_⟩
  refine windup_recovers windupEnvelope 0 1 0 0 10 saturatedCalls ?_ ?_
  · exact ⟨by decide +kernel, by decide +kernel, by decide +kernel, by decide +kernel⟩
  · refine ⟨fun helapsed => absurd helapsed (by decide +kernel), fun _ => ?_, trivial⟩
    exact ⟨by decide +kernel, by decide +kernel, by decide +kernel⟩

end Recovery

end SputterOS.PID
