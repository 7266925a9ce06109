import SputterOS.Utils.PIDController
import Mathlib.Tactic.Linarith
import Mathlib.Tactic.Positivity

/-!
# The anti-windup of the PID controller

An output beyond the limits shall not move the integral on in that direction. The
controller freezes the integral if the error has the sign of the integral; it does
not compare the error with the side on which the output is saturated. An integral
that is zero, or of the other sign, is moved on.
-/

set_option autoImplicit false

namespace SputterOS.PID
open Foundation.Transition

/-- A call of `compute` whose output is beyond a limit before it is clamped does not
move the integral on towards that limit. -/
structure Unwound (pid : PIDController) (x : Sample) : Prop where
  above : pid.outputMax < pid.rawOutput x → (pid.compute x).2.integral ≤ pid.integral
  below : pid.rawOutput x < pid.outputMin → pid.integral ≤ (pid.compute x).2.integral

structure Aligned (pid : PIDController) (x : Sample) : Prop where
  above : pid.outputMax < pid.rawOutput x → 0 < x.error → 0 < pid.integral
  below : pid.rawOutput x < pid.outputMin → x.error < 0 → pid.integral < 0

def Computes (P : PIDController → Sample → Prop) (pid : PIDController) : Call → Prop
  | .compute x => P pid x
  | _ => True

section Integral

variable (pid : PIDController) (x : Sample)

theorem dt_pos (h : Elapsed pid x) : 0 < pid.dt x := by
  have hne : pid.dtUs x ≠ 0 := fun hzero => h.2 ((dtUs_eq_zero_iff pid x).mp hzero)
  have hpos : 0 < (pid.dtUs x).toNat := Nat.pos_of_ne_zero fun h0 => hne (UInt64.toNat_inj.mp h0)
  rw [PIDController.dt]
  positivity

theorem compute_integral (h : ¬ Elapsed pid x) : (pid.compute x).2.integral = pid.integral := by
  cases hfirst : pid.firstSample with
  | true => rw [compute_first pid x hfirst]
  | false =>
    rw [compute_idle pid x hfirst]
    by_contra hne
    exact h ⟨hfirst, hne⟩

/-- With a saturated output the integral stays exactly if the signs agree. -/
theorem newIntegral_saturated (hsat : pid.saturated x = true) :
    pid.newIntegral x =
      if 0 < x.error*pid.integral then pid.integral else pid.rawIntegral x := by
  by_cases hsign : 0 < x.error*pid.integral
  · have hsame : pid.sameSign x = true := by simpa [PIDController.sameSign] using hsign
    rw [PIDController.newIntegral, hsat, hsame, if_pos hsign]
    rfl
  · have hsame : pid.sameSign x = false := by simpa [PIDController.sameSign] using hsign
    rw [PIDController.newIntegral, hsat, hsame, if_neg hsign]
    rfl

theorem saturated_above (h : pid.outputMax < pid.rawOutput x) : pid.saturated x = true := by
  simp [PIDController.saturated, h.le]

theorem saturated_below (h : pid.rawOutput x < pid.outputMin) : pid.saturated x = true := by
  simp [PIDController.saturated, h.le]

theorem frozen_le_iff (error integral dt : ℚ) (hdt : 0 < dt) :
    (if 0 < error*integral then integral else integral+error*dt) ≤ integral ↔
      (0 < error → 0 < integral) := by
  by_cases herror : 0 < error
  · have hgrow : ¬ integral+error*dt ≤ integral := by
      have hmul := mul_pos herror hdt
      linarith
    by_cases hintegral : 0 < integral
    · rw [if_pos (mul_pos herror hintegral)]
      exact iff_of_true le_rfl fun _ => hintegral
    · have hsign : ¬ 0 < error*integral :=
        not_lt.mpr (mul_nonpos_of_nonneg_of_nonpos herror.le (not_lt.mp hintegral))
      rw [if_neg hsign]
      exact iff_of_false hgrow fun himp => hintegral (himp herror)
  · refine iff_of_true ?_ fun hpos => absurd hpos herror
    split_ifs
    · exact le_rfl
    · have hmul := mul_nonpos_of_nonpos_of_nonneg (not_lt.mp herror) hdt.le
      linarith

theorem newIntegral_le_iff (h : Elapsed pid x) (hsat : pid.saturated x = true) :
    pid.newIntegral x ≤ pid.integral ↔ (0 < x.error → 0 < pid.integral) := by
  rw [newIntegral_saturated pid x hsat, PIDController.rawIntegral]
  exact frozen_le_iff _ _ _ (dt_pos pid x h)

theorem le_newIntegral_iff (h : Elapsed pid x) (hsat : pid.saturated x = true) :
    pid.integral ≤ pid.newIntegral x ↔ (x.error < 0 → pid.integral < 0) := by
  have hneg := frozen_le_iff (-x.error) (-pid.integral) (pid.dt x) (dt_pos pid x h)
  have hraw : -pid.integral+ -x.error*pid.dt x = -pid.rawIntegral x := by
    rw [PIDController.rawIntegral, neg_add, neg_mul]
  rw [neg_mul_neg, hraw, ← apply_ite Neg.neg, neg_le_neg_iff, neg_pos, neg_pos] at hneg
  rwa [newIntegral_saturated pid x hsat]

theorem compute_unwound_iff : Unwound pid x ↔ (Elapsed pid x → Aligned pid x) := by
  by_cases h : Elapsed pid x
  · have hintegral : (pid.compute x).2.integral = pid.newIntegral x := by
      rw [compute_elapsed pid x h]
    constructor
    · rintro ⟨habove, hbelow⟩ -
      rw [hintegral] at habove hbelow
      exact ⟨fun hmax => (newIntegral_le_iff pid x h (saturated_above pid x hmax)).mp (habove hmax),
        fun hmin => (le_newIntegral_iff pid x h (saturated_below pid x hmin)).mp (hbelow hmin)⟩
    · intro haligned
      obtain ⟨habove, hbelow⟩ := haligned h
      refine ⟨fun hmax => ?_, fun hmin => ?_⟩
      · rw [hintegral]
        exact (newIntegral_le_iff pid x h (saturated_above pid x hmax)).mpr (habove hmax)
      · rw [hintegral]
        exact (le_newIntegral_iff pid x h (saturated_below pid x hmin)).mpr (hbelow hmin)
  · have hsame := compute_integral pid x h
    exact iff_of_true ⟨fun _ => hsame.le, fun _ => hsame.ge⟩ fun helapsed => absurd helapsed h

end Integral

/-- In every run no call winds the integral up exactly if at each sample with elapsed
time an error towards the exceeded limit has the sign of the integral. -/
theorem integral_unwound_iff (kp ki kd outputMin outputMax : ℚ) (calls : List Call) :
    Along call (Computes Unwound) (.new kp ki kd outputMin outputMax) calls ↔
      Along call (Computes fun pid x => Elapsed pid x → Aligned pid x)
        (.new kp ki kd outputMin outputMax) calls := by
  refine along_congr call _ _ (fun pid c => ?_) _ calls
  cases c with
  | compute x => exact compute_unwound_iff pid x
  | _ => exact Iff.rfl

def saturatedCalls : List Call := [.compute ⟨100, 0, 0⟩, .compute ⟨100, 0, 1000000⟩]

theorem integral_wound_up :
    ¬ ∀ kp ki kd outputMin outputMax calls, 0 ≤ ki →
      Along call (Computes Unwound) (.new kp ki kd outputMin outputMax) calls := by
  intro h
  have hrun := h 0 1 0 0 10 saturatedCalls (by decide +kernel)
  have hwound := hrun.2.1.above (by decide +kernel)
  exact absurd hwound (by decide +kernel)

end SputterOS.PID
