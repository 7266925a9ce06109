import SputterOS.Builder.Acceptance
import SputterOS.Kernel.SystemCalls
import Mathlib.Algebra.BigOperators.Ring.List
import Mathlib.Algebra.Order.BigOperators.Group.List
import Mathlib.Algebra.Order.Field.Basic
import Mathlib.Algebra.Order.Field.Rat
import Mathlib.Data.Nat.Cast.Order.Field
import Mathlib.Tactic.Linarith
import Mathlib.Tactic.Ring

/-!
# The warning of a loaded core

A build adds up the declared loads of the scheduled tasks of a core in thousandths,
each rounded down, and logs the sums above 800. The kernel tasks declare no load.
-/

set_option autoImplicit false

namespace SputterOS.StaticData
open SputterOS.Kernel SputterOS.Builder

section Declared

variable (setup : Setup) (regs : List Registration)

def utilization (c : ℕ) : ℚ :=
  ((kept setup.cfg regs c).map fun task =>
    ((setup.declaredWcetUs task).toNat : ℚ)/(setup.user.scheduled task).periodUs.toNat).sum

def permille (c : ℕ) : ℕ :=
  ((kept setup.cfg regs c).map fun task =>
    (setup.declaredWcetUs task).toNat*1000/(setup.user.scheduled task).periodUs.toNat).sum

def LoadFits (c : ℕ) : Prop :=
  ((kept setup.cfg regs c).map fun task => (setup.declaredWcetUs task).toNat*1000).sum < 2^64

instance (c : ℕ) : Decidable (LoadFits setup regs c) := inferInstanceAs (Decidable (_ < _))

def warning (thousandths : ℕ) : ErrorLog.Entry :=
  ⟨.sensorError, 0, setup.quotientBits (UInt64.ofNat thousandths) 1000⟩

/-- A build logs the counted loads above 800 in the order of the cores. No core is
warned of below a load of 0.801, and a core goes unnoticed with at most a thousandth
for every task above a load of 0.8. -/
structure Warned {α : Type*} (s s' : Statics α) : Prop where
  logged : s'.errorLog = (s.logAll ((((List.range setup.cfg.kCoreCount).map
    (permille setup regs)).filter (800 < ·)).map (warning setup))).errorLog
  above : ∀ c < setup.cfg.kCoreCount, 800 < permille setup regs c →
    801/1000 ≤ utilization setup regs c
  below : ∀ c < setup.cfg.kCoreCount, permille setup regs c ≤ 800 →
    utilization setup regs c ≤ 4/5+(kept setup.cfg regs c).length/1000

end Declared

section Quotients

/-- Sums of quotients rounded down stay below the sum of the quotients, by less than
the number of them. -/
theorem sum_div_bounds (l : List (ℕ × ℕ)) :
    (((l.map fun q => q.1/q.2).sum : ℕ) : ℚ) ≤ (l.map fun q => (q.1 : ℚ)/q.2).sum ∧
      (l.map fun q => (q.1 : ℚ)/q.2).sum ≤ (l.map fun q => q.1/q.2).sum+l.length := by
  induction l with
  | nil => simp
  | cons q l ih =>
    obtain ⟨num, den⟩ := q
    have hfloor : ((num/den : ℕ) : ℚ) ≤ (num : ℚ)/den := Nat.cast_div_le
    have hceil : (num : ℚ)/den ≤ (num/den : ℕ)+1 := by
      rcases Nat.eq_zero_or_pos den with rfl | hden
      · simp
      · have hlt : num < den*(num/den+1) := Nat.lt_mul_div_succ num hden
        rw [div_le_iff₀ (by exact_mod_cast hden)]
        have hcast : (num : ℚ) ≤ den*((num/den : ℕ)+1) := by exact_mod_cast hlt.le
        linarith
    simp only [List.map_cons, List.sum_cons, List.length_cons, Nat.cast_add, Nat.cast_one]
    constructor
    · linarith [ih.1]
    · linarith [ih.2]

theorem sum_toNat (l : List UInt64) : l.sum.toNat = (l.map UInt64.toNat).sum % 2^64 := by
  induction l with
  | nil => rfl
  | cons n l ih => rw [List.sum_cons, List.map_cons, List.sum_cons, UInt64.toNat_add, ih,
      Nat.add_mod_mod]

end Quotients

section Shares

variable (setup : Setup) (deps : Dependencies) (regs : List Registration)

theorem share_user (task : ℕ) (h : (setup.declaredWcetUs task).toNat*1000 < 2^64) :
    (setup.share (.user task)).toNat =
      (setup.declaredWcetUs task).toNat*1000/(setup.user.scheduled task).periodUs.toNat := by
  have hthousand : (1000 : UInt64).toNat = 1000 := rfl
  have hperiod : setup.periodUs (.user task) = (setup.user.scheduled task).periodUs := rfl
  rw [Setup.share, hperiod, Setup.declaredWcet]
  split_ifs with hcounted
  · rw [UInt64.toNat_div, UInt64.toNat_mul, hthousand, Nat.mod_eq_of_lt h]
  · rw [not_and_or, gt_iff_lt, gt_iff_lt, UInt64.not_lt, UInt64.not_lt, UInt64.le_zero_iff,
      UInt64.le_zero_iff] at hcounted
    rcases hcounted with hw | hp
    · simp [hw]
    · simp [hp]

theorem prepared_shares (c : ℕ) (hc : c < setup.cfg.kCoreCount) :
    ((((prepared setup.cfg setup.user deps (declared setup.cfg regs)).cores c).tasks).map
      fun t => (setup.share t).toNat).sum =
      ((kept setup.cfg regs c).map fun task => (setup.share (.user task)).toNat).sum := by
  have hkernel : ((placed setup.cfg deps regs c).map fun t => (setup.share t).toNat).sum = 0 := by
    refine List.sum_eq_zero_iff_forall_eq_nat.mpr fun n hn => ?_
    obtain ⟨t, ht, rfl⟩ := List.mem_map.mp hn
    rcases kernelTasks_kernel setup.cfg _ c t (placed_kernel setup.cfg deps regs c t ht)
      with rfl | rfl <;> rfl
  have hperm := (prepared_perm setup.cfg setup.user deps regs c hc).map
    fun t => (setup.share t).toNat
  rw [hperm.sum_nat, List.map_append, List.sum_append, hkernel, Nat.zero_add, List.map_map]
  rfl

theorem prepared_permille (c : ℕ) (hc : c < setup.cfg.kCoreCount) (h : LoadFits setup regs c) :
    (((prepared setup.cfg setup.user deps (declared setup.cfg regs)).cores c).tasks.map
      setup.share).sum.toNat = permille setup regs c := by
  have hterms : (kept setup.cfg regs c).map (fun task => (setup.share (.user task)).toNat) =
      (kept setup.cfg regs c).map fun task =>
        (setup.declaredWcetUs task).toNat*1000/(setup.user.scheduled task).periodUs.toNat := by
    refine List.map_congr_left fun task htask => share_user setup task ?_
    have hmem := List.mem_map_of_mem (f := fun task => (setup.declaredWcetUs task).toNat*1000) htask
    exact (List.le_sum_of_mem hmem).trans_lt h
  have hfits : permille setup regs c < 2^64 :=
    (List.sum_le_sum fun task _ => Nat.div_le_self _ _).trans_lt h
  have hshares := prepared_shares setup deps regs c hc
  rw [hterms] at hshares
  rw [sum_toNat, List.map_map]
  exact (congrArg (· % 2^64) hshares).trans (Nat.mod_eq_of_lt hfits)

theorem utilization_bounds (c : ℕ) :
    (permille setup regs c : ℚ) ≤ 1000*utilization setup regs c ∧
      1000*utilization setup regs c ≤
        permille setup regs c+(kept setup.cfg regs c).length := by
  have hbounds := sum_div_bounds ((kept setup.cfg regs c).map fun task =>
    ((setup.declaredWcetUs task).toNat*1000, (setup.user.scheduled task).periodUs.toNat))
  have hscaled : 1000*utilization setup regs c =
      (((kept setup.cfg regs c).map fun task =>
        ((setup.declaredWcetUs task).toNat*1000, (setup.user.scheduled task).periodUs.toNat)).map
          fun q => (q.1 : ℚ)/q.2).sum := by
    rw [utilization, List.map_map, ← List.sum_map_mul_left]
    congr 1
    refine List.map_congr_left fun task _ => ?_
    simp only [Function.comp_apply, Nat.cast_mul, Nat.cast_ofNat]
    ring
  rw [List.map_map, List.length_map, ← hscaled] at hbounds
  exact hbounds

theorem prepared_warnings (hfits : ∀ c < setup.cfg.kCoreCount, LoadFits setup regs c) :
    utilizationWarnings setup (prepared setup.cfg setup.user deps (declared setup.cfg regs)) =
      (((List.range setup.cfg.kCoreCount).map (permille setup regs)).filter (800 < ·)).map
        (warning setup) := by
  rw [utilizationWarnings, ← List.filterMap_eq_filter, List.filterMap_map, List.map_filterMap]
  refine List.filterMap_congr fun c hc => ?_
  have hcore := List.mem_range.mp hc
  have hsum := prepared_permille setup deps regs c hcore (hfits c hcore)
  have hlimit : (800 : UInt64).toNat = 800 := rfl
  simp only [gt_iff_lt, UInt64.lt_iff_toNat_lt, hsum, hlimit, Function.comp_apply, Option.guard,
    decide_eq_true_eq]
  split_ifs
  · rw [Option.map_some, warning, ← hsum, UInt64.ofNat_toNat]
  · rfl

end Shares

section Build

variable {α : Type*} (setup : Setup) (s : Statics α) (deps : Dependencies) (clockSource : Bool)
  (micros : UInt64) (regs : List Registration)

theorem build_errorLog (hsys : s.system = declared setup.cfg regs)
    (h : (Builder.build setup.cfg setup.user deps s.system).2 = none) :
    (s.build setup deps clockSource micros).errorLog =
      (s.logAll (buildWarnings setup deps
        (prepared setup.cfg setup.user deps s.system))).errorLog := by
  obtain ⟨-, hbuilt, hstate⟩ := declared_static setup.cfg regs
  rw [← hsys] at hbuilt hstate
  rw [Statics.build, if_neg (by simp [hbuilt]), if_pos h, Statics.configured, hstate,
    if_pos (by decide)]
  unfold Statics.complete Statics.wireTasks
  split_ifs <;> rfl

/-- A build that succeeds warns of the loaded cores. -/
theorem loaded_cores_warned (hsys : s.system = declared setup.cfg regs)
    (h : (Builder.build setup.cfg setup.user deps s.system).2 = none)
    (hfits : ∀ c < setup.cfg.kCoreCount, LoadFits setup regs c) :
    Warned setup regs s (s.build setup deps clockSource micros) := by
  have hlog := build_errorLog setup s deps clockSource micros regs hsys h
  rw [hsys] at h hlog
  obtain ⟨hvalid, -⟩ := build_declared setup.cfg setup.user deps regs h
  obtain ⟨hactive, hscheduling, -⟩ := (validate_none_iff setup.cfg setup.user deps _).mp hvalid
  rw [buildWarnings, if_pos ⟨hactive, hscheduling⟩, prepared_warnings setup deps regs hfits] at hlog
  refine ⟨hlog, fun c _ hload => ?_, fun c _ hload => ?_⟩
  · have hbounds := (utilization_bounds setup regs c).1
    have hcast : (801 : ℚ) ≤ permille setup regs c := by exact_mod_cast hload
    linarith
  · have hbounds := (utilization_bounds setup regs c).2
    have hcast : (permille setup regs c : ℚ) ≤ 800 := by exact_mod_cast hload
    linarith

end Build

def loadedCore : List Registration := [.addScheduledTask 1 5, .addScheduledTask 0 6]

def loadedSetup : Setup :=
  { SystemCalls.dualSetup with
    declaredWcetUs := fun task => if task = 5 then 900 else 100
    quotientBits := fun _ _ => 0x3F666666 }

def loadedStatics : Statics ℕ := { Statics.new with system := declared dualCore loadedCore }

theorem loaded_cores_warned_dualCore :
    (loadedStatics.build loadedSetup fullDependencies false 0).errorLog =
      [⟨.sensorError, 0, 0x3F666666⟩] ∧
    Warned loadedSetup loadedCore loadedStatics
      (loadedStatics.build loadedSetup fullDependencies false 0) :=
  ⟨by decide +kernel, loaded_cores_warned loadedSetup loadedStatics fullDependencies false 0
    loadedCore rfl (by decide +kernel) (by decide +kernel)⟩

end SputterOS.StaticData
