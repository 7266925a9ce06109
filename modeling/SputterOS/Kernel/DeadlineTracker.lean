import Mathlib.Data.UInt
import Mathlib.Order.Bounds.Defs

/-!
# The deadline tracker

An advance adds one period and skips the missed ones. Its loop adds on until the
next activation lies behind the time: it has no end at a period of zero, and an
activation behind the last time of 64 bits wraps.
-/

set_option autoImplicit false

namespace SputterOS.Deadlines

structure DeadlineTracker where
  nextActivation : UInt64
  periodUs : UInt64
  phaseOffsetUs : UInt64
  deriving DecidableEq, Repr

namespace DeadlineTracker

def new : DeadlineTracker := ⟨0, 0, 0⟩

def init (t : DeadlineTracker) (startTime : UInt64) : DeadlineTracker :=
  { t with nextActivation := startTime+t.phaseOffsetUs }

def isDue (t : DeadlineTracker) (now : UInt64) : Bool := now ≥ t.nextActivation

/-- `nextActivation += periodUs`. -/
def addPeriod (t : DeadlineTracker) : DeadlineTracker :=
  { t with nextActivation := t.nextActivation+t.periodUs }

/-- The loop of `advance`, within its fuel. -/
def skip (now : UInt64) : ℕ → DeadlineTracker → Option DeadlineTracker
  | 0, _ => none
  | fuel+1, t => if t.nextActivation ≤ now then skip now fuel t.addPeriod else some t

def advance (fuel : ℕ) (t : DeadlineTracker) (now : UInt64) : Option DeadlineTracker :=
  skip now fuel t.addPeriod

def timeUntilNext (t : DeadlineTracker) (now : UInt64) : UInt64 :=
  if t.nextActivation > now then t.nextActivation-now else 0

end DeadlineTracker

open DeadlineTracker

/-- The activations behind a time, one period or more behind the old one. -/
def Activations (t : DeadlineTracker) (now : UInt64) : Set ℕ :=
  {a | ∃ k, 1 ≤ k ∧ a = t.nextActivation.toNat+k*t.periodUs.toNat ∧ now.toNat < a}

structure Advanced (t : DeadlineTracker) (now : UInt64) (t' : DeadlineTracker) : Prop where
  least : IsLeast (Activations t now) t'.nextActivation.toNat
  period : t'.periodUs = t.periodUs
  phase : t'.phaseOffsetUs = t.phaseOffsetUs

def periodsUntil (t : DeadlineTracker) (now : UInt64) : ℕ :=
  (now.toNat-t.nextActivation.toNat)/t.periodUs.toNat+1

/-- An activation behind the time exists, and it fits 64 bits. -/
def InRange (t : DeadlineTracker) (now : UInt64) : Prop :=
  (t.periodUs = 0 → now < t.nextActivation) ∧
    t.nextActivation.toNat+periodsUntil t now*t.periodUs.toNat < 2^64

section Trackers

variable (t : DeadlineTracker) (now : UInt64)

theorem configured : ∃ startTime,
    init { new with periodUs := t.periodUs, phaseOffsetUs := t.phaseOffsetUs } startTime = t := by
  refine ⟨t.nextActivation-t.phaseOffsetUs, ?_⟩
  simp [init]

theorem addPeriod_toNat (h : t.nextActivation.toNat+t.periodUs.toNat < 2^64) :
    t.addPeriod.nextActivation.toNat = t.nextActivation.toNat+t.periodUs.toNat := by
  rw [addPeriod, UInt64.toNat_add]
  exact Nat.mod_eq_of_lt h

theorem skip_missed (n : ℕ) (hfit : t.nextActivation.toNat+n*t.periodUs.toNat < 2^64)
    (hmissed : ∀ j < n, t.nextActivation.toNat+j*t.periodUs.toNat ≤ now.toNat)
    (hnext : now.toNat < t.nextActivation.toNat+n*t.periodUs.toNat) :
    ∃ t', skip now (n+1) t = some t' ∧
      t'.nextActivation.toNat = t.nextActivation.toNat+n*t.periodUs.toNat ∧
      t'.periodUs = t.periodUs ∧ t'.phaseOffsetUs = t.phaseOffsetUs := by
  induction n generalizing t with
  | zero =>
    refine ⟨t, ?_, by simp, rfl, rfl⟩
    rw [skip, if_neg]
    rw [UInt64.le_iff_toNat_le]
    omega
  | succ n ih =>
    have hfirst := hmissed 0 (Nat.zero_lt_succ n)
    rw [Nat.zero_mul, Nat.add_zero] at hfirst
    have hadd : ∀ j, t.nextActivation.toNat+(j+1)*t.periodUs.toNat =
        t.nextActivation.toNat+t.periodUs.toNat+j*t.periodUs.toNat := by
      intro j
      rw [Nat.succ_mul]
      omega
    rw [hadd] at hfit hnext
    have htime := addPeriod_toNat t (by omega)
    have hperiod : t.addPeriod.periodUs = t.periodUs := rfl
    obtain ⟨t', hskip, hend, hrest⟩ := ih t.addPeriod (by rw [htime, hperiod]; exact hfit)
      (fun j hj => by rw [htime, hperiod, ← hadd]; exact hmissed (j+1) (by omega))
      (by rw [htime, hperiod]; exact hnext)
    refine ⟨t', ?_, ?_, hrest⟩
    · rw [skip, if_pos (UInt64.le_iff_toNat_le.mpr hfirst)]
      exact hskip
    · rw [hend, htime, hperiod, hadd]

/-- With a period of zero the loop never ends once it is entered. -/
theorem skip_zero (fuel : ℕ) (hzero : t.periodUs = 0) (hdue : t.nextActivation ≤ now) :
    skip now fuel t = none := by
  induction fuel with
  | zero => rfl
  | succ fuel ih =>
    have htime : t.nextActivation+t.periodUs = t.nextActivation := by
      rw [hzero, UInt64.add_zero]
    have hsame : t.addPeriod = t := by rw [addPeriod, htime]
    rw [skip, if_pos hdue, hsame]
    exact ih

theorem periodsUntil_least (hperiod : 0 < t.periodUs.toNat) :
    IsLeast (Activations t now) (t.nextActivation.toNat+periodsUntil t now*t.periodUs.toNat) := by
  have hdiv := Nat.div_add_mod (now.toNat-t.nextActivation.toNat) t.periodUs.toNat
  have hmod := Nat.mod_lt (now.toNat-t.nextActivation.toNat) hperiod
  rw [Nat.mul_comm] at hdiv
  refine ⟨⟨_, Nat.le_add_left 1 _, rfl, ?_⟩, ?_⟩
  · rw [periodsUntil, Nat.succ_mul]
    omega
  · rintro a ⟨k, hk, rfl, hnow⟩
    apply Nat.add_le_add_left
    apply Nat.mul_le_mul_right
    -- with fewer periods the activation would not lie behind the time
    by_contra hless
    rw [periodsUntil] at hless
    have hmul := Nat.mul_le_mul_right t.periodUs.toNat
      (show k ≤ (now.toNat-t.nextActivation.toNat)/t.periodUs.toNat by omega)
    have hone := Nat.mul_le_mul_right t.periodUs.toNat hk
    omega

theorem activations_zero (hzero : t.periodUs = 0) (a : ℕ) (h : a ∈ Activations t now) :
    a = t.nextActivation.toNat ∧ now < t.nextActivation := by
  obtain ⟨k, -, rfl, hnow⟩ := h
  rw [hzero, UInt64.toNat_zero, Nat.mul_zero, Nat.add_zero] at hnow ⊢
  exact ⟨rfl, UInt64.lt_iff_toNat_lt.mpr hnow⟩

theorem inRange_least (h : InRange t now) :
    IsLeast (Activations t now) (t.nextActivation.toNat+periodsUntil t now*t.periodUs.toNat) := by
  by_cases hzero : t.periodUs = 0
  · have hnow := UInt64.lt_iff_toNat_lt.mp (h.1 hzero)
    rw [hzero, UInt64.toNat_zero, Nat.mul_zero, Nat.add_zero]
    refine ⟨⟨1, le_rfl, by simp [hzero], hnow⟩, fun a ha => ?_⟩
    exact (activations_zero t now hzero a ha).1.ge
  · apply periodsUntil_least
    exact Nat.pos_of_ne_zero fun h0 => hzero (UInt64.toNat_inj.mp h0)

theorem missed_before (j : ℕ) (h : j+1 < periodsUntil t now) :
    t.nextActivation.toNat+(j+1)*t.periodUs.toNat ≤ now.toNat := by
  rw [periodsUntil] at h
  have hmul := Nat.mul_le_mul_right t.periodUs.toNat
    (show j+1 ≤ (now.toNat-t.nextActivation.toNat)/t.periodUs.toNat by omega)
  have hdiv := Nat.div_mul_le_self (now.toNat-t.nextActivation.toNat) t.periodUs.toNat
  have hlt : t.nextActivation.toNat < now.toNat := by
    by_contra hge
    rw [Nat.sub_eq_zero_of_le (Nat.le_of_not_lt hge), Nat.zero_div] at h
    omega
  omega

theorem advance_inRange (h : InRange t now) :
    ∃ t', advance (periodsUntil t now) t now = some t' ∧ Advanced t now t' := by
  have hleast := inRange_least t now h
  obtain ⟨-, -, -, hnow⟩ := hleast.1
  have hfit := h.2
  have hadd : ∀ j, t.nextActivation.toNat+(j+1)*t.periodUs.toNat =
      t.nextActivation.toNat+t.periodUs.toNat+j*t.periodUs.toNat := by
    intro j
    rw [Nat.succ_mul]
    omega
  have hperiod : t.addPeriod.periodUs = t.periodUs := rfl
  obtain ⟨n, hn⟩ : ∃ n, periodsUntil t now = n+1 := ⟨_, rfl⟩
  rw [hn, hadd] at hfit hnow
  have htime := addPeriod_toNat t (by omega)
  obtain ⟨t', hskip, hend, hp, hphase⟩ := skip_missed t.addPeriod now n
    (by rw [htime, hperiod]; exact hfit)
    (fun j hj => by rw [htime, hperiod, ← hadd]; exact missed_before t now j (by omega))
    (by rw [htime, hperiod]; exact hnow)
  rw [hn]
  refine ⟨t', hskip, ?_, hp, hphase⟩
  rw [hend, htime, hperiod, ← hadd, ← hn]
  exact hleast

end Trackers

/-- An advance ends with the first activation behind the time exactly if there is one
and it fits 64 bits. -/
theorem advance_ends_iff (t : DeadlineTracker) (now : UInt64) :
    (∃ fuel t', advance fuel t now = some t' ∧ Advanced t now t') ↔ InRange t now := by
  constructor
  · rintro ⟨fuel, t', -, hadvanced⟩
    have hmem := hadvanced.least.1
    refine ⟨fun hzero => (activations_zero t now hzero _ hmem).2, ?_⟩
    have hlt := t'.nextActivation.toNat_lt
    by_cases hzero : t.periodUs = 0
    · have hold := t.nextActivation.toNat_lt
      rw [hzero, UInt64.toNat_zero, Nat.mul_zero, Nat.add_zero]
      exact hold
    · have hpos : 0 < t.periodUs.toNat :=
        Nat.pos_of_ne_zero fun h0 => hzero (UInt64.toNat_inj.mp h0)
      exact Nat.lt_of_le_of_lt ((periodsUntil_least t now hpos).2 hmem) hlt
  · intro h
    obtain ⟨t', hadvance, hadvanced⟩ := advance_inRange t now h
    exact ⟨periodsUntil t now, t', hadvance, hadvanced⟩

theorem advanced_not_due (t t' : DeadlineTracker) (now : UInt64) (h : Advanced t now t') :
    t'.isDue now = false ∧
      (t'.timeUntilNext now).toNat = t'.nextActivation.toNat-now.toNat := by
  obtain ⟨⟨k, -, -, hnow⟩, -⟩ := h.least
  have hlt := UInt64.lt_iff_toNat_lt.mpr hnow
  refine ⟨by simpa [isDue] using hlt, ?_⟩
  rw [timeUntilNext, if_pos hlt]
  exact UInt64.toNat_sub_of_le _ _ (UInt64.le_of_lt hlt)

/-- The advance of a new tracker at time zero does not end. -/
theorem new_advance_hangs :
    (∀ fuel, advance fuel .new 0 = none) ∧
    ¬ ∀ t now, ∃ fuel t', advance fuel t now = some t' ∧ Advanced t now t' := by
  have hnone : ∀ fuel, advance fuel .new 0 = none :=
    fun fuel => skip_zero (addPeriod .new) 0 fuel rfl (by decide)
  refine ⟨hnone, fun h => ?_⟩
  obtain ⟨fuel, t', hadvance, -⟩ := h .new 0
  rw [hnone] at hadvance
  cases hadvance

end SputterOS.Deadlines
