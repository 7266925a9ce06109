import Mathlib.Algebra.Order.Ring.Nat
import Mathlib.Tactic.Linarith
import SputterOS.Foundation.Transition

/-!
# Traces of a step that depends on the time

What a step does may depend on its number, so that it stands for everything the
surroundings do in between. A number that goes down in every step ends a trace.
In a run of several parties it is enough that one of them moves often enough.
-/

set_option autoImplicit false

namespace Foundation.Progress

variable {σ : Type*} (next : ℕ → σ → σ)

def trace (s : σ) : ℕ → σ
  | 0 => s
  | k+1 => next k (trace s k)

@[simp] theorem trace_zero (s : σ) : trace next s 0 = s := rfl

theorem trace_succ (s : σ) (k : ℕ) : trace next s (k+1) = next k (trace next s k) := rfl

theorem trace_invariant (I : σ → Prop) (hnext : ∀ k s, I s → I (next k s)) (s : σ) (hs : I s)
    (k : ℕ) : I (trace next s k) := by
  induction k with
  | zero => exact hs
  | succ k ih => exact hnext k _ ih

/-- If a rank goes down in every step from a state that is not done, a state of the
trace is done. -/
theorem trace_done (I Done : σ → Prop) (rank : σ → ℕ) (hnext : ∀ k s, I s → I (next k s))
    (hrank : ∀ k s, I s → ¬ Done s → rank (next k s) < rank s) (s : σ) (hs : I s) :
    ∃ k, Done (trace next s k) := by
  by_contra hnever
  have hfall : ∀ k, rank (trace next s k)+k ≤ rank s := by
    intro k
    induction k with
    | zero => exact Nat.le_refl _
    | succ k ih =>
      have hlt := hrank k (trace next s k) (trace_invariant next I hnext s hs k)
        fun hdone => hnever ⟨k, hdone⟩
      rw [trace_succ]
      omega
  have hlast := hfall (rank s+1)
  omega

section Runs

open Foundation.Transition

variable {α : Type*} (step : σ → α → σ)

/-- If the events of one party lower a rank and the others do not raise it, a run
with more events of that party than the rank comes to a state that is done. -/
theorem run_done (I Done : σ → Prop) (rank : σ → ℕ) (moves : α → Bool)
    (hI : ∀ s a, I s → I (step s a))
    (hrank : ∀ s a, I s → ¬ Done s →
      Done (step s a) ∨ rank (step s a)+(if moves a then 1 else 0) ≤ rank s)
    (s : σ) (hs : I s) (as : List α) (hcount : rank s < as.countP moves) :
    ∃ bs, bs <+: as ∧ Done (run step s bs) := by
  induction as generalizing s with
  | nil => exact absurd hcount (Nat.not_lt_zero _)
  | cons a as ih =>
    by_cases hdone : Done s
    · exact ⟨[], List.nil_prefix, hdone⟩
    · rcases hrank s a hs hdone with hnow | hfall
      · exact ⟨[a], by simp, hnow⟩
      · rw [List.countP_cons] at hcount
        obtain ⟨bs, hbs, hlater⟩ := ih (step s a) (hI s a hs) (by omega)
        exact ⟨a::bs, List.cons_prefix_cons.mpr ⟨rfl, hbs⟩, hlater⟩

/-- A measure that the events of one party lower by some amount down to zero. -/
theorem run_falls {K : Type*} [CommRing K] [LinearOrder K] [IsStrictOrderedRing K]
    (P : σ → α → Prop) (moves : α → Bool) (rank : σ → K) (δ : K) (hδ : 0 ≤ δ)
    (hstep : ∀ s a, P s a → rank (step s a) ≤ max (rank s-(if moves a then δ else 0)) 0)
    (s : σ) (as : List α) (h : Along step P s as) :
    rank (run step s as) ≤ max (rank s-as.countP moves*δ) 0 := by
  induction as generalizing s with
  | nil => simp
  | cons a as ih =>
    have hlater := ih (step s a) h.2
    have hnow := hstep s a h.1
    have hrest : 0 ≤ (as.countP moves : K)*δ := mul_nonneg (Nat.cast_nonneg _) hδ
    have hcount : ((a::as).countP moves : K)*δ = as.countP moves*δ+if moves a then δ else 0 := by
      rw [List.countP_cons]
      split_ifs
      · rw [Nat.cast_add_one, add_one_mul]
      · rw [Nat.add_zero, add_zero]
    rw [run_cons, hcount]
    rcases le_max_iff.mp hlater with hpos | hzero
    · rcases le_max_iff.mp hnow with hdown | hdone
      · exact le_max_of_le_left (by linarith)
      · exact le_max_of_le_right (by linarith)
    · exact le_max_of_le_right hzero

end Runs

end Foundation.Progress
