import Mathlib.Algebra.BigOperators.Group.Finset.Piecewise

/-!
# Statistics of a growing list of samples

The minimum, the maximum and the histogram of natural numbers, and how each
follows one more sample. Of no samples the minimum is a bound of all of them, and
the maximum is zero.
-/

set_option autoImplicit false

namespace Foundation.RunningStatistics

def least (bound : ℕ) (ds : List ℕ) : ℕ := ds.min?.getD bound

def greatest (ds : List ℕ) : ℕ := ds.max?.getD 0

def bin (classify : ℕ → ℕ) (b : ℕ) (ds : List ℕ) : ℕ := ds.countP (fun d => classify d = b)

theorem least_snoc (bound : ℕ) (ds : List ℕ) (d : ℕ) (h : d ≤ bound) :
    least bound (ds ++ [d]) = min d (least bound ds) := by
  cases ds with
  | nil => simp [least, h]
  | cons e ds =>
    rw [least, least, List.cons_append, List.min?_cons', List.min?_cons', List.foldl_append]
    exact Nat.min_comm _ _

theorem greatest_snoc (ds : List ℕ) (d : ℕ) :
    greatest (ds ++ [d]) = max d (greatest ds) := by
  cases ds with
  | nil => simp [greatest]
  | cons e ds =>
    rw [greatest, greatest, List.cons_append, List.max?_cons', List.max?_cons', List.foldl_append]
    exact Nat.max_comm _ _

theorem greatest_le (bound : ℕ) (ds : List ℕ) (h : ∀ d ∈ ds, d ≤ bound) : greatest ds ≤ bound := by
  induction ds using List.reverseRecOn with
  | nil => exact Nat.zero_le bound
  | append_singleton ds d ih =>
    rw [greatest_snoc]
    exact Nat.max_le.mpr ⟨h d (by simp), ih fun x hx => h x (by simp [hx])⟩

theorem bin_snoc (classify : ℕ → ℕ) (b : ℕ) (ds : List ℕ) (d : ℕ) :
    bin classify b (ds ++ [d]) = bin classify b ds+if classify d = b then 1 else 0 := by
  rw [bin, List.countP_append, List.countP_singleton]
  simp [bin]

theorem bin_le (classify : ℕ → ℕ) (b : ℕ) (ds : List ℕ) : bin classify b ds ≤ ds.length :=
  List.countP_le_length

theorem sum_bin (classify : ℕ → ℕ) (bins : ℕ) (h : ∀ d, classify d < bins) (ds : List ℕ) :
    ∑ b ∈ Finset.range bins, bin classify b ds = ds.length := by
  induction ds using List.reverseRecOn with
  | nil => simp [bin]
  | append_singleton ds d ih =>
    simp only [bin_snoc, Finset.sum_add_distrib, ih]
    rw [Finset.sum_ite_eq, if_pos (Finset.mem_range.mpr (h d)), List.length_append,
      List.length_singleton]

end Foundation.RunningStatistics
