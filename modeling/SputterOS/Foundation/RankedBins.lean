import Mathlib.Algebra.Order.Floor.Ring
import Mathlib.Algebra.Order.Field.Rat
import Mathlib.Data.List.Sort
import Mathlib.Data.Rat.Floor
import SputterOS.Foundation.RunningStatistics

/-!
# Ranks in binned samples

The sample of a rank is read off the sorted samples. When the bins follow the
order of the samples, the bin of that sample is known from the counts of the bins
alone: it is the one at which the running count reaches the rank.
-/

set_option autoImplicit false

namespace Foundation.RankedBins
open RunningStatistics

def ranked (ds : List ℕ) (rank : ℕ) : ℕ := (ds.insertionSort (· ≤ ·)).getD (rank-1) 0

def below (classify : ℕ → ℕ) (b : ℕ) (ds : List ℕ) : ℕ := ds.countP (fun d => classify d < b)

section Sorted

theorem getElem_iff_countP (l : List ℕ) (hsorted : l.Pairwise (· ≤ ·)) (p : ℕ → Bool)
    (hdown : ∀ x y, x ≤ y → p y = true → p x = true) (k : ℕ) (hk : k < l.length) :
    p l[k] = true ↔ k < l.countP p := by
  induction l generalizing k with
  | nil => cases hk
  | cons d l ih =>
    have hle := (List.pairwise_cons.mp hsorted).1
    have hrest := ih (List.pairwise_cons.mp hsorted).2
    by_cases hd : p d = true
    · rw [List.countP_cons_of_pos hd]
      cases k with
      | zero => simp [hd]
      | succ k =>
        have hk' : k < l.length := Nat.lt_of_succ_lt_succ hk
        rw [List.getElem_cons_succ, hrest k hk', Nat.succ_lt_succ_iff]
    · have hnone : ∀ e ∈ d::l, ¬ p e = true := by
        intro e he hpe
        rcases List.mem_cons.mp he with rfl | hmem
        · exact hd hpe
        · exact hd (hdown d e (hle e hmem) hpe)
      rw [List.countP_eq_zero.mpr hnone]
      exact iff_of_false (hnone _ (List.getElem_mem hk)) (Nat.not_lt_zero k)

variable (ds : List ℕ) (rank : ℕ)

theorem ranked_mem (h : 0 < rank) (hle : rank ≤ ds.length) : ranked ds rank ∈ ds := by
  have hlt : rank-1 < (ds.insertionSort (· ≤ ·)).length := by
    rw [List.length_insertionSort]
    omega
  rw [ranked, ← List.getElem_eq_getD (h := hlt) 0]
  exact (List.mem_insertionSort _).mp (List.getElem_mem hlt)

theorem ranked_iff_countP (h : 0 < rank) (hle : rank ≤ ds.length) (p : ℕ → Bool)
    (hdown : ∀ x y, x ≤ y → p y = true → p x = true) :
    p (ranked ds rank) = true ↔ rank ≤ ds.countP p := by
  have hlt : rank-1 < (ds.insertionSort (· ≤ ·)).length := by
    rw [List.length_insertionSort]
    omega
  rw [ranked, ← List.getElem_eq_getD (h := hlt) 0,
    getElem_iff_countP _ (List.pairwise_insertionSort _ _) p hdown _ hlt,
    (List.perm_insertionSort _ ds).countP_eq]
  omega

end Sorted

section Bins

variable (classify : ℕ → ℕ)

@[simp] theorem below_zero (ds : List ℕ) : below classify 0 ds = 0 := by
  simp [below]

theorem below_succ (b : ℕ) (ds : List ℕ) :
    below classify (b+1) ds = below classify b ds+bin classify b ds := by
  induction ds with
  | nil => rfl
  | cons d ds ih =>
    unfold below bin at ih ⊢
    simp only [List.countP_cons, ih, decide_eq_true_eq]
    by_cases hlt : classify d < b
    · rw [if_pos hlt, if_pos (by omega : classify d < b+1), if_neg (by omega : ¬ classify d = b)]
      omega
    · by_cases heq : classify d = b
      · rw [if_neg hlt, if_pos heq, if_pos (by omega : classify d < b+1)]
        omega
      · rw [if_neg hlt, if_neg heq, if_neg (by omega : ¬ classify d < b+1)]
        omega

theorem below_all (bins : ℕ) (h : ∀ d, classify d < bins) (ds : List ℕ) :
    below classify bins ds = ds.length :=
  List.countP_eq_length.mpr fun d _ => decide_eq_true (h d)

theorem below_mono (b c : ℕ) (h : b ≤ c) (ds : List ℕ) :
    below classify b ds ≤ below classify c ds :=
  List.countP_mono_left fun _ _ hd => decide_eq_true ((of_decide_eq_true hd).trans_le h)

theorem below_le (b : ℕ) (ds : List ℕ) : below classify b ds ≤ ds.length := List.countP_le_length

/-- The bin of the sample of a rank is where the running count reaches the rank. -/
theorem ranked_bin (hmono : Monotone classify) (ds : List ℕ) (rank b : ℕ)
    (hlt : below classify b ds < rank) (hle : rank ≤ below classify (b+1) ds) :
    classify (ranked ds rank) = b := by
  have hpos : 0 < rank := Nat.zero_lt_of_lt hlt
  have hlength := hle.trans (below_le classify _ ds)
  have hbin := fun i => ranked_iff_countP ds rank hpos hlength (fun d => classify d < i)
    fun x y hxy hy => decide_eq_true ((hmono hxy).trans_lt (of_decide_eq_true hy))
  have hnext := of_decide_eq_true ((hbin (b+1)).mpr hle)
  have hnot : ¬ classify (ranked ds rank) < b :=
    fun h => absurd ((hbin b).mp (decide_eq_true h)) (Nat.not_le.mpr hlt)
  omega

end Bins

theorem crossing (count : ℕ → ℕ) (target : ℚ) (bins : ℕ) (hlow : (count 0 : ℚ) < target)
    (hhigh : target ≤ count bins) :
    ∃ b < bins, (count b : ℚ) < target ∧ target ≤ count (b+1) := by
  induction bins with
  | zero => exact absurd hlow (not_lt.mpr hhigh)
  | succ bins ih =>
    by_cases h : target ≤ count bins
    · obtain ⟨b, hb, hcross⟩ := ih h
      exact ⟨b, Nat.lt_succ_of_lt hb, hcross⟩
    · exact ⟨bins, Nat.lt_succ_self bins, not_le.mp h, hhigh⟩

end Foundation.RankedBins
