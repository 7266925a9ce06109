import SputterOS.Foundation.Linearizability
import Mathlib.Data.List.TakeDrop
import Mathlib.Data.Int.ModEq

/-!
# The bounded first-in first-out queue

A sequential object of fixed capacity, what its plays deliver, and the
positions of a ring with one slot more than the capacity.
-/

set_option autoImplicit false

namespace Foundation.BoundedFifo
open Foundation.Linearizability

variable {α : Type*}

inductive Operation (α : Type*) where
  | push (x : α)
  | pop

inductive Result (α : Type*) where
  | pushed (accepted : Bool)
  | popped (item : Option α)

inductive Apply (capacity : ℕ) : List α → Operation α → Result α → List α → Prop where
  | accept (q : List α) (x : α) : q.length < capacity → Apply capacity q (.push x) (.pushed true) (q ++ [x])
  | refuse (q : List α) (x : α) : q.length = capacity → Apply capacity q (.push x) (.pushed false) q
  | deliver (q : List α) (x : α) : Apply capacity (x::q) .pop (.popped (some x)) q
  | empty : Apply capacity [] .pop (.popped none) []

def boundedFifo (α : Type*) (capacity : ℕ) : SequentialObject (List α) (Operation α) (Result α) :=
  ⟨[], Apply capacity⟩

def acceptedItem : Operation α × Result α → Option α
  | (.push x, .pushed b) => if b then some x else none
  | (.push _, .popped _) => none
  | (.pop, _) => none

def deliveredItem : Operation α × Result α → Option α
  | (.pop, .popped item) => item
  | (.pop, .pushed _) => none
  | (.push _, _) => none

def accepted (l : List (Operation α × Result α)) : List α := l.filterMap acceptedItem

def delivered (l : List (Operation α × Result α)) : List α := l.filterMap deliveredItem

@[simp] theorem accepted_snoc (l : List (Operation α × Result α)) (c : Operation α × Result α) :
    accepted (l ++ [c]) = accepted l ++ (acceptedItem c).toList := by
  rw [accepted, List.filterMap_append]
  rcases h : acceptedItem c with _ | x <;> simp [accepted, h]

@[simp] theorem delivered_snoc (l : List (Operation α × Result α)) (c : Operation α × Result α) :
    delivered (l ++ [c]) = delivered l ++ (deliveredItem c).toList := by
  rw [delivered, List.filterMap_append]
  rcases h : deliveredItem c with _ | x <;> simp [delivered, h]

theorem apply_conserves (capacity : ℕ) (q q' : List α) (o : Operation α) (r : Result α)
    (h : Apply capacity q o r q') :
    q ++ (acceptedItem (o, r)).toList = (deliveredItem (o, r)).toList ++ q' := by
  cases h <;> simp [acceptedItem, deliveredItem]

/-- Nothing is lost, duplicated or reordered: what was accepted is what was
delivered and then what is held. -/
theorem replay_conserves (capacity : ℕ) (l : List (Operation α × Result α)) (q : List α)
    (h : Replay (boundedFifo α capacity) l q) : accepted l = delivered l ++ q := by
  induction h with
  | start => rfl
  | call l s t o r _ happ ih =>
    have hc := apply_conserves capacity s t o r happ
    rw [accepted_snoc, delivered_snoc, ih, List.append_assoc, hc, List.append_assoc]

theorem delivered_accepted (capacity : ℕ) (l : List (Operation α × Result α)) (q : List α)
    (h : Replay (boundedFifo α capacity) l q) : delivered l <+: accepted l :=
  ⟨q, (replay_conserves capacity l q h).symm⟩

theorem ring_inj (n p c : ℕ) (hle : c ≤ p) (hlt : p < c+n) (h : p % n = c % n) : p = c := by
  have hm : n ∣ p-c := (Nat.modEq_iff_dvd' hle).mp h.symm
  have hzero := Nat.eq_zero_of_dvd_of_lt hm (by omega)
  omega

theorem ring_next (n p : ℕ) : (p % n+1) % n = (p+1) % n := by simp

theorem ring_full_iff (n p c : ℕ) (hle : c ≤ p) (hlt : p < c+n) :
    (p+1) % n = c % n ↔ p+1 = c+n := by
  constructor
  · intro h
    by_contra hne
    have hnext := ring_inj n (p+1) c (by omega) (by omega) h
    omega
  · intro h
    rw [h, Nat.add_mod_right]

theorem ring_distance (n p c : ℕ) (hle : c ≤ p) (hlt : p < c+n) :
    (if p % n ≥ c % n then p % n - c % n else n - c % n+p % n) = p-c := by
  have hn : 0 < n := by omega
  have hp := Nat.div_add_mod p n
  have hc := Nat.div_add_mod c n
  have hpm := Nat.mod_lt p hn
  have hcm := Nat.mod_lt c hn
  have hdiv : c / n ≤ p / n := Nat.div_le_div_right hle
  rcases Nat.lt_or_ge (c / n) (p / n) with hd | hd
  · have hup : p / n = c / n+1 := by
      by_contra hne
      have h2 : c / n+2 ≤ p / n := by omega
      have hmul := Nat.mul_le_mul_left n h2
      rw [Nat.mul_add] at hmul
      omega
    rw [hup, Nat.mul_add, Nat.mul_one] at hp
    rw [if_neg (by omega)]
    omega
  · have heq : p / n = c / n := by omega
    rw [heq] at hp
    rw [if_pos (by omega)]
    omega

end Foundation.BoundedFifo
