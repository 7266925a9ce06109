import Mathlib.Data.List.Induction
import Mathlib.Data.List.Perm.Basic
import Mathlib.Data.List.TakeDrop

/-!
# The first-in first-out queue that overwrites its oldest item

A push into a full queue takes the place of the oldest item. What became of every
item is kept beside the queue.
-/

set_option autoImplicit false

namespace Foundation.OverwritingFifo

variable {α : Type*}

inductive Operation (α : Type*) where
  | push (x : α)
  | pop
  | clear
  deriving DecidableEq

structure Queue (α : Type*) where
  held : List α
  delivered : List α
  overwritten : List α
  cleared : List α
  deriving DecidableEq

def Queue.empty : Queue α := ⟨[], [], [], []⟩

def apply (capacity : ℕ) (q : Queue α) : Operation α → Queue α
  | .push x =>
    { q with
      held := (q.held ++ [x]).drop (q.held.length+1-capacity)
      overwritten := q.overwritten ++ (q.held ++ [x]).take (q.held.length+1-capacity) }
  | .pop => { q with held := q.held.tail, delivered := q.delivered ++ q.held.head?.toList }
  | .clear => { q with held := [], cleared := q.cleared ++ q.held }

def play (capacity : ℕ) (l : List (Operation α)) : Queue α := l.foldl (apply capacity) .empty

def pushedItem : Operation α → Option α
  | .push x => some x
  | _ => none

def pushed (l : List (Operation α)) : List α := l.filterMap pushedItem

@[simp] theorem play_snoc (capacity : ℕ) (l : List (Operation α)) (o : Operation α) :
    play capacity (l ++ [o]) = apply capacity (play capacity l) o := by
  simp [play]

@[simp] theorem pushed_push (l : List (Operation α)) (x : α) :
    pushed (l ++ [.push x]) = pushed l ++ [x] := by
  simp [pushed, pushedItem]

@[simp] theorem pushed_pop (l : List (Operation α)) : pushed (l ++ [.pop]) = pushed l := by
  simp [pushed, pushedItem]

@[simp] theorem pushed_clear (l : List (Operation α)) : pushed (l ++ [.clear]) = pushed l := by
  simp [pushed, pushedItem]

theorem play_length (capacity : ℕ) (l : List (Operation α)) :
    (play capacity l).held.length ≤ capacity := by
  induction l using List.reverseRecOn with
  | nil => exact Nat.zero_le _
  | append_singleton l o ih =>
    rw [play_snoc]
    cases o with
    | push x => simp only [apply, List.length_drop, List.length_append, List.length_singleton]; omega
    | pop => simp only [apply, List.length_tail]; omega
    | clear => exact Nat.zero_le _

theorem play_newest (capacity : ℕ) (l : List (Operation α)) :
    (play capacity l).held <:+ pushed l := by
  induction l using List.reverseRecOn with
  | nil => exact List.suffix_refl _
  | append_singleton l o ih =>
    rw [play_snoc]
    cases o with
    | push x =>
      obtain ⟨older, holder⟩ := ih
      rw [pushed_push, ← holder, List.append_assoc]
      exact (List.drop_suffix _ _).trans (List.suffix_append older _)
    | pop =>
      rw [pushed_pop]
      exact (List.tail_suffix _).trans ih
    | clear => exact List.nil_suffix

/-- Every item pushed is held or was delivered, overwritten or cleared, once. -/
theorem play_conserves (capacity : ℕ) (l : List (Operation α)) :
    List.Perm (pushed l) ((play capacity l).delivered ++ (play capacity l).overwritten ++
      (play capacity l).cleared ++ (play capacity l).held) := by
  induction l using List.reverseRecOn with
  | nil => exact List.Perm.refl _
  | append_singleton l o ih =>
    rw [play_snoc]
    cases o with
    | push x =>
      rw [pushed_push]
      generalize play capacity l = q at *
      refine (ih.append_right [x]).trans ?_
      simp only [apply, List.append_assoc]
      rw [← List.take_append_drop (q.held.length+1-capacity) (q.held ++ [x])]
      refine List.Perm.append_left _ (List.Perm.append_left _ ?_)
      simpa using List.perm_append_comm_assoc q.cleared
        ((q.held ++ [x]).take (q.held.length+1-capacity))
        ((q.held ++ [x]).drop (q.held.length+1-capacity))
    | pop =>
      rw [pushed_pop]
      generalize play capacity l = q at *
      refine ih.trans ?_
      rcases hq : q.held with _ | ⟨x, xs⟩
      · simp [apply, hq]
      · simp only [apply, hq, List.append_assoc]
        refine List.Perm.append_left _ ?_
        simpa using List.perm_append_comm_assoc (q.overwritten ++ q.cleared) [x] xs
    | clear =>
      rw [pushed_clear]
      exact ih.trans (List.Perm.of_eq (by simp [apply]))

theorem play_fits (capacity : ℕ) (l : List (Operation α)) (h : (pushed l).length ≤ capacity) :
    (play capacity l).overwritten = [] := by
  induction l using List.reverseRecOn with
  | nil => rfl
  | append_singleton l o ih =>
    rw [play_snoc]
    cases o with
    | push x =>
      rw [pushed_push, List.length_append, List.length_singleton] at h
      have hheld := (play_newest capacity l).length_le
      have hnone : (play capacity l).held.length+1-capacity = 0 := by omega
      rw [apply, hnone, List.take_zero, List.append_nil]
      exact ih (by omega)
    | pop =>
      rw [pushed_pop] at h
      exact ih h
    | clear =>
      rw [pushed_clear] at h
      exact ih h

theorem push_drop (capacity d : ℕ) (l : List (Operation α)) (x : α)
    (h : (play capacity l).held = (pushed l).drop d) (hd : d ≤ (pushed l).length) :
    (play capacity (l ++ [.push x])).held =
      (pushed l ++ [x]).drop (max d ((pushed l).length+1-capacity)) := by
  have hmax : d+((pushed l).length-d+1-capacity) = max d ((pushed l).length+1-capacity) := by
    omega
  rw [play_snoc, apply, h, List.length_drop, ← List.drop_append_of_le_length hd, List.drop_drop,
    hmax]

end Foundation.OverwritingFifo
