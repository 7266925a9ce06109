import Mathlib.Data.List.Induction
import Mathlib.Tactic.SplitIfs

/-!
# Linearizable histories

A history lists the invocations and the responses of calls in the order in
which they happen. A sequential object says which result an operation may have
in a state and what state it leaves. A call without a response has no effect
here, which is the stricter reading of a pending call.
-/

set_option autoImplicit false

namespace Foundation.Linearizability

variable {π ο ρ κ : Type*}

inductive Event (π ο ρ : Type*) where
  | invoke (process : π) (operation : ο)
  | respond (process : π) (result : ρ)

structure Call (π ο ρ : Type*) where
  process : π
  operation : ο
  result : ρ
  invoked : ℕ
  responded : ℕ

structure SequentialObject (κ ο ρ : Type*) where
  initial : κ
  Apply : κ → ο → ρ → κ → Prop

/-- Operations with their results, played from the initial state to a state. -/
inductive Replay (obj : SequentialObject κ ο ρ) : List (ο × ρ) → κ → Prop where
  | start : Replay obj [] obj.initial
  | call (l : List (ο × ρ)) (s t : κ) (o : ο) (r : ρ) :
      Replay obj l s → obj.Apply s o r t → Replay obj (l ++ [(o, r)]) t

structure Scan (π ο ρ : Type*) where
  clock : ℕ
  pending : π → Option (ο × ℕ)
  calls : List (Call π ο ρ)

variable [DecidableEq π]

def Scan.observe (s : Scan π ο ρ) : Event π ο ρ → Scan π ο ρ
  | .invoke p o => ⟨s.clock+1, Function.update s.pending p (some (o, s.clock)), s.calls⟩
  | .respond p r =>
    match s.pending p with
    | none => ⟨s.clock+1, s.pending, s.calls⟩
    | some (o, i) => ⟨s.clock+1, Function.update s.pending p none, s.calls ++ [⟨p, o, r, i, s.clock⟩]⟩

def scan (h : List (Event π ο ρ)) : Scan π ο ρ := h.foldl Scan.observe ⟨0, fun _ => none, []⟩

def running (h : List (Event π ο ρ)) (p : π) : Option ο := ((scan h).pending p).map Prod.fst

def outcome (c : Call π ο ρ) : ο × ρ := (c.operation, c.result)

def outcomes (h : List (Event π ο ρ)) : List (ο × ρ) := (scan h).calls.map outcome

/-- Some order of the completed calls is played by the sequential object, and
no call stands before one that had its response before it was invoked. -/
def Linearizable (obj : SequentialObject κ ο ρ) (h : List (Event π ο ρ)) : Prop :=
  ∃ order, List.Perm order (scan h).calls ∧ (∃ s, Replay obj (order.map outcome) s) ∧
    order.Pairwise (fun a b => ¬ b.responded < a.invoked)

theorem scan_snoc (h : List (Event π ο ρ)) (e : Event π ο ρ) :
    scan (h ++ [e]) = (scan h).observe e := by
  simp [scan]

@[simp] theorem outcomes_nil : outcomes ([] : List (Event π ο ρ)) = [] := rfl

@[simp] theorem outcomes_invoke (h : List (Event π ο ρ)) (p : π) (o : ο) :
    outcomes (h ++ [.invoke p o]) = outcomes h := by
  simp [outcomes, scan_snoc, Scan.observe]

theorem outcomes_respond (h : List (Event π ο ρ)) (p : π) (o : ο) (r : ρ)
    (hp : running h p = some o) : outcomes (h ++ [.respond p r]) = outcomes h ++ [(o, r)] := by
  obtain ⟨⟨o', i⟩, hi, rfl⟩ := Option.map_eq_some_iff.mp hp
  simp [outcomes, scan_snoc, Scan.observe, hi, outcome]

theorem running_invoke (h : List (Event π ο ρ)) (p q : π) (o : ο) :
    running (h ++ [.invoke p o]) q = if q = p then some o else running h q := by
  simp only [running, scan_snoc, Scan.observe, Function.update_apply]
  split_ifs <;> rfl

theorem running_respond (h : List (Event π ο ρ)) (p q : π) (r : ρ) :
    running (h ++ [.respond p r]) q = if q = p then none else running h q := by
  simp only [running, scan_snoc, Scan.observe]
  rcases hp : (scan h).pending p with _ | ⟨o, i⟩
  · by_cases hq : q = p
    · simp [hq, hp]
    · simp [hq]
  · simp only [Function.update_apply]
    split_ifs <;> rfl

structure Stamped (s : Scan π ο ρ) : Prop where
  pending : ∀ p o i, s.pending p = some (o, i) → i < s.clock
  calls : ∀ c ∈ s.calls, c.invoked < c.responded ∧ c.responded < s.clock
  ordered : s.calls.Pairwise (fun a b => a.responded < b.responded)

theorem observe_stamped (s : Scan π ο ρ) (e : Event π ο ρ) (hs : Stamped s) :
    Stamped (s.observe e) := by
  cases e with
  | invoke p o =>
    refine ⟨?_, ?_, hs.ordered⟩
    · intro q o' i hq
      simp only [Scan.observe, Function.update_apply] at hq ⊢
      split_ifs at hq with hqp
      · cases hq
        omega
      · have hlt := hs.pending q o' i hq
        omega
    · intro c hc
      have hcall := hs.calls c hc
      simp only [Scan.observe]
      omega
  | respond p r =>
    rcases hp : s.pending p with _ | ⟨o, i⟩
    · refine ⟨?_, ?_, ?_⟩ <;> simp only [Scan.observe, hp]
      · intro q o i hq
        have hlt := hs.pending q o i hq
        omega
      · intro c hc
        have hcall := hs.calls c hc
        omega
      · exact hs.ordered
    · have hi := hs.pending p o i hp
      refine ⟨?_, ?_, ?_⟩ <;> simp only [Scan.observe, hp]
      · intro q o' j hq
        simp only [Function.update_apply] at hq
        split_ifs at hq
        have hlt := hs.pending q o' j hq
        omega
      · intro c hc
        rcases List.mem_append.mp hc with hc | hc
        · have hcall := hs.calls c hc
          omega
        · rw [List.mem_singleton.mp hc]
          exact ⟨hi, by simp⟩
      · refine List.pairwise_append.mpr ⟨hs.ordered, by simp, ?_⟩
        intro c hc d hd
        rw [List.mem_singleton.mp hd]
        exact (hs.calls c hc).2

theorem scan_stamped (h : List (Event π ο ρ)) : Stamped (scan h) := by
  induction h using List.reverseRecOn with
  | nil => exact ⟨by simp [scan], by simp [scan], by simp [scan]⟩
  | append_singleton h e ih =>
    rw [scan_snoc]
    exact observe_stamped _ e ih

/-- When the object plays the calls in the order of their responses the
history is linearizable. -/
theorem linearizable_of_responses (obj : SequentialObject κ ο ρ) (h : List (Event π ο ρ)) (s : κ)
    (hr : Replay obj (outcomes h) s) : Linearizable obj h := by
  have hst := scan_stamped h
  refine ⟨(scan h).calls, List.Perm.refl _, ⟨s, hr⟩, ?_⟩
  refine hst.ordered.imp_of_mem ?_
  intro a b ha hb hab hlt
  have hcall := (hst.calls a ha).1
  omega

end Foundation.Linearizability
