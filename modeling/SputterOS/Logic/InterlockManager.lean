import SputterOS.Foundation.Transition
import Mathlib.Logic.Function.Basic

/-!
# The latch of hard faults

Calls of `triggerHardFault` and `clearFault` run on any tasks and interrupts, and
their steps interleave in any order. A clear asks the conditions one after the
other and then writes both flags, so a fault may be triggered between its answer
and its write.
-/

set_option autoImplicit false

namespace SputterOS.Interlocks
open Foundation.Transition

structure InterlockManager where
  faultResponse : Bool
  softAbort : Bool
  hardFault : Bool

inductive TriggerHardFault where
  | idle
  | storeFault
  | respond
  | returned
  deriving DecidableEq

/-- A clear holds which triggers had completed when it began. -/
inductive ClearFault where
  | idle
  | checkCondition (before : List ℕ) (i : ℕ)
  | storeFault (before : List ℕ)
  | returned (result : Bool)
  deriving DecidableEq

/-- A clear that returned true: the triggers that had completed when it began and
those whose fault it has overwritten. -/
structure Clearing where
  before : List ℕ
  overwritten : List ℕ
  deriving DecidableEq

/-- Every call has a number of its own. `latched` are the triggers whose fault was
stored and not overwritten. -/
structure State where
  manager : InterlockManager
  trigger : ℕ → TriggerHardFault
  clear : ℕ → ClearFault
  latched : List ℕ
  completed : List ℕ
  cleared : List Clearing
  executions : ℕ

inductive Action where
  | triggerHardFault (k : ℕ)
  | trigger (k : ℕ)
  | clearFault (k : ℕ)
  | clear (k : ℕ) (isSafe : Bool)
  | triggerSoftAbort

def boot (faultResponse : Bool) : State :=
  ⟨⟨faultResponse, false, false⟩, fun _ => .idle, fun _ => .idle, [], [], [], 0⟩

def stepTrigger (s : State) (k : ℕ) : State :=
  match s.trigger k with
  | .storeFault =>
    { s with
      manager := { s.manager with hardFault := true }
      trigger := Function.update s.trigger k .respond
      latched := s.latched ++ [k] }
  | .respond =>
    { s with
      trigger := Function.update s.trigger k .returned
      completed := s.completed ++ [k]
      executions := if s.manager.faultResponse then s.executions+1 else s.executions }
  | _ => s

def State.gotoClear (s : State) (k : ℕ) (place : ClearFault) : State :=
  { s with clear := Function.update s.clear k place }

def stepClear (n : ℕ) (s : State) (k : ℕ) (isSafe : Bool) : State :=
  match s.clear k with
  | .checkCondition before i =>
    if i < n then
      s.gotoClear k (if isSafe then .checkCondition before (i+1) else .returned false)
    else
      { s with manager := { s.manager with softAbort := false } }.gotoClear k (.storeFault before)
  | .storeFault before =>
    { s with
      manager := { s.manager with hardFault := false }
      latched := []
      cleared := s.cleared ++ [Clearing.mk before s.latched] }.gotoClear k (.returned true)
  | _ => s

def step (n : ℕ) (s : State) : Action → State
  | .triggerHardFault k =>
    match s.trigger k with
    | .idle => { s with trigger := Function.update s.trigger k .storeFault }
    | _ => s
  | .trigger k => stepTrigger s k
  | .clearFault k =>
    match s.clear k with
    | .idle => s.gotoClear k (.checkCondition s.completed 0)
    | _ => s
  | .clear k isSafe => stepClear n s k isSafe
  | .triggerSoftAbort => { s with manager := { s.manager with softAbort := true } }

/-- A completed trigger is in force until a clear that began behind it returns
true, and no clear overwrites the fault of a trigger it overlaps. -/
structure Latch (s : State) : Prop where
  faulted : ∀ k ∈ s.completed, s.manager.hardFault = true ∨ ∃ x ∈ s.cleared, k ∈ x.before
  kept : ∀ x ∈ s.cleared, x.overwritten ⊆ x.before

/-- When a clear stores its result, every trigger whose fault is in force had
completed before the clear began. -/
def Behind (s : State) : Action → Prop
  | .clear k _ => ∀ before, s.clear k = .storeFault before → s.latched ⊆ before
  | _ => True

structure Inv (s : State) : Prop where
  stored : ∀ k, s.trigger k = .respond ∨ k ∈ s.completed →
    k ∈ s.latched ∨ ∃ x ∈ s.cleared, k ∈ x.overwritten
  flag : s.latched ≠ [] → s.manager.hardFault = true

theorem boot_inv (faultResponse : Bool) : Inv (boot faultResponse) := by
  constructor <;> simp [boot]

theorem stepTrigger_inv (s : State) (k : ℕ) (h : Inv s) : Inv (stepTrigger s k) := by
  unfold stepTrigger
  split
  · refine ⟨?_, fun _ => rfl⟩
    intro j hj
    by_cases hjk : j = k
    · subst hjk
      exact Or.inl (by simp)
    · exact (h.stored j (by simpa [hjk] using hj)).imp_left (List.mem_append_left [k])
  · next hk =>
    refine ⟨?_, h.flag⟩
    intro j hj
    apply h.stored j
    by_cases hjk : j = k
    · subst hjk
      exact Or.inl hk
    · simpa [hjk] using hj
  · exact h

theorem stepClear_inv (n : ℕ) (s : State) (k : ℕ) (isSafe : Bool) (h : Inv s) :
    Inv (stepClear n s k isSafe) := by
  unfold stepClear
  split
  · split
    · exact ⟨h.stored, h.flag⟩
    · exact ⟨h.stored, h.flag⟩
  · next before hk =>
    refine ⟨?_, fun hne => absurd rfl hne⟩
    intro j hj
    refine Or.inr ?_
    rcases h.stored j hj with hlatched | ⟨x, hx, hover⟩
    · exact ⟨⟨before, s.latched⟩, by simp [State.gotoClear], hlatched⟩
    · exact ⟨x, List.mem_append_left _ hx, hover⟩
  · exact h

theorem step_inv (n : ℕ) (s : State) (a : Action) (h : Inv s) : Inv (step n s a) := by
  cases a with
  | triggerHardFault k =>
    rw [step]
    split
    · refine ⟨fun j hj => h.stored j ?_, h.flag⟩
      by_cases hjk : j = k
      · subst hjk
        exact Or.inr (by simpa using hj)
      · simpa [hjk] using hj
    · exact h
  | trigger k => exact stepTrigger_inv s k h
  | clearFault k =>
    rw [step]
    split
    · exact ⟨h.stored, h.flag⟩
    · exact h
  | clear k isSafe => exact stepClear_inv n s k isSafe h
  | triggerSoftAbort => exact ⟨h.stored, h.flag⟩

theorem latch_iff (s : State) (h : Inv s) :
    Latch s ↔ ∀ x ∈ s.cleared, x.overwritten ⊆ x.before := by
  refine ⟨Latch.kept, fun hkept => ⟨?_, hkept⟩⟩
  intro k hk
  rcases h.stored k (Or.inr hk) with hlatched | ⟨x, hx, hover⟩
  · exact Or.inl (h.flag (List.ne_nil_of_mem hlatched))
  · exact Or.inr ⟨x, hx, hkept x hx hover⟩

theorem stepTrigger_cleared (s : State) (k : ℕ) : (stepTrigger s k).cleared = s.cleared := by
  unfold stepTrigger
  split <;> rfl

theorem step_kept_iff (n : ℕ) (s : State) (a : Action) :
    (∀ x ∈ (step n s a).cleared, x.overwritten ⊆ x.before) ↔
      (∀ x ∈ s.cleared, x.overwritten ⊆ x.before) ∧ Behind s a := by
  cases a with
  | triggerHardFault k =>
    rw [step]
    split <;> simp [Behind]
  | trigger k => simp [step, stepTrigger_cleared, Behind]
  | clearFault k =>
    rw [step]
    split <;> simp [Behind, State.gotoClear]
  | clear k isSafe =>
    cases hk : s.clear k with
    | idle => simp [step, stepClear, Behind, hk]
    | checkCondition before i =>
      simp only [step, stepClear, Behind, hk]
      split_ifs <;> simp [State.gotoClear]
    | storeFault before => simp [step, stepClear, Behind, hk, State.gotoClear, or_imp, forall_and]
    | returned result => simp [step, stepClear, Behind, hk]
  | triggerSoftAbort => simp [step, Behind]

/-- Over any run the latch holds exactly if every clear that stores its result
began behind the triggers whose fault it overwrites. -/
theorem fault_latched_iff (n : ℕ) (faultResponse : Bool) (as : List Action) :
    Latch (run (step n) (boot faultResponse) as) ↔
      Along (step n) Behind (boot faultResponse) as := by
  have hinv := run_preserves (step n) Inv (step_inv n) (boot faultResponse)
    (boot_inv faultResponse) as
  rw [latch_iff _ hinv,
    run_iff_along (step n) Inv (fun s => ∀ x ∈ s.cleared, x.overwritten ⊆ x.before) Behind
      (step_inv n) (fun s a _ => step_kept_iff n s a) (boot faultResponse)
      (boot_inv faultResponse) as]
  simp [boot]

section Order

def UnderWay : ClearFault → Prop
  | .checkCondition _ _ => True
  | .storeFault _ => True
  | _ => False

/-- No trigger stores its fault while a clear is under way, and no clear begins
between a trigger's store and its return. -/
def Apart (s : State) : Action → Prop
  | .trigger k => s.trigger k = .storeFault → ∀ j, ¬ UnderWay (s.clear j)
  | .clearFault _ => ∀ k, s.trigger k ≠ .respond
  | _ => True

structure Standing (s : State) : Prop where
  hardFault : s.manager.hardFault = true
  quiet : ∀ j, ¬ UnderWay (s.clear j)

theorem stepClear_idle (n : ℕ) (s : State) (k : ℕ) (isSafe : Bool) (h : ¬ UnderWay (s.clear k)) :
    stepClear n s k isSafe = s := by
  unfold stepClear
  split
  · next hk =>
    rw [hk] at h
    exact absurd trivial h
  · next hk =>
    rw [hk] at h
    exact absurd trivial h
  · rfl

theorem stepTrigger_clear (s : State) (k : ℕ) : (stepTrigger s k).clear = s.clear := by
  unfold stepTrigger
  split <;> rfl

theorem stepTrigger_hardFault (s : State) (k : ℕ) (h : s.manager.hardFault = true) :
    (stepTrigger s k).manager.hardFault = true := by
  unfold stepTrigger
  split
  · rfl
  · exact h
  · exact h

theorem step_standing (n : ℕ) (s : State) (a : Action) (ha : ∀ j, a ≠ .clearFault j)
    (h : Standing s) : Standing (step n s a) := by
  cases a with
  | triggerHardFault k =>
    rw [step]
    split
    · exact ⟨h.hardFault, h.quiet⟩
    · exact h
  | trigger k =>
    refine ⟨stepTrigger_hardFault s k h.hardFault, fun j => ?_⟩
    rw [step, stepTrigger_clear]
    exact h.quiet j
  | clearFault k => exact absurd rfl (ha k)
  | clear k isSafe =>
    rw [step, stepClear_idle n s k isSafe (h.quiet k)]
    exact h
  | triggerSoftAbort => exact ⟨h.hardFault, h.quiet⟩

theorem step_responding (n : ℕ) (s : State) (a : Action) (ha : Apart s a)
    (h : ∀ k, s.trigger k = .respond → Standing s) (k : ℕ)
    (hk : (step n s a).trigger k = .respond) : Standing (step n s a) := by
  cases a with
  | triggerHardFault j =>
    rw [step] at hk ⊢
    split at hk
    · by_cases hkj : k = j
      · rw [hkj] at hk
        simp at hk
      · have hstand := h k (by simpa [hkj] using hk)
        exact ⟨hstand.hardFault, hstand.quiet⟩
    · exact h k hk
  | trigger j =>
    rw [step] at hk ⊢
    by_cases hstore : s.trigger j = .storeFault
    · refine ⟨?_, fun i => ?_⟩
      · rw [stepTrigger, hstore]
      · rw [stepTrigger_clear]
        exact ha hstore i
    · have hbefore : s.trigger k = .respond := by
        unfold stepTrigger at hk
        split at hk
        · next hj => exact absurd hj hstore
        · by_cases hkj : k = j
          · rw [hkj] at hk
            simp at hk
          · simpa [hkj] using hk
        · exact hk
      refine ⟨stepTrigger_hardFault s j (h k hbefore).hardFault, fun i => ?_⟩
      rw [stepTrigger_clear]
      exact (h k hbefore).quiet i
  | clearFault j =>
    have hbefore : s.trigger k = .respond := by
      rw [step] at hk
      split at hk <;> exact hk
    exact absurd hbefore (ha k)
  | clear j isSafe =>
    have hbefore : s.trigger k = .respond := by
      rw [step] at hk
      unfold stepClear at hk
      split at hk
      · split at hk <;> exact hk
      · exact hk
      · exact hk
    exact step_standing n s _ (fun i heq => by cases heq) (h k hbefore)
  | triggerSoftAbort => exact ⟨(h k hk).hardFault, (h k hk).quiet⟩

/-- If no clear overlaps the triggers, a stored fault is in force until a clear begins. -/
theorem fault_stands (n : ℕ) (faultResponse : Bool) (as bs : List Action) (k : ℕ)
    (hapart : Along (step n) Apart (boot faultResponse) as)
    (hk : (run (step n) (boot faultResponse) as).trigger k = .respond)
    (hbs : ∀ b ∈ bs, ∀ j, b ≠ .clearFault j) :
    (run (step n) (boot faultResponse) (as ++ bs)).manager.hardFault = true := by
  have hresponding := run_along (step n) (fun s => ∀ k, s.trigger k = .respond → Standing s) Apart
    (step_responding n) (boot faultResponse) (fun _ hrespond => by cases hrespond) as hapart
  rw [run_append]
  exact (run_invariant (step n) Standing _ (step_standing n) _ (hresponding k hk) bs hbs).hardFault

end Order

def triggerInWindow : List Action :=
  [.clearFault 0, .clear 0 true, .clear 0 true, .triggerHardFault 0, .trigger 0, .trigger 0,
    .clear 0 true]

/-- The trigger has completed and no fault is in force, although no clear began
behind it. -/
theorem fault_erased :
    (run (step 1) (boot true) triggerInWindow).completed = [0] ∧
    (run (step 1) (boot true) triggerInWindow).manager.hardFault = false ∧
    (run (step 1) (boot true) triggerInWindow).cleared = [⟨[], [0]⟩] ∧
    ¬ ∀ as, Latch (run (step 1) (boot true) as) := by
  have hcleared : (run (step 1) (boot true) triggerInWindow).cleared = [⟨[], [0]⟩] := by
    decide +kernel
  refine ⟨by decide +kernel, by decide +kernel, hcleared, fun h => ?_⟩
  have hkept := (h triggerInWindow).kept ⟨[], [0]⟩ (by simp [hcleared])
  simp at hkept

end SputterOS.Interlocks
