import SputterOS.Kernel.CrunchDispatcher
import Mathlib.Tactic.Common

/-!
# Delivery of a safety abort to a crunch core

The loop leaves by an abort test, by the overrun threshold or by its
condition. The first two call `onCrunchAbort` and the last does not look at
the abort flag.
-/

set_option autoImplicit false

namespace SputterOS.CrunchDispatcher
open SputterOS.Kernel Foundation.Transition

variable {τ : Type*} (crunchMaxOverruns : UInt32) (maxIterationUs : τ → UInt64) (coreId : ℕ)

def ConditionFails (s : State τ) : Prop :=
  (s.loop = .kernelTest ∧ isActiveState s.shared.kernelState = false) ∨
    ∃ i, s.loop = .stopTest i ∧ s.shared.stopConditions[i]? = some true

def Decides (s : State τ) : Prop :=
  s.loop.exit = none ∧ (step crunchMaxOverruns maxIterationUs coreId s .loop).loop.exit ≠ none

/-- If the abort flag was set when the loop decided to leave, `onCrunchAbort`
has been called exactly once when it has returned. -/
def AbortDelivered (s₀ : State τ) (as : List Action) : Prop :=
  ∀ cause, (run (step crunchMaxOverruns maxIterationUs coreId) s₀ as).loop = .returned cause →
    ∀ as₁ as₂, as = as₁ ++ .loop::as₂ →
      Decides crunchMaxOverruns maxIterationUs coreId
        (run (step crunchMaxOverruns maxIterationUs coreId) s₀ as₁) →
      (run (step crunchMaxOverruns maxIterationUs coreId) s₀ as₁).shared.safetyAbort = true →
      (run (step crunchMaxOverruns maxIterationUs coreId) s₀ as).events.countP Event.isAbort = 1

def abortCalls : Loop τ → ℕ
  | .logging _ _ => 1
  | .returned (some _) => 1
  | _ => 0

theorem next_calls (v : Shared) (d : Dispatcher τ) (task : τ) (l : Loop τ) (d' : Dispatcher τ)
    (l' : Loop τ) (es : List (Event τ))
    (h : Next crunchMaxOverruns maxIterationUs coreId v d task l d' l' es) :
    es.countP Event.isAbort+abortCalls l = abortCalls l' := by
  cases h with
  | platformKicked now => cases d.watchdogKick <;> rfl
  | abortLogged cause now => cases cause <;> rfl
  | done cause => cases cause <;> rfl
  | _ => rfl

theorem run_calls (v : Shared) (d : Dispatcher τ) (task : τ) (watchdogKick : Bool)
    (as : List Action) :
    (run (step crunchMaxOverruns maxIterationUs coreId)
        (entry v d task watchdogKick) as).events.countP Event.isAbort =
      abortCalls (run (step crunchMaxOverruns maxIterationUs coreId)
        (entry v d task watchdogKick) as).loop :=
  run_counted crunchMaxOverruns maxIterationUs coreId Event.isAbort abortCalls task
    (fun v d l d' l' es => next_calls crunchMaxOverruns maxIterationUs coreId v d task l d' l' es)
    rfl v d watchdogKick as

theorem next_exit (v : Shared) (d d' : Dispatcher τ) (task : τ) (l l' : Loop τ) (es : List (Event τ))
    (h : Next crunchMaxOverruns maxIterationUs coreId v d task l d' l' es) (exit : Option Abort)
    (he : l.exit = some exit) : l'.exit = some exit := by
  cases h <;> first | exact he | cases he

theorem run_exit (task : τ) (s : State τ) (hs : s.dispatcher.task = some task)
    (exit : Option Abort) (h : s.loop.exit = some exit) (as : List Action) :
    (run (step crunchMaxOverruns maxIterationUs coreId) s as).loop.exit = some exit :=
  run_invariant_loop crunchMaxOverruns maxIterationUs coreId (fun _ l _ => l.exit = some exit) task
    (fun _ _ _ _ _ _ _ he hn =>
      next_exit crunchMaxOverruns maxIterationUs coreId _ _ _ _ _ _ _ hn exit he) s hs h as

theorem run_task (v : Shared) (d : Dispatcher τ) (task : τ) (watchdogKick : Bool)
    (as : List Action) :
    (run (step crunchMaxOverruns maxIterationUs coreId)
      (entry v d task watchdogKick) as).dispatcher.task = some task :=
  run_preserves _ _ (fun s a hs => step_task crunchMaxOverruns maxIterationUs coreId task s a hs)
    _ rfl as

theorem next_condition_iff (v : Shared) (d d' : Dispatcher τ) (task : τ) (l l' : Loop τ)
    (es es' : List (Event τ))
    (h : Next crunchMaxOverruns maxIterationUs coreId v d task l d' l' es) (hl : l.exit = none) :
    ConditionFails ⟨v, d, l, es'⟩ ↔ l'.exit = some none := by
  cases h <;> simp_all [ConditionFails, Loop.exit]

theorem step_condition_iff (task : τ) (s : State τ) (hs : s.dispatcher.task = some task)
    (hin : s.loop.exit = none) :
    ConditionFails s ↔ (step crunchMaxOverruns maxIterationUs coreId s .loop).loop.exit =
      some none :=
  next_condition_iff crunchMaxOverruns maxIterationUs coreId _ _ _ task _ _ _ _
    (loopStep_next crunchMaxOverruns maxIterationUs coreId _ _ _ task hs) hin

theorem exit_returned (loop : Loop τ) (h : loop.exit = some none) : loop = .returned none := by
  cases loop <;> simp_all [Loop.exit]

/-- The abort is delivered exactly in the runs in which the condition never
fails while the abort flag is set. -/
theorem abort_delivered_iff (v : Shared) (d : Dispatcher τ) (task : τ) (watchdogKick : Bool)
    (as : List Action) :
    AbortDelivered crunchMaxOverruns maxIterationUs coreId (entry v d task watchdogKick) as ↔
      ∀ as₁ as₂, as = as₁ ++ .loop::as₂ →
        ¬ (ConditionFails (run (step crunchMaxOverruns maxIterationUs coreId)
              (entry v d task watchdogKick) as₁) ∧
            (run (step crunchMaxOverruns maxIterationUs coreId)
              (entry v d task watchdogKick) as₁).shared.safetyAbort = true) := by
  have htask := run_task crunchMaxOverruns maxIterationUs coreId v d task watchdogKick
  have hcalls := run_calls crunchMaxOverruns maxIterationUs coreId v d task watchdogKick
  constructor
  · rintro h as₁ as₂ rfl ⟨hfail, hflag⟩
    have hin : (run (step crunchMaxOverruns maxIterationUs coreId)
        (entry v d task watchdogKick) as₁).loop.exit = none := by
      rcases hfail with ⟨hl, -⟩ | ⟨i, hl, -⟩ <;> rw [hl] <;> rfl
    have hnext := (step_condition_iff crunchMaxOverruns maxIterationUs coreId task _ (htask as₁)
      hin).mp hfail
    have hend := run_exit crunchMaxOverruns maxIterationUs coreId task _
      (step_task crunchMaxOverruns maxIterationUs coreId task _ .loop (htask as₁)) _ hnext as₂
    rw [← run_cons, ← run_append] at hend
    have hret := exit_returned _ hend
    have hone := h none hret as₁ as₂ rfl ⟨hin, by rw [hnext]; simp⟩ hflag
    rw [hcalls, hret] at hone
    simp [abortCalls] at hone
  · rintro h cause hret as₁ as₂ rfl ⟨hin, hdecide⟩ hflag
    have hnext : (step crunchMaxOverruns maxIterationUs coreId
        (run (step crunchMaxOverruns maxIterationUs coreId)
          (entry v d task watchdogKick) as₁) .loop).loop.exit ≠ some none := by
      intro hnone
      exact h as₁ as₂ rfl ⟨(step_condition_iff crunchMaxOverruns maxIterationUs coreId task _
        (htask as₁) hin).mpr hnone, hflag⟩
    obtain ⟨exit, hexit⟩ := Option.ne_none_iff_exists'.mp hdecide
    have hend := run_exit crunchMaxOverruns maxIterationUs coreId task _
      (step_task crunchMaxOverruns maxIterationUs coreId task _ .loop (htask as₁)) _ hexit as₂
    rw [← run_cons, ← run_append, hret] at hend
    obtain rfl : cause = exit := by simpa [Loop.exit] using hend
    rw [hcalls, hret]
    cases cause with
    | none => exact absurd hexit hnext
    | some cause => rfl

def swallowedRun : List Action :=
  [.loop, .loop, .loop, .external .signalSafetyAbort, .external (.setStopCondition 0 true), .loop]

theorem abort_swallowed :
    ¬ AbortDelivered 10 (fun _ => 100) 1
      (entry ⟨false, .running, [false], 0⟩ Dispatcher.idle () false) swallowedRun := by
  intro h
  have hone := h none (by decide) (swallowedRun.take 5) [] (by decide) ⟨by decide, by decide⟩
    (by decide)
  revert hone
  decide

end SputterOS.CrunchDispatcher
