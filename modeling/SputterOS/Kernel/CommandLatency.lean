import Mathlib.Data.List.Infix
import SputterOS.Foundation.Progress
import SputterOS.Kernel.ControlTask

/-!
# How long a command waits

A tick of the control task ends within a number of its own steps that does not
depend on the producer, and a tick whose monitors are safe handles as many
commands as its limit allows or all that were accepted before it. Hence an
accepted command is handled within as many ticks as its place in the queue needs.
-/

set_option autoImplicit false

namespace SputterOS.ControlTask
open SputterOS.LockFreeQueue Foundation.Transition Foundation.Progress Foundation.BoundedFifo
  Foundation.Linearizability

variable {α : Type*}

def Wiring.limit (w : Wiring) : ℕ := w.maxCommandsPerTick.toNat

def popSteps : Consumer α → ℕ
  | .popLoadTail => 3
  | .popLoadHead _ => 2
  | .popRead _ => 1
  | _ => 0

def stepsLeft (w : Wiring) (consumer : Consumer α) : Pc α → ℕ
  | .idle => 0
  | .evaluate i => w.monitorCount-i+6*w.limit+3
  | .forceSafeAbort => 1
  | .signalSafetyAbort => 0
  | .processCommands => 6*w.limit+2
  | .drain processed => 6*(w.limit-processed)+1
  | .tryPop processed => 6*(w.limit-(processed+1))+3+popSteps consumer
  | .handleCommand processed _ => 6*(w.limit-(processed+1))+2
  | .appTick => 0

def tickSteps (w : Wiring) : ℕ := w.monitorCount+6*w.limit+4

def Action.isControl : Action α → Bool
  | .control _ => true
  | _ => false

/-- A part of a schedule in which the control task is ticked and gets the steps
the tick needs, while its monitors are safe. -/
structure Round (w : Wiring) (as : List (Action α)) : Prop where
  safe : Action.control false ∉ as
  ticked : ∃ bs cs, as = bs ++ Action.tick :: cs ∧ tickSteps w ≤ cs.countP Action.isControl

section Steps

variable (w : Wiring) (v : Bool)

def Advanced (s s' : ControlState α) : Prop :=
  s.ticks.length < s'.ticks.length ∨
    s'.ticks = s.ticks ∧ s'.pc ≠ .idle ∧
      stepsLeft w s'.queue.consumer s'.pc+1 ≤ stepsLeft w s.queue.consumer s.pc

theorem finish_advanced (s t : ControlState α) (h : t.ticks = s.ticks) : Advanced w s t.finish := by
  left
  rw [ControlState.finish, h, List.length_append]
  exact Nat.lt_succ_self _

theorem consume_popSteps (Capacity : ℕ) (m : Memory α) (pc : Consumer α)
    (hp : consumerCall pc = some .pop) :
    (consume Capacity pc m).2.2 = none →
      popSteps (consume Capacity pc m).2.1+1 ≤ popSteps pc := by
  intro hnone
  cases pc with
  | popLoadTail => exact Nat.le_refl _
  | popLoadHead tail =>
    simp only [consume] at hnone ⊢
    split_ifs at hnone ⊢ with hempty
    exact Nat.le_refl _
  | popRead tail => exact Nat.le_refl _
  | popStore tail cmd => simp [consume] at hnone
  | _ => simp [consumerCall] at hp

theorem tryPop_advanced (s : ControlState α) (processed : ℕ) (hpc : s.pc = .tryPop processed)
    (h : ControlInv w s) : Advanced w s (controlStep w v s) := by
  obtain ⟨queue, safetyAbort, pc, current, ticks⟩ := s
  obtain rfl : pc = .tryPop processed := hpc
  have hcons := consumerStep_consumer w.queueCapacity queue
  rcases consume_pop w.queueCapacity queue.memory queue.consumer h.consumer with
    ⟨hnone, -⟩ | ⟨item, hret, -⟩
  · have hfall := consume_popSteps w.queueCapacity queue.memory queue.consumer h.consumer hnone
    rw [← hcons] at hfall
    simp only [controlStep, hnone]
    refine Or.inr ⟨rfl, by simp, ?_⟩
    simp only [stepsLeft]
    omega
  · cases item with
    | none =>
      simp only [controlStep, hret]
      exact Or.inr ⟨rfl, by simp, by simp only [stepsLeft]; omega⟩
    | some cmd =>
      simp only [controlStep, hret]
      exact Or.inr ⟨rfl, by simp, by simp only [stepsLeft]; omega⟩

theorem controlStep_advanced (s : ControlState α) (hidle : s.pc ≠ .idle) (h : ControlInv w s) :
    Advanced w s (controlStep w v s) := by
  obtain ⟨queue, safetyAbort, pc, current, ticks⟩ := s
  cases pc with
  | idle => exact absurd rfl hidle
  | evaluate i =>
    right
    simp only [controlStep]
    split_ifs with hi hv
    · exact ⟨rfl, by simp, by simp only [stepsLeft]; omega⟩
    · exact ⟨rfl, by simp, by simp only [stepsLeft]; omega⟩
    · exact ⟨rfl, by simp, by simp only [stepsLeft]; omega⟩
  | forceSafeAbort =>
    right
    simp only [controlStep]
    split_ifs
    · exact ⟨rfl, by simp, Nat.le_refl _⟩
    · exact ⟨rfl, by simp, Nat.le_refl _⟩
  | signalSafetyAbort => exact finish_advanced w _ _ rfl
  | processCommands =>
    right
    simp only [controlStep]
    split_ifs
    · exact ⟨rfl, by simp, by simp only [stepsLeft]; omega⟩
    · exact ⟨rfl, by simp, by simp only [stepsLeft]; omega⟩
  | drain processed =>
    right
    have hconsumer : queue.consumer = .idle := h.consumer
    simp only [controlStep]
    split_ifs with hmax
    · refine ⟨rfl, by simp, ?_⟩
      have hlimit : processed < w.limit := by
        rw [Wiring.limit]
        omega
      simp only [stepsLeft, LockFreeQueue.step, hconsumer, popSteps]
      omega
    · exact ⟨rfl, by simp, by simp only [stepsLeft]; omega⟩
  | tryPop processed => exact tryPop_advanced w v _ processed rfl h
  | handleCommand processed cmd =>
    right
    refine ⟨rfl, by simp [controlStep], ?_⟩
    simp only [controlStep, stepsLeft]
    omega
  | appTick =>
    simp only [controlStep]
    split_ifs
    · exact finish_advanced w _ _ rfl
    · exact finish_advanced w _ _ rfl

theorem step_advanced (s : ControlState α) (a : Action α)
    (hidle : s.pc ≠ .idle) (h : ControlInv w s) :
    s.ticks.length < (step w s a).ticks.length ∨
      (step w s a).ticks = s.ticks ∧ (step w s a).pc ≠ .idle ∧
        stepsLeft w (step w s a).queue.consumer (step w s a).pc+(if a.isControl then 1 else 0) ≤
          stepsLeft w s.queue.consumer s.pc := by
  cases a with
  | producer a =>
    right
    have hconsumer := (producerStep_inv w s.queue a h.queue).2.2
    refine ⟨rfl, hidle, ?_⟩
    simp only [step, Action.isControl, Bool.false_eq_true, if_false]
    rw [hconsumer]
    exact Nat.le_refl _
  | tick =>
    right
    obtain ⟨queue, safetyAbort, pc, current, ticks⟩ := s
    cases pc with
    | idle => exact absurd rfl hidle
    | _ => exact ⟨rfl, by simp [step], Nat.le_refl _⟩
  | control v =>
    rcases controlStep_advanced w v s hidle h with hdone | ⟨hticks, hpc, hfall⟩
    · exact Or.inl hdone
    · exact Or.inr ⟨hticks, hpc, by simpa [Action.isControl, step] using hfall⟩
  | signalSafetyAbort => exact Or.inr ⟨rfl, hidle, Nat.le_refl _⟩
  | clearSafetyAbort => exact Or.inr ⟨rfl, hidle, Nat.le_refl _⟩

theorem stepsLeft_lt (s : ControlState α) (h : ControlInv w s) :
    stepsLeft w s.queue.consumer s.pc < tickSteps w := by
  obtain ⟨queue, safetyAbort, pc, current, ticks⟩ := s
  have hrec := h.record
  cases pc with
  | tryPop processed =>
    obtain ⟨-, -, hlt⟩ := hrec
    have hlimit : processed < w.limit := hlt
    have hpop : popSteps queue.consumer ≤ 3 := by cases queue.consumer <;> simp [popSteps]
    simp only [stepsLeft, tickSteps]
    omega
  | _ =>
    simp only [stepsLeft, tickSteps]
    omega

end Steps

section Growth

structure Grown (s s' : ControlState α) : Prop where
  accepted : s.queue.accepted <+: s'.queue.accepted
  handled : s.handled <+: s'.handled
  ticks : s.ticks <+: s'.ticks

theorem Grown.refl (s : ControlState α) : Grown s s :=
  ⟨List.prefix_rfl, List.prefix_rfl, List.prefix_rfl⟩

theorem Grown.trans (s₁ s₂ s₃ : ControlState α) (h : Grown s₁ s₂) (h' : Grown s₂ s₃) :
    Grown s₁ s₃ :=
  ⟨List.IsPrefix.trans h.accepted h'.accepted, List.IsPrefix.trans h.handled h'.handled,
    List.IsPrefix.trans h.ticks h'.ticks⟩

theorem outcomes_grow (h : List (Event Party (Operation α) (Result α)))
    (e : Event Party (Operation α) (Result α)) : outcomes h <+: outcomes (h ++ [e]) := by
  rw [outcomes, outcomes, scan_snoc]
  cases e with
  | invoke p o => exact List.prefix_rfl
  | respond p r =>
    simp only [Scan.observe]
    split
    · exact List.prefix_rfl
    · rw [List.map_append]
      exact List.prefix_append _ _

theorem respond_accepted (s : LockFreeQueue.State α) (p : Party) (r : Option (Return α)) :
    s.accepted <+: (s.respond p r).accepted := by
  rcases r with _ | r | n
  · exact List.prefix_rfl
  · exact (outcomes_grow s.history _).filterMap _
  · exact List.prefix_rfl

theorem queue_accepted (Capacity : ℕ) (s : LockFreeQueue.State α) (a : LockFreeQueue.Action α) :
    s.accepted <+: (LockFreeQueue.step Capacity s a).accepted := by
  obtain ⟨m, producer, consumer, written, history, sizes⟩ := s
  cases a with
  | callPush cmd =>
    cases producer with
    | idle => exact (outcomes_grow history _).filterMap _
    | _ => exact List.prefix_rfl
  | callPop =>
    cases consumer with
    | idle => exact (outcomes_grow history _).filterMap _
    | _ => exact List.prefix_rfl
  | callProducerSize => cases producer <;> exact List.prefix_rfl
  | callConsumerSize => cases consumer <;> exact List.prefix_rfl
  | producerStep =>
    exact respond_accepted
      { memory := (produce Capacity producer m).1, producer := (produce Capacity producer m).2.1,
        consumer := consumer, written := recordWrite producer written, history := history,
        sizes := sizes } .producer (produce Capacity producer m).2.2
  | consumerStep =>
    exact respond_accepted
      { memory := (consume Capacity consumer m).1, producer := producer,
        consumer := (consume Capacity consumer m).2.1, written := written, history := history,
        sizes := sizes } .consumer (consume Capacity consumer m).2.2

variable (w : Wiring)

theorem finish_grown (s t : ControlState α) (hq : t.queue = s.queue) (ht : t.ticks = s.ticks)
    (hh : t.handled = s.handled) : Grown s t.finish := by
  constructor
  · rw [ControlState.finish, hq]
  · rw [finish_handled, hh]
  · rw [ControlState.finish, ht]
    exact List.prefix_append _ _

theorem controlStep_grown (v : Bool) (s : ControlState α) : Grown s (controlStep w v s) := by
  have hpop := queue_accepted w.queueCapacity s.queue .consumerStep
  have hcall := queue_accepted w.queueCapacity s.queue .callPop
  obtain ⟨queue, safetyAbort, pc, current, ticks⟩ := s
  have hstay : ∀ t : ControlState α, t.queue = queue → t.ticks = ticks →
      t.current.handled = current.handled →
      Grown ⟨queue, safetyAbort, pc, current, ticks⟩ t := by
    intro t hq ht hh
    constructor
    · rw [hq]
    · rw [ControlState.handled, ControlState.handled, ht, hh]
    · rw [ht]
  cases pc with
  | idle => exact Grown.refl _
  | evaluate i =>
    simp only [controlStep]
    split_ifs <;> exact hstay _ rfl rfl rfl
  | forceSafeAbort =>
    simp only [controlStep]
    split_ifs <;> exact hstay _ rfl rfl rfl
  | signalSafetyAbort => exact finish_grown _ _ rfl rfl rfl
  | processCommands =>
    simp only [controlStep]
    split_ifs <;> exact hstay _ rfl rfl rfl
  | drain processed =>
    simp only [controlStep]
    split_ifs
    · exact ⟨hcall, List.prefix_rfl, List.prefix_rfl⟩
    · exact hstay _ rfl rfl rfl
  | tryPop processed =>
    simp only [controlStep]
    split <;> exact ⟨hpop, List.prefix_rfl, List.prefix_rfl⟩
  | handleCommand processed cmd =>
    refine ⟨List.prefix_rfl, ?_, List.prefix_rfl⟩
    simp only [controlStep, ControlState.handled, ← List.append_assoc]
    exact List.prefix_append _ _
  | appTick =>
    simp only [controlStep]
    split_ifs
    · exact finish_grown _ _ rfl rfl rfl
    · exact finish_grown _ _ rfl rfl rfl

theorem step_grown (s : ControlState α) (a : Action α) : Grown s (step w s a) := by
  cases a with
  | producer a =>
    refine ⟨?_, List.prefix_rfl, List.prefix_rfl⟩
    cases a with
    | callPush cmd => exact queue_accepted _ _ _
    | callProducerSize => exact queue_accepted _ _ _
    | producerStep => exact queue_accepted _ _ _
    | _ => exact List.prefix_rfl
  | tick =>
    obtain ⟨queue, safetyAbort, pc, current, ticks⟩ := s
    cases pc <;> exact ⟨List.prefix_rfl, List.prefix_rfl, List.prefix_rfl⟩
  | control v => exact controlStep_grown w v s
  | signalSafetyAbort => exact ⟨List.prefix_rfl, List.prefix_rfl, List.prefix_rfl⟩
  | clearSafetyAbort => exact ⟨List.prefix_rfl, List.prefix_rfl, List.prefix_rfl⟩

theorem run_grown (s : ControlState α) (as : List (Action α)) : Grown s (run (step w) s as) :=
  run_preserves (step w) (Grown s) (fun t a h => h.trans _ _ _ (step_grown w t a)) s (Grown.refl s) as

end Growth

section Throughput

variable (w : Wiring)

/-- The number of commands that are handled some whole ticks after a state. -/
def quota (s : ControlState α) (n : ℕ) : ℕ :=
  min s.queue.accepted.length (s.handled.length+n*w.limit)

theorem quota_succ (s : ControlState α) (n : ℕ) : quota w s (n+1) ≤ quota w s n+w.limit := by
  simp only [quota, Nat.succ_mul]
  omega

structure Since (s₀ s : ControlState α) : Prop where
  inv : ControlInv w s
  grown : Grown s₀ s
  served : ∀ n, s.ticks.length = s₀.ticks.length+(n+1) →
    quota w s₀ n ≤ (s.ticks.flatMap TickRecord.handled).length ∧
      s.pc ≠ .forceSafeAbort ∧ s.pc ≠ .signalSafetyAbort ∧
      (s.pc = .appTick → quota w s₀ (n+1) ≤ s.handled.length)

theorem since_refl (s : ControlState α) (h : ControlInv w s) : Since w s s := by
  refine ⟨h, Grown.refl s, ?_⟩
  intro n hn
  omega

theorem finish_since (s₀ s : ControlState α) (grown : Grown s₀ s.finish)
    (inv : ControlInv w s.finish) (hticks : s₀.ticks <+: s.ticks)
    (hdone : ∀ n, s.ticks.length = s₀.ticks.length+(n+1) → quota w s₀ (n+1) ≤ s.handled.length) :
    Since w s₀ s.finish := by
  refine ⟨inv, grown, ?_⟩
  intro n hn
  have hlen : s.finish.ticks.length = s.ticks.length+1 := by
    simp [ControlState.finish]
  have hall : (s.finish.ticks.flatMap TickRecord.handled) = s.handled := by
    simp [ControlState.finish, ControlState.handled]
  have hle := hticks.length_le
  refine ⟨?_, by simp [ControlState.finish], by simp [ControlState.finish],
    by simp [ControlState.finish]⟩
  rw [hall]
  cases n with
  | zero =>
    have hhandled := grown.handled.length_le
    rw [finish_handled] at hhandled
    simp only [quota]
    omega
  | succ n => exact hdone n (by omega)

theorem empty_handled (s : ControlState α) (processed : ℕ) (hpc : s.pc = .tryPop processed)
    (h : ControlInv w s)
    (hnone : (consume w.queueCapacity s.queue.consumer s.queue.memory).2.2 =
      some (.result (.popped none))) :
    s.queue.accepted.length ≤ s.handled.length := by
  have hheld := refused_pop_empty w.queueCapacity s.queue h.queue hnone
  have hdel := h.delivered
  rw [hpc, show inHand (Pc.tryPop processed : Pc α) = [] from rfl, List.append_nil] at hdel
  rw [State.held, hdel] at hheld
  omega

theorem controlStep_since (hvalid : w.validateDependencies = true) (s₀ s : ControlState α)
    (h : Since w s₀ s) : Since w s₀ (controlStep w true s) := by
  have hinv := controlStep_inv w hvalid true s h.inv
  have hgrown := h.grown.trans _ _ _ (controlStep_grown w true s)
  obtain ⟨queue, safetyAbort, pc, current, ticks⟩ := s
  have hrec := h.inv.record
  -- A step inside a tick has only to say why it may come to the application.
  have hinside : ∀ t : ControlState α, ControlInv w t → Grown s₀ t → t.ticks = ticks →
      t.pc ≠ .forceSafeAbort → t.pc ≠ .signalSafetyAbort →
      (∀ n, t.pc = .appTick → quota w s₀ n ≤ (ticks.flatMap TickRecord.handled).length →
        quota w s₀ (n+1) ≤ t.handled.length) → Since w s₀ t := by
    intro t htinv htgrown ht hforce hsignal happ
    refine ⟨htinv, htgrown, ?_⟩
    intro n hn
    rw [ht] at hn ⊢
    obtain ⟨hquota, -, -, -⟩ := h.served n hn
    exact ⟨hquota, hforce, hsignal, fun hpc => happ n hpc hquota⟩
  cases pc with
  | idle => exact h
  | evaluate i =>
    simp only [controlStep] at hinv hgrown ⊢
    split_ifs at hinv hgrown ⊢
    · exact hinside _ hinv hgrown rfl (by simp) (by simp) (by simp)
    · exact hinside _ hinv hgrown rfl (by simp) (by simp) (by simp)
  | forceSafeAbort =>
    refine ⟨hinv, hgrown, ?_⟩
    intro n hn
    have hticks : (controlStep w true
        ⟨queue, safetyAbort, .forceSafeAbort, current, ticks⟩).ticks = ticks := by
      simp only [controlStep]
      split_ifs <;> rfl
    rw [hticks] at hn
    obtain ⟨-, hforce, -⟩ := h.served n hn
    exact absurd rfl hforce
  | signalSafetyAbort =>
    apply finish_since w s₀ _ hgrown hinv h.grown.ticks
    intro n hn
    obtain ⟨-, -, hsignal, -⟩ := h.served n hn
    exact absurd rfl hsignal
  | processCommands =>
    obtain ⟨hcq, happ⟩ : w.commandQueue = true ∧ w.app = true := by
      simpa [Wiring.validateDependencies] using hvalid
    simp only [controlStep, hcq, happ, Bool.and_self, if_true] at hinv hgrown ⊢
    exact hinside _ hinv hgrown rfl (by simp) (by simp) (by simp)
  | drain processed =>
    obtain ⟨-, hlen, -⟩ := hrec
    simp only [controlStep] at hinv hgrown ⊢
    split_ifs at hinv hgrown ⊢ with hmax
    · exact hinside _ hinv hgrown rfl (by simp) (by simp) (by simp)
    · apply hinside _ hinv hgrown rfl (by simp) (by simp)
      intro n _ hquota
      have hfull : w.limit ≤ processed := by
        rw [Wiring.limit]
        omega
      have hsucc := quota_succ w s₀ n
      have hcurrent : current.handled.length = processed := hlen
      simp only [ControlState.handled, List.length_append]
      omega
  | tryPop processed =>
    have hempty := empty_handled w _ processed rfl h.inv
    have hacc : s₀.queue.accepted.length ≤ queue.accepted.length := h.grown.accepted.length_le
    rcases consume_pop w.queueCapacity queue.memory queue.consumer h.inv.consumer with
      ⟨hnone, -⟩ | ⟨item, hret, -⟩
    · simp only [controlStep, hnone] at hinv hgrown ⊢
      exact hinside _ hinv hgrown rfl (by simp) (by simp) (by simp)
    · cases item with
      | none =>
        simp only [controlStep, hret] at hinv hgrown ⊢
        apply hinside _ hinv hgrown rfl (by simp) (by simp)
        intro n _ _
        have hall : queue.accepted.length ≤
            (ticks.flatMap TickRecord.handled ++ current.handled).length := hempty hret
        exact (Nat.min_le_left _ _).trans (hacc.trans hall)
      | some cmd =>
        simp only [controlStep, hret] at hinv hgrown ⊢
        exact hinside _ hinv hgrown rfl (by simp) (by simp) (by simp)
  | handleCommand processed cmd =>
    exact hinside _ hinv hgrown rfl (by simp [controlStep]) (by simp [controlStep])
      (by simp [controlStep])
  | appTick =>
    obtain ⟨hcq, happ⟩ : w.commandQueue = true ∧ w.app = true := by
      simpa [Wiring.validateDependencies] using hvalid
    simp only [controlStep, happ, if_true] at hinv hgrown ⊢
    apply finish_since w s₀ _ hgrown hinv h.grown.ticks
    intro n hn
    obtain ⟨-, -, -, hready⟩ := h.served n hn
    exact hready rfl

theorem step_since (hvalid : w.validateDependencies = true) (s₀ s : ControlState α)
    (a : Action α) (ha : a ≠ .control false) (h : Since w s₀ s) : Since w s₀ (step w s a) := by
  have hinv := step_inv w hvalid s a h.inv
  have hgrown := h.grown.trans _ _ _ (step_grown w s a)
  cases a with
  | producer a => exact ⟨hinv, hgrown, h.served⟩
  | tick =>
    refine ⟨hinv, hgrown, ?_⟩
    obtain ⟨queue, safetyAbort, pc, current, ticks⟩ := s
    cases pc with
    | idle =>
      intro n hn
      exact ⟨(h.served n hn).1, by simp [step], by simp [step], by simp [step]⟩
    | _ => exact h.served
  | control v =>
    cases v with
    | true => exact controlStep_since w hvalid s₀ s h
    | false => exact absurd rfl ha
  | signalSafetyAbort => exact ⟨hinv, hgrown, h.served⟩
  | clearSafetyAbort => exact ⟨hinv, hgrown, h.served⟩

theorem run_since (hvalid : w.validateDependencies = true) (s : ControlState α)
    (h : ControlInv w s) (as : List (Action α)) (hsafe : Action.control false ∉ as) :
    Since w s (run (step w) s as) := by
  apply run_invariant (step w) (Since w s) (fun a => a ≠ .control false)
  · exact fun t a ha ht => step_since w hvalid s t a ha ht
  · exact since_refl w s h
  · exact fun a ha heq => hsafe (heq ▸ ha)

theorem round_ticks (hvalid : w.validateDependencies = true) (s : ControlState α)
    (h : ControlInv w s) (as : List (Action α)) (hround : Round w as) :
    s.ticks.length < (run (step w) s as).ticks.length := by
  obtain ⟨bs, cs, rfl, henough⟩ := hround.ticked
  rw [run_append, run_cons]
  have hs₁ := run_preserves (step w) _ (step_inv w hvalid) s h bs
  have hbefore := (run_grown w s bs).ticks.length_le
  generalize run (step w) s bs = s₁ at hs₁ hbefore ⊢
  have hs₂ := step_inv w hvalid s₁ .tick hs₁
  have hrunning : (step w s₁ .tick).pc ≠ .idle ∧ (step w s₁ .tick).ticks = s₁.ticks := by
    obtain ⟨queue, safetyAbort, pc, current, ticks⟩ := s₁
    cases pc <;> simp [step]
  generalize step w s₁ .tick = s₂ at hs₂ hrunning ⊢
  have hlast : ∃ ds, ds <+: cs ∧ s₂.ticks.length < (run (step w) s₂ ds).ticks.length := by
    apply run_done (step w) (fun t => ControlInv w t ∧ s₂.ticks.length ≤ t.ticks.length ∧
        (t.pc = .idle → s₂.ticks.length < t.ticks.length))
      (fun t => s₂.ticks.length < t.ticks.length) (fun t => stepsLeft w t.queue.consumer t.pc)
      Action.isControl
    · rintro t a ⟨ht, hle, hidle⟩
      have hticks := (step_grown w t a).ticks.length_le
      refine ⟨step_inv w hvalid t a ht, hle.trans hticks, ?_⟩
      intro hnext
      by_cases hpc : t.pc = .idle
      · exact (hidle hpc).trans_le hticks
      · rcases step_advanced w t a hpc ht with hdone | ⟨-, hstill, -⟩
        · exact hle.trans_lt hdone
        · exact absurd hnext hstill
    · rintro t a ⟨ht, hle, hidle⟩ hnot
      have hpc : t.pc ≠ .idle := fun hpc => hnot (hidle hpc)
      rcases step_advanced w t a hpc ht with hdone | ⟨-, -, hfall⟩
      · exact Or.inl (hle.trans_lt hdone)
      · exact Or.inr hfall
    · exact ⟨hs₂, Nat.le_refl _, fun hpc => absurd hpc hrunning.1⟩
    · exact (stepsLeft_lt w s₂ hs₂).trans_le henough
  obtain ⟨ds, ⟨es, rfl⟩, hmore⟩ := hlast
  have hafter := (run_grown w (run (step w) s₂ ds) es).ticks.length_le
  rw [run_append]
  rw [hrunning.2] at hmore
  omega

theorem rounds_ticks (hvalid : w.validateDependencies = true) (s : ControlState α)
    (h : ControlInv w s) (rounds : List (List (Action α)))
    (hrounds : ∀ as ∈ rounds, Round w as) :
    s.ticks.length+rounds.length ≤ (run (step w) s rounds.flatten).ticks.length := by
  induction rounds generalizing s with
  | nil => exact Nat.le_refl _
  | cons as rounds ih =>
    have hfirst := round_ticks w hvalid s h as (hrounds as (by simp))
    have hrest := ih _ (run_preserves (step w) _ (step_inv w hvalid) s h as)
      (fun bs hbs => hrounds bs (by simp [hbs]))
    rw [List.flatten_cons, run_append, List.length_cons]
    omega

/-- What was accepted is what was handled, then the command in hand, then what
the queue holds. -/
theorem accepted_split (s : ControlState α) (h : ControlInv w s) :
    ∃ queued, s.queue.accepted = s.handled ++ inHand s.pc ++ queued ∧
      queued.length ≤ w.queueCapacity := by
  obtain ⟨items, taken, hr⟩ := h.queue
  have hdel := represents_delivered w.queueCapacity s.queue items taken hr
  have hacc : s.queue.accepted = items := hr.accepted
  have hroom := hr.laid.room
  use items.drop taken
  constructor
  · rw [hacc, ← h.delivered, hdel, List.take_append_drop]
  · rw [List.length_drop]
    omega

theorem rounds_handled (hvalid : w.validateDependencies = true) (s : ControlState α)
    (h : ControlInv w s) (rounds : List (List (Action α)))
    (hrounds : ∀ as ∈ rounds, Round w as) :
    s.queue.accepted.take (s.handled.length+(rounds.length-1)*w.limit) <+:
      (run (step w) s rounds.flatten).handled := by
  have hsafe : Action.control false ∉ rounds.flatten := by
    intro hmem
    obtain ⟨as, has, hbad⟩ := List.mem_flatten.mp hmem
    exact (hrounds as has).safe hbad
  have hsince := run_since w hvalid s h rounds.flatten hsafe
  have hticks := rounds_ticks w hvalid s h rounds hrounds
  generalize run (step w) s rounds.flatten = s' at hsince hticks ⊢
  have hquota : quota w s (rounds.length-1) ≤ s'.handled.length := by
    rcases Nat.eq_zero_or_pos rounds.length with hnone | hpos
    · have hle := hsince.grown.handled.length_le
      rw [hnone, quota]
      omega
    · obtain ⟨n, hn⟩ := Nat.exists_eq_add_of_le hticks
      have hserved := (hsince.served (rounds.length-1+n) (by omega)).1
      have hmono : quota w s (rounds.length-1) ≤ quota w s (rounds.length-1+n) := by
        have hmul := Nat.mul_le_mul_right w.limit (Nat.le_add_right (rounds.length-1) n)
        simp only [quota]
        omega
      rw [ControlState.handled, List.length_append]
      omega
  have hhandled := handled_accepted w s' hsince.inv
  apply List.prefix_of_prefix_length_le _ hhandled
  · rw [List.length_take]
    rw [quota] at hquota
    omega
  · exact List.IsPrefix.trans (List.take_prefix _ _) hsince.grown.accepted

/-- Whatever the producer does meanwhile: some rounds after any reachable state
the commands accepted by then are handled in their order, as many for each round
but the first as a tick may handle, and all of them once that is more than the
queue holds. -/
theorem command_latency [Inhabited α] (hvalid : w.validateDependencies = true)
    (as : List (Action α)) (rounds : List (List (Action α)))
    (hrounds : ∀ bs ∈ rounds, Round w bs) :
    (run (step w) initial as).queue.accepted.take
        ((run (step w) initial as).handled.length+(rounds.length-1)*w.limit) <+:
      (run (step w) initial (as ++ rounds.flatten)).handled ∧
    (w.queueCapacity < (rounds.length-1)*w.limit →
      (run (step w) initial as).queue.accepted <+:
        (run (step w) initial (as ++ rounds.flatten)).handled) := by
  have hinv := run_inv w hvalid as
  have hhandled := rounds_handled w hvalid _ hinv rounds hrounds
  rw [run_append]
  refine ⟨hhandled, ?_⟩
  intro hroom
  obtain ⟨queued, hsplit, hqueued⟩ := accepted_split w _ hinv
  have hhand : (inHand (run (step w) initial as).pc).length ≤ 1 := by
    cases (run (step w) initial as).pc <;> simp [inHand]
  have hlen := congrArg List.length hsplit
  rw [List.length_append, List.length_append] at hlen
  rw [List.take_of_length_le (by omega)] at hhandled
  exact hhandled

end Throughput

def safeTick : List (Action ℕ) := Action.tick :: List.replicate 54 (Action.control true)

theorem safeTick_round : Round dualMonitor safeTick :=
  ⟨by simp [safeTick],
    [], List.replicate 54 (Action.control true), rfl, by decide⟩

def pushedSeven : List (Action ℕ) :=
  Action.producer (.callPush 7) :: List.replicate 4 (Action.producer .producerStep)

theorem command_latency_dualMonitor :
    (run (step dualMonitor) initial pushedSeven).queue.accepted = [7] ∧
      (run (step dualMonitor) initial pushedSeven).queue.accepted <+:
        (run (step dualMonitor) initial (pushedSeven ++ [safeTick, safeTick].flatten)).handled :=
  ⟨by decide, (command_latency dualMonitor rfl pushedSeven [safeTick, safeTick]
    (by simpa using safeTick_round)).2 (by decide)⟩

end SputterOS.ControlTask
