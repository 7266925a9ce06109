import SputterOS.Osal.SpscLinearizability

/-!
# The scheduled control task

The control task is the consumer of the command queue. Its ticks interleave
with the steps of the producer and with clearing the abort flag. A reset tears
the system down and ends the run. Each tick leaves a record of what it did.
-/

set_option autoImplicit false

namespace SputterOS.ControlTask
open SputterOS.LockFreeQueue Foundation.Transition

variable {α : Type*}

structure Wiring where
  commandQueue : Bool
  app : Bool
  monitorCount : ℕ
  maxCommandsPerTick : ℤ
  queueCapacity : ℕ

def Wiring.validateDependencies (w : Wiring) : Bool := w.commandQueue && w.app

structure TickRecord (α : Type*) where
  monitorUnsafe : Bool
  forceSafeAborts : ℕ
  popCalls : ℕ
  handled : List α
  appTicks : ℕ

def TickRecord.start : TickRecord α := ⟨false, 0, 0, [], 0⟩

inductive Pc (α : Type*) where
  | idle
  | evaluate (i : ℕ)
  | forceSafeAbort
  | signalSafetyAbort
  | processCommands
  | drain (processed : ℕ)
  | tryPop (processed : ℕ)
  | handleCommand (processed : ℕ) (cmd : α)
  | appTick

structure ControlState (α : Type*) where
  queue : LockFreeQueue.State α
  safetyAbort : Bool
  pc : Pc α
  current : TickRecord α
  ticks : List (TickRecord α)

def initial [Inhabited α] : ControlState α := ⟨LockFreeQueue.initial, false, .idle, .start, []⟩

def ControlState.finish (s : ControlState α) : ControlState α :=
  { s with pc := .idle, current := .start, ticks := s.ticks ++ [s.current] }

def controlStep (w : Wiring) (safeVerdict : Bool) (s : ControlState α) : ControlState α :=
  match s.pc with
  | .idle => s
  | .evaluate i =>
    if i < w.monitorCount then
      if safeVerdict then { s with pc := .evaluate (i+1) }
      else { s with pc := .forceSafeAbort, current := { s.current with monitorUnsafe := true } }
    else { s with pc := .processCommands }
  | .forceSafeAbort =>
    if w.app then
      { s with
        pc := .signalSafetyAbort
        current := { s.current with forceSafeAborts := s.current.forceSafeAborts+1 } }
    else { s with pc := .signalSafetyAbort }
  | .signalSafetyAbort => { s with safetyAbort := true }.finish
  | .processCommands =>
    if w.commandQueue && w.app then { s with pc := .drain 0 } else { s with pc := .appTick }
  | .drain processed =>
    if (processed : ℤ) < w.maxCommandsPerTick then
      { s with
        pc := .tryPop processed
        queue := LockFreeQueue.step w.queueCapacity s.queue .callPop
        current := { s.current with popCalls := s.current.popCalls+1 } }
    else { s with pc := .appTick }
  | .tryPop processed =>
    let queue := LockFreeQueue.step w.queueCapacity s.queue .consumerStep
    match (consume w.queueCapacity s.queue.consumer s.queue.memory).2.2 with
    | some (.result (.popped (some cmd))) =>
      { s with pc := .handleCommand processed cmd, queue := queue }
    | some (.result (.popped none)) => { s with pc := .appTick, queue := queue }
    | _ => { s with queue := queue }
  | .handleCommand processed cmd =>
    { s with
      pc := .drain (processed+1)
      current := { s.current with handled := s.current.handled ++ [cmd] } }
  | .appTick =>
    if w.app then
      { s with current := { s.current with appTicks := s.current.appTicks+1 } }.finish
    else s.finish

inductive Action (α : Type*) where
  | producer (a : LockFreeQueue.Action α)
  | tick
  | control (safeVerdict : Bool)
  | signalSafetyAbort
  | clearSafetyAbort

def producerStep (w : Wiring) (s : LockFreeQueue.State α) :
    LockFreeQueue.Action α → LockFreeQueue.State α
  | .callPush cmd => LockFreeQueue.step w.queueCapacity s (.callPush cmd)
  | .callProducerSize => LockFreeQueue.step w.queueCapacity s .callProducerSize
  | .producerStep => LockFreeQueue.step w.queueCapacity s .producerStep
  | _ => s

def step (w : Wiring) (s : ControlState α) : Action α → ControlState α
  | .producer a => { s with queue := producerStep w s.queue a }
  | .tick =>
    match s.pc with
    | .idle => { s with pc := .evaluate 0 }
    | _ => s
  | .control safeVerdict => controlStep w safeVerdict s
  | .signalSafetyAbort => { s with safetyAbort := true }
  | .clearSafetyAbort => { s with safetyAbort := false }

def ControlState.handled (s : ControlState α) : List α :=
  s.ticks.flatMap TickRecord.handled ++ s.current.handled

/-- What a tick with an unsafe monitor does and does not do. -/
structure Gated (r : TickRecord α) : Prop where
  forced_once : r.forceSafeAborts = 1
  handles_nothing : r.handled = []
  pops_nothing : r.popCalls = 0
  app_not_ticked : r.appTicks = 0

def inHand : Pc α → List α
  | .handleCommand _ cmd => [cmd]
  | _ => []

def RecordFacts (w : Wiring) (r : TickRecord α) : Pc α → Prop
  | .idle => r = .start
  | .evaluate _ => r = .start
  | .forceSafeAbort => r = { TickRecord.start with monitorUnsafe := true }
  | .signalSafetyAbort =>
    r = { TickRecord.start with monitorUnsafe := true, forceSafeAborts := 1 }
  | .processCommands => r = .start
  | .drain processed =>
    r.monitorUnsafe = false ∧ r.handled.length = processed ∧
      processed ≤ w.maxCommandsPerTick.toNat
  | .tryPop processed =>
    r.monitorUnsafe = false ∧ r.handled.length = processed ∧
      processed < w.maxCommandsPerTick.toNat
  | .handleCommand processed _ =>
    r.monitorUnsafe = false ∧ r.handled.length = processed ∧
      processed < w.maxCommandsPerTick.toNat
  | .appTick => r.monitorUnsafe = false ∧ r.handled.length ≤ w.maxCommandsPerTick.toNat

def ConsumerFacts (consumer : Consumer α) : Pc α → Prop
  | .tryPop _ => consumerCall consumer = some .pop
  | _ => consumer = .idle

structure ControlInv (w : Wiring) (s : ControlState α) : Prop where
  queue : LockFreeQueue.Inv w.queueCapacity s.queue
  delivered : s.queue.delivered = s.handled ++ inHand s.pc
  consumer : ConsumerFacts s.queue.consumer s.pc
  record : RecordFacts w s.current s.pc
  bounded : ∀ r ∈ s.ticks, r.handled.length ≤ w.maxCommandsPerTick.toNat
  gated : ∀ r ∈ s.ticks, r.monitorUnsafe = true → Gated r

@[simp] theorem finish_handled (s : ControlState α) : s.finish.handled = s.handled := by
  simp [ControlState.handled, ControlState.finish, TickRecord.start]

theorem finish_inv (w : Wiring) (s : ControlState α) (hq : LockFreeQueue.Inv w.queueCapacity s.queue)
    (hd : s.queue.delivered = s.handled) (hc : s.queue.consumer = .idle)
    (hb : ∀ r ∈ s.ticks, r.handled.length ≤ w.maxCommandsPerTick.toNat)
    (hg : ∀ r ∈ s.ticks, r.monitorUnsafe = true → Gated r)
    (hlen : s.current.handled.length ≤ w.maxCommandsPerTick.toNat)
    (hcur : s.current.monitorUnsafe = true → Gated s.current) : ControlInv w s.finish := by
  refine ⟨hq, ?_, hc, rfl, ?_, ?_⟩
  · rw [finish_handled]
    simpa [ControlState.finish, inHand] using hd
  · intro r hr
    rcases List.mem_append.mp hr with hr | hr
    · exact hb r hr
    · rw [List.mem_singleton.mp hr]
      exact hlen
  · intro r hr
    rcases List.mem_append.mp hr with hr | hr
    · exact hg r hr
    · rw [List.mem_singleton.mp hr]
      exact hcur

theorem tryPop_inv (w : Wiring) (s : ControlState α) (processed : ℕ) (v : Bool)
    (hpc : s.pc = .tryPop processed) (h : ControlInv w s) : ControlInv w (controlStep w v s) := by
  obtain ⟨queue, safetyAbort, pc, current, ticks⟩ := s
  obtain rfl : pc = .tryPop processed := hpc
  obtain ⟨hu, hlen, hlt⟩ := h.record
  have hqueue := LockFreeQueue.step_inv w.queueCapacity queue .consumerStep h.queue
  have hdel := consumerStep_delivered w.queueCapacity queue h.queue
  have hcons := consumerStep_consumer w.queueCapacity queue
  have hle : current.handled.length ≤ w.maxCommandsPerTick.toNat := by
    rw [hlen]
    exact hlt.le
  have hbefore : queue.delivered = ticks.flatMap TickRecord.handled ++ current.handled := by
    simpa [ControlState.handled, inHand] using h.delivered
  rcases consume_pop w.queueCapacity queue.memory queue.consumer h.consumer with
    ⟨hnone, hpop⟩ | ⟨item, hret, hidle⟩
  · simp only [controlStep, hnone]
    refine ⟨hqueue, ?_, ?_, ⟨hu, hlen, hlt⟩, h.bounded, h.gated⟩
    · simpa [hnone, poppedItem, ControlState.handled, inHand, hbefore] using hdel
    · rw [← hcons] at hpop
      exact hpop
  · rw [hret] at hdel
    cases item with
    | none =>
      simp only [controlStep, hret]
      refine ⟨hqueue, ?_, hcons.trans hidle, ⟨hu, hle⟩, h.bounded, h.gated⟩
      simpa [poppedItem, ControlState.handled, inHand, hbefore] using hdel
    | some cmd =>
      simp only [controlStep, hret]
      refine ⟨hqueue, ?_, hcons.trans hidle, ⟨hu, hlen, hlt⟩, h.bounded, h.gated⟩
      simpa [poppedItem, ControlState.handled, inHand, hbefore] using hdel

theorem controlStep_inv (w : Wiring) (hvalid : w.validateDependencies = true) (v : Bool)
    (s : ControlState α) (h : ControlInv w s) : ControlInv w (controlStep w v s) := by
  obtain ⟨hcq, happ⟩ : w.commandQueue = true ∧ w.app = true := by
    simpa [Wiring.validateDependencies] using hvalid
  obtain ⟨queue, safetyAbort, pc, current, ticks⟩ := s
  have hrec := h.record
  cases pc with
  | idle => exact h
  | evaluate i =>
    have hstart : current = .start := hrec
    simp only [controlStep]
    split_ifs
    · exact ⟨h.queue, h.delivered, h.consumer, hrec, h.bounded, h.gated⟩
    · exact ⟨h.queue, h.delivered, h.consumer, by rw [hstart]; rfl, h.bounded, h.gated⟩
    · exact ⟨h.queue, h.delivered, h.consumer, hrec, h.bounded, h.gated⟩
  | forceSafeAbort =>
    have hcur : current = { TickRecord.start with monitorUnsafe := true } := hrec
    simp only [controlStep, happ, if_true]
    exact ⟨h.queue, h.delivered, h.consumer, by rw [hcur]; rfl, h.bounded, h.gated⟩
  | signalSafetyAbort =>
    have hcur : current =
        { TickRecord.start with monitorUnsafe := true, forceSafeAborts := 1 } := hrec
    have hd := h.delivered
    rw [show inHand (Pc.signalSafetyAbort : Pc α) = [] from rfl, List.append_nil] at hd
    simp only [controlStep]
    refine finish_inv w _ h.queue hd h.consumer h.bounded h.gated ?_ (fun _ => ?_)
    · rw [hcur]
      exact Nat.zero_le _
    · rw [hcur]
      exact ⟨rfl, rfl, rfl, rfl⟩
  | processCommands =>
    have hstart : current = .start := hrec
    simp only [controlStep, hcq, happ, Bool.and_self, if_true]
    have hdrain : RecordFacts w current (.drain 0) := by
      rw [hstart]
      exact ⟨rfl, rfl, Nat.zero_le _⟩
    exact { h with record := hdrain }
  | drain processed =>
    obtain ⟨hu, hlen, hle⟩ := hrec
    have hbound : current.handled.length ≤ w.maxCommandsPerTick.toNat := by
      rw [hlen]
      exact hle
    simp only [controlStep]
    split_ifs with hmax
    · have hidle : queue.consumer = .idle := h.consumer
      refine ⟨LockFreeQueue.step_inv w.queueCapacity queue .callPop h.queue, ?_, ?_,
        ⟨hu, hlen, by omega⟩, h.bounded, h.gated⟩
      · exact (callPop_delivered w.queueCapacity queue).trans h.delivered
      · simp [ConsumerFacts, LockFreeQueue.step, hidle, consumerCall]
    · exact { h with record := ⟨hu, hbound⟩ }
  | tryPop processed => exact tryPop_inv w _ processed v rfl h
  | handleCommand processed cmd =>
    obtain ⟨hu, hlen, hlt⟩ := hrec
    refine ⟨h.queue, ?_, h.consumer, ⟨hu, ?_, hlt⟩, h.bounded, h.gated⟩
    · simpa [controlStep, inHand, ControlState.handled] using h.delivered
    · change (current.handled ++ [cmd]).length = processed+1
      rw [List.length_append, List.length_singleton]
      exact congrArg (·+1) hlen
  | appTick =>
    obtain ⟨hu, hlen⟩ := hrec
    have hd := h.delivered
    rw [show inHand (Pc.appTick : Pc α) = [] from rfl, List.append_nil] at hd
    simp only [controlStep, happ, if_true]
    exact finish_inv w _ h.queue hd h.consumer h.bounded h.gated hlen
      (fun hf => absurd (hu.symm.trans hf) (by simp))

theorem producerStep_inv (w : Wiring) (s : LockFreeQueue.State α) (a : LockFreeQueue.Action α)
    (hs : LockFreeQueue.Inv w.queueCapacity s) :
    LockFreeQueue.Inv w.queueCapacity (producerStep w s a) ∧
      (producerStep w s a).delivered = s.delivered ∧
      (producerStep w s a).consumer = s.consumer := by
  have hkeep : ∀ b : LockFreeQueue.Action α, b.ofProducer →
      LockFreeQueue.Inv w.queueCapacity (LockFreeQueue.step w.queueCapacity s b) ∧
        (LockFreeQueue.step w.queueCapacity s b).delivered = s.delivered ∧
        (LockFreeQueue.step w.queueCapacity s b).consumer = s.consumer := fun b hb =>
    ⟨LockFreeQueue.step_inv w.queueCapacity s b hs, ofProducer_delivered w.queueCapacity s hs b hb,
      ofProducer_consumer w.queueCapacity s b hb⟩
  cases a with
  | callPush cmd => exact hkeep (.callPush cmd) trivial
  | callProducerSize => exact hkeep .callProducerSize trivial
  | producerStep => exact hkeep .producerStep trivial
  | _ => exact ⟨hs, rfl, rfl⟩

theorem step_inv (w : Wiring) (hvalid : w.validateDependencies = true) (s : ControlState α)
    (a : Action α) (h : ControlInv w s) : ControlInv w (step w s a) := by
  cases a with
  | producer a =>
    obtain ⟨hq, hd, hc⟩ := producerStep_inv w s.queue a h.queue
    refine ⟨hq, hd.trans h.delivered, ?_, h.record, h.bounded, h.gated⟩
    have hcons := h.consumer
    rw [← hc] at hcons
    exact hcons
  | tick =>
    obtain ⟨queue, safetyAbort, pc, current, ticks⟩ := s
    cases pc with
    | idle => exact { h with record := h.record }
    | _ => exact h
  | control v => exact controlStep_inv w hvalid v s h
  | signalSafetyAbort => exact { h with record := h.record }
  | clearSafetyAbort => exact { h with record := h.record }

theorem run_inv [Inhabited α] (w : Wiring) (hvalid : w.validateDependencies = true)
    (as : List (Action α)) : ControlInv w (run (step w) initial as) := by
  refine run_preserves _ _ (step_inv w hvalid) _ ?_ as
  exact ⟨⟨[], 0, initial_represents w.queueCapacity⟩, rfl, rfl, rfl, by simp [initial],
    by simp [initial]⟩

theorem record_bounded (w : Wiring) (r : TickRecord α) (pc : Pc α) (h : RecordFacts w r pc) :
    r.handled.length ≤ w.maxCommandsPerTick.toNat := by
  cases pc with
  | drain processed => exact h.2.1.trans_le h.2.2
  | tryPop processed => exact h.2.1.trans_le h.2.2.le
  | handleCommand processed cmd => exact h.2.1.trans_le h.2.2.le
  | appTick => exact h.2
  | _ =>
    rw [show r = _ from h]
    exact Nat.zero_le _

theorem handled_accepted (w : Wiring) (s : ControlState α) (h : ControlInv w s) :
    s.handled <+: s.queue.accepted := by
  obtain ⟨items, taken, hr⟩ := h.queue
  have hdel := represents_delivered w.queueCapacity s.queue items taken hr
  have hacc : s.queue.accepted = items := hr.accepted
  rw [h.delivered] at hdel
  rw [hacc]
  exact (List.prefix_append _ _).trans (hdel ▸ List.take_prefix taken items)

theorem controlStep_ticks (w : Wiring) (v : Bool) (s : ControlState α) (h : ControlInv w s) :
    ∃ new, (controlStep w v s).ticks = s.ticks ++ new ∧
      ((controlStep w v s).safetyAbort = true ∨
        (controlStep w v s).safetyAbort = s.safetyAbort ∧
          ∀ r ∈ new, r.monitorUnsafe = false) := by
  obtain ⟨queue, safetyAbort, pc, current, ticks⟩ := s
  have hrec := h.record
  cases pc with
  | signalSafetyAbort => exact ⟨[current], rfl, Or.inl rfl⟩
  | appTick =>
    obtain ⟨hu, -⟩ := hrec
    simp only [controlStep]
    split_ifs
    · exact ⟨_, rfl, Or.inr ⟨rfl, fun r hr => by rw [List.mem_singleton.mp hr]; exact hu⟩⟩
    · exact ⟨_, rfl, Or.inr ⟨rfl, fun r hr => by rw [List.mem_singleton.mp hr]; exact hu⟩⟩
  | tryPop processed =>
    refine ⟨[], ?_, Or.inr ⟨?_, by simp⟩⟩
    · simp only [controlStep, List.append_nil]
      split <;> rfl
    · simp only [controlStep]
      split <;> rfl
  | _ =>
    refine ⟨[], ?_, Or.inr ⟨?_, by simp⟩⟩
    · simp only [controlStep, List.append_nil]
      try (split_ifs <;> rfl)
    · simp only [controlStep]
      try (split_ifs <;> rfl)

theorem latch (w : Wiring) (hvalid : w.validateDependencies = true) (s : ControlState α)
    (h : ControlInv w s) (bs : List (Action α)) (hb : .clearSafetyAbort ∉ bs) :
    ∃ new, (run (step w) s bs).ticks = s.ticks ++ new ∧
      ((∃ r ∈ new, r.monitorUnsafe = true) → (run (step w) s bs).safetyAbort = true) := by
  refine (run_invariant (step w) (fun t => ControlInv w t ∧ ∃ new, t.ticks = s.ticks ++ new ∧
    ((∃ r ∈ new, r.monitorUnsafe = true) → t.safetyAbort = true))
    (fun a => a ≠ .clearSafetyAbort) ?_ s ⟨h, [], by simp, by simp⟩ bs ?_).2
  · rintro t a ha ⟨ht, new, hnew, hflag⟩
    refine ⟨step_inv w hvalid t a ht, ?_⟩
    cases a with
    | producer a => exact ⟨new, hnew, hflag⟩
    | tick =>
      obtain ⟨queue, safetyAbort, pc, current, ticks⟩ := t
      cases pc <;> exact ⟨new, hnew, hflag⟩
    | control v =>
      obtain ⟨more, hmore, hsafe⟩ := controlStep_ticks w v t ht
      refine ⟨new ++ more, by rw [step, hmore, hnew, List.append_assoc], ?_⟩
      rintro ⟨r, hr, hu⟩
      rcases hsafe with hset | ⟨hsame, hquiet⟩
      · exact hset
      · rcases List.mem_append.mp hr with hr | hr
        · exact hsame.trans (hflag ⟨r, hr, hu⟩)
        · simp [hquiet r hr] at hu
    | signalSafetyAbort => exact ⟨new, hnew, fun _ => rfl⟩
    | clearSafetyAbort => exact absurd rfl ha
  · intro a ha heq
    exact hb (heq ▸ ha)

/-- The gate over whole runs: what the application gets is a prefix of what
the queue accepted, a tick hands over a bounded number of commands, a tick with
an unsafe monitor does nothing but abort, and the abort flag stays set from the
end of such a tick until it is cleared. -/
theorem control_gate [Inhabited α] (w : Wiring) (hvalid : w.validateDependencies = true)
    (as bs : List (Action α)) :
    (run (step w) initial as).handled <+: (run (step w) initial as).queue.accepted ∧
    (∀ r ∈ (run (step w) initial as).current::(run (step w) initial as).ticks,
      r.handled.length ≤ w.maxCommandsPerTick.toNat) ∧
    (∀ r ∈ (run (step w) initial as).ticks, r.monitorUnsafe = true → Gated r) ∧
    (.clearSafetyAbort ∉ bs →
      (∃ r ∈ (run (step w) initial (as ++ bs)).ticks.drop (run (step w) initial as).ticks.length,
        r.monitorUnsafe = true) →
      (run (step w) initial (as ++ bs)).safetyAbort = true) := by
  have hinv := run_inv w hvalid as
  refine ⟨handled_accepted w _ hinv, ?_, hinv.gated, ?_⟩
  · intro r hr
    rcases List.mem_cons.mp hr with rfl | hr
    · exact record_bounded w _ _ hinv.record
    · exact hinv.bounded r hr
  · intro hb hunsafe
    obtain ⟨new, hnew, hflag⟩ := latch w hvalid _ hinv bs hb
    rw [run_append] at hunsafe ⊢
    rw [hnew, List.drop_left] at hunsafe
    exact hflag hunsafe

def dualMonitor : Wiring := ⟨true, true, 2, 8, 4⟩

def gatedRun : List (Action ℕ) :=
  Action.producer (.callPush 7)::List.replicate 4 (Action.producer .producerStep) ++
    Action.tick::List.replicate 16 (Action.control true) ++
    [Action.tick, Action.control true, Action.control false, Action.control true,
      Action.control true]

example : (run (step dualMonitor) initial gatedRun).handled = [7] ∧
    (run (step dualMonitor) initial gatedRun).safetyAbort = true := by decide

theorem control_gate_dualMonitor :
    (run (step dualMonitor) initial gatedRun).handled <+:
      (run (step dualMonitor) initial gatedRun).queue.accepted :=
  (control_gate dualMonitor rfl gatedRun []).1

end SputterOS.ControlTask
