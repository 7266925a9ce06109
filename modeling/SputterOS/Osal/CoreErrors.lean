import SputterOS.Foundation.Transition
import SputterOS.Osal.MultiCoreSync

/-!
# Errors of cores

Any caller applies the setters to any core, waits for cores and asks for errors,
and the steps of the calls interleave. The setters write whatever the word
holds, and `waitForCore` takes a core in ERROR for one that is beyond READY.
-/

set_option autoImplicit false

namespace SputterOS.CoreErrors
open SputterOS.MultiCoreSync Foundation.Transition

inductive Caller where
  | idle
  | waitForCore (peerId : ℕ) (target : CoreState) (timeoutMs pollIntervalMs : UInt32)
    (place : WaitForCore)
  | anyError (marked : Bool) (i : ℕ)
  deriving DecidableEq

/-- A wait that has returned true, with the word that satisfied it and whether
the core had reached READY, or the result of a query for errors. -/
inductive Answer where
  | waited (peerId : ℕ) (target seen : CoreState) (wasReady : Bool)
  | anyError (marked result : Bool)
  deriving DecidableEq

/-- `wasReady` and `marked` tell which cores reached READY and which were marked
ERROR since the last reset. -/
structure State where
  sync : Sync
  wasReady : ℕ → Bool
  marked : ℕ → Bool
  caller : ℕ → Caller
  answers : List Answer

inductive Action where
  | setInit (coreId : ℕ)
  | setReady (coreId : ℕ)
  | setError (coreId : ℕ) (reason : String)
  | setShutdown (coreId : ℕ)
  | reset
  | waitForCore (k peerId : ℕ) (target : CoreState) (timeoutMs pollIntervalMs : UInt32)
  | anyError (k : ℕ)
  | caller (k : ℕ)

def boot (errorHandler : Bool) : State :=
  ⟨.new errorHandler, fun _ => false, fun _ => false, fun _ => .idle, []⟩

def State.goto (s : State) (k : ℕ) (caller : Caller) : State :=
  { s with caller := Function.update s.caller k caller }

def Caller.reset : Caller → Caller
  | .anyError _ i => .anyError false i
  | caller => caller

def stepCaller (n : ℕ) (s : State) (k : ℕ) : State :=
  match s.caller k with
  | .idle => s
  | .waitForCore peerId target timeoutMs pollIntervalMs place =>
    match waitForCoreStep peerId target timeoutMs pollIntervalMs s.sync place with
    | .returned true =>
      { s with
        answers := s.answers ++
          [Answer.waited peerId target (s.sync.states peerId) (s.wasReady peerId)] }.goto k .idle
    | .returned false => s.goto k .idle
    | next => s.goto k (.waitForCore peerId target timeoutMs pollIntervalMs next)
  | .anyError marked i =>
    match anyErrorStep n s.sync i with
    | .load j => s.goto k (.anyError marked j)
    | .result answer =>
      { s with answers := s.answers ++ [Answer.anyError marked answer] }.goto k .idle

/-- Core numbers are below the number of cores, and a reset constructs the object
anew. -/
def step (n : ℕ) (s : State) : Action → State
  | .setInit c => if c < n then { s with sync := s.sync.setInit c } else s
  | .setReady c =>
    if c < n then
      { s with
        sync := s.sync.setReady c
        wasReady := Function.update s.wasReady c true }
    else s
  | .setError c reason =>
    if c < n then
      { s with
        sync := s.sync.setError c reason
        marked := Function.update s.marked c true }
    else s
  | .setShutdown c => if c < n then { s with sync := s.sync.setShutdown c } else s
  | .reset =>
    { s with
      sync := .new false
      wasReady := fun _ => false
      marked := fun _ => false
      caller := fun k => (s.caller k).reset }
  | .waitForCore k peerId target timeoutMs pollIntervalMs =>
    if peerId < n then
      s.goto k (.waitForCore peerId target timeoutMs pollIntervalMs (.timeTest 0))
    else s
  | .anyError k => s.goto k (.anyError ((List.range n).any s.marked) 0)
  | .caller k => stepCaller n s k

/-- A wait for READY ends at a core that is not in ERROR and has been READY, and
a query reports the cores that were marked when it began. -/
structure Sound (s : State) : Prop where
  ready : ∀ peerId seen wasReady, .waited peerId .ready seen wasReady ∈ s.answers →
    seen ≠ .error ∧ wasReady = true
  reported : ∀ result, .anyError true result ∈ s.answers → result = true

def Caller.polled : Caller → Option ℕ
  | .waitForCore peerId .ready _ _ (.load _) => some peerId
  | _ => none

/-- A setter other than `setError` is not applied to a core in ERROR, and no
wait for READY reads the word of a core in ERROR, or of one in SHUTDOWN that was
never READY. -/
def Kept (s : State) : Action → Prop
  | .setInit c => s.sync.states c ≠ .error
  | .setReady c => s.sync.states c ≠ .error
  | .setShutdown c => s.sync.states c ≠ .error
  | .caller k => ∀ peerId ∈ (s.caller k).polled,
      s.sync.states peerId ≠ .error ∧
        (s.sync.states peerId = .shutdown → s.wasReady peerId = true)
  | _ => True

instance (s : State) : ∀ a, Decidable (Kept s a)
  | .setInit _ => inferInstanceAs (Decidable (_ ≠ _))
  | .setReady _ => inferInstanceAs (Decidable (_ ≠ _))
  | .setShutdown _ => inferInstanceAs (Decidable (_ ≠ _))
  | .caller k => inferInstanceAs (Decidable (∀ peerId ∈ (s.caller k).polled, _))
  | .setError _ _ => inferInstanceAs (Decidable True)
  | .reset => inferInstanceAs (Decidable True)
  | .waitForCore _ _ _ _ _ => inferInstanceAs (Decidable True)
  | .anyError _ => inferInstanceAs (Decidable True)

def Caller.Pending (n : ℕ) (marked : ℕ → Bool) : Caller → Prop
  | .idle => True
  | .waitForCore _ _ _ _ place => ∀ result, place ≠ .returned result
  | .anyError was i => was = true → ∃ c < n, i ≤ c ∧ marked c = true

structure Inv (n : ℕ) (s : State) : Prop where
  marked : ∀ c, s.marked c = true → s.sync.states c = .error
  wasReady : ∀ c, s.sync.states c = .ready → s.wasReady c = true
  pending : ∀ k, (s.caller k).Pending n s.marked
  sound : Sound s

section Steps

variable (n : ℕ)

theorem boot_inv (errorHandler : Bool) : Inv n (boot errorHandler) := by
  constructor
  · intro c h
    cases h
  · intro c h
    cases h
  · intro k
    trivial
  · constructor
    · intro peerId seen wasReady h
      cases h
    · intro result h
      cases h

theorem store_inv (s : State) (c : ℕ) (state : CoreState) (wasReady : ℕ → Bool)
    (hc : s.sync.states c ≠ .error) (hkeep : ∀ d, s.wasReady d = true → wasReady d = true)
    (hready : state = .ready → wasReady c = true) (h : Inv n s) :
    Inv n { s with
      sync := s.sync.store c state
      wasReady := wasReady } := by
  constructor
  · intro d hd
    have hdc : d ≠ c := by
      intro heq
      apply hc
      rw [← heq]
      exact h.marked d hd
    simpa [hdc] using h.marked d hd
  · intro d hd
    by_cases hdc : d = c
    · subst hdc
      apply hready
      simpa using hd
    · apply hkeep
      apply h.wasReady
      simpa [hdc] using hd
  · exact h.pending
  · exact ⟨h.sound.ready, h.sound.reported⟩

theorem pending_mono (marked marked' : ℕ → Bool) (caller : Caller)
    (hmono : ∀ c, marked c = true → marked' c = true) (h : caller.Pending n marked) :
    caller.Pending n marked' := by
  cases caller with
  | idle => trivial
  | waitForCore peerId target timeoutMs pollIntervalMs place => exact h
  | anyError was i =>
    intro hwas
    obtain ⟨c, hc, hi, hm⟩ := h hwas
    exact ⟨c, hc, hi, hmono c hm⟩

theorem setError_inv (s : State) (c : ℕ) (reason : String) (h : Inv n s) :
    Inv n { s with
      sync := s.sync.setError c reason
      marked := Function.update s.marked c true } := by
  have hmono : ∀ d, s.marked d = true → Function.update s.marked c true d = true := by
    intro d hd
    by_cases hdc : d = c
    · simp [hdc]
    · simpa [hdc] using hd
  constructor
  · intro d hd
    by_cases hdc : d = c
    · simp [hdc]
    · simp only [Function.update_of_ne hdc] at hd
      simpa [hdc] using h.marked d hd
  · intro d hd
    by_cases hdc : d = c
    · simp [hdc] at hd
    · apply h.wasReady
      simpa [hdc] using hd
  · intro k
    exact pending_mono n _ _ _ hmono (h.pending k)
  · exact ⟨h.sound.ready, h.sound.reported⟩

theorem reset_inv (s : State) (h : Inv n s) : Inv n (step n s .reset) := by
  constructor
  · intro c hc
    cases hc
  · intro c hc
    cases hc
  · intro k
    show ((s.caller k).reset).Pending n _
    have hk := h.pending k
    cases hcall : s.caller k with
    | idle => trivial
    | waitForCore peerId target timeoutMs pollIntervalMs place =>
      rw [hcall] at hk
      exact hk
    | anyError was i =>
      intro hwas
      cases hwas
  · exact ⟨h.sound.ready, h.sound.reported⟩

theorem goto_inv (s : State) (k : ℕ) (caller : Caller) (hp : caller.Pending n s.marked)
    (h : Inv n s) : Inv n (s.goto k caller) := by
  constructor
  · exact h.marked
  · exact h.wasReady
  · intro j
    show (Function.update s.caller k caller j).Pending n s.marked
    by_cases hjk : j = k
    · simpa [hjk] using hp
    · simpa [hjk] using h.pending j
  · exact ⟨h.sound.ready, h.sound.reported⟩

theorem answer_inv (s : State) (k : ℕ) (answer : Answer)
    (hready : ∀ peerId seen wasReady, answer = .waited peerId .ready seen wasReady →
      seen ≠ .error ∧ wasReady = true)
    (hreported : ∀ result, answer = .anyError true result → result = true) (h : Inv n s) :
    Inv n ({ s with answers := s.answers ++ [answer] }.goto k .idle) := by
  apply goto_inv
  · trivial
  constructor
  · exact h.marked
  · exact h.wasReady
  · exact h.pending
  · constructor
    · intro peerId seen wasReady hmem
      rcases List.mem_append.mp hmem with hmem | hmem
      · exact h.sound.ready peerId seen wasReady hmem
      · exact hready peerId seen wasReady (List.mem_singleton.mp hmem).symm
    · intro result hmem
      rcases List.mem_append.mp hmem with hmem | hmem
      · exact h.sound.reported result hmem
      · exact hreported result (List.mem_singleton.mp hmem).symm

theorem wait_satisfied (peerId : ℕ) (target : CoreState) (timeoutMs pollIntervalMs : UInt32)
    (m : Sync) (place : WaitForCore) (hplace : ∀ result, place ≠ .returned result)
    (h : waitForCoreStep peerId target timeoutMs pollIntervalMs m place = .returned true) :
    (∃ elapsed, place = .load elapsed) ∧ (m.states peerId).value ≥ target.value := by
  cases place with
  | timeTest elapsed =>
    simp only [waitForCoreStep] at h
    split at h <;> simp at h
  | load elapsed =>
    refine ⟨⟨elapsed, rfl⟩, ?_⟩
    by_contra hlt
    simp [waitForCoreStep, hlt] at h
  | pollDelay elapsed => simp [waitForCoreStep] at h
  | returned result => exact absurd rfl (hplace result)

theorem ready_exceeded (state : CoreState) (h : state.value ≥ CoreState.ready.value)
    (herror : state ≠ .error) : state = .ready ∨ state = .shutdown := by
  revert h herror
  cases state <;> decide

theorem stepWait_inv (s : State) (k peerId : ℕ) (target : CoreState)
    (timeoutMs pollIntervalMs : UInt32) (place : WaitForCore)
    (hk : s.caller k = .waitForCore peerId target timeoutMs pollIntervalMs place)
    (hkept : Kept s (.caller k)) (h : Inv n s) : Inv n (stepCaller n s k) := by
  have hplace : ∀ result, place ≠ .returned result := by
    have hpending := h.pending k
    rw [hk] at hpending
    exact hpending
  simp only [stepCaller, hk]
  split
  · next hnext =>
    apply answer_inv n s k _ _ _ h
    · intro peer seen wasReady heq
      cases heq
      obtain ⟨⟨elapsed, rfl⟩, hreach⟩ := wait_satisfied _ _ _ _ _ _ hplace hnext
      have hkeep := hkept peerId (by simp [hk, Caller.polled])
      refine ⟨hkeep.1, ?_⟩
      rcases ready_exceeded _ hreach hkeep.1 with hw | hw
      · exact h.wasReady peerId hw
      · exact hkeep.2 hw
    · intro result heq
      cases heq
  · exact goto_inv n s k .idle trivial h
  · next htrue hfalse =>
    apply goto_inv n s k _ _ h
    intro result heq
    cases result with
    | true => exact htrue heq
    | false => exact hfalse heq

theorem stepAsk_inv (s : State) (k i : ℕ) (was : Bool) (hk : s.caller k = .anyError was i)
    (h : Inv n s) : Inv n (stepCaller n s k) := by
  have hpending : was = true → ∃ c < n, i ≤ c ∧ s.marked c = true := by
    have hpending := h.pending k
    rw [hk] at hpending
    exact hpending
  simp only [stepCaller, hk, anyErrorStep]
  by_cases hi : i < n
  · by_cases he : s.sync.states i = .error
    · simp only [hi, he, if_true]
      apply answer_inv n s k _ _ _ h
      · intro peerId seen wasReady heq
        cases heq
      · intro result heq
        cases heq
        rfl
    · simp only [hi, he, if_true, if_false]
      apply goto_inv n s k _ _ h
      intro hwas
      obtain ⟨c, hc, hle, hm⟩ := hpending hwas
      refine ⟨c, hc, ?_, hm⟩
      -- The word just read is not ERROR, so the marked core is another one.
      apply Nat.lt_of_le_of_ne hle
      intro hic
      apply he
      rw [hic]
      exact h.marked c hm
  · simp only [hi, if_false]
    apply answer_inv n s k _ _ _ h
    · intro peerId seen wasReady heq
      cases heq
    · intro result heq
      cases heq
      obtain ⟨c, hc, hle, -⟩ := hpending rfl
      omega

theorem step_inv (s : State) (a : Action) (hkept : Kept s a) (h : Inv n s) :
    Inv n (step n s a) := by
  cases a with
  | setInit c =>
    simp only [step]
    split
    · exact store_inv n s c .init s.wasReady hkept (fun _ hd => hd) (by simp) h
    · exact h
  | setReady c =>
    simp only [step]
    split
    · apply store_inv n s c .ready _ hkept _ (by simp) h
      intro d hd
      by_cases hdc : d = c
      · simp [hdc]
      · simpa [hdc] using hd
    · exact h
  | setError c reason =>
    simp only [step]
    split
    · exact setError_inv n s c reason h
    · exact h
  | setShutdown c =>
    simp only [step]
    split
    · exact store_inv n s c .shutdown s.wasReady hkept (fun _ hd => hd) (by simp) h
    · exact h
  | reset => exact reset_inv n s h
  | waitForCore k peerId target timeoutMs pollIntervalMs =>
    simp only [step]
    split
    · apply goto_inv n s k _ _ h
      intro result heq
      cases heq
    · exact h
  | anyError k =>
    apply goto_inv n s k _ _ h
    intro hany
    obtain ⟨c, hc, hm⟩ := List.any_eq_true.mp hany
    exact ⟨c, List.mem_range.mp hc, Nat.zero_le c, hm⟩
  | caller k =>
    show Inv n (stepCaller n s k)
    cases hk : s.caller k with
    | idle =>
      simp only [stepCaller, hk]
      exact h
    | waitForCore peerId target timeoutMs pollIntervalMs place =>
      exact stepWait_inv n s k peerId target timeoutMs pollIntervalMs place hk hkept h
    | anyError was i => exact stepAsk_inv n s k i was hk h

/-- In a history in which no mark is overwritten and no wait reads the word of
a core that failed or left without being READY, every answer is sound. -/
theorem errors_kept (errorHandler : Bool) (as : List Action)
    (hkept : Along (step n) Kept (boot errorHandler) as) :
    Sound (run (step n) (boot errorHandler) as) :=
  (run_along (step n) (Inv n) Kept (fun s a hk h => step_inv n s a hk h) _
    (boot_inv n errorHandler) as hkept).sound

end Steps

def orderly : List Action :=
  [.setInit 0, .setInit 1, .waitForCore 0 1 .ready 5 1, .caller 0, .caller 0, .caller 0,
    .setReady 1, .caller 0, .caller 0, .setError 1 "CommsTask validation failed", .anyError 0,
    .caller 0, .caller 0]

theorem errors_kept_orderly : Sound (run (step 2) (boot true) orderly) :=
  errors_kept 2 true orderly (by decide +kernel)

def failing : List Action :=
  [.setInit 0, .setInit 1, .setError 1 "CommsTask validation failed",
    .waitForCore 0 1 .ready 5 1, .caller 0, .caller 0, .setShutdown 1, .anyError 0, .caller 0,
    .caller 0, .caller 0]

/-- The wait takes ERROR for READY, and behind the shutdown the query that began
with a marked core finds none. -/
theorem error_taken_for_ready :
    ¬ Sound (run (step 2) (boot true) failing) ∧
      .waited 1 .ready .error false ∈ (run (step 2) (boot true) failing).answers ∧
      .anyError true false ∈ (run (step 2) (boot true) failing).answers := by
  have hwaited : Answer.waited 1 .ready .error false ∈
      (run (step 2) (boot true) failing).answers := by decide +kernel
  have hmissed : Answer.anyError true false ∈
      (run (step 2) (boot true) failing).answers := by decide +kernel
  refine ⟨?_, hwaited, hmissed⟩
  intro h
  exact (h.ready 1 .error false hwaited).1 rfl

end SputterOS.CoreErrors
