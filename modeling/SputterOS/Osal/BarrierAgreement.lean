import SputterOS.Foundation.Transition
import SputterOS.Osal.MultiCoreSync

/-!
# Agreement of the startup barriers

The cores call `startupBarrier` and go on to `shutdownBarrier` whatever it has
returned. What they do in between touches no word. A core that gives up takes
back a READY that its peers may have read already.
-/

set_option autoImplicit false

namespace SputterOS.BarrierAgreement
open SputterOS.MultiCoreSync Foundation.Transition

inductive Place where
  | idle
  | startup (b : StartupBarrier)
  | shutdown (result : Bool) (b : ShutdownBarrier)
  deriving DecidableEq, Repr

def Place.result : Place → Option Bool
  | .startup (.returned result) => some result
  | .shutdown result _ => some result
  | _ => none

structure Limits where
  timeoutMs : UInt32
  pollIntervalMs : UInt32

structure State where
  sync : Sync
  place : ℕ → Place

inductive Action where
  | setInit (c : ℕ)
  | startupBarrier (c : ℕ)
  | shutdownBarrier (c : ℕ)
  | core (c : ℕ)
  deriving DecidableEq, Repr

def boot (errorHandler : Bool) : State := ⟨.new errorHandler, fun _ => .idle⟩

def State.goto (s : State) (c : ℕ) (m : Sync) (place : Place) : State :=
  ⟨m, Function.update s.place c place⟩

def stepCore (n : ℕ) (startup shutdown : ℕ → Limits) (s : State) (c : ℕ) : State :=
  match s.place c with
  | .idle => s
  | .startup b =>
    let r := startupBarrierStep n (startup c).timeoutMs (startup c).pollIntervalMs c s.sync b
    s.goto c r.1 (.startup r.2)
  | .shutdown result b =>
    let r := shutdownBarrierStep n (shutdown c).timeoutMs (shutdown c).pollIntervalMs c s.sync b
    s.goto c r.1 (.shutdown result r.2)

def step (n : ℕ) (startup shutdown : ℕ → Limits) (s : State) : Action → State
  | .setInit c =>
    if c < n ∧ s.place c = .idle then s.goto c (s.sync.setInit c) .idle else s
  | .startupBarrier c =>
    if c < n ∧ s.place c = .idle then s.goto c s.sync (.startup .setReady) else s
  | .shutdownBarrier c =>
    match s.place c with
    | .startup (.returned result) =>
      if c < n then s.goto c s.sync (.shutdown result .setShutdown) else s
    | _ => s
  | .core c => if c < n then stepCore n startup shutdown s c else s

/-- If the barrier returned true on one core it returned false on none. -/
def Agreement (n : ℕ) (s : State) : Prop :=
  ∀ c < n, ∀ d < n, (s.place c).result = some true → (s.place d).result ≠ some false

def Place.accepts (t : ℕ) : Place → Bool
  | .startup (.allReady _ i) => t < i
  | place => place.result = some true

/-- A core that has reached its time limit writes ERROR only while the scan of
no core has gone past its word. -/
def Unaccepted (n : ℕ) (s : State) : Action → Prop
  | .core c => s.place c = .startup .timedOut → ∀ d < n, (s.place d).accepts c = false
  | _ => True

instance (n : ℕ) (s : State) : ∀ a, Decidable (Unaccepted n s a)
  | .core c => inferInstanceAs (Decidable (s.place c = .startup .timedOut → _))
  | .setInit _ => inferInstanceAs (Decidable True)
  | .startupBarrier _ => inferInstanceAs (Decidable True)
  | .shutdownBarrier _ => inferInstanceAs (Decidable True)

def Unfailed (s : State) : Prop :=
  ∀ c, s.sync.states c ≠ .error ∧ s.place c ≠ .startup .peerError ∧
    (s.place c).result ≠ some false

structure Blocked (n : ℕ) (s : State) (t : ℕ) : Prop where
  lt : t < n
  word : s.sync.states t ≠ .ready
  failed : (s.place t).result = some false
  scans : ∀ d < n, (s.place d).accepts t = false

section Steps

variable (n : ℕ) (startup shutdown : ℕ → Limits)

theorem accepts_passed (t : ℕ) (place : Place) (h : place.result = some true) :
    place.accepts t = true := by
  cases place with
  | idle => cases h
  | startup b =>
    cases b with
    | returned result => simpa [Place.accepts] using h
    | _ => cases h
  | shutdown result b => simpa [Place.accepts] using h

theorem blocked_agreement (s : State) (t : ℕ) (h : Blocked n s t) : Agreement n s := by
  intro c hc d hd hpass
  have hscan := h.scans c hc
  rw [accepts_passed t _ hpass] at hscan
  cases hscan

theorem unfailed_agreement (s : State) (h : Unfailed s) : Agreement n s := by
  intro c hc d hd hpass
  exact (h d).2.2

theorem goto_blocked (s : State) (t c : ℕ) (m : Sync) (place : Place) (h : Blocked n s t)
    (hm : ∀ d, d ≠ c → m.states d = s.sync.states d)
    (hword : c = t → m.states t ≠ .ready) (hfailed : c = t → place.result = some false)
    (hscan : place.accepts t = false) : Blocked n (s.goto c m place) t := by
  constructor
  · exact h.lt
  · show m.states t ≠ .ready
    by_cases hc : c = t
    · exact hword hc
    · rw [hm t (Ne.symm hc)]
      exact h.word
  · show (Function.update s.place c place t).result = some false
    by_cases hc : c = t
    · simpa [hc] using hfailed hc
    · rw [Function.update_of_ne (Ne.symm hc)]
      exact h.failed
  · intro d hd
    show (Function.update s.place c place d).accepts t = false
    by_cases hdc : d = c
    · simpa [hdc] using hscan
    · rw [Function.update_of_ne hdc]
      exact h.scans d hd

theorem goto_unfailed (s : State) (c : ℕ) (m : Sync) (place : Place) (h : Unfailed s)
    (hm : ∀ d, d ≠ c → m.states d = s.sync.states d) (hword : m.states c ≠ .error)
    (herror : place ≠ .startup .peerError) (hresult : place.result ≠ some false) :
    Unfailed (s.goto c m place) := by
  intro d
  show m.states d ≠ .error ∧ Function.update s.place c place d ≠ .startup .peerError ∧
    (Function.update s.place c place d).result ≠ some false
  by_cases hdc : d = c
  · subst hdc
    simpa using ⟨hword, herror, hresult⟩
  · rw [hm d hdc, Function.update_of_ne hdc]
    exact h d

theorem update_frame (m : Sync) (c : ℕ) (state : CoreState) :
    ∀ d, d ≠ c → Function.update m.states c state d = m.states d := by
  intro d hd
  exact Function.update_of_ne hd _ _

theorem startup_frame (timeoutMs pollIntervalMs : UInt32) (c : ℕ) (m m' : Sync)
    (b b' : StartupBarrier) (h : StartupMove n timeoutMs pollIntervalMs c m b m' b') :
    ∀ d, d ≠ c → m'.states d = m.states d := by
  cases h with
  | arrive => exact update_frame m c .ready
  | follow => exact update_frame m c .error
  | fail => exact update_frame m c .error
  | _ => exact fun _ _ => rfl

theorem startup_scans (timeoutMs pollIntervalMs : UInt32) (c t : ℕ) (m m' : Sync)
    (b b' : StartupBarrier) (h : StartupMove n timeoutMs pollIntervalMs c m b m' b') (ht : t < n)
    (hword : m.states t ≠ .ready) (hscan : Place.accepts t (.startup b) = false) :
    Place.accepts t (.startup b') = false := by
  cases h with
  | seeReady elapsed i hi hr =>
    have hit : i ≠ t := by
      intro heq
      apply hword
      rw [← heq]
      exact hr
    simp only [Place.accepts, decide_eq_false_iff_not] at hscan ⊢
    omega
  | pass elapsed i hi =>
    simp only [Place.accepts, decide_eq_false_iff_not] at hscan
    omega
  | done result => exact hscan
  | _ => simp [Place.accepts, Place.result]

theorem startup_blocked (s : State) (t c : ℕ) (timeoutMs pollIntervalMs : UInt32) (m : Sync)
    (b b' : StartupBarrier) (hc : s.place c = .startup b) (hn : c < n)
    (hmove : StartupMove n timeoutMs pollIntervalMs c s.sync b m b') (h : Blocked n s t) :
    Blocked n (s.goto c m (.startup b')) t := by
  have hscan : Place.accepts t (.startup b) = false := by
    rw [← hc]
    exact h.scans c hn
  have hdone : c = t → b = .returned false := by
    intro heq
    have hfailed := h.failed
    rw [← heq, hc] at hfailed
    cases b with
    | returned result =>
      cases hfailed
      rfl
    | _ => cases hfailed
  apply goto_blocked n s t c m _ h
  · exact startup_frame n timeoutMs pollIntervalMs c s.sync m b b' hmove
  · intro heq
    rw [hdone heq] at hmove
    cases hmove
    exact h.word
  · intro heq
    rw [hdone heq] at hmove
    cases hmove
    rfl
  · exact startup_scans n timeoutMs pollIntervalMs c t s.sync m b b' hmove h.lt h.word hscan

theorem fail_blocked (s : State) (c : ℕ) (hn : c < n)
    (hscans : ∀ d < n, (s.place d).accepts c = false) :
    Blocked n (s.goto c (s.sync.setError c "Startup barrier timeout")
      (.startup (.returned false))) c := by
  constructor
  · exact hn
  · simp [State.goto]
  · simp [State.goto, Place.result]
  · intro d hd
    show (Function.update s.place c _ d).accepts c = false
    by_cases hdc : d = c
    · simp [hdc, Place.accepts, Place.result]
    · rw [Function.update_of_ne hdc]
      exact hscans d hd

theorem startup_unfailed (s : State) (c : ℕ) (timeoutMs pollIntervalMs : UInt32) (m : Sync)
    (b b' : StartupBarrier) (hc : s.place c = .startup b) (hn : c < n)
    (hmove : StartupMove n timeoutMs pollIntervalMs c s.sync b m b')
    (hscans : b = .timedOut → ∀ d < n, (s.place d).accepts c = false) (h : Unfailed s) :
    Unfailed (s.goto c m (.startup b')) ∨ ∃ t, Blocked n (s.goto c m (.startup b')) t := by
  have hframe := startup_frame n timeoutMs pollIntervalMs c s.sync m b b' hmove
  have hplace := (h c).2
  rw [hc] at hplace
  cases hmove with
  | fail => exact Or.inr ⟨c, fail_blocked n s c hn (hscans rfl)⟩
  | follow => exact absurd rfl hplace.1
  | seeError elapsed i hi he => exact absurd he (h i).1
  | arrive =>
    left
    apply goto_unfailed s c _ _ h hframe
    · simp
    · simp
    · simp [Place.result]
  | done result =>
    left
    exact goto_unfailed s c _ _ h hframe (h c).1 hplace.1 hplace.2
  | _ =>
    left
    apply goto_unfailed s c _ _ h hframe (h c).1
    · simp
    · simp [Place.result]

def Inv (s : State) : Prop := Unfailed s ∨ ∃ t, Blocked n s t

theorem idle_inv (s : State) (c : ℕ) (m : Sync) (place : Place) (hc : s.place c = .idle)
    (hm : ∀ d, d ≠ c → m.states d = s.sync.states d)
    (hword : s.sync.states c ≠ .error → m.states c ≠ .error)
    (hplace : place = .idle ∨ place = .startup .setReady) (h : Inv n s) :
    Inv n (s.goto c m place) := by
  rcases h with h | ⟨t, h⟩
  · left
    apply goto_unfailed s c m place h hm (hword (h c).1)
    · rcases hplace with rfl | rfl <;> simp
    · rcases hplace with rfl | rfl <;> simp [Place.result]
  · right
    have hct : c ≠ t := by
      intro heq
      have hfailed := h.failed
      rw [← heq, hc] at hfailed
      cases hfailed
    refine ⟨t, goto_blocked n s t c m place h hm (absurd · hct) (absurd · hct) ?_⟩
    rcases hplace with rfl | rfl <;> simp [Place.accepts, Place.result]

/-- Behind the startup barrier its result does not change, and no word becomes
READY or ERROR. -/
theorem shutdown_inv (s : State) (c : ℕ) (m : Sync) (result : Bool) (b : ShutdownBarrier)
    (hc : (s.place c).result = some result) (hn : c < n)
    (hm : m.states = s.sync.states ∨ m.states = Function.update s.sync.states c .shutdown)
    (h : Inv n s) : Inv n (s.goto c m (.shutdown result b)) := by
  have hframe : ∀ d, d ≠ c → m.states d = s.sync.states d := by
    intro d hd
    rcases hm with hm | hm <;> simp [hm, hd]
  rcases h with h | ⟨t, h⟩
  · left
    apply goto_unfailed s c m _ h hframe
    · rcases hm with hm | hm
      · rw [hm]
        exact (h c).1
      · simp [hm]
    · simp
    · have hcore := (h c).2.2
      rw [hc] at hcore
      exact hcore
  · right
    refine ⟨t, goto_blocked n s t c m _ h hframe ?_ ?_ ?_⟩
    · intro heq
      rcases hm with hm | hm
      · rw [hm]
        exact h.word
      · simp [hm, heq]
    · intro heq
      rw [heq, h.failed] at hc
      exact hc.symm
    · cases hresult : result with
      | false => simp [Place.accepts, Place.result]
      | true =>
        have hscan := h.scans c hn
        rw [accepts_passed t _ (hresult ▸ hc)] at hscan
        cases hscan

theorem stepCore_inv (s : State) (c : ℕ) (hn : c < n)
    (hscans : s.place c = .startup .timedOut → ∀ d < n, (s.place d).accepts c = false)
    (h : Inv n s) : Inv n (stepCore n startup shutdown s c) := by
  unfold stepCore
  split
  · exact h
  · next b hc =>
    have hmove := startupBarrierStep_move n (startup c).timeoutMs (startup c).pollIntervalMs c
      s.sync b
    rcases h with h | ⟨t, h⟩
    · apply startup_unfailed n s c _ _ _ b _ hc hn hmove _ h
      intro hb
      apply hscans
      rw [hc, hb]
    · exact Or.inr ⟨t, startup_blocked n s t c _ _ _ b _ hc hn hmove h⟩
  · next result b hc =>
    apply shutdown_inv n s c _ result _ _ hn _ h
    · rw [hc]
      rfl
    · exact shutdownBarrierStep_states n _ _ c s.sync b

theorem step_inv (s : State) (a : Action) (ha : Unaccepted n s a) (h : Inv n s) :
    Inv n (step n startup shutdown s a) := by
  cases a with
  | setInit c =>
    simp only [step]
    split
    · next hc =>
      apply idle_inv n s c _ _ hc.2 (update_frame s.sync c .init) _ (Or.inl rfl) h
      simp
    · exact h
  | startupBarrier c =>
    simp only [step]
    split
    · next hc => exact idle_inv n s c _ _ hc.2 (fun _ _ => rfl) id (Or.inr rfl) h
    · exact h
  | shutdownBarrier c =>
    simp only [step]
    split
    · next result hc =>
      split
      · next hn =>
        apply shutdown_inv n s c _ result _ _ hn (Or.inl rfl) h
        rw [hc]
        rfl
      · exact h
    · exact h
  | core c =>
    simp only [step]
    split
    · next hn => exact stepCore_inv n startup shutdown s c hn ha h
    · exact h

theorem boot_inv (errorHandler : Bool) : Inv n (boot errorHandler) := by
  left
  intro c
  refine ⟨?_, ?_, ?_⟩
  · simp [boot, Sync.new]
  · simp [boot]
  · simp [boot, Place.result]

/-- The barriers agree in every run in which no core gives up behind the back of
a core that has already taken it for READY. -/
theorem barriers_agree (errorHandler : Bool) (as : List Action)
    (has : Along (step n startup shutdown) (Unaccepted n) (boot errorHandler) as) :
    Agreement n (run (step n startup shutdown) (boot errorHandler) as) := by
  rcases run_along (step n startup shutdown) (Inv n) (Unaccepted n)
    (fun s a ha h => step_inv n startup shutdown s a ha h) _ (boot_inv n errorHandler) as has
    with h | ⟨t, h⟩
  · exact unfailed_agreement n _ h
  · exact blocked_agreement n _ t h

end Steps

def twice : ℕ → Limits := fun _ => ⟨2, 1⟩

def together : List Action :=
  [Action.setInit 0, Action.startupBarrier 0, Action.core 0, Action.core 0, Action.setInit 1,
      Action.startupBarrier 1] ++
    List.replicate 8 (Action.core 1) ++ List.replicate 8 (Action.core 0) ++
    [Action.shutdownBarrier 1, Action.core 1]

theorem barriers_agree_together :
    Agreement 2 (run (step 2 twice twice) (boot true) together) :=
  barriers_agree 2 twice twice true together (by decide +kernel)

def overtaken : List Action :=
  [Action.setInit 0, Action.startupBarrier 0] ++ List.replicate 8 (Action.core 0) ++
    [Action.setInit 1, Action.startupBarrier 1] ++ List.replicate 8 (Action.core 1) ++
    [Action.shutdownBarrier 1, Action.core 1] ++ List.replicate 10 (Action.core 0)

theorem passed_and_failed :
    ¬ ∀ as, Agreement 2 (run (step 2 twice twice) (boot true) as) := by
  intro h
  exact h overtaken 1 (by decide) 0 (by decide) (by decide +kernel) (by decide +kernel)

end SputterOS.BarrierAgreement
