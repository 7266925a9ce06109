import SputterOS.Kernel.CoreRun

/-!
# The lifecycle of a run

The lifecycle state only moves forward, and the place of every core bounds it
from below. A transition that comes too late is rejected by the table.
-/

set_option autoImplicit false

namespace SputterOS.Lifecycle
open SputterOS.Kernel SputterOS.Builder SputterOS.CoreRun Foundation.Transition
open SputterOS.CrunchDispatcher (Dispatcher Loop Next loopStep loopStep_next abortEntry)

def value : KernelState → ℕ
  | .unconfigured => 0
  | .configured => 1
  | .initializing => 2
  | .running => 3
  | .suspending => 4
  | .suspended => 5
  | .aborting => 6
  | .aborted => 7
  | .shuttingDown => 8
  | .shutdown => 9

def lifecycle : List KernelState :=
  [.configured, .initializing, .running, .shuttingDown, .shutdown]

def upTo (state : KernelState) : List KernelState :=
  lifecycle.filter (fun k => value k ≤ value state)

section Cores

variable {ω β γ : Type*}

def floor : CorePc β γ → KernelState
  | .setInit => .configured
  | .initCheck => .configured
  | .configuredTest => .configured
  | .toInitializing => .configured
  | .init _ => .initializing
  | .inInit _ _ => .initializing
  | .initializingTest => .initializing
  | .toRunning => .initializing
  | .shuttingDownTest => .shuttingDown
  | .toShutdown => .shuttingDown
  | .shutdownBarrier _ => .shutdown
  | .returned => .shutdown
  | _ => .running

def pendingCrunch : Loop ℕ → ℕ
  | .stopTest _ => 1
  | .abortTest => 1
  | .readNow => 1
  | .kick _ => 1
  | .platformKick _ => 1
  | .readStart _ => 1
  | .crunch _ _ => 1
  | _ => 0

def pending : CorePc β γ → ℕ
  | .stopTest _ => 1
  | .tick => 1
  | .crunch loop => pendingCrunch loop
  | _ => 0

def visited (sys : System) (s : State ω β γ) : List KernelState :=
  sys.kernelState :: s.events.filterMap (fun e => e.2.state)

def starts (s : State ω β γ) (c : ℕ) : ℕ := s.events.countP (fun e => e.1 = c && e.2.isStart)

/-- What holds at any moment of any run. -/
structure Follows (cfg : Config) (crunchMaxOverruns : UInt32) (maxIterationUs : ℕ → UInt64)
    (sync : SyncType ω β γ) (sys : System) (s : State ω β γ) : Prop where
  edges : (visited sys s).IsChain (fun k k' => validTransition k k' = true)
  once : (visited sys s).Nodup
  current : (visited sys s).getLast? = some s.shared.kernelState
  moves : ∀ a, (step cfg crunchMaxOverruns maxIterationUs sync sys s a).shared.kernelState =
      s.shared.kernelState ∨
    validTransition s.shared.kernelState
      (step cfg crunchMaxOverruns maxIterationUs sync sys s a).shared.kernelState = true
  initialized : ∀ c, s.coreInitialized c = true →
    value .running ≤ value s.shared.kernelState
  stops : s.shared.kernelState = .shutdown → ∀ c bs,
    starts (run (step cfg crunchMaxOverruns maxIterationUs sync sys) s bs) c ≤ starts s c+1
  shutdown : ∀ c, s.core c = .returned → s.shared.kernelState = .shutdown

structure Advance (t t' : Turn ω β γ) : Prop where
  states : upTo t'.shared.kernelState =
    upTo t.shared.kernelState ++ t'.events.filterMap Event.state
  lifecycle : t'.shared.kernelState ∈ lifecycle
  le : value t.shared.kernelState ≤ value t'.shared.kernelState
  edge : t'.shared.kernelState = t.shared.kernelState ∨
    validTransition t.shared.kernelState t'.shared.kernelState = true

structure Placed (t : Turn ω β γ) : Prop where
  fresh : t.events = []
  lifecycle : t.shared.kernelState ∈ lifecycle
  floor : value (floor t.pc) ≤ value t.shared.kernelState
  initialized : t.coreInitialized = true → value .running ≤ value t.shared.kernelState

theorem advance_stay (t t' : Turn ω β γ) (h : t.shared.kernelState ∈ lifecycle)
    (hk : t'.shared.kernelState = t.shared.kernelState)
    (he : t'.events.filterMap Event.state = []) : Advance t t' := by
  constructor
  · rw [hk, he, List.append_nil]
  · rw [hk]
    exact h
  · rw [hk]
  · exact Or.inl hk

theorem transitionTo_advance (t : Turn ω β γ) (target : KernelState) (pc : CorePc β γ)
    (h : t.shared.kernelState ∈ lifecycle) (ht : target ∈ lifecycle.tail) :
    Advance t (t.transitionTo target pc) := by
  unfold Turn.transitionTo
  split
  · next hvalid =>
    have hnext : ∀ state ∈ lifecycle, ∀ target ∈ lifecycle.tail,
        validTransition state target = true →
          upTo target = upTo state ++ [target] ∧ value state ≤ value target := by
      decide
    have hstate := hnext _ h target ht hvalid
    exact ⟨hstate.1, List.mem_of_mem_tail ht, hstate.2, Or.inr hvalid⟩
  · exact advance_stay t _ h rfl rfl

theorem dispatcher_states (es : List (CrunchDispatcher.Event ℕ)) :
    (es.map Event.dispatcher).filterMap Event.state = [] := by
  induction es with
  | nil => rfl
  | cons e es ih => exact ih

theorem transitionTo_reached (t : Turn ω β γ) (before target : KernelState) (pc : CorePc β γ)
    (h : t.shared.kernelState ∈ lifecycle)
    (hfloor : value before ≤ value t.shared.kernelState)
    (hpair : (before, target) ∈ lifecycle.zip lifecycle.tail) :
    value target ≤ value (t.transitionTo target pc).shared.kernelState := by
  have hreach : ∀ state ∈ lifecycle, ∀ p ∈ lifecycle.zip lifecycle.tail,
      value p.1 ≤ value state → validTransition state p.2 = false → value p.2 ≤ value state := by
    decide
  unfold Turn.transitionTo
  split
  · exact le_refl _
  · next hvalid => exact hreach _ h _ hpair hfloor (by simpa using hvalid)

structure Settled (t t' : Turn ω β γ) : Prop where
  advance : Advance t t'
  floor : value (floor t'.pc) ≤ value t'.shared.kernelState
  initialized : t'.coreInitialized = true → value .running ≤ value t'.shared.kernelState

theorem settled_stay (t t' : Turn ω β γ) (h : Placed t)
    (hk : t'.shared.kernelState = t.shared.kernelState)
    (he : t'.events.filterMap Event.state = [])
    (hfloor : value (Lifecycle.floor t'.pc) ≤ value t.shared.kernelState)
    (hi : t'.coreInitialized = true → value .running ≤ value t.shared.kernelState) :
    Settled t t' := by
  constructor
  · exact advance_stay t t' h.lifecycle hk he
  · rw [hk]
    exact hfloor
  · rw [hk]
    exact hi

theorem transitionTo_coreInitialized (t : Turn ω β γ) (target : KernelState) (pc : CorePc β γ) :
    (t.transitionTo target pc).coreInitialized = t.coreInitialized := by
  unfold Turn.transitionTo
  split <;> rfl

theorem transitionTo_pc (t : Turn ω β γ) (target : KernelState) (pc : CorePc β γ) :
    (t.transitionTo target pc).pc = pc := by
  unfold Turn.transitionTo
  split <;> rfl

theorem settled_transition (t : Turn ω β γ) (before target : KernelState) (pc : CorePc β γ)
    (h : Placed t) (hbefore : Lifecycle.floor t.pc = before)
    (hpair : (before, target) ∈ lifecycle.zip lifecycle.tail)
    (hpc : Lifecycle.floor pc = target) : Settled t (t.transitionTo target pc) := by
  have hadv := transitionTo_advance t target pc h.lifecycle (List.of_mem_zip hpair).2
  constructor
  · exact hadv
  · rw [transitionTo_pc, hpc]
    exact transitionTo_reached t before target pc h.lifecycle (hbefore ▸ h.floor) hpair
  · rw [transitionTo_coreInitialized]
    intro hi
    exact le_trans (h.initialized hi) hadv.le

theorem passed_test (state before target : KernelState) (h : state ∈ lifecycle)
    (hfloor : value before ≤ value state) (hne : state ≠ before)
    (hpair : (before, target) ∈ lifecycle.zip lifecycle.tail) : value target ≤ value state := by
  have hnext : ∀ state ∈ lifecycle, ∀ p ∈ lifecycle.zip lifecycle.tail,
      value p.1 ≤ value state → state ≠ p.1 → value p.2 ≤ value state := by
    decide
  exact hnext state h _ hpair hfloor hne

variable (crunchMaxOverruns : UInt32) (maxIterationUs : ℕ → UInt64) (sync : SyncType ω β γ)
  (sys : System) (c : ℕ)

theorem afterLoop_floor (loop : Loop ℕ) : floor (afterLoop loop : CorePc β γ) = .running := by
  cases loop <;> rfl

theorem coreStep_settled (t : Turn ω β γ) (h : Placed t) :
    Settled t (coreStep crunchMaxOverruns maxIterationUs sync sys c t) := by
  have hstay := fun t' => settled_stay t t' h
  have hlifecycle := h.lifecycle
  have hfloor := h.floor
  have hinit := h.initialized
  have hfresh := h.fresh
  obtain ⟨v, w, d, initialized, pc, es⟩ := t
  obtain rfl : es = [] := hfresh
  cases pc with
  | setInit => exact hstay _ rfl rfl hfloor hinit
  | initCheck =>
    cases initialized with
    | true => exact hstay _ rfl rfl (hinit rfl) hinit
    | false => exact hstay _ rfl rfl hfloor hinit
  | configuredTest =>
    simp only [coreStep]
    split
    · exact hstay _ rfl rfl hfloor hinit
    · next hv =>
      have hpassed := passed_test v.kernelState .configured .initializing hlifecycle
        hfloor hv (by decide)
      exact hstay _ rfl rfl hpassed hinit
  | toInitializing =>
    exact settled_transition _ .configured .initializing _ h rfl (by decide) rfl
  | init k =>
    simp only [coreStep]
    split
    · exact hstay _ rfl rfl hfloor hinit
    · exact hstay _ rfl rfl hfloor hinit
  | inInit k call => exact hstay _ rfl rfl hfloor hinit
  | initializingTest =>
    simp only [coreStep]
    split
    · exact hstay _ rfl rfl hfloor hinit
    · next hv =>
      have hpassed := passed_test v.kernelState .initializing .running hlifecycle
        hfloor hv (by decide)
      exact hstay _ rfl rfl hpassed hinit
  | toRunning =>
    exact settled_transition _ .initializing .running _ h rfl (by decide) rfl
  | markInit => exact hstay _ rfl rfl hfloor (fun _ => hfloor)
  | startupBarrier b =>
    simp only [coreStep]
    split
    · exact hstay _ rfl rfl hfloor hinit
    · exact hstay _ rfl rfl hfloor hinit
  | dispatch =>
    simp only [coreStep]
    split
    · exact hstay _ rfl rfl hfloor hinit
    · exact hstay _ rfl rfl hfloor hinit
  | configureTask task => exact hstay _ rfl rfl hfloor hinit
  | configureKick => exact hstay _ rfl rfl hfloor hinit
  | crunch loop =>
    refine hstay _ rfl (dispatcher_states _) ?_ hinit
    simp only [coreStep, afterLoop_floor]
    exact hfloor
  | kernelTest =>
    simp only [coreStep]
    split
    · exact hstay _ rfl rfl hfloor hinit
    · exact hstay _ rfl rfl hfloor hinit
  | stopTest i =>
    simp only [coreStep]
    split
    · exact hstay _ rfl rfl hfloor hinit
    · exact hstay _ rfl rfl hfloor hinit
    · exact hstay _ rfl rfl hfloor hinit
  | tick => exact hstay _ rfl rfl hfloor hinit
  | inTick => exact hstay _ rfl rfl hfloor hinit
  | runningTest =>
    simp only [coreStep]
    split
    · exact hstay _ rfl rfl hfloor hinit
    · next hv =>
      have hpassed := passed_test v.kernelState .running .shuttingDown hlifecycle
        hfloor hv (by decide)
      exact hstay _ rfl rfl hpassed hinit
  | toShuttingDown =>
    exact settled_transition _ .running .shuttingDown _ h rfl (by decide) rfl
  | shuttingDownTest =>
    simp only [coreStep]
    split
    · exact hstay _ rfl rfl hfloor hinit
    · next hv =>
      have hpassed := passed_test v.kernelState .shuttingDown .shutdown hlifecycle
        hfloor hv (by decide)
      exact hstay _ rfl rfl hpassed hinit
  | toShutdown =>
    exact settled_transition _ .shuttingDown .shutdown _ h rfl (by decide) rfl
  | shutdownBarrier b =>
    simp only [coreStep]
    split
    · exact hstay _ rfl rfl hfloor hinit
    · exact hstay _ rfl rfl hfloor hinit
  | returned => exact hstay _ rfl rfl hfloor hinit

structure Inv (s : State ω β γ) : Prop where
  lifecycle : s.shared.kernelState ∈ lifecycle
  floor : ∀ d, value (floor (s.core d)) ≤ value s.shared.kernelState
  initialized : ∀ d, s.coreInitialized d = true → value .running ≤ value s.shared.kernelState
  visited : visited sys s = upTo s.shared.kernelState

theorem turn_settled (s : State ω β γ) (h : Inv sys s) :
    Settled (s.turn c)
      (coreStep crunchMaxOverruns maxIterationUs sync sys c (s.turn c)) := by
  apply coreStep_settled
  constructor
  · rfl
  · exact h.lifecycle
  · exact h.floor c
  · exact h.initialized c

theorem put_visited (s : State ω β γ) (t : Turn ω β γ) :
    visited sys (s.put c t) = visited sys s ++ t.events.filterMap Event.state := by
  simp only [visited, State.put, List.filterMap_append, List.filterMap_map, List.cons_append]
  rfl

theorem put_inv (s : State ω β γ) (t : Turn ω β γ) (h : Inv sys s)
    (ht : Settled (s.turn c) t) : Inv sys (s.put c t) := by
  have hle : value s.shared.kernelState ≤ value t.shared.kernelState := ht.advance.le
  constructor
  · exact ht.advance.lifecycle
  · intro d
    apply put_core s c d t (fun _ pc => value (Lifecycle.floor pc) ≤ value t.shared.kernelState)
    · exact ht.floor
    · exact le_trans (h.floor d) hle
  · intro d
    apply put_coreInitialized s c d t (fun _ => value .running ≤ value t.shared.kernelState)
    · exact ht.initialized
    · intro hd
      exact le_trans (h.initialized d hd) hle
  · rw [put_visited, h.visited]
    exact ht.advance.states.symm

variable (cfg : Config)

theorem step_inv (s : State ω β γ) (a : Action) (h : Inv sys s) :
    Inv sys (step cfg crunchMaxOverruns maxIterationUs sync sys s a) := by
  cases a with
  | core c =>
    simp only [step]
    split
    · exact put_inv sys c s _ h (turn_settled crunchMaxOverruns maxIterationUs sync sys c s h)
    · exact h
  | input e =>
    have hk := external_kernelState s.shared e
    constructor
    · simpa only [step, hk] using h.lifecycle
    · simpa only [step, hk] using h.floor
    · simpa only [step, hk] using h.initialized
    · show visited sys s = upTo (s.shared.external e.external).kernelState
      rw [hk]
      exact h.visited

theorem boot_inv (hsys : sys.kernelState = .configured) (w : ω) (stopConditions : List Bool)
    (micros : UInt64) : Inv sys (boot sys w stopConditions micros : State ω β γ) := by
  have hk : (boot sys w stopConditions micros : State ω β γ).shared.kernelState = .configured :=
    hsys
  constructor
  · rw [hk]
    decide
  · intro d
    rw [hk]
    exact le_refl _
  · intro d hd
    cases hd
  · rw [hk]
    simp only [visited, boot, List.filterMap_nil, hsys]
    rfl

theorem next_pending (v : Shared) (hv : isActiveState v.kernelState = false)
    (d d' : Dispatcher ℕ) (task : ℕ) (l l' : Loop ℕ) (es : List (CrunchDispatcher.Event ℕ))
    (h : Next crunchMaxOverruns maxIterationUs c v d task l d' l' es) :
    es.countP CrunchDispatcher.Event.isCrunchBegin+pendingCrunch l' ≤ pendingCrunch l := by
  cases h with
  | active h => simp [hv] at h
  | platformKicked now => cases d.watchdogKick <;> exact le_refl _
  | abortLogged cause now => cases cause <;> exact le_refl _
  | overrun now elapsed hover => exact le_refl _
  | abortCalled cause now => exact le_refl _
  | _ => simp [pendingCrunch, CrunchDispatcher.Event.isCrunchBegin]

/-- A loop that finds the kernel inactive begins no iteration behind its test. -/
theorem loopStep_pending (v : Shared) (hv : isActiveState v.kernelState = false)
    (d : Dispatcher ℕ) (loop : Loop ℕ) :
    (loopStep crunchMaxOverruns maxIterationUs c v d loop).2.2.countP
        CrunchDispatcher.Event.isCrunchBegin+
      pendingCrunch (loopStep crunchMaxOverruns maxIterationUs c v d loop).2.1 ≤
        pendingCrunch loop := by
  cases hd : d.task with
  | none => simp [loopStep, hd]
  | some task =>
    exact next_pending crunchMaxOverruns maxIterationUs c v hv _ _ task _ _ _
      (loopStep_next crunchMaxOverruns maxIterationUs c v d loop task hd)

theorem afterLoop_pending (loop : Loop ℕ) :
    pending (afterLoop loop : CorePc β γ) = pendingCrunch loop := by
  cases loop <;> rfl

theorem dispatcher_starts (es : List (CrunchDispatcher.Event ℕ)) :
    (es.map Event.dispatcher).countP Event.isStart =
      es.countP CrunchDispatcher.Event.isCrunchBegin := by
  rw [List.countP_map]
  rfl

theorem transitionTo_starts (t : Turn ω β γ) (target : KernelState) (pc : CorePc β γ) :
    (t.transitionTo target pc).events.countP Event.isStart = 0 := by
  unfold Turn.transitionTo
  split <;> rfl

theorem coreStep_pending (t : Turn ω β γ) (he : t.events = [])
    (hv : isActiveState t.shared.kernelState = false) :
    (coreStep crunchMaxOverruns maxIterationUs sync sys c t).events.countP Event.isStart+
      pending (coreStep crunchMaxOverruns maxIterationUs sync sys c t).pc ≤ pending t.pc := by
  obtain ⟨v, w, d, initialized, pc, es⟩ := t
  obtain rfl : es = [] := he
  cases pc with
  | toInitializing => simp [coreStep, transitionTo_starts, transitionTo_pc, pending]
  | toRunning => simp [coreStep, transitionTo_starts, transitionTo_pc, pending]
  | toShuttingDown => simp [coreStep, transitionTo_starts, transitionTo_pc, pending]
  | toShutdown => simp [coreStep, transitionTo_starts, transitionTo_pc, pending]
  | crunch loop =>
    simp only [coreStep, dispatcher_starts, afterLoop_pending]
    exact loopStep_pending crunchMaxOverruns maxIterationUs c v hv d loop
  | kernelTest =>
    have hv : isActiveState v.kernelState = false := hv
    simp [coreStep, hv, pending]
  | initCheck => cases initialized <;> exact le_refl _
  | configuredTest =>
    simp only [coreStep]
    split <;> exact le_refl _
  | initializingTest =>
    simp only [coreStep]
    split <;> exact le_refl _
  | runningTest =>
    simp only [coreStep]
    split <;> exact le_refl _
  | shuttingDownTest =>
    simp only [coreStep]
    split <;> exact le_refl _
  | init k =>
    simp only [coreStep]
    split <;> exact le_refl _
  | startupBarrier b =>
    simp only [coreStep]
    split <;> exact le_refl _
  | shutdownBarrier b =>
    simp only [coreStep]
    split <;> exact le_refl _
  | dispatch =>
    simp only [coreStep]
    split <;> exact le_refl _
  | stopTest i =>
    simp only [coreStep]
    split <;> simp [pending]
  | tick => exact le_refl _
  | _ => exact le_refl _

theorem put_starts (s : State ω β γ) (d : ℕ) (t : Turn ω β γ) :
    starts (s.put c t) d =
      starts s d+if d = c then t.events.countP Event.isStart else 0 := by
  simp only [starts, State.put, List.countP_append, List.countP_map]
  congr 1
  by_cases hdc : d = c
  · subst hdc
    simp [Function.comp_def]
  · simp [Function.comp_def, hdc, Ne.symm hdc]

theorem step_stops (s : State ω β γ) (a : Action)
    (hv : s.shared.kernelState = .shutdown) (d : ℕ) :
    starts (step cfg crunchMaxOverruns maxIterationUs sync sys s a) d+
        pending ((step cfg crunchMaxOverruns maxIterationUs sync sys s a).core d) ≤
      starts s d+pending (s.core d) := by
  cases a with
  | input e => exact le_refl _
  | core c =>
    simp only [step]
    split
    · rw [put_starts]
      show _+pending (Function.update s.core c _ d) ≤ _
      by_cases hdc : d = c
      · subst hdc
        have hle := coreStep_pending crunchMaxOverruns maxIterationUs sync sys d (s.turn d) rfl
          (by simp [State.turn, hv, isActiveState])
        simp only [if_true, Function.update_self]
        have hpc : (s.turn d).pc = s.core d := rfl
        rw [hpc] at hle
        omega
      · simp [hdc]
    · exact le_refl _

theorem step_le (s : State ω β γ) (a : Action) (h : Inv sys s) :
    value s.shared.kernelState ≤
        value (step cfg crunchMaxOverruns maxIterationUs sync sys s a).shared.kernelState ∧
      ((step cfg crunchMaxOverruns maxIterationUs sync sys s a).shared.kernelState =
          s.shared.kernelState ∨
        validTransition s.shared.kernelState
          (step cfg crunchMaxOverruns maxIterationUs sync sys s a).shared.kernelState = true) := by
  cases a with
  | input e => simp [step]
  | core c =>
    simp only [step]
    split
    · have hadv := (turn_settled crunchMaxOverruns maxIterationUs sync sys c s h).advance
      exact ⟨hadv.le, hadv.edge⟩
    · exact ⟨le_refl _, Or.inl rfl⟩

theorem shutdown_last (state : KernelState) (h : value .shutdown ≤ value state) :
    state = .shutdown := by
  revert h
  cases state <;> decide

/-- Behind SHUTDOWN a core begins what it had tested for and nothing else. -/
theorem run_stops (s : State ω β γ) (h : Inv sys s) (hv : s.shared.kernelState = .shutdown)
    (d : ℕ) (bs : List Action) :
    starts (run (step cfg crunchMaxOverruns maxIterationUs sync sys) s bs) d ≤ starts s d+1 := by
  have hrun := run_preserves (step cfg crunchMaxOverruns maxIterationUs sync sys)
    (fun s' => Inv sys s' ∧ s'.shared.kernelState = .shutdown ∧
      starts s' d+pending (s'.core d) ≤ starts s d+pending (s.core d))
    (by
      intro s' a ⟨hi, hs, hle⟩
      refine ⟨step_inv crunchMaxOverruns maxIterationUs sync sys cfg s' a hi, ?_, ?_⟩
      · apply shutdown_last
        rw [← hs]
        exact (step_le crunchMaxOverruns maxIterationUs sync sys cfg s' a hi).1
      · exact le_trans (step_stops crunchMaxOverruns maxIterationUs sync sys cfg s' a hs d) hle)
    s ⟨h, hv, le_refl _⟩ bs
  have hone : pending (s.core d) ≤ 1 := by
    unfold pending pendingCrunch
    split <;> (try split) <;> omega
  omega

/-- From any accepted build the cores move the kernel along the transition
table, whatever the barriers return and however long anything takes. -/
theorem lifecycle_follows (user : UserTasks) (deps : Dependencies)
    (hstate : sys.kernelState = .unconfigured) (hbuild : (build cfg user deps sys).2 = none)
    (w : ω) (stopConditions : List Bool) (micros : UInt64) (as : List Action) :
    Follows cfg crunchMaxOverruns maxIterationUs sync (build cfg user deps sys).1
      (run (step cfg crunchMaxOverruns maxIterationUs sync (build cfg user deps sys).1)
        (boot (build cfg user deps sys).1 w stopConditions micros) as) := by
  have hconfigured := build_configured cfg user deps sys hstate hbuild
  generalize (build cfg user deps sys).1 = sys at *
  have hinv := run_preserves _ (Inv sys)
    (fun s a hi => step_inv crunchMaxOverruns maxIterationUs sync sys cfg s a hi) _
    (boot_inv sys hconfigured w stopConditions micros) as
  generalize run (step cfg crunchMaxOverruns maxIterationUs sync sys) _ as = s at hinv
  have hshape : ∀ state ∈ lifecycle,
      (upTo state).IsChain (fun k k' => validTransition k k' = true) ∧ (upTo state).Nodup ∧
        (upTo state).getLast? = some state := by
    decide
  have hupTo := hshape _ hinv.lifecycle
  rw [← hinv.visited] at hupTo
  constructor
  · exact hupTo.1
  · exact hupTo.2.1
  · exact hupTo.2.2
  · intro a
    exact (step_le crunchMaxOverruns maxIterationUs sync sys cfg s a hinv).2
  · exact hinv.initialized
  · intro hv c bs
    exact run_stops crunchMaxOverruns maxIterationUs sync sys cfg s hinv hv c bs
  · intro c hc
    apply shutdown_last
    have hfloor := hinv.floor c
    rw [hc] at hfloor
    exact hfloor

end Cores

def lateCore : List Action :=
  List.replicate 10 (Action.core 0) ++ List.replicate 8 (Action.core 1) ++
    [Action.input (.setStopCondition 0 true)] ++ List.replicate 40 (Action.core 0) ++
    List.replicate 40 (Action.core 1)

theorem lifecycle_follows_dualCore :
    Follows dualCore 10 (fun _ => 100) (syncType dualCore)
      (build dualCore plainTasks fullDependencies
        (declared dualCore [.addScheduledTask 1 5])).1
      (run (step dualCore 10 (fun _ => 100) (syncType dualCore)
          (build dualCore plainTasks fullDependencies
            (declared dualCore [.addScheduledTask 1 5])).1)
        (boot (build dualCore plainTasks fullDependencies
          (declared dualCore [.addScheduledTask 1 5])).1 (.new false) [false] 0) lateCore) :=
  lifecycle_follows 10 (fun _ => 100) (syncType dualCore) _ dualCore plainTasks fullDependencies
    (by decide) (by decide) (.new false) [false] 0 lateCore

end SputterOS.Lifecycle
