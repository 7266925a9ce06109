import SputterOS.Kernel.CoreRun

/-!
# Startup order

As long as no core waits until its time limit, the barrier holds every core back
until all have been initialized. A barrier that fails holds nobody back.
-/

set_option autoImplicit false

namespace SputterOS.StartupOrder
open SputterOS.Kernel SputterOS.Builder SputterOS.MultiCoreSync SputterOS.CoreRun
  Foundation.Transition
open SputterOS.CrunchDispatcher (Loop loopStep)

def Initialized (sys : System) (es : List (ℕ × Event)) (c : ℕ) : Prop :=
  ∀ call ∈ initCalls sys c, (c, Event.initEnd call) ∈ es

/-- Before the first tick or crunch iteration of any core all cores have been
initialized, and a core whose startup barrier failed begins none. -/
structure Ordered {ω β γ : Type*} (cfg : Config) (sys : System) (s : State ω β γ) : Prop where
  initialized : ∀ xs x ys, s.events = xs ++ x :: ys → x.2.isStart = true →
    ∀ d < cfg.kCoreCount, Initialized sys xs d
  halted : ∀ c, (c, Event.startupBarrier false) ∈ s.events → ∀ e, (c, e) ∈ s.events →
    e.isStart = false

def waited {γ : Type*} : CorePc StartupBarrier γ → Option UInt32
  | .startupBarrier (.timeTest elapsed) => some elapsed
  | _ => none

def InTime {ω γ : Type*} (s : State ω StartupBarrier γ) : Action → Prop
  | .core c => ∀ elapsed ∈ waited (s.core c), elapsed < 2000
  | .input _ => True

instance {ω γ : Type*} (s : State ω StartupBarrier γ) : ∀ a, Decidable (InTime s a)
  | .core c => @Option.decidableForallMem _ (· < 2000) _ (waited (s.core c))
  | .input _ => inferInstanceAs (Decidable True)

def Words (done : ℕ → Prop) (m : Sync) : Prop :=
  ∀ d, m.states d ≠ .error ∧ (m.states d = .ready → done d)

def Gate (n : ℕ) (done : ℕ → Prop) : StartupBarrier → Prop
  | .allReady _ i => ∀ d < i, done d
  | .peerError => False
  | .timedOut => False
  | .returned result => result = true ∧ ∀ d < n, done d
  | _ => True

section Barriers

variable (n : ℕ) (done : ℕ → Prop)

theorem words_update (m m' : Sync) (c : ℕ) (state : CoreState)
    (hm : m'.states = Function.update m.states c state) (herror : state ≠ .error)
    (hready : state = .ready → done c) (h : Words done m) : Words done m' := by
  intro d
  rw [hm]
  by_cases hdc : d = c
  · subst hdc
    simpa using ⟨herror, hready⟩
  · simpa [hdc] using h d

theorem words_congr (m m' : Sync) (hm : m'.states = m.states) (h : Words done m) :
    Words done m' := by
  intro d
  rw [hm]
  exact h d

/-- A barrier that is left before its time limit has seen every core READY. -/
theorem startup_gate (c : ℕ) (m m' : Sync) (b b' : StartupBarrier)
    (hmove : StartupMove n 2000 1 c m b m' b')
    (htime : ∀ elapsed, b = .timeTest elapsed → elapsed < 2000) (hc : done c)
    (hw : Words done m) (hg : Gate n done b) : Gate n done b' ∧ Words done m' := by
  cases hmove with
  | arrive => exact ⟨trivial, words_update done m _ c .ready rfl (by simp) (fun _ => hc) hw⟩
  | poll elapsed hlt => exact ⟨trivial, hw⟩
  | expire elapsed hlt => exact absurd (htime elapsed rfl) hlt
  | seeError elapsed i hi he => exact absurd he (hw i).1
  | seeNoError elapsed i hi he => exact ⟨trivial, hw⟩
  | noError elapsed i hi => exact ⟨fun d hd => absurd hd (Nat.not_lt_zero d), hw⟩
  | seeReady elapsed i hi hr =>
    refine ⟨?_, hw⟩
    intro d hd
    rcases Nat.lt_succ_iff_lt_or_eq.mp hd with hlt | heq
    · exact hg d hlt
    · rw [heq]
      exact (hw i).2 hr
  | seeNotReady elapsed i hi hr => exact ⟨trivial, hw⟩
  | pass elapsed i hi => exact ⟨⟨rfl, fun d hd => hg d (by omega)⟩, hw⟩
  | delay elapsed => exact ⟨trivial, hw⟩
  | follow => exact absurd hg id
  | fail => exact absurd hg id
  | done result => exact ⟨hg, hw⟩

variable (cfg : Config)

theorem syncType_setInit (c : ℕ) (m : Sync) (hw : Words done m) :
    Words done ((syncType cfg).setInit m c) := by
  unfold syncType
  split
  · exact words_update done m _ c .init rfl (by simp) (by simp) hw
  · exact hw

theorem syncType_startupCall (c : ℕ) (hn : c < cfg.kCoreCount) (hc : done c) :
    Gate cfg.kCoreCount done (syncType cfg).startupCall := by
  unfold syncType
  split
  · trivial
  · next hsingle =>
    refine ⟨rfl, ?_⟩
    intro d hd
    have hdc : d = c := by omega
    rw [hdc]
    exact hc

theorem syncType_startupResult : (syncType cfg).startupResult = startupResult := by
  unfold syncType
  split <;> rfl

theorem syncType_startupBarrier (c : ℕ) (m : Sync) (b : StartupBarrier)
    (htime : ∀ elapsed, b = .timeTest elapsed → elapsed < 2000) (hc : done c)
    (hw : Words done m) (hg : Gate cfg.kCoreCount done b) :
    Gate cfg.kCoreCount done ((syncType cfg).startupBarrier 2000 1 c m b).2 ∧
      Words done ((syncType cfg).startupBarrier 2000 1 c m b).1 := by
  unfold syncType
  split
  · exact startup_gate cfg.kCoreCount done c m _ b _
      (startupBarrierStep_move cfg.kCoreCount 2000 1 c m b) htime hc hw hg
  · exact ⟨hg, hw⟩

theorem syncType_shutdownBarrier (c : ℕ) (m : Sync) (b : ShutdownBarrier) (hw : Words done m) :
    Words done ((syncType cfg).shutdownBarrier 2000 1 c m b).1 := by
  unfold syncType
  split
  · rcases shutdownBarrierStep_states cfg.kCoreCount 2000 1 c m b with hm | hm
    · exact words_congr done m _ hm hw
    · exact words_update done m _ c .shutdown hm (by simp) (by simp) hw
  · exact hw

end Barriers

section Cores

variable (crunchMaxOverruns : UInt32) (maxIterationUs : ℕ → UInt64) (cfg : Config) (sys : System)

def Reached (n : ℕ) (sys : System) (es : List (ℕ × Event)) (c : ℕ) :
    CorePc StartupBarrier ShutdownBarrier → Prop
  | .setInit => True
  | .initCheck => True
  | .configuredTest => True
  | .toInitializing => True
  | .init k => ∀ call ∈ (initCalls sys c).take k, (c, Event.initEnd call) ∈ es
  | .inInit k call => (initCalls sys c)[k]? = some call ∧
      ∀ call ∈ (initCalls sys c).take k, (c, Event.initEnd call) ∈ es
  | .initializingTest => Initialized sys es c
  | .toRunning => Initialized sys es c
  | .markInit => Initialized sys es c
  | .startupBarrier b => Initialized sys es c ∧ Gate n (Initialized sys es) b
  | _ => ∀ d < n, Initialized sys es d

theorem initialized_mono (es es' : List (ℕ × Event)) (c : ℕ) (hmono : es ⊆ es')
    (h : Initialized sys es c) : Initialized sys es' c := fun call hcall => hmono (h call hcall)

theorem gate_mono (n : ℕ) (done done' : ℕ → Prop) (b : StartupBarrier)
    (hmono : ∀ d, done d → done' d) (h : Gate n done b) : Gate n done' b := by
  cases b with
  | allReady elapsed i => exact fun d hd => hmono d (h d hd)
  | returned result => exact ⟨h.1, fun d hd => hmono d (h.2 d hd)⟩
  | peerError => exact h
  | timedOut => exact h
  | _ => trivial

theorem reached_mono (n : ℕ) (es es' : List (ℕ × Event)) (c : ℕ)
    (pc : CorePc StartupBarrier ShutdownBarrier) (hmono : es ⊆ es') (h : Reached n sys es c pc) :
    Reached n sys es' c pc := by
  have hone := fun d => initialized_mono sys es es' d hmono
  cases pc with
  | setInit => trivial
  | initCheck => trivial
  | configuredTest => trivial
  | toInitializing => trivial
  | init k => exact fun call hcall => hmono (h call hcall)
  | inInit k call => exact ⟨h.1, fun call hcall => hmono (h.2 call hcall)⟩
  | initializingTest => exact hone c h
  | toRunning => exact hone c h
  | markInit => exact hone c h
  | startupBarrier b => exact ⟨hone c h.1, gate_mono n _ _ b hone h.2⟩
  | _ => exact fun d hd => hone d (h d hd)

structure Kept (es : List (ℕ × Event)) (c : ℕ)
    (t' : Turn Sync StartupBarrier ShutdownBarrier) : Prop where
  words : Words (Initialized sys es) t'.sync
  reached : Reached cfg.kCoreCount sys (es ++ t'.events.map (fun e => (c, e))) c t'.pc
  initialized : t'.coreInitialized = true → Initialized sys es c
  passed : Event.startupBarrier false ∉ t'.events
  starts : ∀ e ∈ t'.events, e.isStart = true → ∀ d < cfg.kCoreCount, Initialized sys es d

theorem kept_quiet (es : List (ℕ × Event)) (c : ℕ)
    (t' : Turn Sync StartupBarrier ShutdownBarrier) (hw : Words (Initialized sys es) t'.sync)
    (hr : Reached cfg.kCoreCount sys es c t'.pc)
    (hi : t'.coreInitialized = true → Initialized sys es c)
    (hpass : Event.startupBarrier false ∉ t'.events)
    (hstart : ∀ e ∈ t'.events, e.isStart = false) : Kept cfg sys es c t' := by
  constructor
  · exact hw
  · exact reached_mono sys _ es _ c t'.pc (List.subset_append_left _ _) hr
  · exact hi
  · exact hpass
  · intro e he hs
    rw [hstart e he] at hs
    cases hs

theorem kept_transition (es : List (ℕ × Event)) (c : ℕ)
    (t : Turn Sync StartupBarrier ShutdownBarrier) (target : KernelState)
    (pc : CorePc StartupBarrier ShutdownBarrier) (hw : Words (Initialized sys es) t.sync)
    (hr : Reached cfg.kCoreCount sys es c pc)
    (hi : t.coreInitialized = true → Initialized sys es c) :
    Kept cfg sys es c (t.transitionTo target pc) := by
  unfold Turn.transitionTo
  split
  · exact kept_quiet cfg sys es c _ hw hr hi (by simp) (by simp [Event.isStart])
  · exact kept_quiet cfg sys es c _ hw hr hi (by simp) (by simp [Event.isStart])

theorem afterLoop_reached (n : ℕ) (es : List (ℕ × Event)) (c : ℕ) (loop : Loop ℕ)
    (h : ∀ d < n, Initialized sys es d) : Reached n sys es c (afterLoop loop) := by
  cases loop <;> exact h

theorem inInit_reached (n : ℕ) (es : List (ℕ × Event)) (c k : ℕ) (call : InitCall)
    (h : Reached n sys es c (.inInit k call)) :
    Reached n sys (es ++ [(c, Event.initEnd call)]) c (.init (k+1)) := by
  intro call' hcall
  rw [List.take_add_one, h.1] at hcall
  rcases List.mem_append.mp hcall with hcall | hcall
  · exact List.mem_append_left _ (h.2 call' hcall)
  · have heq : call' = call := by simpa using hcall
    rw [heq]
    exact List.mem_append_right _ (List.mem_singleton_self _)

theorem init_done (n : ℕ) (es : List (ℕ × Event)) (c k : ℕ) (hk : (initCalls sys c)[k]? = none)
    (h : Reached n sys es c (.init k)) : Initialized sys es c := by
  intro call hcall
  apply h
  rw [List.take_of_length_le (List.getElem?_eq_none_iff.mp hk)]
  exact hcall

structure Placed (es : List (ℕ × Event)) (c : ℕ)
    (t : Turn Sync StartupBarrier ShutdownBarrier) : Prop where
  fresh : t.events = []
  lt : c < cfg.kCoreCount
  words : Words (Initialized sys es) t.sync
  reached : Reached cfg.kCoreCount sys es c t.pc
  initialized : t.coreInitialized = true → Initialized sys es c
  inTime : ∀ elapsed ∈ waited t.pc, elapsed < 2000

theorem startupBarrier_kept (es : List (ℕ × Event)) (c : ℕ) (b : StartupBarrier)
    (t : Turn Sync StartupBarrier ShutdownBarrier) (hpc : t.pc = .startupBarrier b)
    (h : Placed cfg sys es c t) :
    Kept cfg sys es c (coreStep crunchMaxOverruns maxIterationUs (syncType cfg) sys c t) := by
  have hr := h.reached
  have htime := h.inTime
  rw [hpc] at hr htime
  obtain ⟨hdone, hgate⟩ := hr
  simp only [coreStep, hpc, syncType_startupResult]
  split
  · next result hresult =>
    have hb : b = .returned result := by
      cases b with
      | returned r =>
        cases hresult
        rfl
      | _ => cases hresult
    subst hb
    obtain ⟨rfl, hall⟩ := hgate
    exact kept_quiet cfg sys es c _ h.words hall h.initialized (by simp) (by simp [Event.isStart])
  · next hresult =>
    have hstep := syncType_startupBarrier (Initialized sys es) cfg c t.sync b
      (fun elapsed heq => htime elapsed (by rw [heq]; rfl)) hdone h.words hgate
    refine kept_quiet cfg sys es c _ hstep.2 ⟨hdone, hstep.1⟩ h.initialized ?_ ?_
    · simp [h.fresh]
    · simp [h.fresh]

theorem coreStep_kept (es : List (ℕ × Event)) (c : ℕ)
    (t : Turn Sync StartupBarrier ShutdownBarrier) (h : Placed cfg sys es c t) :
    Kept cfg sys es c (coreStep crunchMaxOverruns maxIterationUs (syncType cfg) sys c t) := by
  have hbarrier := startupBarrier_kept crunchMaxOverruns maxIterationUs cfg sys es c
  have hquiet := kept_quiet cfg sys es c
  have hcall := syncType_startupCall (Initialized sys es) cfg c h.lt
  obtain ⟨v, w, d, initialized, pc, fresh⟩ := t
  obtain ⟨hfresh, hlt, hw, hr, hi, htime⟩ := id h
  obtain rfl : fresh = [] := hfresh
  have hnone : Event.startupBarrier false ∉ ([] : List Event) := by simp
  have hnostart : ∀ e ∈ ([] : List Event), e.isStart = false := by simp
  cases pc with
  | setInit =>
    exact hquiet _ (syncType_setInit _ cfg c w hw) trivial hi hnone hnostart
  | initCheck =>
    cases initialized with
    | true => exact hquiet _ hw ⟨hi rfl, hcall (hi rfl)⟩ hi hnone hnostart
    | false => exact hquiet _ hw trivial hi hnone hnostart
  | configuredTest =>
    simp only [coreStep]
    split
    · exact hquiet _ hw trivial hi hnone hnostart
    · exact hquiet _ hw (by simp [Reached]) hi hnone hnostart
  | toInitializing =>
    exact kept_transition cfg sys es c _ .initializing (.init 0) hw (by simp [Reached]) hi
  | init k =>
    simp only [coreStep]
    split
    · next call hk => exact hquiet _ hw ⟨hk, hr⟩ hi (by simp) (by simp [Event.isStart])
    · next hk => exact hquiet _ hw (init_done sys _ es c k hk hr) hi hnone hnostart
  | inInit k call =>
    constructor
    · exact hw
    · exact inInit_reached sys _ es c k call hr
    · exact hi
    · simp [coreStep]
    · simp [coreStep, Event.isStart]
  | initializingTest =>
    simp only [coreStep]
    split
    · exact hquiet _ hw hr hi hnone hnostart
    · exact hquiet _ hw hr hi hnone hnostart
  | toRunning => exact kept_transition cfg sys es c _ .running .markInit hw hr hi
  | markInit => exact hquiet _ hw ⟨hr, hcall hr⟩ (fun _ => hr) hnone hnostart
  | startupBarrier b => exact hbarrier b _ rfl h
  | dispatch =>
    simp only [coreStep]
    split
    · exact hquiet _ hw hr hi hnone hnostart
    · exact hquiet _ hw hr hi hnone hnostart
  | configureTask task => exact hquiet _ hw hr hi hnone hnostart
  | configureKick => exact hquiet _ hw hr hi hnone hnostart
  | crunch loop =>
    constructor
    · exact hw
    · apply reached_mono sys _ es _ c _ (List.subset_append_left _ _)
      exact afterLoop_reached sys _ es c _ hr
    · exact hi
    · simp [coreStep]
    · exact fun _ _ _ => hr
  | kernelTest =>
    simp only [coreStep]
    split
    · exact hquiet _ hw hr hi hnone hnostart
    · exact hquiet _ hw hr hi hnone hnostart
  | stopTest i =>
    simp only [coreStep]
    split
    · exact hquiet _ hw hr hi hnone hnostart
    · exact hquiet _ hw hr hi hnone hnostart
    · exact hquiet _ hw hr hi hnone hnostart
  | tick =>
    constructor
    · exact hw
    · exact reached_mono sys _ es _ c .inTick (List.subset_append_left _ _) hr
    · exact hi
    · simp [coreStep]
    · exact fun _ _ _ => hr
  | inTick =>
    simp only [coreStep]
    exact hquiet _ hw hr hi (by simp) (by simp [Event.isStart])
  | runningTest =>
    simp only [coreStep]
    split
    · exact hquiet _ hw hr hi hnone hnostart
    · exact hquiet _ hw hr hi hnone hnostart
  | toShuttingDown =>
    exact kept_transition cfg sys es c _ .shuttingDown .shuttingDownTest hw hr hi
  | shuttingDownTest =>
    simp only [coreStep]
    split
    · exact hquiet _ hw hr hi hnone hnostart
    · exact hquiet _ hw hr hi hnone hnostart
  | toShutdown => exact kept_transition cfg sys es c _ .shutdown _ hw hr hi
  | shutdownBarrier b =>
    simp only [coreStep]
    split
    · exact hquiet _ hw hr hi (by simp) (by simp [Event.isStart])
    · exact hquiet _ (syncType_shutdownBarrier _ cfg c w b hw) hr hi hnone hnostart
  | returned => exact hquiet _ hw hr hi hnone hnostart

structure Inv (s : State Sync StartupBarrier ShutdownBarrier) : Prop where
  words : Words (Initialized sys s.events) s.sync
  reached : ∀ d, Reached cfg.kCoreCount sys s.events d (s.core d)
  initialized : ∀ d, s.coreInitialized d = true → Initialized sys s.events d
  passed : ∀ d, (d, Event.startupBarrier false) ∉ s.events
  ordered : Preceded (fun xs x => x.2.isStart = true → ∀ d < cfg.kCoreCount,
    Initialized sys xs d) s.events

theorem put_inv (s : State Sync StartupBarrier ShutdownBarrier) (c : ℕ)
    (t : Turn Sync StartupBarrier ShutdownBarrier) (h : Inv cfg sys s)
    (ht : Kept cfg sys s.events c t) : Inv cfg sys (s.put c t) := by
  have hsub : s.events ⊆ (s.put c t).events := List.subset_append_left _ _
  have hmono := fun d => initialized_mono sys s.events (s.put c t).events d hsub
  constructor
  · intro d
    exact ⟨(ht.words d).1, fun hr => hmono d ((ht.words d).2 hr)⟩
  · intro d
    apply put_core s c d t (Reached cfg.kCoreCount sys (s.put c t).events)
    · exact ht.reached
    · exact reached_mono sys _ _ _ d _ hsub (h.reached d)
  · intro d
    apply put_coreInitialized s c d t (Initialized sys (s.put c t).events)
    · intro hc
      exact hmono c (ht.initialized hc)
    · intro hd
      exact hmono d (h.initialized d hd)
  · intro d hd
    rcases List.mem_append.mp hd with hd | hd
    · exact h.passed d hd
    · obtain ⟨e, he, heq⟩ := List.mem_map.mp hd
      cases heq
      exact ht.passed he
  · apply preceded_append _ _ s.events _ h.ordered
    · intro x hx hstart
      obtain ⟨e, he, rfl⟩ := List.mem_map.mp hx
      exact ht.starts e he hstart
    · intro xs xs' x hsub hx hstart d hd
      exact initialized_mono sys xs xs' d hsub (hx hstart d hd)

theorem step_inv (s : State Sync StartupBarrier ShutdownBarrier) (a : Action) (ha : InTime s a)
    (h : Inv cfg sys s) :
    Inv cfg sys (step cfg crunchMaxOverruns maxIterationUs (syncType cfg) sys s a) := by
  cases a with
  | input e => exact ⟨h.words, h.reached, h.initialized, h.passed, h.ordered⟩
  | core c =>
    simp only [step]
    split
    · next hlt =>
      apply put_inv cfg sys s c _ h
      apply coreStep_kept
      exact ⟨rfl, hlt, h.words, h.reached c, h.initialized c, ha⟩
    · exact h

theorem boot_inv (stopConditions : List Bool) (micros : UInt64) :
    Inv cfg sys (boot sys (.new false) stopConditions micros) := by
  constructor
  · intro d
    exact ⟨by simp [boot, Sync.new], by simp [boot, Sync.new]⟩
  · intro d
    trivial
  · intro d hd
    cases hd
  · intro d hd
    cases hd
  · exact preceded_nil _

/-- The startup is ordered in every run in which no core waits in its startup
barrier until its time limit. -/
theorem startup_ordered (stopConditions : List Bool) (micros : UInt64) (as : List Action)
    (htime : Along (step cfg crunchMaxOverruns maxIterationUs (syncType cfg) sys) InTime
      (boot sys (.new false) stopConditions micros) as) :
    Ordered cfg sys
      (run (step cfg crunchMaxOverruns maxIterationUs (syncType cfg) sys)
        (boot sys (.new false) stopConditions micros) as) := by
  have hinv := run_along _ (Inv cfg sys) InTime
    (fun s a ha h => step_inv crunchMaxOverruns maxIterationUs cfg sys s a ha h) _
    (boot_inv cfg sys stopConditions micros) as htime
  constructor
  · exact hinv.ordered
  · intro c hc
    exact absurd hc (hinv.passed c)

end Cores

section Alone

variable (crunchMaxOverruns : UInt32) (maxIterationUs : ℕ → UInt64) (cfg : Config) (sys : System)

structure Waiting (es : List (ℕ × Event)) (elapsed : UInt32)
    (s : State Sync StartupBarrier ShutdownBarrier) : Prop where
  core : s.core 0 = .startupBarrier (.timeTest elapsed)
  ready : s.sync.states 0 = .ready
  absent : s.sync.states 1 = .unborn
  shared : s.shared = ⟨false, .running, [], 0⟩
  events : s.events = es

def polls : ℕ → List Action
  | 0 => []
  | k+1 => polls k ++ List.replicate 7 (Action.core 0)

theorem poll_alone (hn : cfg.kCoreCount = 2) (es : List (ℕ × Event)) (elapsed : UInt32)
    (hlt : elapsed < 2000) (s : State Sync StartupBarrier ShutdownBarrier)
    (h : Waiting es elapsed s) :
    Waiting es (elapsed+1)
      (run (step cfg crunchMaxOverruns maxIterationUs (syncType cfg) sys) s
        (List.replicate 7 (.core 0))) := by
  obtain ⟨hcore, hready, habsent, hshared, hevents⟩ := h
  constructor
  all_goals
    simp [List.replicate, step, hn, syncType, multiCoreSync, coreStep, State.turn, State.put, hcore,
      startupResult, startupBarrierStep, hlt, anyErrorStep, allInStateStep, hready, habsent,
      hshared, hevents]

theorem polls_alone (hn : cfg.kCoreCount = 2) (es : List (ℕ × Event))
    (s : State Sync StartupBarrier ShutdownBarrier) (h : Waiting es 0 s) (k : ℕ) (hk : k ≤ 2000) :
    Waiting es (UInt32.ofNat k)
      (run (step cfg crunchMaxOverruns maxIterationUs (syncType cfg) sys) s (polls k)) := by
  induction k with
  | zero => exact h
  | succ k ih =>
    rw [polls, run_append, UInt32.ofNat_add]
    apply poll_alone crunchMaxOverruns maxIterationUs cfg sys hn es _ _ _ (ih (by omega))
    rw [UInt32.lt_iff_toNat_lt, UInt32.toNat_ofNat_of_lt' (by simp [UInt32.size]; omega)]
    exact hk

/-- At its time limit the core goes on and ticks. -/
theorem limit_alone (hn : cfg.kCoreCount = 2) (hmode : (sys.cores 0).mode = .flatLoop)
    (es : List (ℕ × Event)) (s : State Sync StartupBarrier ShutdownBarrier)
    (h : Waiting es 2000 s) :
    (run (step cfg crunchMaxOverruns maxIterationUs (syncType cfg) sys) s
        (List.replicate 7 (.core 0))).events =
      es ++ [(0, .startupBarrier false), (0, .tickBegin 0)] := by
  obtain ⟨hcore, hready, habsent, hshared, hevents⟩ := h
  simp [List.replicate, step, hn, syncType, multiCoreSync, coreStep, State.turn, State.put, hcore,
    startupResult, startupBarrierStep, hmode, isActiveState, hshared, hevents]

end Alone

def flatCores : System :=
  (build dualCore plainTasks fullDependencies (declared dualCore [.addScheduledTask 1 5])).1

def bothStart : List Action :=
  List.replicate 11 (Action.core 0) ++ List.replicate 28 (Action.core 1) ++
    List.replicate 14 (Action.core 0)

theorem startup_ordered_dualCore :
    Ordered dualCore flatCores
      (run (step dualCore 10 (fun _ => 100) (syncType dualCore) flatCores)
        (boot flatCores (.new false) [] 0) bothStart) :=
  startup_ordered 10 (fun _ => 100) dualCore flatCores [] 0 bothStart (by decide +kernel)

def startAlone : List Action :=
  List.replicate 11 (Action.core 0) ++ polls 2000 ++ List.replicate 7 (Action.core 0)

def aloneEvents : List (ℕ × Event) :=
  [(0, .entered .initializing), (0, .initBegin (.task .controlTask)),
    (0, .initEnd (.task .controlTask)), (0, .entered .running)]

theorem alone_waiting :
    Waiting aloneEvents 0
      (run (step dualCore 10 (fun _ => 100) (syncType dualCore) flatCores)
        (boot flatCores (.new false) [] 0) (List.replicate 11 (.core 0))) := by
  constructor <;> decide +kernel

theorem alone_events :
    (run (step dualCore 10 (fun _ => 100) (syncType dualCore) flatCores)
        (boot flatCores (.new false) [] 0) startAlone).events =
      aloneEvents ++ [(0, .startupBarrier false), (0, .tickBegin 0)] := by
  rw [startAlone, run_append, run_append]
  apply limit_alone 10 (fun _ => 100) dualCore flatCores rfl (by decide)
  exact polls_alone 10 (fun _ => 100) dualCore flatCores rfl aloneEvents _ alone_waiting 2000
    (le_refl _)

/-- A core whose barrier timed out ticks before its peer has been initialized. -/
theorem timed_out_and_ticked :
    (build dualCore plainTasks fullDependencies
      (declared dualCore [.addScheduledTask 1 5])).2 = none ∧
    ¬ ∀ as, Ordered dualCore flatCores
      (run (step dualCore 10 (fun _ => 100) (syncType dualCore) flatCores)
        (boot flatCores (.new false) [] 0) as) := by
  refine ⟨by decide, ?_⟩
  intro h
  have hpeer := (h startAlone).initialized (aloneEvents ++ [(0, .startupBarrier false)])
    (0, .tickBegin 0) [] (by rw [alone_events, List.append_assoc]; rfl) rfl 1 (by decide)
    (.task .commsTask) (by decide)
  revert hpeer
  decide

end SputterOS.StartupOrder
