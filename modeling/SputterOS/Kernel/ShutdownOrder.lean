import SputterOS.Kernel.CoreRun

/-!
# Shutdown order

A shutdown barrier that is passed has seen every core SHUTDOWN or ERROR. A core
writes SHUTDOWN behind its loop only, and ERROR only when its startup barrier
fails. Hence behind a passed barrier nothing happens any more on the cores whose
startup barrier was passed.
-/

set_option autoImplicit false

namespace SputterOS.ShutdownOrder
open SputterOS.Kernel SputterOS.Builder SputterOS.MultiCoreSync SputterOS.CoreRun
  Foundation.Transition
open SputterOS.CrunchDispatcher (Loop loopStep)

abbrev Place := CorePc StartupBarrier ShutdownBarrier

def Stopped : Place → Prop
  | .shutdownBarrier _ => True
  | .returned => True
  | _ => False

def Failed (es : List (ℕ × Event)) (d : ℕ) (pc : Place) : Prop :=
  (d, Event.startupBarrier false) ∈ es ∨ pc = .startupBarrier (.returned false)

def seen (n : ℕ) : Place → ℕ
  | .shutdownBarrier (.allTerminated _ i) => i
  | .shutdownBarrier (.returned true) => n
  | _ => 0

def Quiet (es : List (ℕ × Event)) (x : ℕ × Event) : Prop :=
  (∃ result, x.2 = .shutdownBarrier result) ∨ (x.1, Event.startupBarrier false) ∈ es ∨
    x.2 = .startupBarrier false

def Passed (es : List (ℕ × Event)) : Prop := ∃ c, (c, Event.shutdownBarrier true) ∈ es

/-- Behind a passed shutdown barrier every core has stopped or had a failed
startup barrier, and only the latter still do anything but leave their barriers. -/
structure Quiesced (cfg : Config) (s : State Sync StartupBarrier ShutdownBarrier) : Prop where
  stopped : Passed s.events → ∀ d < cfg.kCoreCount,
    Stopped (s.core d) ∨ Failed s.events d (s.core d)
  quiet : ∀ xs x ys, s.events = xs ++ x :: ys → Passed xs → Quiet xs x

structure Turned (n c : ℕ) (t t' : Turn Sync StartupBarrier ShutdownBarrier) : Prop where
  stopped : Stopped t.pc → Stopped t'.pc ∧ ∀ e ∈ t'.events, ∃ result, e = .shutdownBarrier result
  failed : t.pc = .startupBarrier (.returned false) → t'.events = [.startupBarrier false]
  others : ∀ d, d ≠ c → t'.sync.states d = t.sync.states d
  shutdown : t'.sync.states c = .shutdown → t.sync.states c = .shutdown ∨ Stopped t'.pc
  error : t'.sync.states c = .error →
    t.sync.states c = .error ∨ t'.pc = .startupBarrier (.returned false)
  scanned : ∀ d < seen n t'.pc,
    d < seen n t.pc ∨ t.sync.states d = .shutdown ∨ t.sync.states d = .error ∨ d = c
  passed : Event.shutdownBarrier true ∈ t'.events →
    t'.events = [.shutdownBarrier true] ∧ seen n t.pc = n

section Steps

variable (crunchMaxOverruns : UInt32) (maxIterationUs : ℕ → UInt64) (cfg : Config) (sys : System)

theorem turned_quiet (n c : ℕ) (t t' : Turn Sync StartupBarrier ShutdownBarrier)
    (hsync : t'.sync = t.sync) (hbefore : ¬ Stopped t.pc)
    (hfailed : t.pc ≠ .startupBarrier (.returned false)) (hseen : ∀ d < seen n t'.pc, d = c)
    (hpass : Event.shutdownBarrier true ∉ t'.events) : Turned n c t t' := by
  refine ⟨fun h => absurd h hbefore, fun h => absurd h hfailed, ?_, ?_, ?_, ?_, ?_⟩
  · intro d _
    rw [hsync]
  · intro h
    rw [hsync] at h
    exact Or.inl h
  · intro h
    rw [hsync] at h
    exact Or.inl h
  · intro d hd
    exact Or.inr (Or.inr (Or.inr (hseen d hd)))
  · intro h
    exact absurd h hpass

theorem transition_turned (n c : ℕ) (t : Turn Sync StartupBarrier ShutdownBarrier)
    (target : KernelState) (pc : Place) (hbefore : ¬ Stopped t.pc)
    (hfailed : t.pc ≠ .startupBarrier (.returned false)) (hseen : ∀ d < seen n pc, d = c) :
    Turned n c t (t.transitionTo target pc) := by
  unfold Turn.transitionTo
  split
  · exact turned_quiet n c t _ rfl hbefore hfailed hseen (by simp)
  · exact turned_quiet n c t _ rfl hbefore hfailed hseen (by simp)

theorem shutdownCall_seen (c : ℕ) (hc : c < cfg.kCoreCount) :
    ∀ d < seen cfg.kCoreCount (.shutdownBarrier (syncType cfg).shutdownCall), d = c := by
  intro d hd
  unfold syncType at hd
  split at hd
  · exact absurd hd (Nat.not_lt_zero d)
  · have hlt : d < cfg.kCoreCount := hd
    omega

theorem startupBarrier_turned (c : ℕ) (b : StartupBarrier) (m : Sync)
    (hwaiting : ∀ result, b ≠ .returned result) :
    (∀ d, d ≠ c → ((syncType cfg).startupBarrier 2000 1 c m b).1.states d = m.states d) ∧
      (((syncType cfg).startupBarrier 2000 1 c m b).1.states c = .shutdown →
        m.states c = .shutdown) ∧
      (((syncType cfg).startupBarrier 2000 1 c m b).1.states c = .error →
        m.states c = .error ∨
          ((syncType cfg).startupBarrier 2000 1 c m b).2 = .returned false) := by
  unfold syncType
  split
  · have hmove := startupBarrierStep_move cfg.kCoreCount 2000 1 c m b
    simp only [multiCoreSync]
    generalize startupBarrierStep cfg.kCoreCount 2000 1 c m b = r at hmove ⊢
    obtain ⟨m', b'⟩ := r
    cases hmove with
    | arrive => exact ⟨fun d hd => by simp [hd], by simp, by simp⟩
    | follow => exact ⟨fun d hd => by simp [hd], by simp, fun _ => Or.inr rfl⟩
    | fail => exact ⟨fun d hd => by simp [hd], by simp, fun _ => Or.inr rfl⟩
    | done result => exact absurd rfl (hwaiting result)
    | _ => exact ⟨fun d _ => rfl, id, Or.inl⟩
  · exact ⟨fun d _ => rfl, id, Or.inl⟩

theorem shutdownBarrier_words (c : ℕ) (b : ShutdownBarrier) (m : Sync) :
    (∀ d, d ≠ c → ((syncType cfg).shutdownBarrier 2000 1 c m b).1.states d = m.states d) ∧
      (((syncType cfg).shutdownBarrier 2000 1 c m b).1.states c = .error →
        m.states c = .error) := by
  unfold syncType
  split
  · rcases shutdownBarrierStep_states cfg.kCoreCount 2000 1 c m b with hm | hm
    · simp only [multiCoreSync]
      rw [hm]
      exact ⟨fun _ _ => rfl, id⟩
    · simp only [multiCoreSync]
      rw [hm]
      exact ⟨fun d hd => by simp [hd], by simp⟩
  · exact ⟨fun _ _ => rfl, id⟩

theorem shutdownBarrier_seen (c : ℕ) (b : ShutdownBarrier) (m : Sync) (d : ℕ)
    (hd : d < seen cfg.kCoreCount
      (.shutdownBarrier ((syncType cfg).shutdownBarrier 2000 1 c m b).2)) :
    d < seen cfg.kCoreCount (.shutdownBarrier b) ∨ m.states d = .shutdown ∨
      m.states d = .error := by
  have hnone : ∀ p : Prop, d < 0 → p := fun p h => absurd h (Nat.not_lt_zero d)
  unfold syncType at hd
  split at hd
  · simp only [multiCoreSync] at hd
    cases b with
    | setShutdown => exact hnone _ hd
    | timeTest elapsed =>
      simp only [shutdownBarrierStep] at hd
      split_ifs at hd
      · exact hnone _ hd
      · exact hnone _ hd
    | allTerminated elapsed i =>
      simp only [shutdownBarrierStep, allTerminatedStep] at hd
      by_cases hi : i < cfg.kCoreCount
      · by_cases ht : m.states i ≠ .shutdown ∧ m.states i ≠ .error
        · simp only [if_pos hi, if_pos ht] at hd
          exact hnone _ hd
        · simp only [if_pos hi, if_neg ht] at hd
          rcases Nat.lt_succ_iff_lt_or_eq.mp hd with hlt | rfl
          · exact Or.inl hlt
          · right
            by_contra hnot
            exact ht (not_or.mp hnot)
      · simp only [if_neg hi] at hd
        left
        have hlt : d < cfg.kCoreCount := hd
        exact hlt.trans_le (Nat.le_of_not_lt hi)
    | pollDelay elapsed => exact hnone _ hd
    | returned result => exact Or.inl hd
  · exact Or.inl hd

theorem syncType_results : (syncType cfg).startupResult = startupResult ∧
    (syncType cfg).shutdownResult = shutdownResult := by
  unfold syncType
  split <;> exact ⟨rfl, rfl⟩

theorem coreStep_turned (c : ℕ) (hc : c < cfg.kCoreCount)
    (t : Turn Sync StartupBarrier ShutdownBarrier) (hfresh : t.events = []) :
    Turned cfg.kCoreCount c t
      (coreStep crunchMaxOverruns maxIterationUs (syncType cfg) sys c t) := by
  have hquiet := turned_quiet cfg.kCoreCount c
  have hnext := transition_turned cfg.kCoreCount c
  have hcall := shutdownCall_seen cfg c hc
  obtain ⟨hstartup, hshutdown⟩ := syncType_results cfg
  have hnone : ∀ P : ℕ → Prop, ∀ d < 0, P d := fun P d hd => absurd hd (Nat.not_lt_zero d)
  have hzero := hnone (fun d => d = c)
  obtain ⟨v, w, d, initialized, pc, fresh⟩ := t
  obtain rfl : fresh = [] := hfresh
  cases pc with
  | setInit =>
    refine ⟨fun h => absurd h id, by simp, ?_, ?_, ?_, hnone _, by simp [coreStep]⟩
    · intro d hd
      simp only [coreStep, syncType]
      split <;> simp [multiCoreSync, noOpMultiCoreSync, hd]
    · simp only [coreStep, syncType]
      split
      · exact (by simp [multiCoreSync])
      · exact Or.inl
    · simp only [coreStep, syncType]
      split
      · exact (by simp [multiCoreSync])
      · exact Or.inl
  | startupBarrier b =>
    simp only [coreStep, hstartup]
    cases hb : startupResult b with
    | some result =>
      have hreturned : b = .returned result := by
        cases b with
        | returned r =>
          cases hb
          rfl
        | _ => cases hb
      refine ⟨fun h => absurd h id, ?_, fun _ _ => rfl, Or.inl, Or.inl, hnone _, by simp⟩
      intro hfailed
      rw [hreturned] at hfailed
      simp only [CorePc.startupBarrier.injEq, StartupBarrier.returned.injEq] at hfailed
      rw [hfailed]
    | none =>
      have hwaiting : ∀ result, b ≠ .returned result := by
        intro result heq
        rw [heq] at hb
        cases hb
      obtain ⟨hothers, hstop, herror⟩ := startupBarrier_turned cfg c b w hwaiting
      refine ⟨fun h => absurd h id, ?_, hothers, fun h => Or.inl (hstop h), ?_, hnone _,
        by simp⟩
      · intro hfailed
        exact absurd (CorePc.startupBarrier.inj hfailed) (hwaiting false)
      · intro h
        rcases herror h with hold | hnew
        · exact Or.inl hold
        · exact Or.inr (congrArg CorePc.startupBarrier hnew)
  | shutdownBarrier b =>
    simp only [coreStep, hshutdown]
    cases hb : shutdownResult b with
    | some result =>
      have hreturned : b = .returned result := by
        cases b with
        | returned r =>
          cases hb
          rfl
        | _ => cases hb
      refine ⟨fun _ => ⟨trivial, by simp⟩, by simp, fun _ _ => rfl, Or.inl, Or.inl, hnone _, ?_⟩
      intro hpass
      obtain rfl : true = result := Event.shutdownBarrier.inj (List.mem_singleton.mp hpass)
      rw [hreturned]
      exact ⟨rfl, rfl⟩
    | none =>
      obtain ⟨hothers, herror⟩ := shutdownBarrier_words cfg c b w
      refine ⟨fun _ => ⟨trivial, by simp⟩, by simp, hothers, fun _ => Or.inr trivial,
        fun h => Or.inl (herror h), ?_, by simp⟩
      intro d hd
      rcases shutdownBarrier_seen cfg c b w d hd with h | h | h
      · exact Or.inl h
      · exact Or.inr (Or.inl h)
      · exact Or.inr (Or.inr (Or.inl h))
  | returned =>
    refine ⟨fun _ => ⟨trivial, by simp [coreStep]⟩, by simp, fun _ _ => rfl, Or.inl, Or.inl,
      hnone _, by simp [coreStep]⟩
  | initCheck =>
    simp only [coreStep]
    cases initialized with
    | true => exact hquiet _ _ rfl id (by simp) hzero (by simp)
    | false => exact hquiet _ _ rfl id (by simp) hzero (by simp)
  | configuredTest =>
    simp only [coreStep]
    split
    · exact hquiet _ _ rfl id (by simp) hzero (by simp)
    · exact hquiet _ _ rfl id (by simp) hzero (by simp)
  | toInitializing => exact hnext _ .initializing (.init 0) id (by simp) hzero
  | init k =>
    simp only [coreStep]
    split
    · exact hquiet _ _ rfl id (by simp) hzero (by simp)
    · exact hquiet _ _ rfl id (by simp) hzero (by simp)
  | inInit k call => exact hquiet _ _ rfl id (by simp) hzero (by simp [coreStep])
  | initializingTest =>
    simp only [coreStep]
    split
    · exact hquiet _ _ rfl id (by simp) hzero (by simp)
    · exact hquiet _ _ rfl id (by simp) hzero (by simp)
  | toRunning => exact hnext _ .running .markInit id (by simp) hzero
  | markInit => exact hquiet _ _ rfl id (by simp) hzero (by simp [coreStep])
  | dispatch =>
    simp only [coreStep]
    split
    · exact hquiet _ _ rfl id (by simp) hzero (by simp)
    · exact hquiet _ _ rfl id (by simp) hzero (by simp)
  | configureTask task => exact hquiet _ _ rfl id (by simp) hzero (by simp [coreStep])
  | configureKick => exact hquiet _ _ rfl id (by simp) hzero (by simp [coreStep])
  | crunch loop =>
    refine hquiet _ _ rfl id (by simp) ?_ (by simp [coreStep])
    simp only [coreStep]
    generalize (loopStep crunchMaxOverruns maxIterationUs c v d loop).2.1 = next
    cases next <;> exact hzero
  | kernelTest =>
    simp only [coreStep]
    split
    · exact hquiet _ _ rfl id (by simp) hzero (by simp)
    · exact hquiet _ _ rfl id (by simp) hzero (by simp)
  | stopTest i =>
    simp only [coreStep]
    split
    · exact hquiet _ _ rfl id (by simp) hzero (by simp)
    · exact hquiet _ _ rfl id (by simp) hzero (by simp)
    · exact hquiet _ _ rfl id (by simp) hzero (by simp)
  | tick => exact hquiet _ _ rfl id (by simp) hzero (by simp [coreStep])
  | inTick => exact hquiet _ _ rfl id (by simp) hzero (by simp [coreStep])
  | runningTest =>
    simp only [coreStep]
    split
    · exact hquiet _ _ rfl id (by simp) hzero (by simp)
    · exact hquiet _ _ rfl id (by simp) hzero (by simp)
  | toShuttingDown => exact hnext _ .shuttingDown .shuttingDownTest id (by simp) hzero
  | shuttingDownTest =>
    simp only [coreStep]
    split
    · exact hquiet _ _ rfl id (by simp) hzero (by simp)
    · exact hquiet _ _ rfl id (by simp) hcall (by simp)
  | toShutdown => exact hnext _ .shutdown _ id (by simp) hcall

end Steps

section Runs

variable (crunchMaxOverruns : UInt32) (maxIterationUs : ℕ → UInt64) (cfg : Config) (sys : System)

def Done (s : State Sync StartupBarrier ShutdownBarrier) (d : ℕ) : Prop :=
  Stopped (s.core d) ∨ Failed s.events d (s.core d)

structure Inv (s : State Sync StartupBarrier ShutdownBarrier) : Prop where
  shutdown : ∀ d, s.sync.states d = .shutdown → Stopped (s.core d)
  error : ∀ d, s.sync.states d = .error → Failed s.events d (s.core d)
  seen : ∀ c, ∀ d < seen cfg.kCoreCount (s.core c), Done s d
  quiesced : Quiesced cfg s

section Put

variable (s : State Sync StartupBarrier ShutdownBarrier) (c : ℕ)
  (t' : Turn Sync StartupBarrier ShutdownBarrier)

theorem put_events : (s.put c t').events = s.events ++ t'.events.map (fun e => (c, e)) := rfl

theorem put_failed (ht : Turned cfg.kCoreCount c (s.turn c) t') (d : ℕ)
    (h : Failed s.events d (s.core d)) : (d, Event.startupBarrier false) ∈ (s.put c t').events ∨
      d ≠ c ∧ (s.put c t').core d = .startupBarrier (.returned false) := by
  rcases h with hmem | hpc
  · exact Or.inl (List.mem_append_left _ hmem)
  · by_cases hdc : d = c
    · left
      have hevents := ht.failed (by rw [hdc] at hpc; exact hpc)
      rw [put_events, hevents, hdc]
      simp
    · right
      refine ⟨hdc, ?_⟩
      show Function.update s.core c t'.pc d = _
      rw [Function.update_of_ne hdc]
      exact hpc

theorem put_stopped (ht : Turned cfg.kCoreCount c (s.turn c) t') (d : ℕ)
    (h : Stopped (s.core d)) : Stopped ((s.put c t').core d) := by
  show Stopped (Function.update s.core c t'.pc d)
  by_cases hdc : d = c
  · rw [hdc] at h ⊢
    rw [Function.update_self]
    exact (ht.stopped h).1
  · rw [Function.update_of_ne hdc]
    exact h

theorem put_done (ht : Turned cfg.kCoreCount c (s.turn c) t') (d : ℕ) (h : Done s d) :
    Done (s.put c t') d := by
  rcases h with hstop | hfail
  · exact Or.inl (put_stopped cfg s c t' ht d hstop)
  · rcases put_failed cfg s c t' ht d hfail with hmem | ⟨-, hpc⟩
    · exact Or.inr (Or.inl hmem)
    · exact Or.inr (Or.inr hpc)

theorem put_inv (hc : c < cfg.kCoreCount) (ht : Turned cfg.kCoreCount c (s.turn c) t')
    (h : Inv cfg s) : Inv cfg (s.put c t') := by
  have hdone := put_done cfg s c t' ht
  have hput : (s.put c t').core = Function.update s.core c t'.pc := rfl
  have hcore : (s.put c t').core c = t'.pc := by rw [hput, Function.update_self]
  have hothers : ∀ d, d ≠ c → (s.put c t').core d = s.core d := by
    intro d hd
    rw [hput, Function.update_of_ne hd]
  have hfailed : ∀ d, Failed s.events d (s.core d) →
      Failed (s.put c t').events d ((s.put c t').core d) := by
    intro d hd
    rcases put_failed cfg s c t' ht d hd with hmem | ⟨-, hpc⟩
    · exact Or.inl hmem
    · exact Or.inr hpc
  have hseen : ∀ b, ∀ d < seen cfg.kCoreCount ((s.put c t').core b), Done (s.put c t') d := by
    intro b d hd
    by_cases hbc : b = c
    · rw [hbc, hcore] at hd
      rcases ht.scanned d hd with hlt | hstop | herror | rfl
      · exact hdone d (h.seen c d hlt)
      · exact hdone d (Or.inl (h.shutdown d hstop))
      · exact hdone d (Or.inr (h.error d herror))
      · left
        rw [hcore]
        cases hpc : t'.pc with
        | shutdownBarrier b => trivial
        | returned => trivial
        | _ =>
          rw [hpc] at hd
          exact absurd hd (Nat.not_lt_zero d)
    · rw [hothers b hbc] at hd
      exact hdone d (h.seen b d hd)
  refine ⟨?_, ?_, hseen, ?_, ?_⟩
  · intro d hd
    by_cases hdc : d = c
    · rw [hdc] at hd ⊢
      rcases ht.shutdown hd with hold | hnew
      · exact put_stopped cfg s c t' ht c (h.shutdown c hold)
      · rw [hcore]
        exact hnew
    · have hword : s.sync.states d = .shutdown := (ht.others d hdc).symm.trans hd
      exact put_stopped cfg s c t' ht d (h.shutdown d hword)
  · intro d hd
    by_cases hdc : d = c
    · rw [hdc] at hd ⊢
      rcases ht.error hd with hold | hnew
      · exact hfailed c (h.error c hold)
      · right
        rw [hcore]
        exact hnew
    · have hword : s.sync.states d = .error := (ht.others d hdc).symm.trans hd
      exact hfailed d (h.error d hword)
  · rintro ⟨b, hb⟩ d hd
    rw [put_events] at hb
    rcases List.mem_append.mp hb with hold | hnew
    · exact hdone d (h.quiesced.stopped ⟨b, hold⟩ d hd)
    · obtain ⟨e, he, heq⟩ := List.mem_map.mp hnew
      obtain ⟨-, rfl⟩ := Prod.mk.inj heq
      have hall := (ht.passed he).2
      exact hdone d (h.seen c d (by rw [show s.core c = (s.turn c).pc from rfl, hall]; exact hd))
  · apply preceded_extend (fun xs x => Passed xs → Quiet xs x) s.events _ h.quiesced.quiet
    rintro xs x ys hnew ⟨b, hb⟩
    have hx : x ∈ t'.events.map (fun e => (c, e)) := by
      rw [hnew]
      simp
    obtain ⟨e, he, rfl⟩ := List.mem_map.mp hx
    rcases List.mem_append.mp hb with hold | hsame
    · rcases h.quiesced.stopped ⟨b, hold⟩ c hc with hstop | hmem | hpc
      · exact Or.inl ((ht.stopped hstop).2 e he)
      · exact Or.inr (Or.inl (List.mem_append_left _ hmem))
      · rw [ht.failed hpc] at he
        exact Or.inr (Or.inr (List.mem_singleton.mp he))
    · have hpass : Event.shutdownBarrier true ∈ t'.events := by
        have hmem : (b, Event.shutdownBarrier true) ∈ t'.events.map (fun e => (c, e)) := by
          rw [hnew]
          exact List.mem_append_left _ hsame
        obtain ⟨e', he', heq⟩ := List.mem_map.mp hmem
        obtain ⟨-, rfl⟩ := Prod.mk.inj heq
        exact he'
      have hlen := congrArg List.length hnew
      have hpos := List.length_pos_of_mem hsame
      rw [(ht.passed hpass).1] at hlen
      simp at hlen
      omega

end Put

theorem step_inv (s : State Sync StartupBarrier ShutdownBarrier) (a : Action) (h : Inv cfg s) :
    Inv cfg (step cfg crunchMaxOverruns maxIterationUs (syncType cfg) sys s a) := by
  cases a with
  | input e => exact ⟨h.shutdown, h.error, h.seen, h.quiesced.stopped, h.quiesced.quiet⟩
  | core c =>
    simp only [step]
    split_ifs with hc
    · apply put_inv cfg s c _ hc _ h
      exact coreStep_turned crunchMaxOverruns maxIterationUs cfg sys c hc (s.turn c) rfl
    · exact h

theorem boot_inv (stopConditions : List Bool) (micros : UInt64) :
    Inv cfg (boot sys (.new false) stopConditions micros) := by
  refine ⟨by simp [boot, Sync.new], by simp [boot, Sync.new],
    fun c d hd => absurd hd (Nat.not_lt_zero d), ?_, preceded_nil _⟩
  rintro ⟨c, hc⟩
  cases hc

end Runs

end SputterOS.ShutdownOrder
