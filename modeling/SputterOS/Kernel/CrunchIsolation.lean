import SputterOS.Kernel.SystemRun

/-!
# Isolation of crunch cores

A core writes its task into the shared dispatcher and loops on it. With one
crunch core nobody else touches the dispatcher. With two, the second one to
configure it replaces the task of the first.
-/

set_option autoImplicit false

namespace SputterOS.SystemRun
open SputterOS.Kernel SputterOS.Builder SputterOS.CrunchDispatcher Foundation.Transition

variable (cfg : Config) (crunchMaxOverruns : UInt32) (maxIterationUs : ℕ → UInt64) (sys : System)

def Engaged : CorePc → Prop
  | .configureTask _ => True
  | .configureKick => True
  | .crunch _ => True
  | _ => False

def Holds (core : CoreData) (d : Dispatcher ℕ) : CorePc → Prop
  | .configureTask task => core.crunchTask = some task
  | .configureKick => core.crunchTask.isSome ∧ d.task = core.crunchTask
  | .crunch loop => core.crunchTask.isSome ∧ d.task = core.crunchTask ∧
      ∀ task, loop.begun = some task → core.crunchTask = some task
  | _ => True

theorem goto_core (s : State) (c d : ℕ) (pc : CorePc) :
    (s.goto c pc).core d = if d = c then pc else s.core d := by
  simp [State.goto, Function.update_apply]

theorem next_events_task (coreId : ℕ) (v : Shared) (d d' : Dispatcher ℕ) (task : ℕ) (l l' : Loop ℕ)
    (es : List (Event ℕ))
    (h : Next crunchMaxOverruns maxIterationUs coreId v d task l d' l' es) (e : Event ℕ)
    (he : e ∈ es) (t : ℕ) (ht : (Call.dispatcher e).task = some t) :
    t = task ∨ l.begun = some t := by
  cases h with
  | crunchEnd begun now start =>
    right
    simpa [List.mem_singleton.mp he, Call.task, Loop.begun] using ht
  | platformKicked now =>
    cases hw : d.watchdogKick <;> simp [hw] at he
    simp [he, Call.task] at ht
  | abortLogged cause now => cases cause <;> simp_all [abortEntry, Call.task]
  | overrun now elapsed hover =>
    rcases List.mem_cons.mp he with rfl | he
    · exact Or.inl (by simpa [Call.task, eq_comm] using ht)
    · simp_all [Call.task]
  | _ => simp_all [Call.task]

theorem next_begun (coreId : ℕ) (v : Shared) (d d' : Dispatcher ℕ) (task : ℕ) (l l' : Loop ℕ)
    (es : List (Event ℕ))
    (h : Next crunchMaxOverruns maxIterationUs coreId v d task l d' l' es) (t : ℕ)
    (ht : l'.begun = some t) : t = task := by
  cases h <;> simp_all [Loop.begun]

theorem stepCore_other (s : State) (c d : ℕ) (h : d ≠ c) :
    (stepCore crunchMaxOverruns maxIterationUs sys s c).core d = s.core d := by
  unfold stepCore
  split <;> (try split) <;> simp [goto_core, h]

theorem stepCore_dispatcher (s : State) (c : ℕ) (h : ¬ Engaged (s.core c)) :
    (stepCore crunchMaxOverruns maxIterationUs sys s c).crunchDispatcher = s.crunchDispatcher := by
  unfold stepCore
  cases hpc : s.core c
  case configureTask => simp [hpc, Engaged] at h
  case configureKick => simp [hpc, Engaged] at h
  case crunch => simp [hpc, Engaged] at h
  all_goals simp only <;> (try split) <;> rfl

theorem stepCore_engaged (s : State) (c : ℕ) (h : ¬ Engaged (s.core c))
    (h' : Engaged ((stepCore crunchMaxOverruns maxIterationUs sys s c).core c)) :
    (sys.cores c).mode = .crunch ∧ ∃ task, (sys.cores c).crunchTask = some task ∧
      (stepCore crunchMaxOverruns maxIterationUs sys s c).core c = .configureTask task := by
  revert h'
  unfold stepCore
  cases hpc : s.core c
  case configureTask => simp [hpc, Engaged] at h
  case configureKick => simp [hpc, Engaged] at h
  case crunch => simp [hpc, Engaged] at h
  case dispatch =>
    simp only
    split
    · next task hm ht => exact fun _ => ⟨hm, task, ht, by simp [goto_core]⟩
    · simp [goto_core, Engaged]
  all_goals (simp only; (try split) <;> simp [goto_core, Engaged, hpc])

theorem holds_afterLoop (core : CoreData) (d : Dispatcher ℕ) (loop : Loop ℕ)
    (hs : core.crunchTask.isSome) (hd : d.task = core.crunchTask)
    (hb : ∀ task, loop.begun = some task → core.crunchTask = some task) :
    Holds core d (afterLoop loop) := by
  cases loop <;> first | exact ⟨hs, hd, hb⟩ | trivial

/-- The steps of an engaged core keep the dispatcher on its own task. -/
theorem stepCore_holds (s : State) (c : ℕ) (h : Engaged (s.core c))
    (hh : Holds (sys.cores c) s.crunchDispatcher (s.core c)) :
    Holds (sys.cores c) (stepCore crunchMaxOverruns maxIterationUs sys s c).crunchDispatcher
      ((stepCore crunchMaxOverruns maxIterationUs sys s c).core c) := by
  unfold stepCore
  cases hpc : s.core c
  case configureTask task =>
    rw [hpc] at hh
    have ht : (sys.cores c).crunchTask = some task := hh
    simp [State.goto, Holds, ht]
  case configureKick =>
    rw [hpc] at hh
    simpa [goto_core, State.goto, Holds, Loop.begun] using hh
  case crunch loop =>
    rw [hpc] at hh
    obtain ⟨hs, hd, -⟩ := hh
    obtain ⟨task, ht⟩ := Option.isSome_iff_exists.mp hs
    have hn := loopStep_next crunchMaxOverruns maxIterationUs c s.shared s.crunchDispatcher loop
      task (hd.trans ht)
    have htask := next_task crunchMaxOverruns maxIterationUs c _ _ _ _ _ _ _ hn
    simp only [State.goto, Function.update_self]
    refine holds_afterLoop _ _ _ hs (htask.trans hd) fun t hbegun => ?_
    rw [next_begun crunchMaxOverruns maxIterationUs c _ _ _ _ _ _ _ hn t hbegun]
    exact ht
  all_goals simp [hpc, Engaged] at h

theorem stepCore_calls (s : State) (c : ℕ) (hs : CallsOwn sys s)
    (hh : Holds (sys.cores c) s.crunchDispatcher (s.core c)) :
    CallsOwn sys (stepCore crunchMaxOverruns maxIterationUs sys s c) := by
  unfold stepCore
  cases hpc : s.core c
  case initCrunchTask =>
    simp only
    split
    · next task hm ht =>
      intro c' call t hmem hcall
      rcases List.mem_append.mp hmem with hmem | hmem
      · exact hs c' call t hmem hcall
      · cases List.mem_singleton.mp hmem
        rw [ht]
        exact hcall
    · exact hs
  case crunch loop =>
    rw [hpc] at hh
    obtain ⟨hsome, hd, hb⟩ := hh
    obtain ⟨task, ht⟩ := Option.isSome_iff_exists.mp hsome
    have hn := loopStep_next crunchMaxOverruns maxIterationUs c s.shared s.crunchDispatcher loop
      task (hd.trans ht)
    intro c' call t hmem hcall
    rcases List.mem_append.mp hmem with hmem | hmem
    · exact hs c' call t hmem hcall
    · obtain ⟨e, he, heq⟩ := List.mem_map.mp hmem
      cases heq
      rcases next_events_task crunchMaxOverruns maxIterationUs c _ _ _ _ _ _ _ hn e he t hcall with
        rfl | hbegun
      · exact ht
      · exact hb t hbegun
  all_goals (simp only; (try split) <;> exact hs)

structure Own (s : State) : Prop where
  engaged : ∀ c, Engaged (s.core c) → c < cfg.kCoreCount ∧ (sys.cores c).mode = .crunch
  holds : ∀ c, Holds (sys.cores c) s.crunchDispatcher (s.core c)
  calls : CallsOwn sys s

def SingleCrunch (cores : ℕ → CoreData) : Prop :=
  ∀ c d, c < cfg.kCoreCount → d < cfg.kCoreCount →
    (cores c).mode = .crunch → (cores d).mode = .crunch → c = d

theorem holds_of_not_engaged (core : CoreData) (d : Dispatcher ℕ) (pc : CorePc)
    (h : ¬ Engaged pc) : Holds core d pc := by
  cases pc <;> first | trivial | exact absurd trivial h

theorem step_own (huniq : SingleCrunch cfg sys.cores) (s : State) (a : Action)
    (h : Own cfg sys s) : Own cfg sys (step cfg crunchMaxOverruns maxIterationUs sys s a) := by
  cases a with
  | external e => exact ⟨h.engaged, h.holds, h.calls⟩
  | core c =>
    by_cases hc : c < cfg.kCoreCount
    swap
    · simpa [step, hc] using h
    simp only [step, hc, if_true]
    by_cases he : Engaged (s.core c)
    · have hmode := (h.engaged c he).2
      refine ⟨fun d hd => ?_, fun d => ?_, stepCore_calls _ _ sys s c h.calls (h.holds c)⟩
      · by_cases hdc : d = c
        · rw [hdc]
          exact ⟨hc, hmode⟩
        · rw [stepCore_other _ _ sys s c d hdc] at hd
          exact h.engaged d hd
      · by_cases hdc : d = c
        · rw [hdc]
          exact stepCore_holds _ _ sys s c he (h.holds c)
        · rw [stepCore_other _ _ sys s c d hdc]
          apply holds_of_not_engaged
          intro hd
          obtain ⟨hlt, hm⟩ := h.engaged d hd
          exact hdc (huniq d c hlt hc hm hmode)
    · have hdisp := stepCore_dispatcher crunchMaxOverruns maxIterationUs sys s c he
      refine ⟨fun d hd => ?_, fun d => ?_, stepCore_calls _ _ sys s c h.calls (h.holds c)⟩
      · by_cases hdc : d = c
        · rw [hdc] at hd ⊢
          exact ⟨hc, (stepCore_engaged _ _ sys s c he hd).1⟩
        · rw [stepCore_other _ _ sys s c d hdc] at hd
          exact h.engaged d hd
      · by_cases hdc : d = c
        · rw [hdc]
          by_cases he' : Engaged ((stepCore crunchMaxOverruns maxIterationUs sys s c).core c)
          · obtain ⟨-, task, ht, hpc⟩ := stepCore_engaged _ _ sys s c he he'
            rw [hpc]
            exact ht
          · exact holds_of_not_engaged _ _ _ he'
        · rw [stepCore_other _ _ sys s c d hdc, hdisp]
          exact h.holds d

theorem boot_own (stopConditions : List Bool) (micros : UInt64) :
    Own cfg sys (boot sys stopConditions micros) :=
  ⟨fun _ h => absurd h (by simp [boot, Engaged]), fun _ => trivial,
    fun _ _ _ h => absurd h (by simp [boot])⟩

theorem own_countersOwn (huniq : SingleCrunch cfg sys.cores) (s : State) (h : Own cfg sys s) :
    CountersOwn cfg crunchMaxOverruns maxIterationUs sys s := by
  intro c d hcd hloop
  have hd : Engaged (s.core d) := by
    cases hpc : s.core d <;> simp_all [InLoop, Engaged]
  by_cases hc : c < cfg.kCoreCount
  · have he : ¬ Engaged (s.core c) := by
      intro he
      exact hcd (huniq c d hc (h.engaged d hd).1 (h.engaged c he).2 (h.engaged d hd).2)
    simp only [step, hc, if_true, State.counters]
    rw [stepCore_dispatcher crunchMaxOverruns maxIterationUs sys s c he]
  · simp [step, hc]

theorem startup (s : State) (c task : ℕ) (hc : c < cfg.kCoreCount)
    (hmode : (sys.cores c).mode = .crunch) (htask : (sys.cores c).crunchTask = some task)
    (hpc : s.core c = .setInit) (hinit : s.coreInitialized c = false) :
    ∃ s', run (step cfg crunchMaxOverruns maxIterationUs sys) s (List.replicate 11 (.core c)) = s' ∧
      s'.core c = .crunch .resetCounters ∧ s'.crunchDispatcher.task = some task ∧
      ∀ d, d ≠ c → s'.core d = s.core d ∧ s'.coreInitialized d = s.coreInitialized d := by
  refine ⟨_, rfl, ?_⟩
  simp [List.replicate, step, hc, stepCore, hpc, hinit, hmode, htask, State.goto]
  intro d hd
  simp [hd]

def collidingRun (c d : ℕ) : List Action :=
  List.replicate 11 (Action.core c) ++ List.replicate 11 (Action.core d) ++
    [Action.external .signalSafetyAbort, Action.core c, Action.core c, Action.core c]

theorem colliding_call (s : State) (c d taskC taskD : ℕ) (hcd : c ≠ d)
    (hc : c < cfg.kCoreCount) (hd : d < cfg.kCoreCount)
    (hmodeC : (sys.cores c).mode = .crunch) (htaskC : (sys.cores c).crunchTask = some taskC)
    (hmodeD : (sys.cores d).mode = .crunch) (htaskD : (sys.cores d).crunchTask = some taskD)
    (hpc : ∀ k, s.core k = .setInit) (hinit : ∀ k, s.coreInitialized k = false) :
    (c, .dispatcher (.onCrunchAbort taskD .preLoop)) ∈
      (run (step cfg crunchMaxOverruns maxIterationUs sys) s (collidingRun c d)).calls := by
  obtain ⟨s₁, hs₁, hloop₁, -, hrest₁⟩ := startup cfg crunchMaxOverruns maxIterationUs sys s c taskC
    hc hmodeC htaskC (hpc c) (hinit c)
  have hd₁ := hrest₁ d (Ne.symm hcd)
  obtain ⟨s₂, hs₂, -, htask₂, hrest₂⟩ := startup cfg crunchMaxOverruns maxIterationUs sys s₁ d taskD
    hd hmodeD htaskD (hd₁.1.trans (hpc d)) (hd₁.2.trans (hinit d))
  have hloop₂ := (hrest₂ c hcd).1.trans hloop₁
  rw [collidingRun, run_append, run_append, hs₁, hs₂]
  simp [step, hc, stepCore, hloop₂, loopStep, htask₂, afterLoop, State.goto, Shared.external]

theorem built_core (user : UserTasks) (deps : Dependencies) (regs : List Registration)
    (hbuild : (build cfg user deps (declared cfg regs)).2 = none) (c : ℕ) :
    Extends ((declared cfg regs).cores c)
      ((build cfg user deps (declared cfg regs)).1.cores c) := by
  rw [(build_declared cfg user deps regs hbuild).2.1]
  exact prepared_extends cfg user deps _ c

/-- The cores of an accepted build with crunch tasks of their own are isolated
in every interleaving exactly when at most one of them is a crunch core. -/
theorem isolated_iff (user : UserTasks) (deps : Dependencies) (regs : List Registration)
    (hbuild : (build cfg user deps (declared cfg regs)).2 = none)
    (hown : ∀ c d task, c < cfg.kCoreCount → d < cfg.kCoreCount →
      ((declared cfg regs).cores c).crunchTask = some task →
      ((declared cfg regs).cores d).crunchTask = some task → c = d)
    (stopConditions : List Bool) (micros : UInt64) :
    (∀ as, Isolated cfg crunchMaxOverruns maxIterationUs
        (build cfg user deps (declared cfg regs)).1
        (run (step cfg crunchMaxOverruns maxIterationUs
            (build cfg user deps (declared cfg regs)).1)
          (boot (build cfg user deps (declared cfg regs)).1 stopConditions micros) as)) ↔
      SingleCrunch cfg (declared cfg regs).cores := by
  have hext := built_core cfg user deps regs hbuild
  have hcoherent := declared_coherent cfg regs
  generalize (build cfg user deps (declared cfg regs)).1 = sys at *
  constructor
  · intro hiso c d hc hd hmodeC hmodeD
    by_contra hcd
    obtain ⟨taskC, htaskC⟩ := Option.isSome_iff_exists.mp ((hcoherent c).mp hmodeC)
    obtain ⟨taskD, htaskD⟩ := Option.isSome_iff_exists.mp ((hcoherent d).mp hmodeD)
    have hcall := colliding_call cfg crunchMaxOverruns maxIterationUs sys
      (boot sys stopConditions micros) c d taskC taskD hcd hc hd ((hext c).mode.trans hmodeC)
      ((hext c).crunchTask.trans htaskC) ((hext d).mode.trans hmodeD)
      ((hext d).crunchTask.trans htaskD) (fun _ => rfl) (fun _ => rfl)
    have hmine := (hiso (collidingRun c d)).1 c _ taskD hcall rfl
    rw [(hext c).crunchTask] at hmine
    exact hcd (hown c d taskD hc hd hmine htaskD)
  · intro hsingle as
    have huniq : SingleCrunch cfg sys.cores := by
      intro c d hc hd hmodeC hmodeD
      exact hsingle c d hc hd ((hext c).mode.symm.trans hmodeC) ((hext d).mode.symm.trans hmodeD)
    have hinv := run_preserves _ _ (step_own cfg crunchMaxOverruns maxIterationUs sys huniq) _
      (boot_own cfg sys stopConditions micros) as
    exact ⟨hinv.calls, own_countersOwn cfg crunchMaxOverruns maxIterationUs sys huniq _ hinv⟩

def tripleCore : Config := ⟨3, by decide, 10000, 10000, 10, 8⟩

def twoCrunchCores : System :=
  (build tripleCore plainTasks fullDependencies
    (declared tripleCore [.setCrunchTask 1 11, .setCrunchTask 2 22])).1

/-- The task of the third core is aborted from the second. -/
theorem two_crunch_cores_collide :
    (build tripleCore plainTasks fullDependencies
      (declared tripleCore [.setCrunchTask 1 11, .setCrunchTask 2 22])).2 = none ∧
    ¬ ∀ as, Isolated tripleCore 10 (fun _ => 100) twoCrunchCores
      (run (step tripleCore 10 (fun _ => 100) twoCrunchCores) (boot twoCrunchCores [] 0) as) := by
  refine ⟨by decide, fun h => ?_⟩
  have hmine := (h (collidingRun 1 2)).1 1 (.dispatcher (.onCrunchAbort 22 .preLoop)) 22
    (by decide) rfl
  revert hmine
  decide

theorem isolated_iff_single :
    (∀ as, Isolated dualCore 10 (fun _ => 100)
        (build dualCore plainTasks fullDependencies (declared dualCore [.setCrunchTask 1 11])).1
        (run (step dualCore 10 (fun _ => 100)
            (build dualCore plainTasks fullDependencies
              (declared dualCore [.setCrunchTask 1 11])).1)
          (boot (build dualCore plainTasks fullDependencies
            (declared dualCore [.setCrunchTask 1 11])).1 [] 0) as)) ↔
      SingleCrunch dualCore (declared dualCore [.setCrunchTask 1 11]).cores :=
  isolated_iff dualCore 10 (fun _ => 100) plainTasks fullDependencies _ (by decide)
    (by
      intro c d task hc hd h₁ h₂
      have hone : ∀ k < 2, ((declared dualCore [.setCrunchTask 1 11]).cores k).crunchTask ≠ none →
          k = 1 := by decide
      rw [hone c hc (by simp [h₁]), hone d hd (by simp [h₂])]) [] 0

end SputterOS.SystemRun
