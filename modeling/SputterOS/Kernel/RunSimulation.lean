import SputterOS.Kernel.CoreRun
import SputterOS.Kernel.CrunchIsolation

/-!
# The single steps of a run against its phases

In the model of the crunch cores a call of `init`, a tick, a barrier and a
transition of the lifecycle are one step each. A core that takes all these in
single steps is at every moment in one of the phases, and whatever it does is done
by some steps of the phases and by changes of the lifecycle state from outside. So
what holds of the calls to crunch tasks in every run of the phases holds in every
run of the single steps.
-/

set_option autoImplicit false

namespace SputterOS.RunSimulation
open SputterOS.Kernel SputterOS.Builder SputterOS.CrunchDispatcher Foundation.Transition
open SputterOS.CoreRun (SyncType Turn InitCall initCalls coreStep)
open SputterOS.SystemRun (SingleCrunch Own stepCore)

variable {ω β γ : Type*}

/-- The phase of a core. The call of the crunch task divides the calls of `init`. -/
def place (sys : System) (c : ℕ) : CoreRun.CorePc β γ → SystemRun.CorePc
  | .setInit => .setInit
  | .initCheck => .initCheck
  | .configuredTest => .beginInit
  | .toInitializing => .beginInit
  | .init k => if k ≤ (sys.cores c).tasks.length then .initTasks else .endInit
  | .inInit k _ => if k < (sys.cores c).tasks.length then .initTasks else .endInit
  | .initializingTest => .endInit
  | .toRunning => .endInit
  | .markInit => .markInit
  | .startupBarrier _ => .startupBarrier
  | .dispatch => .dispatch
  | .configureTask task => .configureTask task
  | .configureKick => .configureKick
  | .crunch loop => .crunch loop
  | .kernelTest => .flatKernelTest
  | .stopTest i => .flatStopTest i
  | .tick => .tick
  | .inTick => .tick
  | .runningTest => .shutdownRunning
  | .toShuttingDown => .shutdownRunning
  | .shuttingDownTest => .shutdownShuttingDown
  | .toShutdown => .shutdownShuttingDown
  | .shutdownBarrier _ => .shutdownBarrier
  | .returned => .returned

def crunchCall : CoreRun.Event → Option SystemRun.Call
  | .initBegin (.crunchTask task) => some (.init task)
  | .dispatcher event => some (.dispatcher event)
  | _ => none

def crunchCalls (es : List (ℕ × CoreRun.Event)) : List (ℕ × SystemRun.Call) :=
  es.filterMap fun e => (crunchCall e.2).map fun call => (e.1, call)

structure Simulates (sys : System) (s : CoreRun.State ω β γ) (t : SystemRun.State) : Prop where
  shared : t.shared = s.shared
  crunchDispatcher : t.crunchDispatcher = s.crunchDispatcher
  coreInitialized : ∀ c, t.coreInitialized c = s.coreInitialized c
  core : ∀ c, t.core c = place sys c (s.core c)
  calls : t.calls = crunchCalls s.events

structure Moved (sys : System) (c : ℕ) (r : Turn ω β γ) (t t' : SystemRun.State) : Prop where
  shared : t'.shared = r.shared
  crunchDispatcher : t'.crunchDispatcher = r.crunchDispatcher
  coreInitialized : ∀ d, t'.coreInitialized d = if d = c then r.coreInitialized else
    t.coreInitialized d
  core : ∀ d, t'.core d = if d = c then place sys c r.pc else t.core d
  calls : t'.calls = t.calls ++ crunchCalls (r.events.map fun e => (c, e))

theorem Moved.simulates {sys : System} {c : ℕ} {r : Turn ω β γ} {s : CoreRun.State ω β γ}
    {t t' : SystemRun.State} (h : Moved sys c r t t') (hs : Simulates sys s t) :
    Simulates sys (s.put c r) t' where
  shared := h.shared
  crunchDispatcher := h.crunchDispatcher
  coreInitialized d := by
    rw [h.coreInitialized, hs.coreInitialized]
    exact (Function.update_apply ..).symm
  core d := by
    rw [h.core, hs.core]
    show _ = place sys d (Function.update s.core c r.pc d)
    by_cases hd : d = c
    · subst hd
      rw [if_pos rfl, Function.update_self]
    · rw [if_neg hd, Function.update_of_ne hd]
  calls := by
    rw [h.calls, hs.calls]
    exact (List.filterMap_append ..).symm

section Calls

variable (sys : System) (c : ℕ)

theorem initCalls_task (k : ℕ) (hk : k < (sys.cores c).tasks.length) :
    ∃ task, (initCalls sys c)[k]? = some (.task task) := by
  refine ⟨(sys.cores c).tasks[k], ?_⟩
  rw [initCalls, List.append_assoc, List.getElem?_append_left (by simpa using hk)]
  simp [hk]

theorem initCalls_crunchTask (task : ℕ) (hmode : (sys.cores c).mode = .crunch)
    (htask : (sys.cores c).crunchTask = some task) :
    (initCalls sys c)[(sys.cores c).tasks.length]? = some (.crunchTask task) := by
  rw [initCalls, List.append_assoc, List.getElem?_append_right (by simp), if_pos hmode, htask]
  simp

/-- Behind the tasks, and behind the crunch task of a core that has one, only
background tasks are called. -/
theorem initCalls_background (k : ℕ) (hk : (sys.cores c).tasks.length ≤ k)
    (hcrunch : (sys.cores c).mode = .crunch → (sys.cores c).crunchTask ≠ none →
      (sys.cores c).tasks.length < k) :
    (initCalls sys c)[k]? = none ∨ ∃ task, (initCalls sys c)[k]? = some (.backgroundTask task) := by
  have hlast : ∀ i : ℕ, (if c = sys.backgroundCoreId then
      sys.backgroundTasks.map InitCall.backgroundTask else [])[i]? = none ∨
      ∃ task, (if c = sys.backgroundCoreId then
        sys.backgroundTasks.map InitCall.backgroundTask else [])[i]? =
          some (InitCall.backgroundTask task) := by
    intro i
    split
    · rw [List.getElem?_map]
      cases sys.backgroundTasks[i]? with
      | none => exact Or.inl rfl
      | some task => exact Or.inr ⟨task, rfl⟩
    · exact Or.inl rfl
  have hbefore : ((sys.cores c).tasks.map InitCall.task ++
      if (sys.cores c).mode = .crunch then
        (sys.cores c).crunchTask.toList.map InitCall.crunchTask else []).length ≤ k := by
    rw [List.length_append, List.length_map]
    split
    · next hmode =>
      cases htask : (sys.cores c).crunchTask with
      | none => simpa using hk
      | some task =>
        have hlt := hcrunch hmode (by simp [htask])
        simpa using Nat.succ_le_of_lt hlt
    · simpa using hk
  rw [initCalls, List.getElem?_append_right hbefore]
  exact hlast _

end Calls

section Steps

variable (cfg : Config) (crunchMaxOverruns : UInt32) (maxIterationUs : ℕ → UInt64) (sys : System)
  (c : ℕ) (t : SystemRun.State)

theorem stay_moved (r : Turn ω β γ) (hshared : r.shared = t.shared)
    (hdispatcher : r.crunchDispatcher = t.crunchDispatcher)
    (hinit : r.coreInitialized = t.coreInitialized c) (hplace : place sys c r.pc = t.core c)
    (hevents : crunchCalls (r.events.map fun e => (c, e)) = []) : Moved sys c r t t where
  shared := hshared.symm
  crunchDispatcher := hdispatcher.symm
  coreInitialized d := by
    split
    · next hd => rw [hinit, hd]
    · rfl
  core d := by
    split
    · next hd => rw [hplace, hd]
    · rfl
  calls := by rw [hevents, List.append_nil]

theorem goto_moved (r : Turn ω β γ) (hshared : r.shared = t.shared)
    (hdispatcher : r.crunchDispatcher = t.crunchDispatcher)
    (hinit : r.coreInitialized = t.coreInitialized c)
    (hevents : crunchCalls (r.events.map fun e => (c, e)) = []) :
    Moved sys c r t (t.goto c (place sys c r.pc)) where
  shared := hshared.symm
  crunchDispatcher := hdispatcher.symm
  coreInitialized d := by
    split
    · next hd => rw [hinit, hd]; rfl
    · rfl
  core d := SystemRun.goto_core t c d _
  calls := by rw [hevents, List.append_nil]; rfl

/-- A phase that may advance the lifecycle, with what the lifecycle has come to
instead set from outside. -/
theorem advance_moved (hc : c < cfg.kCoreCount) (r : Turn ω β γ) (state : KernelState)
    (expected target : KernelState)
    (hstep : stepCore crunchMaxOverruns maxIterationUs sys t c =
      { t with shared := t.shared.advance expected target }.goto c (place sys c r.pc))
    (hshared : r.shared = { t.shared with kernelState := state })
    (hdispatcher : r.crunchDispatcher = t.crunchDispatcher)
    (hinit : r.coreInitialized = t.coreInitialized c)
    (hevents : crunchCalls (r.events.map fun e => (c, e)) = []) :
    Moved sys c r t (run (SystemRun.step cfg crunchMaxOverruns maxIterationUs sys) t
      [.core c, .external (.setKernelState state)]) := by
  have hadvance : ∀ v : Shared, { v.advance expected target with kernelState := state } =
      { v with kernelState := state } := by
    intro v
    rw [Shared.advance]
    split <;> rfl
  have hrun : run (SystemRun.step cfg crunchMaxOverruns maxIterationUs sys) t
      [.core c, .external (.setKernelState state)] =
      { t with shared := { t.shared with kernelState := state } }.goto c (place sys c r.pc) := by
    simp only [run_cons, run_nil, SystemRun.step, if_pos hc, hstep, SystemRun.State.goto,
      Shared.external, hadvance]
  rw [hrun]
  have hgoto := goto_moved sys c { t with shared := { t.shared with kernelState := state } } r
    hshared hdispatcher hinit hevents
  exact ⟨hgoto.shared, hgoto.crunchDispatcher, hgoto.coreInitialized, hgoto.core, hgoto.calls⟩

theorem goto_goto (pc pc' : SystemRun.CorePc) : (t.goto c pc).goto c pc' = t.goto c pc' := by
  simp [SystemRun.State.goto]

theorem run_initCrunchTask (hc : c < cfg.kCoreCount) (hcore : t.core c = .initTasks) (task : ℕ)
    (hmode : (sys.cores c).mode = .crunch) (htask : (sys.cores c).crunchTask = some task) :
    run (SystemRun.step cfg crunchMaxOverruns maxIterationUs sys) t [.core c, .core c] =
      { t with calls := t.calls ++ [(c, SystemRun.Call.init task)] }.goto c .endInit := by
  have hfirst : stepCore crunchMaxOverruns maxIterationUs sys t c = t.goto c .initCrunchTask := by
    rw [stepCore, hcore]
  have hnext : (t.goto c .initCrunchTask).core c = .initCrunchTask := Function.update_self ..
  simp only [run_cons, run_nil, SystemRun.step, if_pos hc, hfirst]
  rw [stepCore, hnext, hmode, htask]
  exact goto_goto c { t with calls := t.calls ++ [(c, SystemRun.Call.init task)] } _ _

theorem run_initNoCrunchTask (hc : c < cfg.kCoreCount) (hcore : t.core c = .initTasks)
    (hcrunch : (sys.cores c).mode = .crunch → (sys.cores c).crunchTask = none) :
    run (SystemRun.step cfg crunchMaxOverruns maxIterationUs sys) t [.core c, .core c] =
      t.goto c .endInit := by
  have hfirst : stepCore crunchMaxOverruns maxIterationUs sys t c = t.goto c .initCrunchTask := by
    rw [stepCore, hcore]
  have hnext : (t.goto c .initCrunchTask).core c = .initCrunchTask := Function.update_self ..
  simp only [run_cons, run_nil, SystemRun.step, if_pos hc, hfirst]
  rw [stepCore, hnext]
  dsimp only
  split
  · next task hmode htask =>
    rw [hcrunch hmode] at htask
    cases htask
  · exact goto_goto c t _ _

structure Starts (u : Turn ω β γ) : Prop where
  shared : u.shared = t.shared
  crunchDispatcher : u.crunchDispatcher = t.crunchDispatcher
  coreInitialized : u.coreInitialized = t.coreInitialized c
  core : t.core c = place sys c u.pc
  events : u.events = []

theorem init_moved (hc : c < cfg.kCoreCount) (sync : SyncType ω β γ) (u : Turn ω β γ) (k : ℕ)
    (hpc : u.pc = .init k) (h : Starts sys c t u) :
    ∃ bs, Moved sys c (coreStep crunchMaxOverruns maxIterationUs sync sys c u) t
      (run (SystemRun.step cfg crunchMaxOverruns maxIterationUs sys) t bs) := by
  have hcore := h.core
  rw [hpc] at hcore
  have hbackground : (sys.cores c).tasks.length ≤ k → ((sys.cores c).mode = .crunch →
      (sys.cores c).crunchTask ≠ none → (sys.cores c).tasks.length < k) →
      (coreStep crunchMaxOverruns maxIterationUs sync sys c u).shared = t.shared ∧
      (coreStep crunchMaxOverruns maxIterationUs sync sys c u).crunchDispatcher =
        t.crunchDispatcher ∧
      (coreStep crunchMaxOverruns maxIterationUs sync sys c u).coreInitialized =
        t.coreInitialized c ∧
      place sys c (coreStep crunchMaxOverruns maxIterationUs sync sys c u).pc = .endInit ∧
      crunchCalls ((coreStep crunchMaxOverruns maxIterationUs sync sys c u).events.map
        fun e => (c, e)) = [] := by
    intro hk hcrunch
    rcases initCalls_background sys c k hk hcrunch with hnone | ⟨task, hsome⟩
    · simp [coreStep, hpc, hnone, h.shared, h.crunchDispatcher, h.coreInitialized, h.events, place,
        crunchCalls]
    · simp [coreStep, hpc, hsome, h.shared, h.crunchDispatcher, h.coreInitialized, place,
        crunchCalls, crunchCall, Nat.not_lt.mpr hk]
  rcases Nat.lt_trichotomy k (sys.cores c).tasks.length with hk | rfl | hk
  · obtain ⟨task, htask⟩ := initCalls_task sys c k hk
    refine ⟨[], stay_moved sys c t _ ?_ ?_ ?_ ?_ ?_⟩ <;>
      simp [coreStep, hpc, htask, h.shared, h.crunchDispatcher, h.coreInitialized, hcore, place,
        hk, Nat.le_of_lt hk, crunchCalls, crunchCall]
  · have hphase : t.core c = .initTasks := by simp [hcore, place]
    refine ⟨[.core c, .core c], ?_⟩
    by_cases hcrunch : (sys.cores c).mode = .crunch → (sys.cores c).crunchTask = none
    · obtain ⟨hs, hd, hi, hp, he⟩ := hbackground le_rfl fun hmode htask =>
        absurd (hcrunch hmode) htask
      rw [run_initNoCrunchTask cfg crunchMaxOverruns maxIterationUs sys c t hc hphase hcrunch, ← hp]
      exact goto_moved sys c t _ hs hd hi he
    · obtain ⟨hmode, hsome⟩ := Classical.not_imp.mp hcrunch
      obtain ⟨task, htask⟩ := Option.ne_none_iff_exists'.mp hsome
      have hcall := initCalls_crunchTask sys c task hmode htask
      rw [run_initCrunchTask cfg crunchMaxOverruns maxIterationUs sys c t hc hphase task hmode htask]
      constructor
      · simp [coreStep, hpc, hcall, h.shared, SystemRun.State.goto]
      · simp [coreStep, hpc, hcall, h.crunchDispatcher, SystemRun.State.goto]
      · intro d
        by_cases hd : d = c <;>
          simp [coreStep, hpc, hcall, h.coreInitialized, SystemRun.State.goto, hd]
      · intro d
        by_cases hd : d = c <;>
          simp [coreStep, hpc, hcall, SystemRun.State.goto, hd, place]
      · simp [coreStep, hpc, hcall, crunchCalls, crunchCall, SystemRun.State.goto]
  · obtain ⟨hs, hd, hi, hp, he⟩ := hbackground hk.le fun _ _ => hk
    refine ⟨[], stay_moved sys c t _ hs hd hi ?_ he⟩
    rw [hp, hcore, place, if_neg (by omega)]

theorem test_moved (hc : c < cfg.kCoreCount) (u : Turn ω β γ) (h : Starts sys c t u)
    (expected target : KernelState) (pc pc' : CoreRun.CorePc β γ)
    (hstep : stepCore crunchMaxOverruns maxIterationUs sys t c =
      { t with shared := t.shared.advance expected target }.goto c (place sys c pc'))
    (hstay : place sys c pc = t.core c) :
    ∃ bs, Moved sys c { u with pc := if u.shared.kernelState = expected then pc else pc' } t
      (run (SystemRun.step cfg crunchMaxOverruns maxIterationUs sys) t bs) := by
  have hevents : crunchCalls (u.events.map fun e => (c, e)) = [] := by rw [h.events]; rfl
  split
  · exact ⟨[], stay_moved sys c t _ h.shared h.crunchDispatcher h.coreInitialized hstay hevents⟩
  · exact ⟨_, advance_moved cfg crunchMaxOverruns maxIterationUs sys c t hc _
      t.shared.kernelState expected target hstep h.shared h.crunchDispatcher h.coreInitialized
      hevents⟩

theorem transition_moved (hc : c < cfg.kCoreCount) (u : Turn ω β γ) (h : Starts sys c t u)
    (expected target target' : KernelState) (pc : CoreRun.CorePc β γ)
    (hstep : stepCore crunchMaxOverruns maxIterationUs sys t c =
      { t with shared := t.shared.advance expected target }.goto c (place sys c pc)) :
    ∃ bs, Moved sys c (u.transitionTo target' pc) t
      (run (SystemRun.step cfg crunchMaxOverruns maxIterationUs sys) t bs) := by
  rw [Turn.transitionTo]
  split
  · exact ⟨_, advance_moved cfg crunchMaxOverruns maxIterationUs sys c t hc _ target' expected
      target hstep (by rw [h.shared]) h.crunchDispatcher h.coreInitialized rfl⟩
  · exact ⟨_, advance_moved cfg crunchMaxOverruns maxIterationUs sys c t hc _
      t.shared.kernelState expected target hstep h.shared h.crunchDispatcher h.coreInitialized rfl⟩

theorem run_one (hc : c < cfg.kCoreCount) :
    run (SystemRun.step cfg crunchMaxOverruns maxIterationUs sys) t [.core c] =
      stepCore crunchMaxOverruns maxIterationUs sys t c := by
  simp only [run_cons, run_nil, SystemRun.step, if_pos hc]

theorem crunch_moved (hc : c < cfg.kCoreCount) (sync : SyncType ω β γ) (u : Turn ω β γ)
    (loop : Loop ℕ) (hpc : u.pc = .crunch loop) (h : Starts sys c t u) :
    Moved sys c (coreStep crunchMaxOverruns maxIterationUs sync sys c u) t
      (run (SystemRun.step cfg crunchMaxOverruns maxIterationUs sys) t [.core c]) := by
  have hcore := h.core
  rw [hpc] at hcore
  have hafter : ∀ l : Loop ℕ, place sys c (CoreRun.afterLoop l : CoreRun.CorePc β γ) =
      SystemRun.afterLoop l := by
    intro l
    cases l <;> rfl
  have hcalls : ∀ es : List (Event ℕ), crunchCalls ((es.map CoreRun.Event.dispatcher).map
      fun e => (c, e)) = es.map fun e => (c, SystemRun.Call.dispatcher e) := by
    intro es
    induction es with
    | nil => rfl
    | cons e es ih => exact congrArg _ ih
  rw [run_one cfg crunchMaxOverruns maxIterationUs sys c t hc, stepCore, hcore, coreStep, hpc]
  dsimp only [place]
  rw [h.shared, h.crunchDispatcher]
  constructor
  · rfl
  · rfl
  · intro d
    split
    · next hd => rw [h.coreInitialized, hd]; rfl
    · rfl
  · intro d
    rw [SystemRun.goto_core, hafter]
  · rw [hcalls]
    rfl

/-- A step with a phase of its own. -/
theorem goto_step (hc : c < cfg.kCoreCount) (sync : SyncType ω β γ) (u : Turn ω β γ)
    (h : Starts sys c t u) (r : Turn ω β γ)
    (hr : coreStep crunchMaxOverruns maxIterationUs sync sys c u = r)
    (hphase : stepCore crunchMaxOverruns maxIterationUs sys t c = t.goto c (place sys c r.pc))
    (hshared : r.shared = u.shared) (hdispatcher : r.crunchDispatcher = u.crunchDispatcher)
    (hinit : r.coreInitialized = u.coreInitialized)
    (hevents : crunchCalls (r.events.map fun e => (c, e)) = []) :
    ∃ bs, Moved sys c (coreStep crunchMaxOverruns maxIterationUs sync sys c u) t
      (run (SystemRun.step cfg crunchMaxOverruns maxIterationUs sys) t bs) := by
  refine ⟨[.core c], ?_⟩
  rw [hr, run_one cfg crunchMaxOverruns maxIterationUs sys c t hc, hphase]
  exact goto_moved sys c t r (hshared.trans h.shared) (hdispatcher.trans h.crunchDispatcher)
    (hinit.trans h.coreInitialized) hevents

/-- A step within a phase. -/
theorem stay_step (sync : SyncType ω β γ) (u : Turn ω β γ) (h : Starts sys c t u)
    (r : Turn ω β γ) (hr : coreStep crunchMaxOverruns maxIterationUs sync sys c u = r)
    (hplace : place sys c r.pc = t.core c) (hshared : r.shared = u.shared)
    (hdispatcher : r.crunchDispatcher = u.crunchDispatcher)
    (hinit : r.coreInitialized = u.coreInitialized)
    (hevents : crunchCalls (r.events.map fun e => (c, e)) = []) :
    ∃ bs, Moved sys c (coreStep crunchMaxOverruns maxIterationUs sync sys c u) t
      (run (SystemRun.step cfg crunchMaxOverruns maxIterationUs sys) t bs) := by
  refine ⟨[], ?_⟩
  rw [hr]
  exact stay_moved sys c t r (hshared.trans h.shared) (hdispatcher.trans h.crunchDispatcher)
    (hinit.trans h.coreInitialized) hplace hevents

theorem write_moved (u : Turn ω β γ) (h : Starts sys c t u) (d : Dispatcher ℕ) (r : Turn ω β γ)
    (hshared : t.shared = r.shared) (hdispatcher : d = r.crunchDispatcher)
    (hinit : r.coreInitialized = u.coreInitialized)
    (hevents : crunchCalls (r.events.map fun e => (c, e)) = []) :
    Moved sys c r t ({ t with crunchDispatcher := d }.goto c (place sys c r.pc)) := by
  have hmoved := goto_moved sys c { t with crunchDispatcher := d } r hshared.symm hdispatcher.symm
    (hinit.trans h.coreInitialized) hevents
  exact ⟨hmoved.shared, hmoved.crunchDispatcher, hmoved.coreInitialized, hmoved.core, hmoved.calls⟩

theorem startupBarrier_moved (hc : c < cfg.kCoreCount) (sync : SyncType ω β γ) (u : Turn ω β γ)
    (b : β) (hpc : u.pc = .startupBarrier b) (h : Starts sys c t u) :
    ∃ bs, Moved sys c (coreStep crunchMaxOverruns maxIterationUs sync sys c u) t
      (run (SystemRun.step cfg crunchMaxOverruns maxIterationUs sys) t bs) := by
  have hcore := h.core
  rw [hpc] at hcore
  have hevents : crunchCalls (u.events.map fun e => (c, e)) = [] := by rw [h.events]; rfl
  have hgoto := goto_step cfg crunchMaxOverruns maxIterationUs sys c t hc sync u h
  have hstay := stay_step cfg crunchMaxOverruns maxIterationUs sys c t sync u h
  cases hb : sync.startupResult b with
  | some result =>
    refine hgoto { u with pc := .dispatch, events := [.startupBarrier result] } ?_ ?_ rfl rfl rfl
      rfl
    · simp only [coreStep, hpc, hb]
    · rw [stepCore, hcore]; rfl
  | none =>
    refine hstay { u with
      sync := (sync.startupBarrier 2000 1 c u.sync b).1
      pc := .startupBarrier (sync.startupBarrier 2000 1 c u.sync b).2 } ?_ hcore.symm rfl rfl rfl
      hevents
    simp only [coreStep, hpc, hb]

theorem dispatch_moved (hc : c < cfg.kCoreCount) (sync : SyncType ω β γ) (u : Turn ω β γ)
    (hpc : u.pc = .dispatch) (h : Starts sys c t u) :
    ∃ bs, Moved sys c (coreStep crunchMaxOverruns maxIterationUs sync sys c u) t
      (run (SystemRun.step cfg crunchMaxOverruns maxIterationUs sys) t bs) := by
  have hcore := h.core
  rw [hpc] at hcore
  have hevents : crunchCalls (u.events.map fun e => (c, e)) = [] := by rw [h.events]; rfl
  have hgoto := goto_step cfg crunchMaxOverruns maxIterationUs sys c t hc sync u h
  cases hmode : (sys.cores c).mode with
  | flatLoop =>
    refine hgoto { u with pc := .kernelTest } ?_ ?_ rfl rfl rfl hevents
    · simp only [coreStep, hpc, hmode]
    · simp only [stepCore, hcore, place, hmode]
  | crunch =>
    cases htask : (sys.cores c).crunchTask with
    | none =>
      refine hgoto { u with pc := .kernelTest } ?_ ?_ rfl rfl rfl hevents
      · simp only [coreStep, hpc, hmode, htask]
      · simp only [stepCore, hcore, place, hmode, htask]
    | some task =>
      refine hgoto { u with pc := .configureTask task } ?_ ?_ rfl rfl rfl hevents
      · simp only [coreStep, hpc, hmode, htask]
      · simp only [stepCore, hcore, place, hmode, htask]

theorem stopTest_moved (hc : c < cfg.kCoreCount) (sync : SyncType ω β γ) (u : Turn ω β γ)
    (i : ℕ) (hpc : u.pc = .stopTest i) (h : Starts sys c t u) :
    ∃ bs, Moved sys c (coreStep crunchMaxOverruns maxIterationUs sync sys c u) t
      (run (SystemRun.step cfg crunchMaxOverruns maxIterationUs sys) t bs) := by
  have hcore := h.core
  rw [hpc] at hcore
  have hevents : crunchCalls (u.events.map fun e => (c, e)) = [] := by rw [h.events]; rfl
  have hgoto := goto_step cfg crunchMaxOverruns maxIterationUs sys c t hc sync u h
  have hstops : u.shared.stopConditions = t.shared.stopConditions := by rw [h.shared]
  cases hstop : t.shared.stopConditions[i]? with
  | none =>
    refine hgoto { u with pc := .tick } ?_ ?_ rfl rfl rfl hevents
    · simp only [coreStep, hpc, hstops, hstop]
    · simp only [stepCore, hcore, place, hstop]
  | some fires =>
    cases fires with
    | false =>
      refine hgoto { u with pc := .stopTest (i+1) } ?_ ?_ rfl rfl rfl hevents
      · simp only [coreStep, hpc, hstops, hstop]
      · simp only [stepCore, hcore, place, hstop]
    | true =>
      refine hgoto { u with pc := .runningTest } ?_ ?_ rfl rfl rfl hevents
      · simp only [coreStep, hpc, hstops, hstop]
      · simp only [stepCore, hcore, place, hstop]

theorem shutdownBarrier_moved (hc : c < cfg.kCoreCount) (sync : SyncType ω β γ) (u : Turn ω β γ)
    (b : γ) (hpc : u.pc = .shutdownBarrier b) (h : Starts sys c t u) :
    ∃ bs, Moved sys c (coreStep crunchMaxOverruns maxIterationUs sync sys c u) t
      (run (SystemRun.step cfg crunchMaxOverruns maxIterationUs sys) t bs) := by
  have hcore := h.core
  rw [hpc] at hcore
  have hevents : crunchCalls (u.events.map fun e => (c, e)) = [] := by rw [h.events]; rfl
  have hgoto := goto_step cfg crunchMaxOverruns maxIterationUs sys c t hc sync u h
  have hstay := stay_step cfg crunchMaxOverruns maxIterationUs sys c t sync u h
  cases hb : sync.shutdownResult b with
  | some result =>
    refine hgoto { u with pc := .returned, events := [.shutdownBarrier result] } ?_ ?_ rfl rfl rfl
      rfl
    · simp only [coreStep, hpc, hb]
    · rw [stepCore, hcore]; rfl
  | none =>
    refine hstay { u with
      sync := (sync.shutdownBarrier 2000 1 c u.sync b).1
      pc := .shutdownBarrier (sync.shutdownBarrier 2000 1 c u.sync b).2 } ?_ hcore.symm rfl rfl
      rfl hevents
    simp only [coreStep, hpc, hb]

theorem coreStep_moved (hc : c < cfg.kCoreCount) (sync : SyncType ω β γ) (u : Turn ω β γ)
    (h : Starts sys c t u) :
    ∃ bs, Moved sys c (coreStep crunchMaxOverruns maxIterationUs sync sys c u) t
      (run (SystemRun.step cfg crunchMaxOverruns maxIterationUs sys) t bs) := by
  have hcore := h.core
  have hevents : crunchCalls (u.events.map fun e => (c, e)) = [] := by rw [h.events]; rfl
  have hone := run_one cfg crunchMaxOverruns maxIterationUs sys c t hc
  have hgoto := goto_step cfg crunchMaxOverruns maxIterationUs sys c t hc sync u h
  have hstay := stay_step cfg crunchMaxOverruns maxIterationUs sys c t sync u h
  have hwrite := write_moved sys c t u h
  cases hpc : u.pc with
  | setInit =>
    rw [hpc] at hcore
    refine hgoto { u with sync := sync.setInit u.sync c, pc := .initCheck } ?_ ?_ rfl rfl rfl hevents
    · rw [coreStep, hpc]
    · rw [stepCore, hcore]; rfl
  | initCheck =>
    rw [hpc] at hcore
    refine hgoto { u with pc := if u.coreInitialized then .startupBarrier sync.startupCall
      else .configuredTest } ?_ ?_ rfl rfl rfl hevents
    · rw [coreStep, hpc]
    · rw [stepCore, hcore, h.coreInitialized]
      cases t.coreInitialized c <;> rfl
  | configuredTest =>
    rw [hpc] at hcore
    rw [coreStep, hpc]
    refine test_moved cfg crunchMaxOverruns maxIterationUs sys c t hc u h .configured .initializing
      .toInitializing (.init 0) ?_ hcore.symm
    rw [stepCore, hcore]
    rfl
  | toInitializing =>
    rw [hpc] at hcore
    rw [coreStep, hpc]
    refine transition_moved cfg crunchMaxOverruns maxIterationUs sys c t hc u h .configured
      .initializing .initializing (.init 0) ?_
    rw [stepCore, hcore]
    rfl
  | init k => exact init_moved cfg crunchMaxOverruns maxIterationUs sys c t hc sync u k hpc h
  | inInit k call =>
    rw [hpc] at hcore
    refine hstay { u with pc := .init (k+1), events := [.initEnd call] } ?_ ?_ rfl rfl rfl rfl
    · rw [coreStep, hpc]
    · exact hcore.symm
  | initializingTest =>
    rw [hpc] at hcore
    rw [coreStep, hpc]
    refine test_moved cfg crunchMaxOverruns maxIterationUs sys c t hc u h .initializing .running
      .toRunning .markInit ?_ hcore.symm
    rw [stepCore, hcore]
    rfl
  | toRunning =>
    rw [hpc] at hcore
    rw [coreStep, hpc]
    refine transition_moved cfg crunchMaxOverruns maxIterationUs sys c t hc u h .initializing
      .running .running .markInit ?_
    rw [stepCore, hcore]
    rfl
  | markInit =>
    rw [hpc] at hcore
    refine ⟨[.core c], ?_⟩
    rw [hone, stepCore, hcore, coreStep, hpc]
    refine ⟨h.shared.symm, h.crunchDispatcher.symm, fun d => Function.update_apply ..,
      fun d => SystemRun.goto_core _ c d _, ?_⟩
    show t.calls = t.calls ++ crunchCalls (u.events.map fun e => (c, e))
    rw [hevents, List.append_nil]
  | startupBarrier b =>
    exact startupBarrier_moved cfg crunchMaxOverruns maxIterationUs sys c t hc sync u b hpc h
  | dispatch =>
    exact dispatch_moved cfg crunchMaxOverruns maxIterationUs sys c t hc sync u hpc h
  | configureTask task =>
    rw [hpc] at hcore
    refine ⟨[.core c], ?_⟩
    rw [hone, stepCore, hcore, coreStep, hpc]
    refine hwrite _ _ h.shared.symm ?_ rfl hevents
    dsimp only [place]
    rw [h.crunchDispatcher]
  | configureKick =>
    rw [hpc] at hcore
    refine ⟨[.core c], ?_⟩
    rw [hone, stepCore, hcore, coreStep, hpc]
    refine hwrite _ _ h.shared.symm ?_ rfl hevents
    dsimp only [place]
    rw [h.crunchDispatcher]
  | crunch loop =>
    exact ⟨_, crunch_moved cfg crunchMaxOverruns maxIterationUs sys c t hc sync u loop hpc h⟩
  | kernelTest =>
    rw [hpc] at hcore
    refine hgoto { u with pc := if isActiveState u.shared.kernelState then .stopTest 0
      else .runningTest } ?_ ?_ rfl rfl rfl hevents
    · rw [coreStep, hpc]
    · rw [stepCore, hcore, h.shared]
      dsimp only [place]
      split <;> rfl
  | stopTest i =>
    exact stopTest_moved cfg crunchMaxOverruns maxIterationUs sys c t hc sync u i hpc h
  | tick =>
    rw [hpc] at hcore
    refine hstay { u with pc := .inTick, events := [.tickBegin u.shared.micros] } ?_ hcore.symm rfl
      rfl rfl rfl
    rw [coreStep, hpc]
  | inTick =>
    rw [hpc] at hcore
    refine hgoto { u with pc := .kernelTest, events := [.tickEnd] } ?_ ?_ rfl rfl rfl rfl
    · rw [coreStep, hpc]
    · rw [stepCore, hcore]; rfl
  | runningTest =>
    rw [hpc] at hcore
    rw [coreStep, hpc]
    refine test_moved cfg crunchMaxOverruns maxIterationUs sys c t hc u h .running .shuttingDown
      .toShuttingDown .shuttingDownTest ?_ hcore.symm
    rw [stepCore, hcore]
    rfl
  | toShuttingDown =>
    rw [hpc] at hcore
    rw [coreStep, hpc]
    refine transition_moved cfg crunchMaxOverruns maxIterationUs sys c t hc u h .running
      .shuttingDown .shuttingDown .shuttingDownTest ?_
    rw [stepCore, hcore]
    rfl
  | shuttingDownTest =>
    rw [hpc] at hcore
    rw [coreStep, hpc]
    refine test_moved cfg crunchMaxOverruns maxIterationUs sys c t hc u h .shuttingDown .shutdown
      .toShutdown (.shutdownBarrier sync.shutdownCall) ?_ hcore.symm
    rw [stepCore, hcore]
    rfl
  | toShutdown =>
    rw [hpc] at hcore
    rw [coreStep, hpc]
    refine transition_moved cfg crunchMaxOverruns maxIterationUs sys c t hc u h .shuttingDown
      .shutdown .shutdown (.shutdownBarrier sync.shutdownCall) ?_
    rw [stepCore, hcore]
    rfl
  | shutdownBarrier b =>
    exact shutdownBarrier_moved cfg crunchMaxOverruns maxIterationUs sys c t hc sync u b hpc h
  | returned =>
    rw [hpc] at hcore
    refine hstay u ?_ ?_ rfl rfl rfl hevents
    · rw [coreStep, hpc]
    · rw [hpc, hcore]

end Steps

section Runs

variable (cfg : Config) (crunchMaxOverruns : UInt32) (maxIterationUs : ℕ → UInt64) (sys : System)
  (sync : SyncType ω β γ)

theorem step_simulated (s : CoreRun.State ω β γ) (t : SystemRun.State) (a : CoreRun.Action)
    (h : Simulates sys s t) :
    ∃ bs, Simulates sys (CoreRun.step cfg crunchMaxOverruns maxIterationUs sync sys s a)
      (run (SystemRun.step cfg crunchMaxOverruns maxIterationUs sys) t bs) := by
  cases a with
  | input e =>
    refine ⟨[.external e.external], ?_, h.crunchDispatcher, h.coreInitialized, h.core, h.calls⟩
    exact congrArg (Shared.external · e.external) h.shared
  | core c =>
    rw [CoreRun.step]
    split
    · next hc =>
      have hstarts : Starts sys c t (s.turn c) :=
        ⟨h.shared.symm, h.crunchDispatcher.symm, (h.coreInitialized c).symm, h.core c, rfl⟩
      obtain ⟨bs, hbs⟩ :=
        coreStep_moved cfg crunchMaxOverruns maxIterationUs sys c t hc sync (s.turn c) hstarts
      exact ⟨bs, hbs.simulates h⟩
    · exact ⟨[], h⟩

theorem boot_simulates (w : ω) (stopConditions : List Bool) (micros : UInt64) :
    Simulates sys (CoreRun.boot sys w stopConditions micros : CoreRun.State ω β γ)
      (SystemRun.boot sys stopConditions micros) :=
  ⟨rfl, rfl, fun _ => rfl, fun _ => rfl, rfl⟩

/-- Every run in single steps is a run of the phases. -/
theorem run_simulates (w : ω) (stopConditions : List Bool) (micros : UInt64)
    (as : List CoreRun.Action) :
    ∃ bs, Simulates sys
      (run (CoreRun.step cfg crunchMaxOverruns maxIterationUs sync sys)
        (CoreRun.boot sys w stopConditions micros : CoreRun.State ω β γ) as)
      (run (SystemRun.step cfg crunchMaxOverruns maxIterationUs sys)
        (SystemRun.boot sys stopConditions micros) bs) :=
  run_simulated _ _ (Simulates sys)
    (step_simulated cfg crunchMaxOverruns maxIterationUs sys sync) _ _
    (boot_simulates sys w stopConditions micros) as

/-- With one crunch core the single steps call a crunch task from its own core only. -/
theorem single_calls_own (huniq : SingleCrunch cfg sys.cores) (w : ω) (stopConditions : List Bool)
    (micros : UInt64) (as : List CoreRun.Action) (c : ℕ) (call : SystemRun.Call) (task : ℕ)
    (hcall : (c, call) ∈ crunchCalls
      (run (CoreRun.step cfg crunchMaxOverruns maxIterationUs sync sys)
        (CoreRun.boot sys w stopConditions micros : CoreRun.State ω β γ) as).events)
    (htask : call.task = some task) : (sys.cores c).crunchTask = some task := by
  obtain ⟨bs, hbs⟩ := run_simulates cfg crunchMaxOverruns maxIterationUs sys sync w stopConditions
    micros as
  have hown : Own cfg sys _ := run_preserves _ _
    (SystemRun.step_own cfg crunchMaxOverruns maxIterationUs sys huniq) _
    (SystemRun.boot_own cfg sys stopConditions micros) bs
  rw [← hbs.calls] at hcall
  exact hown.calls c call task hcall htask

end Runs

end SputterOS.RunSimulation
