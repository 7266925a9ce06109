import SputterOS.Builder.SystemBuilder

/-!
# The background core of a built system

The background ring is placed on the last active core. A crunch task makes a
core active, so the last active core may be one that enters the crunch loop.
-/

set_option autoImplicit false

namespace SputterOS.Builder
open SputterOS.Kernel

/-- The background core is driven by the flat loop of `run`. -/
def BackgroundDriven (cfg : Config) (sys : System) : Prop :=
  sys.backgroundCoreId < cfg.kCoreCount ∧ (sys.cores sys.backgroundCoreId).runsCrunch = false

@[simp] theorem updateCore_same (sys : System) (c : ℕ) (f : CoreData → CoreData) :
    (sys.updateCore c f).cores c = f (sys.cores c) := by
  simp [System.updateCore]

theorem updateCore_other (sys : System) (c c' : ℕ) (f : CoreData → CoreData) (h : c' ≠ c) :
    (sys.updateCore c f).cores c' = sys.cores c' := by
  simp [System.updateCore, Function.update_of_ne h]

structure Extends (core core' : CoreData) : Prop where
  mode : core'.mode = core.mode
  crunchTask : core'.crunchTask = core.crunchTask
  tasks : core.tasks ≠ [] → core'.tasks ≠ []

theorem extends_refl (core : CoreData) : Extends core core := ⟨rfl, rfl, id⟩

theorem extends_trans (a b c : CoreData) (h₁ : Extends a b) (h₂ : Extends b c) : Extends a c :=
  ⟨h₂.mode.trans h₁.mode, h₂.crunchTask.trans h₁.crunchTask, fun h => h₂.tasks (h₁.tasks h)⟩

theorem extends_prepend (core : CoreData) (task : TaskPtr) : Extends core (core.prependTask task) :=
  ⟨by simp, by simp, fun _ => List.ne_nil_of_length_pos (prependTask_nonempty core task)⟩

theorem extends_update (sys : System) (c c' : ℕ) (task : TaskPtr) :
    Extends (sys.cores c') ((sys.prependTask c task).cores c') := by
  by_cases h : c' = c
  · rw [h, System.prependTask, updateCore_same]
    exact extends_prepend _ task
  · rw [System.prependTask, updateCore_other _ _ _ _ h]
    exact extends_refl _

theorem registerKernelTasks_extends (cfg : Config) (sys : System) (c : ℕ) :
    Extends (sys.cores c) ((registerKernelTasks cfg sys).cores c) := by
  unfold registerKernelTasks
  split_ifs
  · exact extends_trans _ _ _ (extends_update sys 0 c .controlTask) (extends_update _ 0 c .commsTask)
  · exact extends_trans _ _ _ (extends_update sys 0 c .controlTask) (extends_update _ 1 c .commsTask)
  · exact extends_trans _ _ _ (extends_update sys 0 c .commsTask)
      (extends_update _ 0 c .controlTask)

theorem prependTask_other (sys : System) (c c' : ℕ) (task : TaskPtr) (h : c' ≠ c) :
    (sys.prependTask c task).cores c' = sys.cores c' := updateCore_other _ _ _ _ h

theorem registerKernelTasks_upper (cfg : Config) (sys : System) (c : ℕ) (hc : 2 ≤ c) :
    (registerKernelTasks cfg sys).cores c = sys.cores c := by
  unfold registerKernelTasks
  split_ifs
  · rw [prependTask_other _ _ _ _ (by omega), prependTask_other _ _ _ _ (by omega)]
  · rw [prependTask_other _ _ _ _ (by omega), prependTask_other _ _ _ _ (by omega)]
  · rw [prependTask_other _ _ _ _ (by omega), prependTask_other _ _ _ _ (by omega)]

theorem registerKernelTasks_first (cfg : Config) (sys : System) :
    ((registerKernelTasks cfg sys).cores 0).tasks ≠ [] := by
  have hfirst : ∀ sys' : System, ∀ task, ((sys'.prependTask 0 task).cores 0).tasks ≠ [] := by
    intro sys' task
    rw [System.prependTask, updateCore_same]
    exact List.ne_nil_of_length_pos (prependTask_nonempty _ _)
  unfold registerKernelTasks
  split_ifs
  · exact hfirst _ _
  · rw [prependTask_other _ _ _ _ (by omega)]
    exact hfirst _ _
  · exact hfirst _ _

theorem insertKey_perm (pri : TaskPtr → UInt8) (key : TaskPtr) (front : List TaskPtr) :
    List.Perm (insertKey pri key front) (key::front) := by
  induction front with
  | nil => exact List.Perm.refl _
  | cons x xs ih =>
    rw [insertKey]
    split_ifs
    · exact (List.Perm.cons x ih).trans (List.Perm.swap key x xs)
    · exact List.Perm.refl _

theorem sortTasks_perm (pri : TaskPtr → UInt8) (tasks : List TaskPtr) :
    List.Perm (sortTasks pri tasks) tasks := by
  have hfold : ∀ front, List.Perm
      (tasks.foldl (fun front key => insertKey pri key front) front) (tasks ++ front) := by
    induction tasks with
    | nil => exact fun front => List.Perm.refl _
    | cons t ts ih =>
      intro front
      refine (ih (insertKey pri t front)).trans ?_
      exact ((insertKey_perm pri t front).append_left ts).trans List.perm_middle
  have h := hfold []
  rw [List.append_nil] at h
  exact (List.reverse_perm _).trans h

theorem sortTasksByPriority_extends (cfg : Config) (user : UserTasks) (deps : Dependencies)
    (sys : System) (c : ℕ) :
    Extends (sys.cores c) ((sortTasksByPriority cfg user deps sys).cores c) := by
  unfold sortTasksByPriority
  by_cases hc : c < cfg.kCoreCount
  · simp only [hc, if_true]
    refine ⟨rfl, rfl, fun h he => h ?_⟩
    have hp := sortTasks_perm (fun t => effectivePriority (taskInfo cfg user deps t))
      (sys.cores c).tasks
    rw [show sortTasks _ (sys.cores c).tasks = [] from he] at hp
    exact hp.symm.eq_nil
  · simp only [hc, if_false]
    exact extends_refl _

theorem declared_snoc (cfg : Config) (regs : List Registration) (r : Registration) :
    declared cfg (regs ++ [r]) = register cfg (declared cfg regs) r := by
  simp [declared]

theorem declared_coherent (cfg : Config) (regs : List Registration) (c : ℕ) :
    ((declared cfg regs).cores c).Coherent := by
  induction regs using List.reverseRecOn with
  | nil => simp [declared, System.reset, CoreData.empty, CoreData.Coherent]
  | append_singleton regs r ih =>
    rw [declared_snoc]
    cases r with
    | addScheduledTask coreId task =>
      by_cases hc : c = cfg.core coreId
      · subst hc
        simpa [register, CoreData.Coherent] using ih
      · rw [register, updateCore_other _ _ _ _ hc]
        exact ih
    | setCrunchTask coreId task =>
      by_cases hc : c = cfg.core coreId
      · subst hc
        simp [register, CoreData.Coherent, CoreData.setCrunchTask]
      · rw [register, updateCore_other _ _ _ _ hc]
        exact ih
    | addBackgroundTask task =>
      rw [register]
      split <;> exact ih

theorem declared_static (cfg : Config) (regs : List Registration) :
    (declared cfg regs).backgroundCoreId = 0 ∧ (declared cfg regs).built = false ∧
      (declared cfg regs).kernelState = .unconfigured := by
  induction regs using List.reverseRecOn with
  | nil => exact ⟨rfl, rfl, rfl⟩
  | append_singleton regs r ih =>
    rw [declared_snoc]
    cases r with
    | addScheduledTask coreId task => exact ih
    | setCrunchTask coreId task => exact ih
    | addBackgroundTask task =>
      rw [register]
      split <;> exact ih

theorem declared_emplaced (cfg : Config) (regs : List Registration) :
    (declared cfg regs).emplaced = none := by
  induction regs using List.reverseRecOn with
  | nil => rfl
  | append_singleton regs r ih =>
    rw [declared_snoc]
    cases r with
    | addScheduledTask coreId task => exact ih
    | setCrunchTask coreId task => exact ih
    | addBackgroundTask task =>
      rw [register]
      split <;> exact ih

@[simp]
theorem prepared_held (cfg : Config) (user : UserTasks) (deps : Dependencies)
    (regs : List Registration) :
    (prepared cfg user deps (declared cfg regs)).held deps = deps := by
  cases happ : deps.app with
  | true => simp [prepared, happ, sortTasksByPriority, createKernelTasks, System.held]
  | false => simp [prepared, happ, sortTasksByPriority, System.held, declared_emplaced]

theorem lastActive_spec (sys : System) (n : ℕ) (h : ∃ c < n, (sys.cores c).isActive = true) :
    lastActive sys n < n ∧ (sys.cores (lastActive sys n)).isActive = true ∧
      ∀ c, lastActive sys n < c → c < n → (sys.cores c).isActive = false := by
  induction n with
  | zero =>
    obtain ⟨c, hc, -⟩ := h
    omega
  | succ n ih =>
    rw [lastActive]
    split_ifs with hn
    · exact ⟨by omega, hn, by omega⟩
    · obtain ⟨c, hc, hact⟩ := h
      have hne : c ≠ n := fun he => hn (he ▸ hact)
      obtain ⟨hlt, hlast, hrest⟩ := ih ⟨c, by omega, hact⟩
      refine ⟨by omega, hlast, ?_⟩
      intro c' h1 h2
      by_cases he : c' = n
      · rw [he]
        simpa using hn
      · exact hrest c' h1 (by omega)

theorem prepared_kernelState (cfg : Config) (user : UserTasks) (deps : Dependencies)
    (sys : System) : (prepared cfg user deps sys).kernelState = sys.kernelState := by
  unfold prepared
  cases deps.app
  · rfl
  · simp only [sortTasksByPriority, createKernelTasks, registerKernelTasks, if_true]
    split_ifs <;> rfl

theorem build_configured (cfg : Config) (user : UserTasks) (deps : Dependencies) (sys : System)
    (hstate : sys.kernelState = .unconfigured) (h : (build cfg user deps sys).2 = none) :
    (build cfg user deps sys).1.kernelState = .configured := by
  cases hb : sys.built with
  | true => simp [build, hb] at h
  | false =>
    cases hv : validate cfg user ((prepared cfg user deps sys).held deps)
        (prepared cfg user deps sys) with
    | some error => simp [build, hb, hv] at h
    | none =>
      simp [build, hb, hv, prepared_kernelState, hstate, transitionTo, validTransition]

theorem build_declared (cfg : Config) (user : UserTasks) (deps : Dependencies)
    (regs : List Registration)
    (h : (build cfg user deps (declared cfg regs)).2 = none) :
    validate cfg user deps (prepared cfg user deps (declared cfg regs)) = none ∧
      (build cfg user deps (declared cfg regs)).1.cores =
        (prepared cfg user deps (declared cfg regs)).cores ∧
      (build cfg user deps (declared cfg regs)).1.backgroundCoreId =
        (prepared cfg user deps (declared cfg regs)).backgroundCoreId ∧
      (build cfg user deps (declared cfg regs)).1.kernelState = .configured := by
  have hstatic := declared_static cfg regs
  have hstate := build_configured cfg user deps _ hstatic.2.2 h
  cases hv : validate cfg user deps (prepared cfg user deps (declared cfg regs)) with
  | some error => simp [build, hstatic.2.1, hv] at h
  | none =>
    refine ⟨rfl, ?_, ?_, hstate⟩
    · simp [build, hstatic.2.1, hv]
    · simp [build, hstatic.2.1, hv]

theorem prepared_extends (cfg : Config) (user : UserTasks) (deps : Dependencies) (sys : System)
    (c : ℕ) : Extends (sys.cores c) ((prepared cfg user deps sys).cores c) := by
  refine extends_trans _ _ _ ?_ (sortTasksByPriority_extends cfg user deps _ c)
  cases deps.app
  · exact extends_refl _
  · rw [if_pos rfl]
    exact registerKernelTasks_extends cfg sys c

theorem validate_crunch (cfg : Config) (user : UserTasks) (deps : Dependencies) (sys : System)
    (h : validate cfg user deps sys = none) (c : ℕ) (hc : c < cfg.kCoreCount)
    (hmode : (sys.cores c).mode = .crunch) :
    c ≠ 0 ∧ (∃ task, (sys.cores c).crunchTask = some task) ∧ (sys.cores c).tasks = [] ∧
      2 ≤ cfg.kCoreCount := by
  have hall : validateCrunchConstraints cfg user sys = none := by
    unfold validate at h
    split_ifs at h
    exact (Option.or_eq_none_iff.mp (Option.or_eq_none_iff.mp h).2).1
  have hcore := List.findSome?_eq_none_iff.mp hall c (List.mem_range.mpr hc)
  rw [crunchConstraint, if_neg (not_not.mpr hmode)] at hcore
  by_cases h0 : c = 0
  · simp [h0] at hcore
  rcases ht : (sys.cores c).crunchTask with _ | task
  · simp [h0, ht] at hcore
  simp only [h0, ht, if_false] at hcore
  split_ifs at hcore with h1 h2
  exact ⟨h0, ⟨task, rfl⟩, List.eq_nil_of_length_eq_zero (by omega), by omega⟩

theorem active_iff (core : CoreData) :
    core.isActive = true ↔ core.tasks ≠ [] ∨ core.crunchTask.isSome = true := by
  simp [CoreData.isActive, List.length_pos_iff]

theorem extends_active (core core' : CoreData) (h : Extends core core')
    (ha : core.isActive = true) : core'.isActive = true := by
  rw [active_iff] at ha ⊢
  rw [h.crunchTask]
  exact ha.imp_left h.tasks

theorem runsCrunch_iff (core : CoreData) (h : core.Coherent) :
    core.runsCrunch = true ↔ core.mode = .crunch := by
  simp only [CoreData.runsCrunch, Bool.and_eq_true, decide_eq_true_eq]
  exact ⟨fun hr => hr.1, fun hm => ⟨hm, h.mp hm⟩⟩

theorem prepared_background (cfg : Config) (user : UserTasks) (deps : Dependencies) (sys : System)
    (happ : deps.app = true) (hn : 2 ≤ cfg.kCoreCount) :
    (prepared cfg user deps sys).backgroundCoreId < cfg.kCoreCount ∧
      ((registerKernelTasks cfg sys).cores
        (prepared cfg user deps sys).backgroundCoreId).isActive = true ∧
      ∀ c, (prepared cfg user deps sys).backgroundCoreId < c → c < cfg.kCoreCount →
        ((registerKernelTasks cfg sys).cores c).isActive = false := by
  have hbg : (prepared cfg user deps sys).backgroundCoreId =
      lastActive (registerKernelTasks cfg sys) cfg.kCoreCount := by
    simp [prepared, happ, sortTasksByPriority, createKernelTasks, hn]
  have hfirst : ((registerKernelTasks cfg sys).cores 0).isActive = true := by
    rw [active_iff]
    exact Or.inl (registerKernelTasks_first cfg _)
  rw [hbg]
  exact lastActive_spec _ cfg.kCoreCount ⟨0, by omega, hfirst⟩

theorem prepared_background_first (cfg : Config) (user : UserTasks) (deps : Dependencies)
    (regs : List Registration) (h : deps.app = false ∨ cfg.kCoreCount < 2) :
    (prepared cfg user deps (declared cfg regs)).backgroundCoreId = 0 := by
  cases happ : deps.app with
  | false => simp [prepared, happ, sortTasksByPriority, (declared_static cfg regs).1]
  | true =>
    have hone : cfg.kCoreCount < 2 := h.resolve_left (by simp [happ])
    simp [prepared, happ, sortTasksByPriority, createKernelTasks, hone]

theorem prepared_runsCrunch (cfg : Config) (user : UserTasks) (deps : Dependencies)
    (regs : List Registration) (c : ℕ) :
    ((prepared cfg user deps (declared cfg regs)).cores c).runsCrunch = true ↔
      ((declared cfg regs).cores c).mode = .crunch := by
  have hext := prepared_extends cfg user deps (declared cfg regs) c
  rw [← runsCrunch_iff _ (declared_coherent cfg regs c)]
  simp only [CoreData.runsCrunch, hext.mode, hext.crunchTask]

theorem declared_crunch (cfg : Config) (user : UserTasks) (deps : Dependencies)
    (regs : List Registration)
    (hvalid : validate cfg user deps (prepared cfg user deps (declared cfg regs)) = none) (c : ℕ)
    (hc : c < cfg.kCoreCount) (hm : ((declared cfg regs).cores c).mode = .crunch) :
    c ≠ 0 ∧ 2 ≤ cfg.kCoreCount := by
  have hext := prepared_extends cfg user deps (declared cfg regs) c
  have h := validate_crunch cfg user deps _ hvalid c hc (hext.mode.trans hm)
  exact ⟨h.1, h.2.2.2⟩

/-- The last active core is a crunch core or has tasks registered on it. -/
theorem last_active_flat_iff (cfg : Config) (regs : List Registration) (L : ℕ)
    (hlt : L < cfg.kCoreCount)
    (hact : ((registerKernelTasks cfg (declared cfg regs)).cores L).isActive = true)
    (hlast : ∀ c, L < c → c < cfg.kCoreCount →
      ((registerKernelTasks cfg (declared cfg regs)).cores c).isActive = false)
    (hfirst : ∀ c < cfg.kCoreCount, ((declared cfg regs).cores c).mode = .crunch → c ≠ 0) :
    ((declared cfg regs).cores L).mode ≠ .crunch ↔
      ∀ c < cfg.kCoreCount, ((declared cfg regs).cores c).mode = .crunch →
        ∃ c', c < c' ∧ c' < cfg.kCoreCount ∧ ((declared cfg regs).cores c').tasks ≠ [] := by
  have hcoherent := declared_coherent cfg regs
  have hreg := registerKernelTasks_extends cfg (declared cfg regs)
  constructor
  · intro hL c hc hm
    have hne := hfirst c hc hm
    have hcact : ((registerKernelTasks cfg (declared cfg regs)).cores c).isActive = true :=
      extends_active _ _ (hreg c) ((active_iff _).mpr (Or.inr ((hcoherent c).mp hm)))
    have hcL : c < L := by
      by_contra hnot
      rcases Nat.lt_or_eq_of_le (Nat.not_lt.mp hnot) with h | h
      · simp [hlast c h hc] at hcact
      · exact hL (h ▸ hm)
    refine ⟨L, hcL, hlt, ?_⟩
    rw [registerKernelTasks_upper cfg _ L (by omega), active_iff] at hact
    exact hact.resolve_right (fun h => hL ((hcoherent L).mpr h))
  · intro hall hm
    obtain ⟨c', hlt', hc', htasks⟩ := hall L hlt hm
    have hact' : ((registerKernelTasks cfg (declared cfg regs)).cores c').isActive = true :=
      extends_active _ _ (hreg c') ((active_iff _).mpr (Or.inl htasks))
    simp [hlast c' hlt' hc'] at hact'

/-- In an accepted build the background core is driven by the flat loop exactly
when there is no application or every crunch core has a core with registered
scheduled tasks above it. -/
theorem background_driven_iff (cfg : Config) (user : UserTasks) (deps : Dependencies)
    (regs : List Registration) (hbuild : (build cfg user deps (declared cfg regs)).2 = none) :
    BackgroundDriven cfg (build cfg user deps (declared cfg regs)).1 ↔
      deps.app = false ∨
        ∀ c < cfg.kCoreCount, ((declared cfg regs).cores c).mode = .crunch →
          ∃ c', c < c' ∧ c' < cfg.kCoreCount ∧ ((declared cfg regs).cores c').tasks ≠ [] := by
  obtain ⟨hvalid, hcores, hbg, -⟩ := build_declared cfg user deps regs hbuild
  have hcrunch := declared_crunch cfg user deps regs hvalid
  have hpos := cfg.kCoreCount_pos
  rw [BackgroundDriven, hcores, hbg, ← Bool.not_eq_true, prepared_runsCrunch]
  by_cases hkernel : deps.app = false ∨ cfg.kCoreCount < 2
  · rw [prepared_background_first cfg user deps regs hkernel]
    refine iff_of_true ⟨hpos, fun hm => (hcrunch 0 hpos hm).1 rfl⟩ (hkernel.imp_right ?_)
    intro hone c hc hm
    have hle := (hcrunch c hc hm).2
    omega
  · obtain ⟨happ, hn⟩ := not_or.mp hkernel
    obtain ⟨hlt, hact, hlast⟩ := prepared_background cfg user deps (declared cfg regs)
      (by simpa using happ) (Nat.le_of_not_lt hn)
    rw [or_iff_right happ, and_iff_right hlt]
    exact last_active_flat_iff cfg regs _ hlt hact hlast fun c hc hm => (hcrunch c hc hm).1

def dualCore : Config := ⟨2, by decide, 10000, 10000, 10, 8⟩

def plainTasks : UserTasks := ⟨fun _ => ⟨1000, 0xFF, true⟩, fun _ => 1000⟩

def fullDependencies : Dependencies := ⟨true, true, true⟩

/-- The documented layout with a crunch task on the last core is accepted and
places the background ring there. -/
theorem crunch_on_last_core :
    ¬ ∀ regs, (build dualCore plainTasks fullDependencies (declared dualCore regs)).2 = none →
      BackgroundDriven dualCore
        (build dualCore plainTasks fullDependencies (declared dualCore regs)).1 := by
  intro h
  have hdriven := (h [.setCrunchTask 1 0] (by decide)).2
  revert hdriven
  decide

theorem background_driven_iff_dualCore :
    BackgroundDriven dualCore (build dualCore plainTasks fullDependencies
        (declared dualCore [.addScheduledTask 1 5, .addBackgroundTask 2])).1 ↔
      fullDependencies.app = false ∨
        ∀ c < dualCore.kCoreCount,
          ((declared dualCore [.addScheduledTask 1 5, .addBackgroundTask 2]).cores c).mode =
              .crunch →
            ∃ c', c < c' ∧ c' < dualCore.kCoreCount ∧
              ((declared dualCore [.addScheduledTask 1 5, .addBackgroundTask 2]).cores c').tasks ≠
                [] :=
  background_driven_iff dualCore plainTasks fullDependencies _ (by decide)

end SputterOS.Builder
