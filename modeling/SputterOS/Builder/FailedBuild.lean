import SputterOS.Builder.Registrations

/-!
# Failed builds

A build puts the kernel tasks into the static data and sorts the task lists
before it validates, and a failed build takes nothing back. With an application
the next build adds the kernel tasks once more.
-/

set_option autoImplicit false

namespace SputterOS.Builder
open SputterOS.Kernel

/-- The system is what it was, so that after any corrections a build answers as
if it were the first. -/
structure Atomic (cfg : Config) (user : UserTasks) (deps : Dependencies) (sys : System) : Prop where
  unchanged : (build cfg user deps sys).1 = sys
  rebuild : ∀ (user' : UserTasks) (deps' : Dependencies) (regs : List Registration),
    (build cfg user' deps' (regs.foldl (register cfg) (build cfg user deps sys).1)).2 =
      (build cfg user' deps' (regs.foldl (register cfg) sys)).2

def InOrder (cfg : Config) (user : UserTasks) (deps : Dependencies) (sys : System) : Prop :=
  ∀ c < cfg.kCoreCount,
    Sorted (fun t => effectivePriority (taskInfo cfg user deps t)) (sys.cores c).tasks

theorem atomic_iff (cfg : Config) (user : UserTasks) (deps : Dependencies) (sys : System) :
    Atomic cfg user deps sys ↔ (build cfg user deps sys).1 = sys :=
  ⟨Atomic.unchanged, fun h => ⟨h, fun user' deps' regs => by rw [h]⟩⟩

theorem build_failed (cfg : Config) (user : UserTasks) (deps : Dependencies) (sys : System)
    (hbuilt : sys.built = false) (h : (build cfg user deps sys).2 ≠ none) :
    (build cfg user deps sys).1 = prepared cfg user deps sys := by
  cases hv : validate cfg user ((prepared cfg user deps sys).held deps)
      (prepared cfg user deps sys) with
  | some error => simp [build, hbuilt, hv]
  | none => simp [build, hbuilt, hv] at h

theorem sortTasksByPriority_eq_iff (cfg : Config) (user : UserTasks) (deps : Dependencies)
    (sys : System) :
    sortTasksByPriority cfg user deps sys = sys ↔ InOrder cfg user deps sys := by
  constructor
  · intro h c hc
    have hcore := congrArg (fun s => (s.cores c).tasks) h
    simp only [sortTasksByPriority, hc, if_true] at hcore
    exact (sortTasks_eq_iff _ _).mp hcore
  · intro h
    have hcores : (sortTasksByPriority cfg user deps sys).cores = sys.cores := by
      funext c
      simp only [sortTasksByPriority]
      split_ifs with hc
      · rw [(sortTasks_eq_iff _ _).mpr (h c hc)]
      · rfl
    cases sys with
    | mk cores backgroundTasks backgroundCoreId watchdogKickFn built kernelState emplaced =>
      simpa [sortTasksByPriority] using hcores

theorem prepared_ne (cfg : Config) (user : UserTasks) (deps : Dependencies) (sys : System)
    (happ : deps.app = true) : prepared cfg user deps sys ≠ sys := by
  intro h
  have hring := congrArg (fun s => s.backgroundTasks.length) h
  simp [prepared, happ, sortTasksByPriority, createKernelTasks] at hring

/-- A failed build leaves the system as it was exactly if an earlier build had
succeeded, or there is no application and no list to sort. -/
theorem failed_build_atomic_iff (cfg : Config) (user : UserTasks) (deps : Dependencies)
    (sys : System) (h : (build cfg user deps sys).2 ≠ none) :
    Atomic cfg user deps sys ↔
      sys.built = true ∨ deps.app = false ∧ InOrder cfg user deps sys := by
  rw [atomic_iff]
  cases hbuilt : sys.built with
  | true => simp [build, hbuilt]
  | false =>
    rw [build_failed cfg user deps sys hbuilt h]
    cases happ : deps.app with
    | true => simpa [hbuilt] using prepared_ne cfg user deps sys happ
    | false =>
      rw [prepared, happ, if_neg Bool.false_ne_true, sortTasksByPriority_eq_iff]
      simp

theorem register_tasks (cfg : Config) (sys : System) (r : Registration) (c : ℕ) (t : TaskPtr)
    (h : t ∈ (sys.cores c).tasks) : t ∈ ((register cfg sys r).cores c).tasks := by
  cases r with
  | addScheduledTask coreId task =>
    by_cases hc : c = cfg.core coreId
    · rw [register, ← hc, updateCore_same, CoreData.addTask]
      split
      · exact List.mem_append_left _ h
      · exact h
    · rw [register, updateCore_other _ _ _ _ hc]
      exact h
  | setCrunchTask coreId task =>
    by_cases hc : c = cfg.core coreId
    · rw [register, ← hc, updateCore_same]
      exact h
    · rw [register, updateCore_other _ _ _ _ hc]
      exact h
  | addBackgroundTask task =>
    rw [register]
    split <;> exact h

theorem prepared_control (cfg : Config) (user : UserTasks) (deps : Dependencies) (sys : System)
    (happ : deps.app = true) (hroom : (sys.cores 0).tasks.length+2 ≤ kMaxTasksPerCore) :
    List.Perm ((prepared cfg user deps sys).cores 0).tasks
      ((kernelTasks cfg sys 0).reverse ++ (sys.cores 0).tasks) := by
  have hshort : (kernelTasks cfg sys 0).length ≤ 2 := by
    unfold kernelTasks
    split_ifs <;> decide
  have hprepend := prependAll_tasks (kernelTasks cfg sys 0) (sys.cores 0) (by omega)
  rw [← registerKernelTasks_core, List.take_of_length_le (by omega)] at hprepend
  have hpos := cfg.kCoreCount_pos
  simp only [prepared, happ, if_true, sortTasksByPriority, createKernelTasks,
    Nat.lt_of_lt_of_le Nat.zero_lt_one hpos, hprepend]
  exact sortTasks_perm _ _

/-- After a failed build with an application every further one fails. -/
theorem rebuild_refused (cfg : Config) (user user' : UserTasks) (deps deps' : Dependencies)
    (sys : System) (regs : List Registration) (hbuilt : sys.built = false)
    (h : (build cfg user deps sys).2 ≠ none) (happ : deps.app = true) (happ' : deps'.app = true)
    (hroom : (sys.cores 0).tasks.length+2 ≤ kMaxTasksPerCore)
    (hroom' : ((regs.foldl (register cfg) (build cfg user deps sys).1).cores 0).tasks.length+2 ≤
      kMaxTasksPerCore) :
    (build cfg user' deps' (regs.foldl (register cfg) (build cfg user deps sys).1)).2 ≠ none := by
  have hleft : TaskPtr.controlTask ∈ ((build cfg user deps sys).1.cores 0).tasks := by
    rw [build_failed cfg user deps sys hbuilt h,
      (prepared_control cfg user deps sys happ hroom).mem_iff, List.mem_append, List.mem_reverse]
    exact Or.inl (kernelTasks_control cfg sys)
  have hregistered : TaskPtr.controlTask ∈
      ((regs.foldl (register cfg) (build cfg user deps sys).1).cores 0).tasks := by
    generalize (build cfg user deps sys).1 = s at hleft
    clear hroom'
    induction regs generalizing s with
    | nil => exact hleft
    | cons r regs ih => exact ih (register cfg s r) (register_tasks cfg s r 0 _ hleft)
  generalize regs.foldl (register cfg) (build cfg user deps sys).1 = s at *
  intro hnone
  have hvalid : validate cfg user' ((prepared cfg user' deps' s).held deps')
      (prepared cfg user' deps' s) = none := by
    cases hb : s.built with
    | true => simp [build, hb] at hnone
    | false =>
      cases hv : validate cfg user' ((prepared cfg user' deps' s).held deps')
          (prepared cfg user' deps' s) with
      | some error => simp [build, hb, hv] at hnone
      | none => rfl
  -- the control task is there once from each of the two builds
  have hnodup := core_nodup cfg _ (validate_nodup cfg user' _ _ hvalid) 0 cfg.kCoreCount_pos
  rw [(prepared_control cfg user' deps' s happ' hroom').nodup_iff] at hnodup
  exact List.disjoint_of_nodup_append hnodup
    (List.mem_reverse.mpr (kernelTasks_control cfg s)) hregistered

def noStream : Dependencies := ⟨true, false, true⟩

theorem failed_build_atomic_iff_noStream :
    Atomic dualCore plainTasks noStream (declared dualCore [.addScheduledTask 1 5]) ↔
      (declared dualCore [.addScheduledTask 1 5]).built = true ∨
        noStream.app = false ∧
          InOrder dualCore plainTasks noStream (declared dualCore [.addScheduledTask 1 5]) :=
  failed_build_atomic_iff dualCore plainTasks noStream (declared dualCore [.addScheduledTask 1 5])
    (by decide +kernel)

/-- The missing stream is reported, and with a stream the build that would have
succeeded at first is refused. -/
theorem corrected_build_refused :
    (build dualCore plainTasks noStream (declared dualCore [])).2 =
      some "Task dependency validation failed" ∧
    (build dualCore plainTasks fullDependencies (declared dualCore [])).2 = none ∧
    (build dualCore plainTasks fullDependencies
      (build dualCore plainTasks noStream (declared dualCore [])).1).2 =
        some "Duplicate task registration detected" ∧
    ¬ ∀ regs deps, (build dualCore plainTasks deps (declared dualCore regs)).2 ≠ none →
      Atomic dualCore plainTasks deps (declared dualCore regs) := by
  have herror : (build dualCore plainTasks noStream (declared dualCore [])).2 =
      some "Task dependency validation failed" := by decide +kernel
  have hfirst : (build dualCore plainTasks fullDependencies (declared dualCore [])).2 = none := by
    decide +kernel
  have hsecond : (build dualCore plainTasks fullDependencies
      (build dualCore plainTasks noStream (declared dualCore [])).1).2 =
        some "Duplicate task registration detected" := by decide +kernel
  refine ⟨herror, hfirst, hsecond, fun h => ?_⟩
  have hrebuild := (h [] noStream (by rw [herror]; nofun)).rebuild plainTasks fullDependencies []
  rw [List.foldl_nil, List.foldl_nil, hfirst, hsecond] at hrebuild
  cases hrebuild

end SputterOS.Builder
