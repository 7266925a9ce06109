import SputterOS.Builder.Registrations

/-!
# Validation over the kinds of tasks

The validators walk the task lists of the cores. Background tasks and crunch
tasks are in other places, where nobody asks for their dependencies or looks for
a pointer that stands somewhere else too.
-/

set_option autoImplicit false

namespace SputterOS.Builder
open SputterOS.Kernel

/-- A task of any kind. One object of the user may implement several kinds. -/
inductive TaskObject where
  | controlTask
  | commsTask
  | diagsTask
  | user (task : ℕ)
  deriving DecidableEq

/-- What `validateDependencies` returns for the background and crunch tasks. -/
structure OtherAnswers where
  background : ℕ → Bool
  crunch : ℕ → Bool

def scheduledObject : TaskPtr → TaskObject
  | .controlTask => .controlTask
  | .commsTask => .commsTask
  | .user task => .user task

def backgroundObject : BackgroundPtr → TaskObject
  | .diagsTask => .diagsTask
  | .user task => .user task

/-- The diagnostics task keeps the default answer. -/
def backgroundAnswer (answers : OtherAnswers) : BackgroundPtr → Bool
  | .diagsTask => true
  | .user task => answers.background task

def crunchTasks (cfg : Config) (sys : System) : List ℕ :=
  (List.range cfg.kCoreCount).filterMap (fun c => (sys.cores c).crunchTask)

def otherObjects (cfg : Config) (sys : System) : List TaskObject :=
  sys.backgroundTasks.map backgroundObject ++ (crunchTasks cfg sys).map TaskObject.user

def scheduledObjects (cfg : Config) (sys : System) : List TaskObject :=
  (allTasks cfg sys).map scheduledObject

structure Complete (cfg : Config) (user : UserTasks) (answers : OtherAnswers)
    (deps : Dependencies) (sys : System) : Prop where
  scheduled : ∀ t ∈ allTasks cfg sys, (taskInfo cfg user deps t).validateDependencies = true
  background : ∀ t ∈ sys.backgroundTasks, backgroundAnswer answers t = true
  crunch : ∀ task ∈ crunchTasks cfg sys, answers.crunch task = true
  distinct : (scheduledObjects cfg sys ++ otherObjects cfg sys).Nodup

/-- What the user has to see to: the background and crunch tasks have their
dependencies, and each is registered once and as nothing else. -/
structure OthersInOrder (cfg : Config) (answers : OtherAnswers) (sys : System) : Prop where
  background : ∀ t ∈ sys.backgroundTasks, backgroundAnswer answers t = true
  crunch : ∀ task ∈ crunchTasks cfg sys, answers.crunch task = true
  distinct : (otherObjects cfg sys).Nodup
  apart : ∀ x ∈ otherObjects cfg sys, x ∉ scheduledObjects cfg sys

theorem scheduledObject_injective : Function.Injective scheduledObject := by
  intro t t' h
  cases t <;> cases t' <;> simp_all [scheduledObject]

theorem declared_users (cfg : Config) (regs : List Registration) :
    ∀ x ∈ otherObjects cfg (declared cfg regs), ∃ task, x = .user task := by
  intro x hx
  rcases List.mem_append.mp hx with hx | hx
  · rw [declared_background] at hx
    obtain ⟨t, ht, rfl⟩ := List.mem_map.mp hx
    obtain ⟨task, -, rfl⟩ := List.mem_map.mp (List.mem_of_mem_take ht)
    exact ⟨task, rfl⟩
  · obtain ⟨task, -, rfl⟩ := List.mem_map.mp hx
    exact ⟨task, rfl⟩

theorem prepared_user (cfg : Config) (user : UserTasks) (deps : Dependencies)
    (regs : List Registration) (c task : ℕ) :
    TaskPtr.user task ∈ ((prepared cfg user deps (declared cfg regs)).cores c).tasks ↔
      TaskPtr.user task ∈ ((declared cfg regs).cores c).tasks := by
  have hsort : ∀ sys : System, TaskPtr.user task ∈
      ((sortTasksByPriority cfg user deps sys).cores c).tasks ↔
        TaskPtr.user task ∈ (sys.cores c).tasks := by
    intro sys
    simp only [sortTasksByPriority]
    split_ifs
    · exact (sortTasks_perm _ _).mem_iff
    · exact Iff.rfl
  rw [prepared, hsort]
  cases deps.app with
  | false => exact Iff.rfl
  | true =>
    have hlen : ((declared cfg regs).cores c).tasks.length ≤ kMaxTasksPerCore := by
      rw [declared_tasks]
      exact List.length_take_le _ _
    have hprepend := prependAll_tasks (kernelTasks cfg (declared cfg regs) c) _ hlen
    rw [← registerKernelTasks_core] at hprepend
    rw [if_pos rfl, createKernelTasks, hprepend, List.mem_append, List.mem_reverse]
    refine ⟨fun h => h.resolve_left fun hkernel => ?_, Or.inr⟩
    rcases kernelTasks_kernel cfg _ c _ (List.mem_of_mem_take hkernel) with h | h <;> cases h

theorem prepared_crunchTasks (cfg : Config) (user : UserTasks) (deps : Dependencies)
    (sys : System) : crunchTasks cfg (prepared cfg user deps sys) = crunchTasks cfg sys := by
  unfold crunchTasks
  congr 1
  funext c
  exact (prepared_extends cfg user deps sys c).crunchTask

theorem prepared_backgroundTasks (cfg : Config) (user : UserTasks) (deps : Dependencies)
    (sys : System) : (prepared cfg user deps sys).backgroundTasks =
      sys.backgroundTasks ++ if deps.app then [.diagsTask] else [] := by
  unfold prepared
  cases deps.app with
  | false => exact (List.append_nil _).symm
  | true => rfl

theorem prepared_others (cfg : Config) (user : UserTasks) (deps : Dependencies) (sys : System) :
    List.Perm (otherObjects cfg (prepared cfg user deps sys))
      ((if deps.app then [TaskObject.diagsTask] else []) ++ otherObjects cfg sys) := by
  rw [otherObjects, prepared_backgroundTasks, prepared_crunchTasks, List.map_append]
  cases deps.app with
  | false => exact List.Perm.of_eq (by simp [otherObjects])
  | true =>
    simp only [if_true, List.map_singleton, backgroundObject, otherObjects, List.append_assoc]
    exact List.perm_middle

/-- A user object is among the scheduled ones exactly if it was declared there. -/
theorem prepared_scheduled (cfg : Config) (user : UserTasks) (deps : Dependencies)
    (regs : List Registration) (task : ℕ) :
    TaskObject.user task ∈ scheduledObjects cfg (prepared cfg user deps (declared cfg regs)) ↔
      TaskObject.user task ∈ scheduledObjects cfg (declared cfg regs) := by
  have hobject : ∀ sys : System, TaskObject.user task ∈ scheduledObjects cfg sys ↔
      ∃ c < cfg.kCoreCount, TaskPtr.user task ∈ (sys.cores c).tasks := by
    intro sys
    rw [scheduledObjects, ← mem_allTasks]
    exact (List.mem_map_of_injective scheduledObject_injective :
      scheduledObject (.user task) ∈ _ ↔ _)
  simp only [hobject, prepared_user]

theorem others_distinct (cfg : Config) (user : UserTasks) (deps : Dependencies)
    (regs : List Registration) :
    (otherObjects cfg (prepared cfg user deps (declared cfg regs))).Nodup ↔
      (otherObjects cfg (declared cfg regs)).Nodup := by
  rw [(prepared_others cfg user deps (declared cfg regs)).nodup_iff]
  cases deps.app with
  | false => exact Iff.rfl
  | true =>
    rw [if_pos rfl, List.singleton_append, List.nodup_cons]
    refine ⟨And.right, fun h => ⟨fun hdiags => ?_, h⟩⟩
    obtain ⟨task, htask⟩ := declared_users cfg regs _ hdiags
    cases htask

theorem diagsTask_unscheduled (cfg : Config) (sys : System) :
    TaskObject.diagsTask ∉ scheduledObjects cfg sys := by
  intro h
  obtain ⟨t, -, ht⟩ := List.mem_map.mp h
  cases t <;> cases ht

theorem others_apart (cfg : Config) (user : UserTasks) (deps : Dependencies)
    (regs : List Registration) :
    (∀ x ∈ otherObjects cfg (prepared cfg user deps (declared cfg regs)),
      x ∉ scheduledObjects cfg (prepared cfg user deps (declared cfg regs))) ↔
        ∀ x ∈ otherObjects cfg (declared cfg regs), x ∉ scheduledObjects cfg (declared cfg regs) := by
  have hperm := prepared_others cfg user deps (declared cfg regs)
  constructor
  · intro h x hx
    obtain ⟨task, rfl⟩ := declared_users cfg regs x hx
    rw [← prepared_scheduled cfg user deps]
    exact h _ (hperm.mem_iff.mpr (List.mem_append_right _ hx))
  · intro h x hx
    rcases List.mem_append.mp (hperm.mem_iff.mp hx) with hx | hx
    · split at hx
      · rw [List.mem_singleton.mp hx]
        exact diagsTask_unscheduled cfg _
      · cases hx
    · obtain ⟨task, rfl⟩ := declared_users cfg regs x hx
      rw [prepared_scheduled]
      exact h _ hx

theorem validate_dependencies (cfg : Config) (user : UserTasks) (deps : Dependencies)
    (sys : System) (h : validate cfg user deps sys = none) :
    ∀ t ∈ allTasks cfg sys, (taskInfo cfg user deps t).validateDependencies = true := by
  unfold validate at h
  split_ifs at h
  have hdependencies := (Option.or_eq_none_iff.mp (Option.or_eq_none_iff.mp h).2).2
  unfold validateTaskDependencies at hdependencies
  split_ifs at hdependencies with hany
  intro t ht
  by_contra hfalse
  exact hany (List.any_eq_true.mpr ⟨t, ht, by simpa using hfalse⟩)

theorem prepared_complete_iff (cfg : Config) (user : UserTasks) (answers : OtherAnswers)
    (deps : Dependencies) (regs : List Registration)
    (h : validate cfg user deps (prepared cfg user deps (declared cfg regs)) = none) :
    Complete cfg user answers deps (prepared cfg user deps (declared cfg regs)) ↔
      OthersInOrder cfg answers (declared cfg regs) := by
  have hnodup := (validate_nodup cfg user deps _ h).map scheduledObject_injective
  have hbackground : (∀ t ∈ (prepared cfg user deps (declared cfg regs)).backgroundTasks,
      backgroundAnswer answers t = true) ↔
        ∀ t ∈ (declared cfg regs).backgroundTasks, backgroundAnswer answers t = true := by
    rw [prepared_backgroundTasks]
    cases deps.app <;> simp [or_imp, forall_and, backgroundAnswer]
  constructor
  · rintro ⟨-, hback, hcrunch, hdistinct⟩
    obtain ⟨-, hothers, hne⟩ := List.nodup_append.mp hdistinct
    refine ⟨hbackground.mp hback, ?_, (others_distinct cfg user deps regs).mp hothers, ?_⟩
    · rw [← prepared_crunchTasks cfg user deps]
      exact hcrunch
    · exact (others_apart cfg user deps regs).mp fun x hx hmem => hne x hmem x hx rfl
  · rintro ⟨hback, hcrunch, hdistinct, hapart⟩
    refine ⟨validate_dependencies cfg user deps _ h, hbackground.mpr hback, ?_, ?_⟩
    · rw [prepared_crunchTasks]
      exact hcrunch
    · refine List.nodup_append.mpr ⟨hnodup, (others_distinct cfg user deps regs).mpr hdistinct, ?_⟩
      rintro x hx y hy rfl
      exact (others_apart cfg user deps regs).mpr hapart x hy hx

/-- In an accepted build all tasks have their dependencies and one place each
exactly if the background and crunch tasks do. -/
theorem task_kinds_complete_iff (cfg : Config) (user : UserTasks) (answers : OtherAnswers)
    (deps : Dependencies) (regs : List Registration)
    (h : (build cfg user deps (declared cfg regs)).2 = none) :
    Complete cfg user answers deps (build cfg user deps (declared cfg regs)).1 ↔
      OthersInOrder cfg answers (declared cfg regs) := by
  have hvalid := (build_declared cfg user deps regs h).1
  rw [← prepared_complete_iff cfg user answers deps regs hvalid, build,
    (declared_static cfg regs).2.1, prepared_held, hvalid]
  exact ⟨fun h => ⟨h.scheduled, h.background, h.crunch, h.distinct⟩,
    fun h => ⟨h.scheduled, h.background, h.crunch, h.distinct⟩⟩

def unmetBackground : OtherAnswers := ⟨fun task => task ≠ 2, fun _ => true⟩

theorem task_kinds_complete_iff_dualCore :
    Complete dualCore plainTasks unmetBackground fullDependencies
        (build dualCore plainTasks fullDependencies
          (declared dualCore [.addScheduledTask 1 5, .addBackgroundTask 3])).1 ↔
      OthersInOrder dualCore unmetBackground
        (declared dualCore [.addScheduledTask 1 5, .addBackgroundTask 3]) :=
  task_kinds_complete_iff dualCore plainTasks unmetBackground fullDependencies _ (by decide)

/-- A build accepts a background task without its dependencies, and a task that
stands twice in the ring. -/
theorem unmet_and_duplicate_accepted :
    (build dualCore plainTasks fullDependencies
      (declared dualCore [.addBackgroundTask 2, .addBackgroundTask 2])).2 = none ∧
    unmetBackground.background 2 = false ∧
    ¬ ∀ regs, (build dualCore plainTasks fullDependencies (declared dualCore regs)).2 = none →
      Complete dualCore plainTasks unmetBackground fullDependencies
        (build dualCore plainTasks fullDependencies (declared dualCore regs)).1 := by
  have haccepted : (build dualCore plainTasks fullDependencies
      (declared dualCore [.addBackgroundTask 2, .addBackgroundTask 2])).2 = none := by
    decide +kernel
  refine ⟨haccepted, rfl, fun h => ?_⟩
  have hcomplete := h [.addBackgroundTask 2, .addBackgroundTask 2] haccepted
  have hdistinct := (List.nodup_append.mp hcomplete.distinct).2.1
  revert hdistinct
  decide +kernel

end SputterOS.Builder
