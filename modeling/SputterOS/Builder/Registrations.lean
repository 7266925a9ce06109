import SputterOS.Builder.PrioritySort

/-!
# Registrations and capacities

The arrays that users fill take the kernel tasks too. A registration or a kernel
task that finds its task list full is dropped without a word, and the diagnostics
task is put behind a full background ring. A second crunch task takes the place of
the first, and a background task can stand in the ring twice.
-/

set_option autoImplicit false

namespace SputterOS.Builder
open SputterOS.Kernel

def Registration.scheduledOn (cfg : Config) (c : ℕ) : Registration → Option ℕ
  | .addScheduledTask coreId task => if cfg.core coreId = c then some task else none
  | .setCrunchTask _ _ => none
  | .addBackgroundTask _ => none

def Registration.background : Registration → Option ℕ
  | .addScheduledTask _ _ => none
  | .setCrunchTask _ _ => none
  | .addBackgroundTask task => some task

def scheduledOn (cfg : Config) (c : ℕ) (regs : List Registration) : List ℕ :=
  regs.filterMap (Registration.scheduledOn cfg c)

def Registration.crunchOn (cfg : Config) (c : ℕ) : Registration → Option ℕ
  | .addScheduledTask _ _ => none
  | .setCrunchTask coreId task => if cfg.core coreId = c then some task else none
  | .addBackgroundTask _ => none

def crunchOn (cfg : Config) (c : ℕ) (regs : List Registration) : List ℕ :=
  regs.filterMap (Registration.crunchOn cfg c)

def backgroundOf (regs : List Registration) : List ℕ := regs.filterMap Registration.background

def kernelTasks (cfg : Config) (sys : System) (c : ℕ) : List TaskPtr :=
  if cfg.kCoreCount ≥ 2 then
    if (sys.cores 1).mode = .crunch then if c = 0 then [.controlTask, .commsTask] else []
    else if c = 0 then [.controlTask] else if c = 1 then [.commsTask] else []
  else if c = 0 then [.commsTask, .controlTask] else []

def ring (cfg : Config) (sys : System) : List BackgroundPtr :=
  sys.backgroundTasks.take cfg.maxBackgroundTasks

def userTask : TaskPtr → Option ℕ
  | .user task => some task
  | _ => none

/-- The kernel tasks are in their places, every task registered is present once, and
every registration of a scheduled task has a slot of its own. -/
structure Preserved (cfg : Config) (regs : List Registration) (sys : System) : Prop where
  controlTask : (allTasks cfg sys).count .controlTask = 1
  first : (sys.cores 0).tasks.head? = some .controlTask
  commsTask : (allTasks cfg sys).count .commsTask = 1
  diagsTask : (ring cfg sys).count .diagsTask = 1
  scheduled : ∀ coreId task, Registration.addScheduledTask coreId task ∈ regs →
    (sys.cores (cfg.core coreId)).tasks.count (.user task) = 1
  crunch : ∀ coreId task, Registration.setCrunchTask coreId task ∈ regs →
    (sys.cores (cfg.core coreId)).crunchTask = some task
  background : ∀ task, Registration.addBackgroundTask task ∈ regs →
    (ring cfg sys).count (.user task) = 1
  kept : ∀ c < cfg.kCoreCount,
    List.Perm ((sys.cores c).tasks.filterMap userTask) (scheduledOn cfg c regs)

structure Fits (cfg : Config) (regs : List Registration) : Prop where
  cores : ∀ c < cfg.kCoreCount, (scheduledOn cfg c regs).length +
    (kernelTasks cfg (declared cfg regs) c).length ≤ kMaxTasksPerCore
  background : (backgroundOf regs).length < cfg.maxBackgroundTasks
  distinct : (backgroundOf regs).Nodup
  crunch : ∀ c < cfg.kCoreCount, ∀ task ∈ crunchOn cfg c regs, ∀ task' ∈ crunchOn cfg c regs,
    task = task'

theorem take_snoc {α : Type*} (n : ℕ) (l : List α) (x : α) :
    (l ++ [x]).take n = if (l.take n).length < n then l.take n ++ [x] else l.take n := by
  rw [List.length_take]
  split_ifs with h
  · rw [List.take_of_length_le (by simp; omega), List.take_of_length_le (by omega)]
  · rw [List.take_append_of_le_length (by omega)]

theorem scheduledOn_snoc (cfg : Config) (c : ℕ) (regs : List Registration) (r : Registration) :
    scheduledOn cfg c (regs ++ [r]) = scheduledOn cfg c regs ++ (r.scheduledOn cfg c).toList := by
  rw [scheduledOn, List.filterMap_append]
  rcases h : r.scheduledOn cfg c with _ | task <;> simp [scheduledOn, h]

theorem backgroundOf_snoc (regs : List Registration) (r : Registration) :
    backgroundOf (regs ++ [r]) = backgroundOf regs ++ r.background.toList := by
  rw [backgroundOf, List.filterMap_append]
  rcases h : r.background with _ | task <;> simp [backgroundOf, h]

theorem declared_tasks (cfg : Config) (regs : List Registration) (c : ℕ) :
    ((declared cfg regs).cores c).tasks =
      ((scheduledOn cfg c regs).map TaskPtr.user).take kMaxTasksPerCore := by
  induction regs using List.reverseRecOn with
  | nil => rfl
  | append_singleton regs r ih =>
    rw [declared_snoc, scheduledOn_snoc]
    cases r with
    | addScheduledTask coreId task =>
      by_cases hc : cfg.core coreId = c
      · rw [register, hc, updateCore_same, CoreData.addTask, Registration.scheduledOn, if_pos hc,
          Option.toList_some, List.map_append, List.map_singleton, take_snoc, ← ih]
        split <;> rfl
      · rw [register, updateCore_other _ _ _ _ (Ne.symm hc), ih, Registration.scheduledOn,
          if_neg hc, Option.toList_none, List.append_nil]
    | setCrunchTask coreId task =>
      have htasks : ((register cfg (declared cfg regs) (.setCrunchTask coreId task)).cores c).tasks =
          ((declared cfg regs).cores c).tasks := by
        by_cases hc : c = cfg.core coreId
        · rw [register, hc, updateCore_same]
          rfl
        · rw [register, updateCore_other _ _ _ _ hc]
      rw [htasks, ih, Registration.scheduledOn, Option.toList_none, List.append_nil]
    | addBackgroundTask task =>
      have hcores : (register cfg (declared cfg regs) (.addBackgroundTask task)).cores =
          (declared cfg regs).cores := by
        rw [register]
        split <;> rfl
      rw [hcores, ih, Registration.scheduledOn, Option.toList_none, List.append_nil]

theorem declared_background (cfg : Config) (regs : List Registration) :
    (declared cfg regs).backgroundTasks =
      ((backgroundOf regs).map BackgroundPtr.user).take cfg.maxBackgroundTasks := by
  induction regs using List.reverseRecOn with
  | nil => exact List.take_nil.symm
  | append_singleton regs r ih =>
    rw [declared_snoc, backgroundOf_snoc]
    cases r with
    | addScheduledTask coreId task =>
      rw [Registration.background, Option.toList_none, List.append_nil, ← ih]
      rfl
    | setCrunchTask coreId task =>
      rw [Registration.background, Option.toList_none, List.append_nil, ← ih]
      rfl
    | addBackgroundTask task =>
      rw [register, Registration.background, Option.toList_some, List.map_append,
        List.map_singleton, take_snoc, ← ih]
      split <;> rfl

theorem crunchOn_snoc (cfg : Config) (c : ℕ) (regs : List Registration) (r : Registration) :
    crunchOn cfg c (regs ++ [r]) = crunchOn cfg c regs ++ (r.crunchOn cfg c).toList := by
  rw [crunchOn, List.filterMap_append]
  rcases h : r.crunchOn cfg c with _ | task <;> simp [crunchOn, h]

theorem declared_crunchTask (cfg : Config) (regs : List Registration) (c : ℕ) :
    ((declared cfg regs).cores c).crunchTask = (crunchOn cfg c regs).getLast? := by
  induction regs using List.reverseRecOn with
  | nil => rfl
  | append_singleton regs r ih =>
    rw [declared_snoc, crunchOn_snoc]
    cases r with
    | addScheduledTask coreId task =>
      have hcore : ((register cfg (declared cfg regs) (.addScheduledTask coreId task)).cores
          c).crunchTask = ((declared cfg regs).cores c).crunchTask := by
        by_cases hc : c = cfg.core coreId
        · rw [register, hc, updateCore_same, addTask_crunchTask]
        · rw [register, updateCore_other _ _ _ _ hc]
      rw [hcore, ih, Registration.crunchOn, Option.toList_none, List.append_nil]
    | setCrunchTask coreId task =>
      by_cases hc : cfg.core coreId = c
      · rw [register, hc, updateCore_same, Registration.crunchOn, if_pos hc, Option.toList_some,
          List.getLast?_append_cons]
        rfl
      · rw [register, updateCore_other _ _ _ _ (Ne.symm hc), ih, Registration.crunchOn, if_neg hc,
          Option.toList_none, List.append_nil]
    | addBackgroundTask task =>
      have hcores : (register cfg (declared cfg regs) (.addBackgroundTask task)).cores =
          (declared cfg regs).cores := by
        rw [register]
        split <;> rfl
      rw [hcores, ih, Registration.crunchOn, Option.toList_none, List.append_nil]

theorem prependAll_tasks (ks : List TaskPtr) (core : CoreData)
    (h : core.tasks.length ≤ kMaxTasksPerCore) :
    (ks.foldl CoreData.prependTask core).tasks =
      (ks.take (kMaxTasksPerCore-core.tasks.length)).reverse ++ core.tasks := by
  induction ks generalizing core with
  | nil => simp
  | cons k ks ih =>
    rw [List.foldl_cons]
    by_cases hroom : core.tasks.length < kMaxTasksPerCore
    · have htasks : (core.prependTask k).tasks = k::core.tasks := by
        rw [CoreData.prependTask, if_pos hroom]
      have hsub : kMaxTasksPerCore-core.tasks.length =
          kMaxTasksPerCore-(core.tasks.length+1)+1 := by omega
      rw [ih _ (by rw [htasks]; exact hroom), htasks, List.length_cons, hsub, List.take_succ_cons,
        List.reverse_cons, List.append_assoc]
      rfl
    · have hfull : core.prependTask k = core := by
        rw [CoreData.prependTask, if_neg hroom]
      have hzero : kMaxTasksPerCore-core.tasks.length = 0 := by omega
      rw [hfull, ih core h, hzero, List.take_zero, List.take_zero]

/-- Prepending puts tasks before those of the core, as far as they fit. -/
theorem prependAll_split (ks : List TaskPtr) (core : CoreData) :
    ∃ front, (∀ t ∈ front, t ∈ ks) ∧
      (ks.foldl CoreData.prependTask core).tasks = front ++ core.tasks := by
  induction ks generalizing core with
  | nil => exact ⟨[], by simp, rfl⟩
  | cons k ks ih =>
    obtain ⟨front, hmem, htasks⟩ := ih (core.prependTask k)
    rw [List.foldl_cons, htasks, CoreData.prependTask]
    split_ifs
    · refine ⟨front ++ [k], ?_, by simp⟩
      intro t ht
      rcases List.mem_append.mp ht with h | h
      · exact List.mem_cons_of_mem k (hmem t h)
      · rw [List.mem_singleton.mp h]
        exact List.mem_cons_self
    · exact ⟨front, fun t ht => List.mem_cons_of_mem k (hmem t ht), rfl⟩

theorem registerKernelTasks_core (cfg : Config) (sys : System) (c : ℕ) :
    (registerKernelTasks cfg sys).cores c =
      (kernelTasks cfg sys c).foldl CoreData.prependTask (sys.cores c) := by
  have hmode : ((sys.prependTask 0 .controlTask).cores 1).mode = (sys.cores 1).mode := by
    rw [prependTask_other _ _ _ _ (by decide)]
  unfold registerKernelTasks kernelTasks
  rw [hmode]
  split_ifs with hmulti hcrunch h0 h0 h1 h0
  · subst h0
    simp [System.prependTask, System.updateCore]
  · rw [prependTask_other _ _ _ _ h0, prependTask_other _ _ _ _ h0]
    rfl
  · subst h0
    simp [System.prependTask, System.updateCore]
  · subst h1
    simp [System.prependTask, System.updateCore]
  · rw [prependTask_other _ _ _ _ h1, prependTask_other _ _ _ _ h0]
    rfl
  · subst h0
    simp [System.prependTask, System.updateCore]
  · rw [prependTask_other _ _ _ _ h0, prependTask_other _ _ _ _ h0]
    rfl

theorem kernelTasks_kernel (cfg : Config) (sys : System) (c : ℕ) :
    ∀ t ∈ kernelTasks cfg sys c, t = .controlTask ∨ t = .commsTask := by
  unfold kernelTasks
  split_ifs <;> simp

theorem kernelTasks_nodup (cfg : Config) (sys : System) (c : ℕ) : (kernelTasks cfg sys c).Nodup := by
  unfold kernelTasks
  split_ifs <;> decide

theorem kernelTasks_core (cfg : Config) (sys : System) (c c' : ℕ) (t : TaskPtr)
    (h : t ∈ kernelTasks cfg sys c) (h' : t ∈ kernelTasks cfg sys c') : c = c' := by
  unfold kernelTasks at h h'
  split_ifs at h h' <;> simp_all

theorem kernelTasks_control (cfg : Config) (sys : System) :
    TaskPtr.controlTask ∈ kernelTasks cfg sys 0 := by
  unfold kernelTasks
  split_ifs <;> simp_all

theorem kernelTasks_comms (cfg : Config) (sys : System) :
    ∃ c < cfg.kCoreCount, TaskPtr.commsTask ∈ kernelTasks cfg sys c := by
  have hpos := cfg.kCoreCount_pos
  unfold kernelTasks
  by_cases hmulti : cfg.kCoreCount ≥ 2
  · by_cases hcrunch : (sys.cores 1).mode = .crunch
    · exact ⟨0, hpos, by simp [hmulti, hcrunch]⟩
    · exact ⟨1, hmulti, by simp [hmulti, hcrunch]⟩
  · exact ⟨0, hpos, by simp [hmulti]⟩

def filled (cfg : Config) (regs : List Registration) (c : ℕ) : List TaskPtr :=
  ((kernelTasks cfg (declared cfg regs) c).take
      (kMaxTasksPerCore-((scheduledOn cfg c regs).map TaskPtr.user |>.take kMaxTasksPerCore).length)
    ).reverse ++ ((scheduledOn cfg c regs).map TaskPtr.user).take kMaxTasksPerCore

theorem prepared_tasks (cfg : Config) (user : UserTasks) (deps : Dependencies)
    (regs : List Registration) (happ : deps.app = true) (c : ℕ) (hc : c < cfg.kCoreCount) :
    ((prepared cfg user deps (declared cfg regs)).cores c).tasks =
      sortTasks (fun t => effectivePriority (taskInfo cfg user deps t)) (filled cfg regs c) := by
  have hlen : ((declared cfg regs).cores c).tasks.length ≤ kMaxTasksPerCore := by
    rw [declared_tasks]
    exact List.length_take_le _ _
  have hfilled := prependAll_tasks (kernelTasks cfg (declared cfg regs) c) _ hlen
  rw [← registerKernelTasks_core, declared_tasks] at hfilled
  simp only [prepared, happ, if_true, sortTasksByPriority, hc, createKernelTasks, hfilled, filled]

/-- What an accepted build with an application leaves. -/
structure Accepted (cfg : Config) (user : UserTasks) (deps : Dependencies)
    (regs : List Registration) (sys : System) : Prop where
  tasks : ∀ c < cfg.kCoreCount, (sys.cores c).tasks =
    sortTasks (fun t => effectivePriority (taskInfo cfg user deps t)) (filled cfg regs c)
  nodup : (allTasks cfg sys).Nodup
  crunchTask : ∀ c, (sys.cores c).crunchTask = (crunchOn cfg c regs).getLast?
  ring : sys.backgroundTasks =
    ((backgroundOf regs).map BackgroundPtr.user).take cfg.maxBackgroundTasks ++ [.diagsTask]

theorem validate_nodup (cfg : Config) (user : UserTasks) (deps : Dependencies) (sys : System)
    (h : validate cfg user deps sys = none) : (allTasks cfg sys).Nodup := by
  unfold validate at h
  split_ifs at h
  have hscheduling := (Option.or_eq_none_iff.mp h).1
  unfold validateSchedulingConstraints at hscheduling
  split_ifs at hscheduling with hperiod hnodup
  exact hnodup

theorem build_accepted (cfg : Config) (user : UserTasks) (deps : Dependencies)
    (regs : List Registration) (happ : deps.app = true)
    (h : (build cfg user deps (declared cfg regs)).2 = none) :
    Accepted cfg user deps regs (build cfg user deps (declared cfg regs)).1 := by
  obtain ⟨hvalid, hcores, -, -⟩ := build_declared cfg user deps regs h
  have hbuilt := (declared_static cfg regs).2.1
  refine ⟨fun c hc => ?_, ?_, fun c => ?_, ?_⟩
  · rw [hcores]
    exact prepared_tasks cfg user deps regs happ c hc
  · have hnodup := validate_nodup cfg user deps _ hvalid
    unfold allTasks at hnodup ⊢
    rw [hcores]
    exact hnodup
  · rw [hcores, ← declared_crunchTask]
    exact (prepared_extends cfg user deps (declared cfg regs) c).crunchTask
  · rw [build, hbuilt, prepared_held, hvalid]
    simp only [Bool.false_eq_true, if_false, prepared, happ, if_true, sortTasksByPriority,
      createKernelTasks, declared_background]

theorem filled_users (cfg : Config) (regs : List Registration) (c : ℕ) :
    (filled cfg regs c).filterMap userTask = (scheduledOn cfg c regs).take kMaxTasksPerCore := by
  have hkernel : ((kernelTasks cfg (declared cfg regs) c).take (kMaxTasksPerCore-
      ((scheduledOn cfg c regs).map TaskPtr.user |>.take kMaxTasksPerCore).length)).reverse.filterMap
        userTask = [] := by
    refine List.filterMap_eq_nil_iff.mpr fun t ht => ?_
    rcases kernelTasks_kernel cfg _ c t (List.mem_of_mem_take (List.mem_reverse.mp ht)) with
      rfl | rfl <;> rfl
  have husers : ∀ tasks : List ℕ, (tasks.map TaskPtr.user).filterMap userTask = tasks := by
    intro tasks
    rw [List.filterMap_map]
    exact List.filterMap_some
  rw [filled, List.filterMap_append, hkernel, List.nil_append, ← List.map_take, husers]

theorem filled_fits (cfg : Config) (regs : List Registration) (c : ℕ)
    (h : (scheduledOn cfg c regs).length + (kernelTasks cfg (declared cfg regs) c).length ≤
      kMaxTasksPerCore) :
    filled cfg regs c = (kernelTasks cfg (declared cfg regs) c).reverse ++
      (scheduledOn cfg c regs).map TaskPtr.user := by
  have htake : ((scheduledOn cfg c regs).map TaskPtr.user).take kMaxTasksPerCore =
      (scheduledOn cfg c regs).map TaskPtr.user :=
    List.take_of_length_le (by rw [List.length_map]; omega)
  rw [filled, htake, List.length_map, List.take_of_length_le (by omega)]

theorem mem_allTasks (cfg : Config) (sys : System) (t : TaskPtr) :
    t ∈ allTasks cfg sys ↔ ∃ c < cfg.kCoreCount, t ∈ (sys.cores c).tasks := by
  simp [allTasks]

theorem core_nodup (cfg : Config) (sys : System) (h : (allTasks cfg sys).Nodup) (c : ℕ)
    (hc : c < cfg.kCoreCount) : (sys.cores c).tasks.Nodup :=
  (List.nodup_flatMap.mp h).1 c (List.mem_range.mpr hc)

theorem mem_scheduledOn (cfg : Config) (regs : List Registration) (coreId task : ℕ)
    (h : Registration.addScheduledTask coreId task ∈ regs) :
    task ∈ scheduledOn cfg (cfg.core coreId) regs :=
  List.mem_filterMap.mpr ⟨_, h, if_pos rfl⟩

theorem mem_backgroundOf (regs : List Registration) (task : ℕ)
    (h : Registration.addBackgroundTask task ∈ regs) : task ∈ backgroundOf regs :=
  List.mem_filterMap.mpr ⟨_, h, rfl⟩

theorem addBackgroundTask_mem (regs : List Registration) (task : ℕ) (h : task ∈ backgroundOf regs) :
    Registration.addBackgroundTask task ∈ regs := by
  obtain ⟨r, hr, hback⟩ := List.mem_filterMap.mp h
  cases r with
  | addScheduledTask coreId task' => cases hback
  | setCrunchTask coreId task' => cases hback
  | addBackgroundTask task' =>
    cases hback
    exact hr

theorem mem_crunchOn (cfg : Config) (regs : List Registration) (coreId task : ℕ)
    (h : Registration.setCrunchTask coreId task ∈ regs) :
    task ∈ crunchOn cfg (cfg.core coreId) regs :=
  List.mem_filterMap.mpr ⟨_, h, if_pos rfl⟩

theorem setCrunchTask_mem (cfg : Config) (regs : List Registration) (c task : ℕ)
    (h : task ∈ crunchOn cfg c regs) :
    ∃ coreId, cfg.core coreId = c ∧ Registration.setCrunchTask coreId task ∈ regs := by
  obtain ⟨r, hr, hcrunch⟩ := List.mem_filterMap.mp h
  cases r with
  | addScheduledTask coreId task' => cases hcrunch
  | setCrunchTask coreId task' =>
    rw [Registration.crunchOn] at hcrunch
    split_ifs at hcrunch with hc
    cases hcrunch
    exact ⟨coreId, hc, hr⟩
  | addBackgroundTask task' => cases hcrunch

theorem core_lt (cfg : Config) (coreId : ℕ) : cfg.core coreId < cfg.kCoreCount := by
  unfold Config.core
  split_ifs with h
  · exact h
  · exact cfg.kCoreCount_pos

theorem kernelTasks_first (cfg : Config) (sys : System) :
    ∃ before behind, (kernelTasks cfg sys 0).reverse = before ++ TaskPtr.controlTask::behind ∧
      ∀ t ∈ before, t = .commsTask := by
  simp only [kernelTasks, if_true]
  split_ifs
  · exact ⟨[.commsTask], [], rfl, by simp⟩
  · exact ⟨[], [], rfl, by simp⟩
  · exact ⟨[], [.commsTask], rfl, by simp⟩

theorem accepted_mem (cfg : Config) (user : UserTasks) (deps : Dependencies)
    (regs : List Registration) (sys : System) (h : Accepted cfg user deps regs sys)
    (hfits : Fits cfg regs) (c : ℕ) (hc : c < cfg.kCoreCount) (t : TaskPtr) :
    t ∈ (sys.cores c).tasks ↔
      t ∈ kernelTasks cfg (declared cfg regs) c ∨
        t ∈ (scheduledOn cfg c regs).map TaskPtr.user := by
  rw [h.tasks c hc, (sortTasks_perm _ _).mem_iff, filled_fits cfg regs c (hfits.cores c hc),
    List.mem_append, List.mem_reverse]

theorem accepted_count (cfg : Config) (user : UserTasks) (deps : Dependencies)
    (regs : List Registration) (sys : System) (h : Accepted cfg user deps regs sys)
    (hfits : Fits cfg regs) (c : ℕ) (hc : c < cfg.kCoreCount) (t : TaskPtr)
    (ht : t ∈ kernelTasks cfg (declared cfg regs) c) : (allTasks cfg sys).count t = 1 :=
  List.count_eq_one_of_mem h.nodup ((mem_allTasks cfg sys t).mpr
    ⟨c, hc, (accepted_mem cfg user deps regs sys h hfits c hc t).mpr (Or.inl ht)⟩)

theorem accepted_ring (cfg : Config) (user : UserTasks) (deps : Dependencies)
    (regs : List Registration) (sys : System) (h : Accepted cfg user deps regs sys)
    (hroom : (backgroundOf regs).length < cfg.maxBackgroundTasks) :
    ring cfg sys = (backgroundOf regs).map BackgroundPtr.user ++ [.diagsTask] := by
  have htake : ((backgroundOf regs).map BackgroundPtr.user).take cfg.maxBackgroundTasks =
      (backgroundOf regs).map BackgroundPtr.user :=
    List.take_of_length_le (by rw [List.length_map]; omega)
  rw [ring, h.ring, htake, List.take_of_length_le (by simp; omega)]

theorem accepted_ring_user (cfg : Config) (user : UserTasks) (deps : Dependencies)
    (regs : List Registration) (sys : System) (h : Accepted cfg user deps regs sys)
    (hroom : (backgroundOf regs).length < cfg.maxBackgroundTasks) (task : ℕ) :
    (ring cfg sys).count (.user task) = (backgroundOf regs).count task := by
  have hinjective : Function.Injective BackgroundPtr.user := fun a b h => by injection h
  rw [accepted_ring cfg user deps regs sys h hroom, List.count_append,
    List.count_map_of_injective _ _ hinjective]
  rfl

theorem accepted_crunch_iff (cfg : Config) (user : UserTasks) (deps : Dependencies)
    (regs : List Registration) (sys : System) (h : Accepted cfg user deps regs sys) :
    (∀ coreId task, Registration.setCrunchTask coreId task ∈ regs →
        (sys.cores (cfg.core coreId)).crunchTask = some task) ↔
      ∀ c < cfg.kCoreCount, ∀ task ∈ crunchOn cfg c regs, ∀ task' ∈ crunchOn cfg c regs,
        task = task' := by
  constructor
  · intro hkept c _ task htask task' htask'
    obtain ⟨coreId, hcore, hset⟩ := setCrunchTask_mem cfg regs c task htask
    obtain ⟨coreId', hcore', hset'⟩ := setCrunchTask_mem cfg regs c task' htask'
    have hone := hkept coreId task hset
    rw [hcore, ← hcore', hkept coreId' task' hset'] at hone
    exact (Option.some.inj hone).symm
  · intro hsame coreId task hset
    have hmem := mem_crunchOn cfg regs coreId task hset
    rw [h.crunchTask, List.getLast?_eq_some_getLast (List.ne_nil_of_mem hmem)]
    exact congrArg some (hsame _ (core_lt cfg coreId) _ (List.getLast_mem _) task hmem)

theorem accepted_first (cfg : Config) (user : UserTasks) (deps : Dependencies)
    (regs : List Registration) (sys : System) (h : Accepted cfg user deps regs sys)
    (hfits : Fits cfg regs) : (sys.cores 0).tasks.head? = some .controlTask := by
  obtain ⟨before, behind, hkernel, hbefore⟩ := kernelTasks_first cfg (declared cfg regs)
  rw [h.tasks 0 cfg.kCoreCount_pos, filled_fits cfg regs 0 (hfits.cores 0 cfg.kCoreCount_pos),
    hkernel, List.append_assoc]
  refine sortTasks_first _ .controlTask before _ (fun t => UInt8.le_iff_toNat_le.mpr ?_) ?_
  · exact Nat.zero_le _
  · intro t ht
    rw [hbefore t ht]
    change (0 : UInt8) < 1
    decide

theorem fits_preserved (cfg : Config) (user : UserTasks) (deps : Dependencies)
    (regs : List Registration) (sys : System) (h : Accepted cfg user deps regs sys)
    (hfits : Fits cfg regs) : Preserved cfg regs sys := by
  have hring := accepted_ring cfg user deps regs sys h hfits.background
  refine ⟨?_, accepted_first cfg user deps regs sys h hfits, ?_, ?_, ?_,
    (accepted_crunch_iff cfg user deps regs sys h).mpr hfits.crunch, ?_, ?_⟩
  · exact accepted_count cfg user deps regs sys h hfits 0 cfg.kCoreCount_pos _
      (kernelTasks_control cfg _)
  · obtain ⟨c, hc, hcomms⟩ := kernelTasks_comms cfg (declared cfg regs)
    exact accepted_count cfg user deps regs sys h hfits c hc _ hcomms
  · rw [hring, List.count_append, List.count_eq_zero_of_not_mem (by simp)]
    rfl
  · intro coreId task hreg
    have hc := core_lt cfg coreId
    refine List.count_eq_one_of_mem (core_nodup cfg sys h.nodup _ hc) ?_
    refine (accepted_mem cfg user deps regs sys h hfits _ hc _).mpr (Or.inr ?_)
    exact List.mem_map_of_mem (mem_scheduledOn cfg regs coreId task hreg)
  · intro task hreg
    rw [accepted_ring_user cfg user deps regs sys h hfits.background]
    exact List.count_eq_one_of_mem hfits.distinct (mem_backgroundOf regs task hreg)
  · intro c hc
    have hperm := (sortTasks_perm (fun t => effectivePriority (taskInfo cfg user deps t))
      (filled cfg regs c)).filterMap userTask
    rw [← h.tasks c hc, filled_users, List.take_of_length_le] at hperm
    · exact hperm
    · exact Nat.le_trans (Nat.le_add_right _ _) (hfits.cores c hc)

theorem kept_scheduled (cfg : Config) (user : UserTasks) (deps : Dependencies)
    (regs : List Registration) (sys : System) (h : Accepted cfg user deps regs sys)
    (hkept : ∀ c < cfg.kCoreCount,
      List.Perm ((sys.cores c).tasks.filterMap userTask) (scheduledOn cfg c regs))
    (c : ℕ) (hc : c < cfg.kCoreCount) : (scheduledOn cfg c regs).length ≤ kMaxTasksPerCore := by
  have hperm := ((sortTasks_perm (fun t => effectivePriority (taskInfo cfg user deps t))
    (filled cfg regs c)).filterMap userTask).length_eq
  rw [← h.tasks c hc, filled_users, (hkept c hc).length_eq, List.length_take] at hperm
  omega

/-- A kernel task for which its core has no slot is on no core. -/
theorem kernelTask_lost (cfg : Config) (user : UserTasks) (deps : Dependencies)
    (regs : List Registration) (sys : System) (h : Accepted cfg user deps regs sys) (c : ℕ)
    (husers : (scheduledOn cfg c regs).length ≤ kMaxTasksPerCore)
    (hover : kMaxTasksPerCore <
      (scheduledOn cfg c regs).length + (kernelTasks cfg (declared cfg regs) c).length) :
    ∃ k ∈ kernelTasks cfg (declared cfg regs) c, k ∉ allTasks cfg sys := by
  have hshort : kMaxTasksPerCore-(scheduledOn cfg c regs).length <
      (kernelTasks cfg (declared cfg regs) c).length := by omega
  have hlost := List.getElem_mem hshort
  generalize hk : (kernelTasks cfg (declared cfg regs) c)[kMaxTasksPerCore -
    (scheduledOn cfg c regs).length] = k at hlost
  refine ⟨k, hlost, fun hpresent => ?_⟩
  obtain ⟨c', hc', hmem⟩ := (mem_allTasks cfg sys k).mp hpresent
  rw [h.tasks c' hc', (sortTasks_perm _ _).mem_iff, filled, List.mem_append,
    List.mem_reverse] at hmem
  rcases hmem with hmem | hmem
  · obtain rfl := kernelTasks_core cfg _ c c' k hlost (List.mem_of_mem_take hmem)
    rw [List.length_take, List.length_map, Nat.min_eq_right husers] at hmem
    have hdrop : k ∈ (kernelTasks cfg (declared cfg regs) c).drop
        (kMaxTasksPerCore-(scheduledOn cfg c regs).length) := by
      rw [List.drop_eq_getElem_cons hshort, hk]
      exact List.mem_cons_self
    exact List.disjoint_take_drop (kernelTasks_nodup cfg _ c) (Nat.le_refl _) hmem hdrop
  · obtain ⟨task, -, rfl⟩ := List.mem_map.mp (List.mem_of_mem_take hmem)
    rcases kernelTasks_kernel cfg _ c _ hlost with hkernel | hkernel <;> cases hkernel

theorem diagsTask_dropped (cfg : Config) (user : UserTasks) (deps : Dependencies)
    (regs : List Registration) (sys : System) (h : Accepted cfg user deps regs sys)
    (hfull : cfg.maxBackgroundTasks ≤ (backgroundOf regs).length) :
    BackgroundPtr.diagsTask ∉ ring cfg sys := by
  have hlen : (((backgroundOf regs).map BackgroundPtr.user).take
      cfg.maxBackgroundTasks).length = cfg.maxBackgroundTasks := by
    rw [List.length_take, List.length_map]
    omega
  rw [ring, h.ring, List.take_append_of_le_length (Nat.le_of_eq hlen.symm), List.take_take,
    Nat.min_self]
  intro hmem
  obtain ⟨task, -, htask⟩ := List.mem_map.mp (List.mem_of_mem_take hmem)
  cases htask

theorem preserved_fits (cfg : Config) (user : UserTasks) (deps : Dependencies)
    (regs : List Registration) (sys : System) (h : Accepted cfg user deps regs sys)
    (hpreserved : Preserved cfg regs sys) : Fits cfg regs := by
  have hroom : (backgroundOf regs).length < cfg.maxBackgroundTasks := by
    by_contra hfull
    have habsent := diagsTask_dropped cfg user deps regs sys h (Nat.le_of_not_lt hfull)
    exact habsent (List.count_pos_iff.mp (hpreserved.diagsTask ▸ Nat.one_pos))
  refine ⟨fun c hc => ?_, hroom, ?_,
    (accepted_crunch_iff cfg user deps regs sys h).mp hpreserved.crunch⟩
  · by_contra hover
    have husers := kept_scheduled cfg user deps regs sys h hpreserved.kept c hc
    obtain ⟨k, hk, habsent⟩ :=
      kernelTask_lost cfg user deps regs sys h c husers (Nat.lt_of_not_le hover)
    rcases kernelTasks_kernel cfg (declared cfg regs) c k hk with rfl | rfl
    · exact habsent (List.count_pos_iff.mp (hpreserved.controlTask ▸ Nat.one_pos))
    · exact habsent (List.count_pos_iff.mp (hpreserved.commsTask ▸ Nat.one_pos))
  · rw [List.nodup_iff_count_eq_one]
    intro task htask
    rw [← accepted_ring_user cfg user deps regs sys h hroom]
    exact hpreserved.background task (addBackgroundTask_mem regs task htask)

/-- An accepted build preserves the registrations exactly if they leave room for
the kernel tasks and for one another. -/
theorem registrations_preserved_iff (cfg : Config) (user : UserTasks) (deps : Dependencies)
    (regs : List Registration) (happ : deps.app = true)
    (h : (build cfg user deps (declared cfg regs)).2 = none) :
    Preserved cfg regs (build cfg user deps (declared cfg regs)).1 ↔ Fits cfg regs := by
  have haccepted := build_accepted cfg user deps regs happ h
  exact ⟨preserved_fits cfg user deps regs _ haccepted,
    fits_preserved cfg user deps regs _ haccepted⟩

theorem registrations_preserved_iff_dualCore :
    Preserved dualCore [.addScheduledTask 1 5, .addBackgroundTask 2]
        (build dualCore plainTasks fullDependencies
          (declared dualCore [.addScheduledTask 1 5, .addBackgroundTask 2])).1 ↔
      Fits dualCore [.addScheduledTask 1 5, .addBackgroundTask 2] :=
  registrations_preserved_iff dualCore plainTasks fullDependencies _ rfl (by decide)

def fullRing : List Registration := (List.range 8).map Registration.addBackgroundTask

/-- The build is accepted and the diagnostics task is not in the ring. -/
theorem diagsTask_lost :
    (build dualCore plainTasks fullDependencies (declared dualCore fullRing)).2 = none ∧
    ¬ ∀ regs, (build dualCore plainTasks fullDependencies (declared dualCore regs)).2 = none →
      Preserved dualCore regs
        (build dualCore plainTasks fullDependencies (declared dualCore regs)).1 := by
  have haccepted : (build dualCore plainTasks fullDependencies (declared dualCore fullRing)).2 =
      none := by decide +kernel
  refine ⟨haccepted, fun h => ?_⟩
  have hdiags := (h fullRing haccepted).diagsTask
  revert hdiags
  decide +kernel

end SputterOS.Builder
