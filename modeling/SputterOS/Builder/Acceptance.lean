import SputterOS.Builder.Registrations

/-!
# Which registrations a build accepts

The checks run behind the kernel tasks, the choice of the background core and the
sort. None of these decides anything: whether a build succeeds can be read off the
registrations.
-/

set_option autoImplicit false

namespace SputterOS.Builder
open SputterOS.Kernel

def kept (cfg : Config) (regs : List Registration) (c : ℕ) : List ℕ :=
  (scheduledOn cfg c regs).take kMaxTasksPerCore

def placed (cfg : Config) (deps : Dependencies) (regs : List Registration) (c : ℕ) :
    List TaskPtr :=
  if deps.app then
    (kernelTasks cfg (declared cfg regs) c).take (kMaxTasksPerCore-(kept cfg regs c).length)
  else []

def PeriodAllowed (cfg : Config) (periodUs : UInt64) : Prop :=
  periodUs = 0 ∨ cfg.minSchedulePeriodUs ≤ periodUs

structure Acceptable (cfg : Config) (user : UserTasks) (deps : Dependencies)
    (regs : List Registration) : Prop where
  active : deps.app = true ∨
    ∃ c < cfg.kCoreCount, scheduledOn cfg c regs ≠ [] ∨ crunchOn cfg c regs ≠ []
  periods : ∀ c < cfg.kCoreCount, ∀ task ∈ kept cfg regs c,
    PeriodAllowed cfg (user.scheduled task).periodUs
  budgets : ∀ c < cfg.kCoreCount, ∀ t ∈ placed cfg deps regs c,
    PeriodAllowed cfg (taskInfo cfg user deps t).periodUs
  distinct : ((List.range cfg.kCoreCount).flatMap (kept cfg regs)).Nodup
  crunch : ∀ c < cfg.kCoreCount, ∀ task ∈ (crunchOn cfg c regs).getLast?,
    c ≠ 0 ∧ scheduledOn cfg c regs = [] ∧ PeriodAllowed cfg (user.crunchPeriodUs task)
  dependencies : ∀ c < cfg.kCoreCount, ∀ task ∈ kept cfg regs c,
    (user.scheduled task).validateDependencies = true
  stream : deps.stream = true ∨ ∀ c < cfg.kCoreCount, TaskPtr.commsTask ∉ placed cfg deps regs c

section Cores

variable (cfg : Config) (user : UserTasks) (deps : Dependencies) (regs : List Registration)

theorem prepared_perm (c : ℕ) (hc : c < cfg.kCoreCount) :
    List.Perm ((prepared cfg user deps (declared cfg regs)).cores c).tasks
      (placed cfg deps regs c ++ (kept cfg regs c).map TaskPtr.user) := by
  cases happ : deps.app with
  | true =>
    have hlen : (kept cfg regs c).length =
        (((scheduledOn cfg c regs).map TaskPtr.user).take kMaxTasksPerCore).length := by
      rw [kept, List.length_take, List.length_take, List.length_map]
    rw [prepared_tasks cfg user deps regs happ c hc, placed, if_pos happ, hlen, kept, List.map_take]
    exact (sortTasks_perm _ _).trans ((List.reverse_perm _).append_right _)
  | false =>
    have htasks : ((prepared cfg user deps (declared cfg regs)).cores c).tasks =
        sortTasks (fun t => effectivePriority (taskInfo cfg user deps t))
          ((declared cfg regs).cores c).tasks := by
      simp only [prepared, happ, Bool.false_eq_true, if_false, sortTasksByPriority, hc, if_true]
    rw [htasks, declared_tasks, placed, if_neg (by simp [happ]), List.nil_append, kept,
      List.map_take]
    exact sortTasks_perm _ _

theorem prepared_crunchTask (c : ℕ) :
    ((prepared cfg user deps (declared cfg regs)).cores c).crunchTask =
      (crunchOn cfg c regs).getLast? :=
  (prepared_extends cfg user deps (declared cfg regs) c).crunchTask.trans
    (declared_crunchTask cfg regs c)

theorem prepared_mode (c : ℕ) :
    ((prepared cfg user deps (declared cfg regs)).cores c).mode = .crunch ↔
      ((crunchOn cfg c regs).getLast?).isSome = true := by
  rw [(prepared_extends cfg user deps (declared cfg regs) c).mode, ← declared_crunchTask]
  exact declared_coherent cfg regs c

theorem mem_prepared (t : TaskPtr) :
    t ∈ allTasks cfg (prepared cfg user deps (declared cfg regs)) ↔
      ∃ c < cfg.kCoreCount, t ∈ placed cfg deps regs c ∨ ∃ task ∈ kept cfg regs c, .user task = t := by
  rw [mem_allTasks]
  constructor
  · rintro ⟨c, hc, ht⟩
    rw [(prepared_perm cfg user deps regs c hc).mem_iff, List.mem_append, List.mem_map] at ht
    exact ⟨c, hc, ht⟩
  · rintro ⟨c, hc, ht⟩
    refine ⟨c, hc, ?_⟩
    rw [(prepared_perm cfg user deps regs c hc).mem_iff, List.mem_append, List.mem_map]
    exact ht

theorem placed_kernel (c : ℕ) (t : TaskPtr) (h : t ∈ placed cfg deps regs c) :
    t ∈ kernelTasks cfg (declared cfg regs) c := by
  unfold placed at h
  split_ifs at h
  · exact List.mem_of_mem_take h
  · cases h

theorem placed_nodup (c : ℕ) : (placed cfg deps regs c).Nodup := by
  unfold placed
  split_ifs
  · exact (kernelTasks_nodup cfg _ c).sublist (List.take_sublist _ _)
  · exact List.nodup_nil

theorem placed_user (c : ℕ) (task : ℕ) : TaskPtr.user task ∉ placed cfg deps regs c := by
  intro h
  rcases kernelTasks_kernel cfg _ c _ (placed_kernel cfg deps regs c _ h) with heq | heq <;>
    cases heq

theorem prepared_nodup :
    (allTasks cfg (prepared cfg user deps (declared cfg regs))).Nodup ↔
      ((List.range cfg.kCoreCount).flatMap (kept cfg regs)).Nodup := by
  have hperm : List.Perm (allTasks cfg (prepared cfg user deps (declared cfg regs)))
      ((List.range cfg.kCoreCount).flatMap fun c =>
        placed cfg deps regs c ++ (kept cfg regs c).map TaskPtr.user) :=
    List.Perm.flatMap_left _ fun c hc => prepared_perm cfg user deps regs c (List.mem_range.mp hc)
  have hinjective : Function.Injective TaskPtr.user := fun a b h => by injection h
  rw [hperm.nodup_iff, List.nodup_flatMap, List.nodup_flatMap]
  refine and_congr (forall₂_congr fun c _ => ?_) ?_
  · rw [List.nodup_append, List.nodup_map_iff hinjective]
    refine ⟨fun h => h.2.1, fun h => ⟨placed_nodup cfg deps regs c, h, ?_⟩⟩
    rintro t ht _ hmem rfl
    obtain ⟨task, -, rfl⟩ := List.mem_map.mp hmem
    exact placed_user cfg deps regs c task ht
  · constructor
    · refine fun h => h.imp fun hdisjoint task ht ht' => ?_
      exact hdisjoint (List.mem_append_right _ (List.mem_map_of_mem ht))
        (List.mem_append_right _ (List.mem_map_of_mem ht'))
    · refine fun h => (h.and List.pairwise_lt_range).imp ?_
      rintro c c' ⟨hdisjoint, hlt⟩ t ht ht'
      rcases List.mem_append.mp ht with hk | hu <;> rcases List.mem_append.mp ht' with hk' | hu'
      · -- a kernel task has one core
        have hcore := kernelTasks_core cfg _ c c' t (placed_kernel cfg deps regs c t hk)
          (placed_kernel cfg deps regs c' t hk')
        omega
      · obtain ⟨task, -, rfl⟩ := List.mem_map.mp hu'
        exact placed_user cfg deps regs c task hk
      · obtain ⟨task, -, rfl⟩ := List.mem_map.mp hu
        exact placed_user cfg deps regs c' task hk'
      · obtain ⟨task, hmem, rfl⟩ := List.mem_map.mp hu
        exact hdisjoint hmem ((List.mem_map_of_injective hinjective).mp hu')

end Cores

section Checks

variable (cfg : Config) (user : UserTasks) (deps : Dependencies) (regs : List Registration)

theorem prepared_active :
    anyActive cfg (prepared cfg user deps (declared cfg regs)) = true ↔
      deps.app = true ∨ ∃ c < cfg.kCoreCount, scheduledOn cfg c regs ≠ [] ∨ crunchOn cfg c regs ≠ [] := by
  simp only [anyActive, List.any_eq_true, List.mem_range, active_iff, prepared_crunchTask]
  constructor
  · rintro ⟨c, hc, hactive⟩
    cases happ : deps.app with
    | true => exact Or.inl rfl
    | false =>
      refine Or.inr ⟨c, hc, hactive.imp ?_ ?_⟩
      · intro htasks hnil
        have hperm := prepared_perm cfg user deps regs c hc
        rw [placed, if_neg (by simp [happ]), kept, hnil] at hperm
        exact htasks hperm.eq_nil
      · intro hsome hnil
        rw [hnil] at hsome
        cases hsome
  · rintro (happ | ⟨c, hc, hactive⟩)
    · refine ⟨0, cfg.kCoreCount_pos, Or.inl ?_⟩
      have hext := sortTasksByPriority_extends cfg user deps
        (createKernelTasks cfg deps (declared cfg regs)) 0
      rw [prepared, if_pos happ]
      exact hext.tasks (registerKernelTasks_first cfg (declared cfg regs))
    · refine ⟨c, hc, hactive.imp ?_ ?_⟩
      · intro htasks hnil
        have hperm := prepared_perm cfg user deps regs c hc
        rw [hnil] at hperm
        have hkept := (List.append_eq_nil_iff.mp hperm.nil_eq.symm).2
        rw [List.map_eq_nil_iff, kept, List.take_eq_nil_iff] at hkept
        exact htasks (hkept.resolve_left (by decide))
      · intro hcrunch
        obtain ⟨task, htask⟩ := List.getLast?_isSome.mpr hcrunch |> Option.isSome_iff_exists.mp
        rw [htask]
        rfl

theorem periodAllowed_iff (p : UInt64) :
    PeriodAllowed cfg p ↔ ¬ (p > 0 ∧ p < cfg.minSchedulePeriodUs) := by
  rw [PeriodAllowed, not_and_or, gt_iff_lt, UInt64.pos_iff_ne_zero, not_not, UInt64.not_lt]

theorem scheduling_none_iff (sys : System) :
    validateSchedulingConstraints cfg user deps sys = none ↔
      (∀ t ∈ allTasks cfg sys, PeriodAllowed cfg (taskInfo cfg user deps t).periodUs) ∧
        (allTasks cfg sys).Nodup := by
  have hperiod : ∀ p : UInt64, (p > 0 && p < cfg.minSchedulePeriodUs) = true ↔
      ¬ PeriodAllowed cfg p := by
    intro p
    rw [periodAllowed_iff, not_not, Bool.and_eq_true, decide_eq_true_eq, decide_eq_true_eq]
  unfold validateSchedulingConstraints
  split_ifs with hbad hnodup
  · obtain ⟨t, ht, hno⟩ := List.any_eq_true.mp hbad
    refine iff_of_false (by simp) fun hall => ?_
    exact (hperiod _).mp hno (hall.1 t ht)
  · refine iff_of_true rfl ⟨fun t ht => ?_, hnodup⟩
    by_contra hno
    exact hbad (List.any_eq_true.mpr ⟨t, ht, (hperiod _).mpr hno⟩)
  · exact iff_of_false (by simp) fun hall => hnodup hall.2

theorem crunchCore_kernel (c : ℕ) (h0 : c ≠ 0)
    (hcrunch : ((declared cfg regs).cores c).crunchTask.isSome = true) :
    placed cfg deps regs c = [] := by
  have hmode := (declared_coherent cfg regs c).mpr hcrunch
  have hnone : kernelTasks cfg (declared cfg regs) c = [] := by
    unfold kernelTasks
    split_ifs with hmulti hone h1
    · rfl
    · subst h1
      exact absurd hmode hone
    · rfl
    · rfl
  rw [placed, hnone, List.take_nil, ite_self]

theorem crunchConstraint_none_iff (c : ℕ) (hc : c < cfg.kCoreCount) :
    crunchConstraint cfg user (prepared cfg user deps (declared cfg regs)) c = none ↔
      ∀ task ∈ (crunchOn cfg c regs).getLast?,
        c ≠ 0 ∧ scheduledOn cfg c regs = [] ∧ PeriodAllowed cfg (user.crunchPeriodUs task) := by
  have hmode := prepared_mode cfg user deps regs c
  have htask := prepared_crunchTask cfg user deps regs c
  have hperm := prepared_perm cfg user deps regs c hc
  cases hlast : (crunchOn cfg c regs).getLast? with
  | none =>
    have hflat : ((prepared cfg user deps (declared cfg regs)).cores c).mode ≠ .crunch := by
      rw [ne_eq, hmode, hlast]
      exact Bool.false_ne_true
    rw [crunchConstraint, if_pos hflat]
    simp
  | some task =>
    rw [hlast] at hmode htask
    rw [crunchConstraint, if_neg (not_not.mpr (hmode.mpr rfl)), htask]
    simp only [Option.mem_some_iff, forall_eq']
    by_cases h0 : c = 0
    · simp [h0]
    · rw [if_neg h0]
      have hkernel := crunchCore_kernel cfg deps regs c h0 (by rw [declared_crunchTask, hlast]; rfl)
      rw [hkernel, List.nil_append] at hperm
      have htasks : ((prepared cfg user deps (declared cfg regs)).cores c).tasks.length > 0 ↔
          scheduledOn cfg c regs ≠ [] := by
        rw [hperm.length_eq, List.length_map, gt_iff_lt, List.length_pos_iff, kept, ne_eq,
          List.take_eq_nil_iff, or_iff_right (by decide)]
      by_cases hsched : scheduledOn cfg c regs = []
      · have htwo : ¬ cfg.kCoreCount < 2 := by omega
        rw [if_neg (fun h => htasks.mp h hsched), if_neg htwo, periodAllowed_iff]
        split_ifs with hperiod
        · simp [hperiod]
        · simp [h0, hsched, hperiod]
      · rw [if_pos (htasks.mpr hsched)]
        simp [hsched]

theorem dependencies_none_iff :
    validateTaskDependencies cfg user deps (prepared cfg user deps (declared cfg regs)) = none ↔
      (∀ c < cfg.kCoreCount, ∀ task ∈ kept cfg regs c,
        (user.scheduled task).validateDependencies = true) ∧
      (deps.stream = true ∨
        ∀ c < cfg.kCoreCount, TaskPtr.commsTask ∉ placed cfg deps regs c) := by
  have hnone : validateTaskDependencies cfg user deps (prepared cfg user deps (declared cfg regs)) =
      none ↔ ∀ t ∈ allTasks cfg (prepared cfg user deps (declared cfg regs)),
        (taskInfo cfg user deps t).validateDependencies = true := by
    unfold validateTaskDependencies
    split_ifs with hbad
    · obtain ⟨t, ht, hno⟩ := List.any_eq_true.mp hbad
      refine iff_of_false (by simp) fun hall => ?_
      rw [hall t ht] at hno
      cases hno
    · refine iff_of_true rfl fun t ht => ?_
      by_contra hno
      exact hbad (List.any_eq_true.mpr ⟨t, ht, by simpa using hno⟩)
  rw [hnone]
  constructor
  · intro hall
    refine ⟨fun c hc task htask => ?_, ?_⟩
    · exact hall (.user task) ((mem_prepared cfg user deps regs _).mpr ⟨c, hc, Or.inr ⟨task, htask, rfl⟩⟩)
    · by_contra hno
      simp only [not_or, not_forall, not_not] at hno
      obtain ⟨hstream, c, hc, hcomms⟩ := hno
      exact hstream (hall .commsTask ((mem_prepared cfg user deps regs _).mpr ⟨c, hc, Or.inl hcomms⟩))
  · rintro ⟨husers, hstream⟩ t ht
    obtain ⟨c, hc, hplaced | ⟨task, htask, rfl⟩⟩ := (mem_prepared cfg user deps regs t).mp ht
    · rcases kernelTasks_kernel cfg _ c t (placed_kernel cfg deps regs c t hplaced) with rfl | rfl
      · -- a control task is made with an application only
        unfold placed at hplaced
        split_ifs at hplaced with happ
        · exact happ
        · cases hplaced
      · exact hstream.resolve_right fun hnone => hnone c hc hplaced
    · exact husers c hc task htask

theorem crunch_none_iff :
    validateCrunchConstraints cfg user (prepared cfg user deps (declared cfg regs)) = none ↔
      ∀ c < cfg.kCoreCount, ∀ task ∈ (crunchOn cfg c regs).getLast?,
        c ≠ 0 ∧ scheduledOn cfg c regs = [] ∧ PeriodAllowed cfg (user.crunchPeriodUs task) := by
  rw [validateCrunchConstraints, List.findSome?_eq_none_iff]
  simp only [List.mem_range]
  exact forall₂_congr fun c hc => crunchConstraint_none_iff cfg user deps regs c hc

theorem prepared_periods :
    (∀ t ∈ allTasks cfg (prepared cfg user deps (declared cfg regs)),
      PeriodAllowed cfg (taskInfo cfg user deps t).periodUs) ↔
        (∀ c < cfg.kCoreCount, ∀ task ∈ kept cfg regs c,
          PeriodAllowed cfg (user.scheduled task).periodUs) ∧
        ∀ c < cfg.kCoreCount, ∀ t ∈ placed cfg deps regs c,
          PeriodAllowed cfg (taskInfo cfg user deps t).periodUs := by
  simp only [mem_prepared]
  constructor
  · intro hall
    exact ⟨fun c hc task htask => hall (.user task) ⟨c, hc, Or.inr ⟨task, htask, rfl⟩⟩,
      fun c hc t ht => hall t ⟨c, hc, Or.inl ht⟩⟩
  · rintro ⟨husers, hkernel⟩ t ⟨c, hc, ht | ⟨task, htask, rfl⟩⟩
    · exact hkernel c hc t ht
    · exact husers c hc task htask

theorem validate_none_iff (sys : System) :
    validate cfg user deps sys = none ↔
      anyActive cfg sys = true ∧ validateSchedulingConstraints cfg user deps sys = none ∧
        validateCrunchConstraints cfg user sys = none ∧
        validateTaskDependencies cfg user deps sys = none := by
  unfold validate
  cases anyActive cfg sys with
  | true => simp
  | false => simp

end Checks

/-- A build of registrations succeeds exactly if they are acceptable. -/
theorem build_succeeds_iff (cfg : Config) (user : UserTasks) (deps : Dependencies)
    (regs : List Registration) :
    (build cfg user deps (declared cfg regs)).2 = none ↔ Acceptable cfg user deps regs := by
  have hbuild : (build cfg user deps (declared cfg regs)).2 =
      validate cfg user deps (prepared cfg user deps (declared cfg regs)) := by
    rw [build, (declared_static cfg regs).2.1, if_neg (by simp), prepared_held]
    cases validate cfg user deps (prepared cfg user deps (declared cfg regs)) <;> rfl
  rw [hbuild, validate_none_iff, prepared_active, scheduling_none_iff, prepared_periods,
    prepared_nodup, crunch_none_iff, dependencies_none_iff]
  constructor
  · rintro ⟨hactive, ⟨⟨husers, hkernel⟩, hnodup⟩, hcrunch, hdeps, hstream⟩
    exact ⟨hactive, husers, hkernel, hnodup, hcrunch, hdeps, hstream⟩
  · rintro ⟨hactive, husers, hkernel, hnodup, hcrunch, hdeps, hstream⟩
    exact ⟨hactive, ⟨⟨husers, hkernel⟩, hnodup⟩, hcrunch, hdeps, hstream⟩

end SputterOS.Builder
