import SputterOS.Builder.Registrations
import SputterOS.Kernel.TickDispatch

/-!
# The order of the dispatches

Ticks call the tasks of a core in the order in which the sort leaves them. The
periods of tasks without a priority of their own are mapped to few bands before
the sort, so the order is rate monotonic between the bands only.
-/

set_option autoImplicit false

namespace SputterOS.DispatchOrder
open SputterOS.Kernel SputterOS.Builder SputterOS.StaticData SputterOS.SystemCalls
  SputterOS.TickDispatch Foundation.Transition

variable {α : Type*} (setup : Setup)

def priority (deps : Dependencies) (t : TaskPtr) : UInt8 :=
  effectivePriority (taskInfo setup.cfg setup.user deps t)

theorem run_operating (s : State α) (as : List (Action α)) (hop : ∀ a ∈ as, Operating a)
    (hbuilt : s.statics.system.built = true) :
    (run (step setup) s as).statics.system.cores = s.statics.system.cores ∧
      (run (step setup) s as).statics.system.built = true := by
  induction as generalizing s with
  | nil => exact ⟨rfl, hbuilt⟩
  | cons a as ih =>
    obtain ⟨hcores, hstill⟩ := operating_cores setup s a (hop a (by simp)) hbuilt
    obtain ⟨hrest, hend⟩ := ih (step setup s a) (fun b hb => hop b (by simp [hb])) hstill
    exact ⟨hrest.trans hcores, hend⟩

theorem sortTasksByPriority_tasks (deps : Dependencies) (sys : System) (c : ℕ) :
    ((sortTasksByPriority setup.cfg setup.user deps sys).cores c).tasks =
      if c < setup.cfg.kCoreCount then sortTasks (priority setup deps) (sys.cores c).tasks
      else (sys.cores c).tasks := by
  show (if c < setup.cfg.kCoreCount then _ else sys.cores c).tasks = _
  split <;> rfl

theorem sort_cores_perm (deps : Dependencies) (sys : System) (c : ℕ) :
    (((sortTasksByPriority setup.cfg setup.user deps sys).cores c).tasks).Perm
      (sys.cores c).tasks := by
  rw [sortTasksByPriority_tasks]
  split
  · exact sortTasks_perm _ _
  · exact .refl _

structure WholeTick (c : ℕ) (now : UInt64) (s : State α) (bs : List (Action α)) : Prop where
  operating : ∀ b ∈ bs, Operating b
  begins : ∃ call, s.core c = some ⟨call, .inTick, .start now⟩
  ticking : Along (step setup) (fun s _ => Ticking c s) s bs
  returns : ∃ call, (run (step setup) s bs).core c = some ⟨call, .inTick, .returned⟩

theorem wholeTick_passes (c : ℕ) (now : UInt64) (s : State α) (bs : List (Action α))
    (hbuilt : s.statics.system.built = true) (h : WholeTick setup c now s bs) :
    passes setup c s bs =
      (s.statics.system.cores c).tasks.mapIdx (slotPass setup s.statics c now) := by
  obtain ⟨call, hbegins⟩ := h.begins
  obtain ⟨call', hreturns⟩ := h.returns
  have htick := tick_passes setup c s bs h.operating hbuilt h.ticking
  rw [remaining_eq setup c s call _ hbegins, remaining_eq setup c _ call' _ hreturns] at htick
  simpa [remainingAt, upcoming] using htick.symm

/-- The sort is a stable sorted permutation on every core, and each tick of any
later run passes over the sorted tasks one after the other and calls those that
their period does not hold back. -/
theorem sort_drives_dispatch (deps : Dependencies) (sys : System) :
    (∀ c, (((sortTasksByPriority setup.cfg setup.user deps sys).cores c).tasks).Perm
      (sys.cores c).tasks) ∧
    (∀ c < setup.cfg.kCoreCount,
      ((sortTasksByPriority setup.cfg setup.user deps sys).cores c).tasks =
          sortInPlace (priority setup deps) (sys.cores c).tasks ∧
        Sorted (priority setup deps)
          ((sortTasksByPriority setup.cfg setup.user deps sys).cores c).tasks ∧
        ∀ p, ((sortTasksByPriority setup.cfg setup.user deps sys).cores c).tasks.filter
            (fun t => priority setup deps t = p) =
          (sys.cores c).tasks.filter (fun t => priority setup deps t = p)) ∧
    ∀ (s : State α) (as bs : List (Action α)) (c : ℕ) (now : UInt64),
      s.statics.system.cores = (sortTasksByPriority setup.cfg setup.user deps sys).cores →
      s.statics.system.built = true → (∀ a ∈ as, Operating a) →
      WholeTick setup c now (run (step setup) s as) bs →
      passes setup c (run (step setup) s as) bs =
        ((sortTasksByPriority setup.cfg setup.user deps sys).cores c).tasks.mapIdx
          (slotPass setup (run (step setup) s as).statics c now) := by
  refine ⟨sort_cores_perm setup deps sys, fun c hc => ?_, ?_⟩
  · rw [sortTasksByPriority_tasks, if_pos hc, sortInPlace_eq]
    exact ⟨rfl, sortTasks_sorted _ _, sortTasks_filter _ _⟩
  · intro s as bs c now hcores hbuilt hop htick
    obtain ⟨hkept, hstill⟩ := run_operating setup s as hop hbuilt
    rw [wholeTick_passes setup c now _ bs hstill htick, hkept, hcores]

section RateMonotonic

def AutoRated (deps : Dependencies) (t : TaskPtr) : Prop :=
  (taskInfo setup.cfg setup.user deps t).schedulePriority = 0xFF ∧
    (taskInfo setup.cfg setup.user deps t).periodUs > 0

def RateOrder (deps : Dependencies) (t t' : TaskPtr) : Prop :=
  AutoRated setup deps t → AutoRated setup deps t' →
    (taskInfo setup.cfg setup.user deps t).periodUs ≠
      (taskInfo setup.cfg setup.user deps t').periodUs →
    (taskInfo setup.cfg setup.user deps t).periodUs <
      (taskInfo setup.cfg setup.user deps t').periodUs

instance (deps : Dependencies) (t t' : TaskPtr) : Decidable (RateOrder setup deps t t') := by
  unfold RateOrder AutoRated
  infer_instance

def dispatched (ps : List Pass) : List TaskPtr :=
  (ps.filter (fun p => p.dispatched)).map Pass.task

/-- In every run, all tasks that a tick of the core calls stand in rate order. -/
def RateMonotonic (deps : Dependencies) (s : State α) (c : ℕ) : Prop :=
  ∀ as bs now, (∀ a ∈ as, Operating a) → WholeTick setup c now (run (step setup) s as) bs →
    (dispatched (passes setup c (run (step setup) s as) bs)).Pairwise (RateOrder setup deps)

/-- The band of a period, of which there are six. -/
def band (periodUs : UInt64) : ℕ :=
  if periodUs ≤ 100 then 0 else if periodUs ≤ 1000 then 1 else if periodUs ≤ 10000 then 2
  else if periodUs ≤ 100000 then 3 else if periodUs ≤ 1000000 then 4 else 5

/-- Tasks whose periods share a band are registered with the shorter period first. -/
def BandsInOrder (deps : Dependencies) (s : State α) (c : ℕ) : Prop :=
  (s.statics.system.cores c).tasks.Pairwise (fun t t' =>
    band (taskInfo setup.cfg setup.user deps t).periodUs =
      band (taskInfo setup.cfg setup.user deps t').periodUs → RateOrder setup deps t t')

theorem uint64_ne_zero {periodUs : UInt64} (h : periodUs > 0) : periodUs ≠ 0 := by
  rintro rfl
  exact UInt64.lt_irrefl 0 h

def bandPriorities : List UInt8 := [2, 10, 20, 40, 80, 0xA0]

theorem priority_band (deps : Dependencies) (t : TaskPtr) (h : AutoRated setup deps t) :
    priority setup deps t =
      bandPriorities.getD (band (taskInfo setup.cfg setup.user deps t).periodUs) 0 := by
  rw [priority, effectivePriority, if_neg (not_not.mpr h.1), if_neg (uint64_ne_zero h.2), band]
  split_ifs <;> rfl

theorem priority_eq_iff (deps : Dependencies) (t t' : TaskPtr) (h : AutoRated setup deps t)
    (h' : AutoRated setup deps t') :
    priority setup deps t = priority setup deps t' ↔
      band (taskInfo setup.cfg setup.user deps t).periodUs =
        band (taskInfo setup.cfg setup.user deps t').periodUs := by
  have hsix : ∀ periodUs : UInt64, band periodUs < 6 := by
    intro periodUs
    rw [band]
    split_ifs <;> decide
  have hdistinct : ∀ i < 6, ∀ j < 6, bandPriorities.getD i 0 = bandPriorities.getD j 0 ↔ i = j := by
    decide
  rw [priority_band setup deps t h, priority_band setup deps t' h']
  exact hdistinct _ (hsix _) _ (hsix _)

theorem bandsInOrder_iff (deps : Dependencies) (s : State α) (c : ℕ) :
    BandsInOrder setup deps s c ↔ (s.statics.system.cores c).tasks.Pairwise (fun t t' =>
      priority setup deps t = priority setup deps t' → RateOrder setup deps t t') := by
  have hpair : ∀ t t', (band (taskInfo setup.cfg setup.user deps t).periodUs =
      band (taskInfo setup.cfg setup.user deps t').periodUs → RateOrder setup deps t t') ↔
      (priority setup deps t = priority setup deps t' → RateOrder setup deps t t') := by
    intro t t'
    constructor
    · intro h heq hauto hauto'
      exact h ((priority_eq_iff setup deps t t' hauto hauto').mp heq) hauto hauto'
    · intro h heq hauto hauto'
      exact h ((priority_eq_iff setup deps t t' hauto hauto').mpr heq) hauto hauto'
  simp only [BandsInOrder, hpair]

theorem ite_le_ite (p p' limit : UInt64) (a x x' : UInt8) (hle : p' ≤ p) (ha : a ≤ x)
    (hx : x' ≤ x) : (if p' ≤ limit then a else x') ≤ if p ≤ limit then a else x := by
  split_ifs with h' h h
  · exact UInt8.le_refl a
  · exact ha
  · exact absurd (UInt64.le_trans hle h) h'
  · exact hx

theorem effectivePriority_auto (deps : Dependencies) (t t' : TaskPtr) (h : AutoRated setup deps t)
    (h' : AutoRated setup deps t')
    (hle : (taskInfo setup.cfg setup.user deps t').periodUs ≤
      (taskInfo setup.cfg setup.user deps t).periodUs) :
    priority setup deps t' ≤ priority setup deps t := by
  obtain ⟨hauto, hpos⟩ := h
  obtain ⟨hauto', hpos'⟩ := h'
  rw [priority, priority, effectivePriority, effectivePriority, if_neg (not_not.mpr hauto),
    if_neg (not_not.mpr hauto'), if_neg (uint64_ne_zero hpos),
    if_neg (uint64_ne_zero hpos')]
  refine ite_le_ite _ _ 100 2 _ _ hle (by split_ifs <;> decide) ?_
  refine ite_le_ite _ _ 1000 10 _ _ hle (by split_ifs <;> decide) ?_
  refine ite_le_ite _ _ 10000 20 _ _ hle (by split_ifs <;> decide) ?_
  refine ite_le_ite _ _ 100000 40 _ _ hle (by split_ifs <;> decide) ?_
  exact ite_le_ite _ _ 1000000 80 _ _ hle (by decide) (UInt8.le_refl _)

theorem rateOrder_of_lt (deps : Dependencies) (t t' : TaskPtr)
    (h : priority setup deps t < priority setup deps t') : RateOrder setup deps t t' := by
  intro hauto hauto' _
  by_contra hle
  exact UInt8.not_le.mpr h (effectivePriority_auto setup deps t t' hauto hauto'
    (UInt64.not_lt.mp hle))

/-- A stable sort is in an order that the keys give or leave open exactly if
equal keys were in it. -/
theorem sortTasks_pairwise_iff (pri : TaskPtr → UInt8) (R : TaskPtr → TaskPtr → Prop)
    (tasks : List TaskPtr) (hR : ∀ t t', pri t < pri t' → R t t') :
    (sortTasks pri tasks).Pairwise R ↔ tasks.Pairwise (fun t t' => pri t = pri t' → R t t') := by
  have hfilter : ∀ l : List TaskPtr, l.Pairwise (fun t t' => pri t = pri t' → R t t') ↔
      ∀ p, (l.filter (fun t => pri t = p)).Pairwise R := by
    intro l
    simp only [List.pairwise_filter, decide_eq_true_eq]
    simp only [List.pairwise_iff_forall_sublist]
    constructor
    · intro h p t t' hsub ht ht'
      exact h hsub (ht.trans ht'.symm)
    · intro h t t' hsub heq
      exact h (pri t') hsub heq rfl
  have hsorted : (sortTasks pri tasks).Pairwise R ↔
      (sortTasks pri tasks).Pairwise (fun t t' => pri t = pri t' → R t t') := by
    constructor
    · intro h
      refine h.imp ?_
      intro t t' hr _
      exact hr
    · intro h
      apply (h.and (sortTasks_sorted pri tasks)).imp
      rintro t t' ⟨heq, hle⟩
      rcases UInt8.lt_or_eq_of_le hle with hlt | he
      · exact hR t t' hlt
      · exact heq he
  rw [hsorted, hfilter, hfilter]
  simp only [sortTasks_filter]

theorem rateOrder_kernel (deps : Dependencies) (t t' : TaskPtr)
    (h : t = .controlTask ∨ t = .commsTask) : RateOrder setup deps t t' := by
  rintro ⟨hauto, -⟩
  rcases h with rfl | rfl
  · exact absurd hauto (by show (0 : UInt8) ≠ 0xFF; decide)
  · exact absurd hauto (by show (1 : UInt8) ≠ 0xFF; decide)

theorem prepared_rateOrder (deps : Dependencies) (sys : System) (c : ℕ)
    (hc : c < setup.cfg.kCoreCount) :
    ((prepared setup.cfg setup.user deps sys).cores c).tasks.Pairwise (RateOrder setup deps) ↔
      (sys.cores c).tasks.Pairwise (fun t t' =>
        priority setup deps t = priority setup deps t' → RateOrder setup deps t t') := by
  rw [prepared, sortTasksByPriority_tasks, if_pos hc,
    sortTasks_pairwise_iff (priority setup deps) (RateOrder setup deps) _
      (rateOrder_of_lt setup deps)]
  split_ifs
  · obtain ⟨front, hfront, htasks⟩ :=
      prependAll_split (kernelTasks setup.cfg sys c) (sys.cores c)
    have hkernel : ∀ t ∈ front, ∀ t', RateOrder setup deps t t' := by
      intro t ht t'
      exact rateOrder_kernel setup deps t t' (kernelTasks_kernel _ _ _ t (hfront t ht))
    show (((registerKernelTasks setup.cfg sys).cores c).tasks.Pairwise _) ↔ _
    rw [registerKernelTasks_core, htasks, List.pairwise_append]
    constructor
    · rintro ⟨-, h, -⟩
      exact h
    · intro h
      refine ⟨?_, h, fun t ht t' _ _ => hkernel t ht t'⟩
      exact List.pairwise_iff_forall_sublist.mpr fun hsub _ =>
        hkernel _ (hsub.subset List.mem_cons_self) _
  · rfl

theorem slotPasses_task (statics : Statics α) (c : ℕ) (now : UInt64) (tasks : List TaskPtr) :
    (tasks.mapIdx (slotPass setup statics c now)).map Pass.task = tasks := by
  apply List.ext_getElem?
  intro i
  rw [List.getElem?_map, List.getElem?_mapIdx, Option.map_map]
  exact Option.map_id_apply

theorem dispatched_sublist (statics : Statics α) (c : ℕ) (now : UInt64) (tasks : List TaskPtr) :
    (dispatched (tasks.mapIdx (slotPass setup statics c now))).Sublist tasks := by
  have h := (List.filter_sublist (p := fun p => p.dispatched)
    (l := tasks.mapIdx (slotPass setup statics c now))).map Pass.task
  rw [slotPasses_task] at h
  exact h

theorem dispatched_first (statics : Statics α) (c : ℕ) (now : UInt64) (tasks : List TaskPtr)
    (hlast : ∀ t, statics.lastDispatch c t = 0) :
    dispatched (tasks.mapIdx (slotPass setup statics c now)) = tasks := by
  have hall : (tasks.mapIdx (slotPass setup statics c now)).filter (fun p => p.dispatched) =
      tasks.mapIdx (slotPass setup statics c now) := by
    apply List.filter_eq_self.mpr
    intro p hp
    obtain ⟨i, hi, rfl⟩ := List.mem_mapIdx.mp hp
    simp [slotPass, skipped, hlast]
  rw [dispatched, hall, slotPasses_task]

/-- A core that is in no call can tick to the end. -/
theorem wholeTick_exists (s : State α) (c : ℕ) (now : UInt64)
    (hbuilt : s.statics.system.built = true) (hc : c < setup.cfg.kCoreCount)
    (hidle : s.core c = none) :
    ∃ bs, WholeTick setup c now (step setup s (.tick c now)) bs := by
  have hframe : (step setup s (.tick c now)).core c = some ⟨.tick, .inTick, .start now⟩ := by
    rw [step, State.enter, if_pos ⟨hbuilt, hc, hidle⟩]
    exact Function.update_self ..
  obtain ⟨bs, hop, halong, hend⟩ := tick_returns setup c .tick _ _ hframe
  exact ⟨bs, hop, ⟨.tick, hframe⟩, halong, ⟨.tick, hend⟩⟩

/-- After a build, ticks call tasks in rate order exactly if the tasks of each band
were registered in it. -/
theorem rateMonotonic_iff (timers : Timers) (micros : UInt64) (as : List (Action α))
    (deps : Dependencies) (clockSource : Bool) (c : ℕ) (hc : c < setup.cfg.kCoreCount)
    (hunbuilt : (run (step setup) (boot timers micros) as).statics.system.built = false)
    (hbuilt : (step setup (run (step setup) (boot timers micros) as)
      (.build deps clockSource)).statics.system.built = true) :
    RateMonotonic setup deps
        (step setup (run (step setup) (boot timers micros) as) (.build deps clockSource)) c ↔
      BandsInOrder setup deps (run (step setup) (boot timers micros) as) c := by
  have hidle : Idle (run (step setup) (boot timers micros) as) :=
    (run_idleUnbuilt setup timers micros as).2 hunbuilt
  generalize run (step setup) (boot timers micros) as = s at *
  obtain ⟨hcores, -⟩ := step_build_succeeded setup s deps clockSource hunbuilt hbuilt
  have hafter := step_build_idle setup s deps clockSource hidle
  generalize step setup s (.build deps clockSource) = s' at *
  rw [bandsInOrder_iff, ← prepared_rateOrder setup deps s.statics.system c hc, ← hcores]
  constructor
  · intro h
    obtain ⟨bs, htick⟩ := wholeTick_exists setup s' c 0 hbuilt hc (hafter.core c)
    have hop : ∀ a ∈ [(.tick c 0 : Action α)], Operating a := by
      intro a ha
      rw [List.mem_singleton.mp ha]
      exact trivial
    have hordered := h [.tick c 0] bs 0 hop htick
    obtain ⟨hstay, hstill⟩ := run_operating setup s' [.tick c 0] hop hbuilt
    have hsteady := (step_steady setup s' (.tick c 0) rfl).1
    rw [wholeTick_passes setup c 0 _ bs hstill htick, dispatched_first, hstay] at hordered
    · exact hordered
    · intro t
      exact (congrFun (congrFun hsteady.lastDispatch c) t).trans (hafter.lastDispatch c t)
  · intro h as' bs now hop htick
    obtain ⟨hstay, hstill⟩ := run_operating setup s' as' hop hbuilt
    rw [wholeTick_passes setup c now _ bs hstill htick]
    refine List.Pairwise.sublist (dispatched_sublist setup _ c now _) ?_
    rw [hstay]
    exact h

end RateMonotonic

section Witnesses

def bandSetup : Setup :=
  { dualSetup with
    user := ⟨fun t => ⟨if t = 0 then 900 else if t = 1 then 200 else if t = 2 then 5000 else 50,
      0xFF, true⟩, fun _ => 1000⟩ }

def registerAll (tasks : List ℕ) : List (Action ℕ) :=
  tasks.map fun t => .register (.addScheduledTask 0 t)

def firstTick (tasks : List ℕ) : List (Action ℕ) :=
  registerAll tasks ++ [.build fullDependencies true, .tick 0 5]

def tickSteps (n : ℕ) : List (Action ℕ) := List.replicate n (.core 0)

theorem tickSteps_operating (n : ℕ) : ∀ a ∈ tickSteps n, Operating a := by
  intro a ha
  rw [List.eq_of_mem_replicate ha]
  exact trivial

theorem firstTick_whole (tasks : List ℕ)
    (hbegins : (run (step bandSetup) (boot freshTimers 0) (firstTick tasks)).core 0 =
      some ⟨.tick, .inTick, .start 5⟩)
    (hticking : Along (step bandSetup) (fun s _ => Ticking 0 s)
      (run (step bandSetup) (boot freshTimers 0) (firstTick tasks)) (tickSteps 10))
    (hreturns :
      (run (step bandSetup) (boot freshTimers 0) (firstTick tasks ++ tickSteps 10)).core 0 =
        some ⟨.tick, .inTick, .returned⟩) :
    WholeTick bandSetup 0 5 (run (step bandSetup) (boot freshTimers 0) (firstTick tasks))
      (tickSteps 10) :=
  ⟨tickSteps_operating 10, ⟨.tick, hbegins⟩, hticking,
    ⟨.tick, by rw [← hreturns, run_append]⟩⟩

def unsorted : System :=
  createKernelTasks dualCore fullDependencies
    (run (step bandSetup) (boot freshTimers 0) (registerAll [2, 0])).statics.system

theorem sorted_cores :
    (run (step bandSetup) (boot freshTimers 0)
        (registerAll [2, 0] ++ [.build fullDependencies true])).statics.system.cores =
      (sortTasksByPriority bandSetup.cfg bandSetup.user fullDependencies unsorted).cores := by
  rw [run_append]
  exact (step_build_succeeded bandSetup _ fullDependencies true (by decide +kernel)
    (by decide +kernel)).1

theorem sort_drives_dispatch_tick :
    passes bandSetup 0
        (run (step bandSetup) (run (step bandSetup) (boot freshTimers 0)
          (registerAll [2, 0] ++ [.build fullDependencies true])) [.tick 0 5]) (tickSteps 10) =
      ((sortTasksByPriority bandSetup.cfg bandSetup.user fullDependencies unsorted).cores 0
        ).tasks.mapIdx (slotPass bandSetup
          (run (step bandSetup) (run (step bandSetup) (boot freshTimers 0)
            (registerAll [2, 0] ++ [.build fullDependencies true])) [.tick 0 5]).statics 0 5) :=
  (sort_drives_dispatch bandSetup fullDependencies unsorted).2.2 _ [.tick 0 5] (tickSteps 10) 0 5
    sorted_cores (by decide +kernel) (by simp [Operating])
    (firstTick_whole [2, 0] (by decide +kernel) (by decide +kernel) (by decide +kernel))

/-- Periods of 900 and 200 fall in one band, and stay as registered. -/
theorem band_order_lost :
    (run (step bandSetup) (boot freshTimers 0) (firstTick [0, 1])).statics.system.built = true ∧
      dispatched (passes bandSetup 0
        (run (step bandSetup) (boot freshTimers 0) (firstTick [0, 1])) (tickSteps 10)) =
          [.controlTask, .user 0, .user 1] ∧
      ¬ RateMonotonic bandSetup fullDependencies
        (run (step bandSetup) (boot freshTimers 0)
          (registerAll [0, 1] ++ [.build fullDependencies true])) 0 := by
  refine ⟨by decide +kernel, by decide +kernel, fun h => ?_⟩
  have hordered := h [.tick 0 5] (tickSteps 10) 5 (by simp [Operating])
    (firstTick_whole [0, 1] (by decide +kernel) (by decide +kernel) (by decide +kernel))
  exact absurd hordered (by decide +kernel)

/-- Periods of 5000 and 900 are put in order. -/
theorem rateMonotonic_iff_bands :
    RateMonotonic bandSetup fullDependencies
      (step bandSetup (run (step bandSetup) (boot freshTimers 0) (registerAll [2, 0]))
        (.build fullDependencies true)) 0 :=
  (rateMonotonic_iff bandSetup freshTimers 0 (registerAll [2, 0]) fullDependencies true 0
    (by decide) (by decide +kernel) (by decide +kernel)).mpr (by
      rw [BandsInOrder]
      decide +kernel)

end Witnesses

end SputterOS.DispatchOrder
