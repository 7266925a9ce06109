import SputterOS.Kernel.TickDispatch

/-!
# The periods that the kernel keeps

A task whose period the kernel keeps is called at the first tick, and then at
each tick that comes no less than a period after its last call. The kernel takes
a last call at time 0 for none.
-/

set_option autoImplicit false

namespace SputterOS.ManagedPeriods
open SputterOS.Kernel SputterOS.Builder SputterOS.StaticData SputterOS.SystemCalls
  SputterOS.TickDispatch Foundation.Transition

section Schedules

/-- A pass calls the task exactly if a period lies behind every call before. -/
def Greedy (period : UInt64) (ps : List Pass) : Prop :=
  Preceded (fun before p => p.dispatched = true ↔
    ∀ q ∈ before, q.dispatched = true → q.now.toNat+period.toNat ≤ p.now.toNat) ps

/-- What the kernel does, which writes down the time of the last call. -/
def Kept (period : UInt64) : UInt64 → List Pass → Prop
  | _, [] => True
  | last, p::ps =>
    (p.dispatched = true ↔ ¬ (last ≠ 0 ∧ p.now-last < period)) ∧
      Kept period (if p.dispatched then p.now else last) ps

/-- The second tick does not come within a period of a first one at time 0. -/
def Unhurried (period : UInt64) (times : List UInt64) : Prop :=
  times[0]? = some 0 → ∀ now ∈ times[1]?, period ≤ now

def Chronological (times : List UInt64) : Prop :=
  times.Pairwise (fun now now' => now.toNat ≤ now'.toNat)

theorem elapsed_iff (period last now : UInt64) (h : last.toNat ≤ now.toNat) :
    now-last < period ↔ ¬ last.toNat+period.toNat ≤ now.toNat := by
  rw [UInt64.lt_iff_toNat_lt, UInt64.toNat_sub_of_le _ _ (UInt64.le_iff_toNat_le.mpr h)]
  omega

theorem ne_zero_iff (now : UInt64) : now ≠ 0 ↔ 0 < now.toNat := by
  rw [Nat.pos_iff_ne_zero]
  exact UInt64.toNat_inj.not.symm

theorem kept_greedy (period last : UInt64) (ps : List Pass) (hlast : last ≠ 0)
    (hle : ∀ p ∈ ps, last.toNat ≤ p.now.toNat) (htimes : Chronological (ps.map Pass.now))
    (h : Kept period last ps) :
    Preceded (fun before p => p.dispatched = true ↔ last.toNat+period.toNat ≤ p.now.toNat ∧
      ∀ q ∈ before, q.dispatched = true → q.now.toNat+period.toNat ≤ p.now.toNat) ps := by
  induction ps generalizing last with
  | nil => exact preceded_nil _
  | cons p ps ih =>
    obtain ⟨hp, hps⟩ := h
    obtain ⟨hfirst, hrest⟩ := List.pairwise_cons.mp htimes
    have hlp : last.toNat ≤ p.now.toNat := hle p (by simp)
    rw [elapsed_iff period last p.now hlp, not_and, not_not, forall_prop_of_true hlast] at hp
    rw [preceded_cons]
    refine ⟨by simpa using hp, ?_⟩
    by_cases hcalled : p.dispatched = true
    · rw [if_pos hcalled] at hps
      have hnow : p.now ≠ 0 := by
        rw [ne_zero_iff] at hlast ⊢
        omega
      have hbehind : ∀ q ∈ ps, p.now.toNat ≤ q.now.toNat :=
        fun q hq => hfirst q.now (List.mem_map_of_mem hq)
      refine (preceded_congr _ _ (fun before q => ?_) ps).mp (ih p.now hnow hbehind hrest hps)
      simp only [List.forall_mem_cons, forall_prop_of_true hcalled]
      have hweaker : p.now.toNat+period.toNat ≤ q.now.toNat →
          last.toNat+period.toNat ≤ q.now.toNat := by omega
      rw [and_iff_right_of_imp (fun h => hweaker h.1)]
    · rw [if_neg hcalled] at hps
      have hbehind : ∀ q ∈ ps, last.toNat ≤ q.now.toNat := fun q hq => hle q (by simp [hq])
      refine (preceded_congr _ _ (fun before q => ?_) ps).mp (ih last hlast hbehind hrest hps)
      simp [hcalled]

/-- The kernel keeps the greedy schedule exactly if a tick at time 0 is not the
first of two within a period. -/
theorem greedy_iff (period : UInt64) (ps : List Pass) (hperiod : period ≠ 0)
    (htimes : Chronological (ps.map Pass.now)) (h : Kept period 0 ps) :
    Greedy period ps ↔ Unhurried period (ps.map Pass.now) := by
  cases ps with
  | nil => simp [Greedy, Unhurried, preceded_nil]
  | cons p ps =>
    obtain ⟨hp, hps⟩ := h
    obtain ⟨hfirst, hrest⟩ := List.pairwise_cons.mp htimes
    have hcalled : p.dispatched = true := hp.mpr (by simp)
    have hbehind : ∀ q ∈ ps, p.now.toNat ≤ q.now.toNat :=
      fun q hq => hfirst q.now (List.mem_map_of_mem hq)
    have hcons : Greedy period (p::ps) ↔ Preceded (fun before q => q.dispatched = true ↔
        p.now.toNat+period.toNat ≤ q.now.toNat ∧
          ∀ r ∈ before, r.dispatched = true → r.now.toNat+period.toNat ≤ q.now.toNat) ps := by
      rw [Greedy, preceded_cons]
      simp [hcalled]
    rw [if_pos hcalled] at hps
    rw [hcons]
    by_cases hzero : p.now = 0
    · -- the call at time 0 is forgotten, so the second tick calls the task again
      cases ps with
      | nil => simp [Unhurried, preceded_nil]
      | cons q ps =>
        obtain ⟨hq, hqs⟩ := hps
        have hagain : q.dispatched = true := hq.mpr (by simp [hzero])
        rw [if_pos hagain] at hqs
        have hunhurried : Unhurried period ((p::q::ps).map Pass.now) ↔
            period.toNat ≤ q.now.toNat := by
          simp [Unhurried, hzero, UInt64.le_iff_toNat_le]
        rw [hunhurried, preceded_cons]
        constructor
        · rintro ⟨hdue, -⟩
          simpa [hzero] using (hdue.mp hagain).1
        · intro hdue
          have hnow : q.now ≠ 0 := by
            rw [ne_zero_iff] at hperiod ⊢
            omega
          obtain ⟨hsecond, hlater⟩ := List.pairwise_cons.mp hrest
          have hgreedy := kept_greedy period q.now ps hnow
            (fun r hr => hsecond r.now (List.mem_map_of_mem hr)) hlater hqs
          refine ⟨by simp [hagain, hzero, hdue], ?_⟩
          refine (preceded_congr _ _ (fun before r => ?_) ps).mp hgreedy
          simp only [List.forall_mem_cons, forall_prop_of_true hagain, hzero, UInt64.toNat_zero,
            Nat.zero_add]
          have hweaker : q.now.toNat+period.toNat ≤ r.now.toNat → period.toNat ≤ r.now.toNat := by
            omega
          rw [and_iff_right_of_imp (fun h => hweaker h.1)]
    · have hunhurried : Unhurried period ((p::ps).map Pass.now) := by
        intro h
        exact absurd (Option.some.inj h) hzero
      exact iff_of_true (kept_greedy period p.now ps hzero hbehind hrest hps) hunhurried

end Schedules

section Runs

variable {α : Type*} (setup : Setup)

def slotPasses (c u : ℕ) (s : State α) (as : List (Action α)) : List Pass :=
  (passes setup c s as).filter (fun p => p.slot = u)

def pendingAt (u : ℕ) : Tick → List UInt64
  | .slot now t _ => if t ≤ u then [now] else []
  | .inTask now t _ _ => if t < u then [now] else []
  | _ => []

def pending (c u : ℕ) (s : State α) : List UInt64 :=
  match s.core c with
  | some ⟨_, .inTick, tick⟩ => pendingAt u tick
  | _ => []

theorem core_between (c u : ℕ) (s : State α) (h : ¬ Ticking c s) :
    (stepCore setup s c).statics.lastDispatch = s.statics.lastDispatch ∧
      corePass setup c s = none ∧ coreStart c s = none ∧ pending c u s = [] ∧
      pending c u (stepCore setup s c) = [] := by
  cases hframe : s.core c with
  | none =>
    have hstay : stepCore setup s c = s := by rw [stepCore, hframe]
    have hpending : pending c u s = [] := by rw [pending, hframe]
    rw [hstay, corePass, coreStart, hframe]
    exact ⟨rfl, rfl, rfl, hpending, hpending⟩
  | some frame =>
    obtain ⟨call, pc, tick⟩ := frame
    have hnot : ¬ (pc = .inTick ∧ tick ≠ .returned) := by
      rintro ⟨rfl, htick⟩
      exact h ⟨call, tick, hframe, htick⟩
    have hsilent : corePass setup c s = none ∧ coreStart c s = none ∧ pending c u s = [] := by
      rw [corePass, coreStart, pending, hframe]
      cases pc with
      | inTick =>
        rw [not_and, not_not] at hnot
        rw [hnot rfl]
        exact ⟨rfl, rfl, rfl⟩
      | _ => exact ⟨rfl, rfl, rfl⟩
    have hstep : stepCore setup s c = s.advance setup c call pc := by
      rw [stepCore, hframe]
      exact if_neg hnot
    obtain ⟨mid, x, hmid, hadvance, hx⟩ := advance_steady setup s c call pc
    rw [hstep, hadvance]
    refine ⟨hmid.lastDispatch, hsilent.1, hsilent.2.1, hsilent.2.2, ?_⟩
    rw [pending]
    dsimp only
    rw [Function.update_self]
    cases x with
    | none => rfl
    | some frame =>
      have htick := (hx frame rfl).2
      obtain ⟨call', pc', tick'⟩ := frame
      dsimp only at htick
      subst htick
      cases pc' <;> rfl

def KeptPass (c u : ℕ) (task : TaskPtr) (s s' : State α) (p : Pass) : Prop :=
  p.slot = u ∧ p.task = task ∧
    (p.dispatched = true ↔ ¬ (s.statics.lastDispatch c u ≠ 0 ∧
      p.now-s.statics.lastDispatch c u < setup.periodUs task)) ∧
    s'.statics.lastDispatch c u = if p.dispatched then p.now else s.statics.lastDispatch c u

theorem corePass_kept (c u : ℕ) (s : State α) (task : TaskPtr) (hmanaged : managed setup task)
    (htask : (s.statics.system.cores c).tasks[u]? = some task) :
    (∃ p, corePass setup c s = some p ∧ KeptPass setup c u task s (stepCore setup s c) p) ∨
      (∀ p ∈ corePass setup c s, p.slot ≠ u) ∧
        (stepCore setup s c).statics.lastDispatch c u = s.statics.lastDispatch c u := by
  by_cases ht : Ticking c s
  · obtain ⟨call, tick, hframe, htick⟩ := ht
    rw [stepCore_tick_statics setup s c call tick hframe htick]
    by_cases hslot : ∃ now t busy, tick = .slot now t busy
    · obtain ⟨now, t, busy, rfl⟩ := hslot
      rw [corePass_slot setup c s call now t busy hframe, slot_lastDispatch]
      by_cases htu : t = u
      · subst htu
        left
        rw [htask]
        refine ⟨_, rfl, rfl, rfl, ?_, ?_⟩
        · simp only [slotPass, skipped, hmanaged, true_and, Bool.not_eq_true',
            decide_eq_false_iff_not]
        · rw [stepCore_tick_statics setup s c call _ hframe htick, slot_lastDispatch, htask]
          by_cases hskip : skipped setup s.statics c t task now <;>
            simp [slotPass, hmanaged, hskip]
      · right
        rw [if_neg (by omega)]
        refine ⟨fun p hp => ?_, rfl⟩
        obtain ⟨task', -, rfl⟩ := Option.mem_map.mp hp
        exact htu
    · push Not at hslot
      right
      rw [corePass_none setup c s call tick hframe hslot,
        tickStep_lastDispatch setup c tick s hslot]
      exact ⟨by simp, rfl⟩
  · obtain ⟨hlast, hnone, -⟩ := core_between setup c u s ht
    right
    rw [hnone, hlast]
    exact ⟨by simp, rfl⟩

theorem startOf_other (c : ℕ) (s : State α) (a : Action α) (ha : a ≠ .core c) :
    startOf c s a = none := by
  cases a with
  | core d => exact if_neg (fun h => ha (by rw [h]))
  | _ => rfl

theorem slotPasses_cons (c u : ℕ) (s : State α) (a : Action α) (as : List (Action α)) :
    slotPasses setup c u s (a::as) =
      (passOf setup c s a).toList.filter (fun p => p.slot = u) ++
        slotPasses setup c u (step setup s a) as := by
  rw [slotPasses, passes, List.filter_append]
  rfl

theorem slotPasses_kept (c u : ℕ) (s : State α) (as : List (Action α)) (task : TaskPtr)
    (hmanaged : managed setup task) (hop : ∀ a ∈ as, Operating a)
    (hbuilt : s.statics.system.built = true)
    (htask : (s.statics.system.cores c).tasks[u]? = some task) :
    Kept (setup.periodUs task) (s.statics.lastDispatch c u) (slotPasses setup c u s as) ∧
      ∀ p ∈ slotPasses setup c u s as, p.task = task := by
  induction as generalizing s with
  | nil => exact ⟨trivial, by simp [slotPasses, passes]⟩
  | cons a as ih =>
    have ha : Operating a := hop a (by simp)
    obtain ⟨hcores, hstill⟩ := operating_cores setup s a ha hbuilt
    obtain ⟨hkept, htasks⟩ := ih (step setup s a) (fun b hb => hop b (by simp [hb])) hstill
      (by rw [hcores, htask])
    have hsilent : (∀ p ∈ passOf setup c s a, p.slot ≠ u) →
        (step setup s a).statics.lastDispatch c u = s.statics.lastDispatch c u →
        Kept (setup.periodUs task) (s.statics.lastDispatch c u)
            (slotPasses setup c u s (a::as)) ∧
          ∀ p ∈ slotPasses setup c u s (a::as), p.task = task := by
      intro hslot hlast
      have hnil : (passOf setup c s a).toList.filter (fun p => p.slot = u) = [] := by
        apply List.filter_eq_nil_iff.mpr
        intro p hp
        simpa using hslot p (Option.mem_toList.mp hp)
      rw [slotPasses_cons, hnil, List.nil_append, ← hlast]
      exact ⟨hkept, htasks⟩
    by_cases hcore : a = .core c
    · subst hcore
      have hpass : passOf setup c s (.core c) = corePass setup c s := if_pos rfl
      rcases corePass_kept setup c u s task hmanaged htask with
        ⟨p, hp, hslot, hptask, hcalled, hlast⟩ | ⟨hslot, hlast⟩
      · have hfilter : (passOf setup c s (.core c)).toList.filter (fun p => p.slot = u) = [p] := by
          rw [hpass, hp]
          simp [hslot]
        rw [slotPasses_cons, hfilter]
        refine ⟨⟨hcalled, ?_⟩, ?_⟩
        · rw [← hlast]
          exact hkept
        · intro q hq
          rcases List.mem_cons.mp hq with rfl | hq
          · exact hptask
          · exact htasks q hq
      · rw [← hpass] at hslot
        exact hsilent hslot hlast
    · apply hsilent
      · rw [passOf_other setup c s a hcore]
        simp
      · rw [(step_other setup s a c hcore ha hbuilt).1]

theorem tickStep_pending (c u : ℕ) (s : State α) (call : Call) (tick : Tick)
    (hframe : s.core c = some ⟨call, .inTick, tick⟩)
    (hlen : u < (s.statics.system.cores c).tasks.length) :
    pendingAt u tick ++ (coreStart c s).toList =
      ((corePass setup c s).toList.filter (fun p => p.slot = u)).map Pass.now ++
        pendingAt u (tickStep setup c s tick).2 := by
  have hstart : (∀ now, tick ≠ .start now) → coreStart c s = none := by
    intro h
    rw [coreStart, hframe]
    cases tick with
    | start now => exact absurd rfl (h now)
    | _ => rfl
  have hpass := corePass_none setup c s call tick hframe
  cases tick with
  | start now =>
    rw [hpass (by simp), coreStart, hframe]
    rfl
  | slot now t busy =>
    rw [hstart (by simp), corePass_slot setup c s call now t busy hframe]
    cases htask : (s.statics.system.cores c).tasks[t]? with
    | none =>
      have hge := List.getElem?_eq_none_iff.mp htask
      rw [tickStep, htask]
      dsimp only
      split <;> simp [pendingAt, show ¬ t ≤ u by omega]
    | some task =>
      rw [slot_result setup c s now t busy task htask]
      rcases Nat.lt_trichotomy t u with h | h | h
      · split <;> simp [pendingAt, slotPass, show t ≤ u by omega, show t+1 ≤ u by omega,
          show t ≠ u by omega, h]
      · subst h
        split <;> simp [pendingAt, slotPass]
      · split <;> simp [pendingAt, slotPass, show ¬ t ≤ u by omega, show ¬ t+1 ≤ u by omega,
          show t ≠ u by omega, show ¬ t < u by omega]
  | inTask now t task busy =>
    rw [hstart (by simp), hpass (by simp)]
    simp only [pendingAt, tickStep, Nat.lt_iff_add_one_le, Option.toList_none, List.append_nil,
      List.filter_nil, List.map_nil, List.nil_append]
  | background now i busy used =>
    rw [hstart (by simp), hpass (by simp), tickStep]
    split
    · split
      · rfl
      · split <;> rfl
    · rfl
  | _ =>
    rw [hstart (by simp), hpass (by simp)]
    rfl

theorem pending_eq (c u : ℕ) (s : State α) (call : Call) (tick : Tick)
    (hframe : s.core c = some ⟨call, .inTick, tick⟩) : pending c u s = pendingAt u tick := by
  rw [pending, hframe]

theorem pending_entered (c u : ℕ) (s : State α) (a : Action α) (frame : Frame)
    (hframe : s.core c = some frame) (h : Entered a c frame) : pending c u s = [] := by
  rw [pending, hframe]
  obtain ⟨call, pc, tick⟩ := frame
  have htick : pendingAt u tick = [] := by
    rcases h with h | ⟨now, -, h⟩
    · dsimp only at h
      rw [h]
      rfl
    · obtain ⟨-, -, rfl⟩ := Frame.mk.inj h
      rfl
  cases pc with
  | inTick => exact htick
  | _ => rfl

theorem step_pending (c u : ℕ) (s : State α) (a : Action α) (ha : Operating a)
    (hbuilt : s.statics.system.built = true)
    (hlen : u < (s.statics.system.cores c).tasks.length) :
    pending c u s ++ (startOf c s a).toList =
      ((passOf setup c s a).toList.filter (fun p => p.slot = u)).map Pass.now ++
        pending c u (step setup s a) := by
  by_cases hcore : a = .core c
  · subst hcore
    have hpass : passOf setup c s (.core c) = corePass setup c s := if_pos rfl
    have hstart : startOf c s (.core c) = coreStart c s := if_pos rfl
    rw [hpass, hstart, step]
    by_cases ht : Ticking c s
    · obtain ⟨call, tick, hframe, htick⟩ := ht
      have hnext := stepCore_tick_core setup s c call tick hframe htick
      rw [pending_eq c u s call tick hframe, pending_eq c u _ call _ hnext]
      exact tickStep_pending setup c u s call tick hframe hlen
    · obtain ⟨-, hnone, hstart, hbefore, hafter⟩ := core_between setup c u s ht
      rw [hnone, hstart, hbefore, hafter]
      rfl
  · rw [passOf_other setup c s a hcore, startOf_other c s a hcore]
    obtain ⟨-, hstay | ⟨hidle, frame, hframe, hentered⟩⟩ := step_other setup s a c hcore ha hbuilt
    · simp [pending, hstay]
    · rw [pending_entered c u _ a frame hframe hentered, pending, hidle]
      rfl

/-- The ticks of a run pass over a slot one after the other, and the last of them
may still have to. -/
theorem slotPasses_times (c u : ℕ) (s : State α) (as : List (Action α))
    (hop : ∀ a ∈ as, Operating a) (hbuilt : s.statics.system.built = true)
    (hlen : u < (s.statics.system.cores c).tasks.length) :
    pending c u s ++ tickTimes setup c s as =
      (slotPasses setup c u s as).map Pass.now ++ pending c u (run (step setup) s as) := by
  induction as generalizing s with
  | nil => simp [tickTimes, slotPasses, passes]
  | cons a as ih =>
    have ha : Operating a := hop a (by simp)
    obtain ⟨hcores, hstill⟩ := operating_cores setup s a ha hbuilt
    have hrest := ih (step setup s a) (fun b hb => hop b (by simp [hb])) hstill
      (by rw [hcores]; exact hlen)
    rw [tickTimes, ← List.append_assoc, step_pending setup c u s a ha hbuilt hlen,
      List.append_assoc, hrest, slotPasses_cons, List.map_append, List.append_assoc]
    rfl

theorem pending_length (c u : ℕ) (s : State α) : (pending c u s).length ≤ 1 := by
  have hat : ∀ tick, (pendingAt u tick).length ≤ 1 := by
    intro tick
    cases tick with
    | slot now t busy =>
      rw [pendingAt]
      split <;> simp
    | inTask now t task busy =>
      rw [pendingAt]
      split <;> simp
    | _ => simp [pendingAt]
  rw [pending]
  split
  · exact hat _
  · simp

/-- Ticks that begin in the order of time pass over a managed task one by one, and
call it as the greedy schedule does exactly if a tick at time 0 is not the first of
two within its period. -/
theorem managed_period_iff (timers : Timers) (micros : UInt64) (as : List (Action α))
    (deps : Dependencies) (clockSource : Bool) (c u : ℕ) (task : TaskPtr)
    (later : List (Action α))
    (hunbuilt : (run (step setup) (boot timers micros) as).statics.system.built = false)
    (hbuilt : (step setup (run (step setup) (boot timers micros) as)
      (.build deps clockSource)).statics.system.built = true)
    (htask : ((step setup (run (step setup) (boot timers micros) as)
      (.build deps clockSource)).statics.system.cores c).tasks[u]? = some task)
    (hmanaged : managed setup task) (hop : ∀ a ∈ later, Operating a)
    (htimes : Chronological (tickTimes setup c
      (step setup (run (step setup) (boot timers micros) as) (.build deps clockSource)) later)) :
    let ps := slotPasses setup c u
      (step setup (run (step setup) (boot timers micros) as) (.build deps clockSource)) later
    (∃ rest, rest.length ≤ 1 ∧ tickTimes setup c
        (step setup (run (step setup) (boot timers micros) as) (.build deps clockSource)) later =
      ps.map Pass.now ++ rest) ∧
    (∀ p ∈ ps, p.task = task) ∧
    (Greedy (setup.periodUs task) ps ↔ Unhurried (setup.periodUs task) (ps.map Pass.now)) := by
  have hidle := step_build_idle setup _ deps clockSource
    ((run_idleUnbuilt setup timers micros as).2 hunbuilt)
  generalize step setup (run (step setup) (boot timers micros) as) (.build deps clockSource) = s
    at *
  obtain ⟨hlen, -⟩ := List.getElem?_eq_some_iff.mp htask
  have hflush := slotPasses_times setup c u s later hop hbuilt hlen
  have hnone : pending c u s = [] := by rw [pending, hidle.core]
  rw [hnone, List.nil_append] at hflush
  obtain ⟨hkept, htasks⟩ := slotPasses_kept setup c u s later task hmanaged hop hbuilt htask
  rw [hidle.lastDispatch] at hkept
  have hperiod : setup.periodUs task ≠ 0 := by
    intro h
    have hpos := hmanaged.2
    rw [h] at hpos
    exact UInt64.lt_irrefl 0 hpos
  have hchronological : Chronological ((slotPasses setup c u s later).map Pass.now) := by
    rw [hflush] at htimes
    exact htimes.sublist (List.sublist_append_left _ _)
  exact ⟨⟨_, pending_length c u _, hflush⟩, htasks, greedy_iff _ _ hperiod hchronological hkept⟩

end Runs

section Witnesses

def managedSetup : Setup := { dualSetup with kernelManagedPeriod := fun _ => true }

def managedBuild : List (Action ℕ) := [.register (.addScheduledTask 0 0)]

def wholeTick (now : UInt64) : List (Action ℕ) := .tick 0 now :: List.replicate 9 (.core 0)

theorem wholeTick_operating (now : UInt64) : ∀ a ∈ wholeTick now, Operating a := by
  intro a ha
  rcases List.mem_cons.mp ha with rfl | ha
  · exact trivial
  · rw [List.eq_of_mem_replicate ha]
    exact trivial

def managedStart : State ℕ :=
  step managedSetup (run (step managedSetup) (boot freshTimers 0) managedBuild)
    (.build fullDependencies true)

theorem managed_period_iff_greedy :
    Greedy 1000 (slotPasses managedSetup 0 1 managedStart
      (wholeTick 5 ++ wholeTick 500 ++ wholeTick 1005)) := by
  refine (managed_period_iff managedSetup freshTimers 0 managedBuild fullDependencies true 0 1
    (.user 0) (wholeTick 5 ++ wholeTick 500 ++ wholeTick 1005) (by decide +kernel)
    (by decide +kernel) (by decide +kernel) (by decide +kernel) ?_ ?_).2.2.mpr ?_
  · simp only [List.forall_mem_append]
    exact ⟨⟨wholeTick_operating 5, wholeTick_operating 500⟩, wholeTick_operating 1005⟩
  · rw [Chronological]
    decide +kernel
  · intro h
    exact absurd h (by decide +kernel)

/-- Ticks at times 0 and 1 both call a task with a period of 1000 microseconds. -/
theorem period_ignored_at_zero :
    managedStart.statics.system.built = true ∧
      (managedStart.statics.system.cores 0).tasks[1]? = some (.user 0) ∧
      managed managedSetup (.user 0) ∧ managedSetup.periodUs (.user 0) = 1000 ∧
      tickTimes managedSetup 0 managedStart (wholeTick 0 ++ wholeTick 1) = [0, 1] ∧
      ¬ Greedy 1000 (slotPasses managedSetup 0 1 managedStart (wholeTick 0 ++ wholeTick 1)) := by
  have hpasses : slotPasses managedSetup 0 1 managedStart (wholeTick 0 ++ wholeTick 1) =
      [⟨0, 1, .user 0, true⟩, ⟨1, 1, .user 0, true⟩] := by decide +kernel
  refine ⟨by decide +kernel, by decide +kernel, by decide +kernel, by decide +kernel,
    by decide +kernel, fun h => ?_⟩
  rw [hpasses] at h
  have hlater := (h [⟨0, 1, .user 0, true⟩] ⟨1, 1, .user 0, true⟩ [] rfl).mp rfl
    ⟨0, 1, .user 0, true⟩ (by simp) rfl
  exact absurd hlater (by decide)

end Witnesses

end SputterOS.ManagedPeriods
