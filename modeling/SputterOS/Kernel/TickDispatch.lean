import SputterOS.Builder.PrioritySort
import SputterOS.Kernel.SteadyMembers

/-!
# The dispatches of a tick

A tick passes over the slots of its core one after the other and calls the task
of each slot unless the period that the kernel keeps for it has not elapsed.
The passes of a core are observed along runs in which the other cores, the
services and the clock interleave with its steps.
-/

set_option autoImplicit false

namespace SputterOS.TickDispatch
open SputterOS.Kernel SputterOS.Builder SputterOS.Metrics SputterOS.StaticData
  SputterOS.SystemCalls Foundation.Transition
open SputterOS.CoreRun (CorePc)

structure Pass where
  now : UInt64
  slot : ℕ
  task : TaskPtr
  dispatched : Bool
  deriving DecidableEq

section Observations

variable {α : Type*} (setup : Setup)

def entersTask : Tick → Bool
  | .inTask _ _ _ _ => true
  | _ => false

def corePass (c : ℕ) (s : State α) : Option Pass :=
  match s.core c with
  | some ⟨_, .inTick, .slot now t busy⟩ =>
    (s.statics.system.cores c).tasks[t]?.map fun task =>
      ⟨now, t, task, entersTask (tickStep setup c s (.slot now t busy)).2⟩
  | _ => none

def passOf (c : ℕ) (s : State α) : Action α → Option Pass
  | .core d => if d = c then corePass setup c s else none
  | _ => none

def passes (c : ℕ) : State α → List (Action α) → List Pass
  | _, [] => []
  | s, a::as => (passOf setup c s a).toList ++ passes c (step setup s a) as

def coreStart (c : ℕ) (s : State α) : Option UInt64 :=
  match s.core c with
  | some ⟨_, .inTick, .start now⟩ => some now
  | _ => none

def startOf (c : ℕ) (s : State α) : Action α → Option UInt64
  | .core d => if d = c then coreStart c s else none
  | _ => none

def tickTimes (c : ℕ) : State α → List (Action α) → List UInt64
  | _, [] => []
  | s, a::as => (startOf c s a).toList ++ tickTimes c (step setup s a) as

def Operating : Action α → Prop
  | .register _ => False
  | .reset => False
  | _ => True

end Observations

section Steps

variable {α : Type*} (setup : Setup)

theorem operating_cores (s : State α) (a : Action α) (ha : Operating a)
    (hbuilt : s.statics.system.built = true) :
    (step setup s a).statics.system.cores = s.statics.system.cores ∧
      (step setup s a).statics.system.built = true := by
  cases hpaces : a.paces with
  | false =>
    have h := (step_steady setup s a hpaces).1
    exact ⟨h.cores, h.built.trans hbuilt⟩
  | true =>
    cases a with
    | register r => exact absurd ha id
    | reset => exact absurd ha id
    | setMicros micros => exact ⟨rfl, hbuilt⟩
    | build deps clockSource =>
      rw [step_build_built setup s deps clockSource hbuilt]
      exact ⟨rfl, hbuilt⟩
    | core c =>
      have h := stepCore_keeps setup s c
      exact ⟨h.cores, h.built.trans hbuilt⟩
    | _ => cases hpaces

end Steps

section Slots

variable {α : Type*} (setup : Setup)

def slotPass (statics : Statics α) (c : ℕ) (now : UInt64) (t : ℕ) (task : TaskPtr) : Pass :=
  ⟨now, t, task, !decide (skipped setup statics c t task now)⟩

def upcoming (statics : Statics α) (c : ℕ) (now : UInt64) (t : ℕ) : List Pass :=
  ((statics.system.cores c).tasks.mapIdx (slotPass setup statics c now)).drop t

theorem upcoming_cons (statics : Statics α) (c : ℕ) (now : UInt64) (t : ℕ) (task : TaskPtr)
    (htask : (statics.system.cores c).tasks[t]? = some task) :
    upcoming setup statics c now t =
      slotPass setup statics c now t task :: upcoming setup statics c now (t+1) := by
  obtain ⟨hlt, hget⟩ := List.getElem?_eq_some_iff.mp htask
  rw [upcoming, List.drop_eq_getElem_cons (by simpa using hlt), List.getElem_mapIdx, hget]
  rfl

theorem upcoming_nil (statics : Statics α) (c : ℕ) (now : UInt64) (t : ℕ)
    (htask : (statics.system.cores c).tasks[t]? = none) :
    upcoming setup statics c now t = [] := by
  rw [upcoming]
  exact List.drop_eq_nil_of_le (by simpa using List.getElem?_eq_none_iff.mp htask)

theorem upcoming_congr (statics statics' : Statics α) (c : ℕ) (now : UInt64) (t : ℕ)
    (hcores : statics'.system.cores = statics.system.cores)
    (hlast : ∀ u, t ≤ u → statics'.lastDispatch c u = statics.lastDispatch c u) :
    upcoming setup statics' c now t = upcoming setup statics c now t := by
  apply List.ext_getElem?
  intro i
  rw [upcoming, upcoming, List.getElem?_drop, List.getElem?_drop, List.getElem?_mapIdx,
    List.getElem?_mapIdx, hcores]
  congr 1
  funext task
  rw [slotPass, slotPass]
  simp only [skipped, hlast (t+i) (by omega)]

theorem slot_result (c : ℕ) (s : State α) (now : UInt64) (t : ℕ) (busy : UInt64) (task : TaskPtr)
    (htask : (s.statics.system.cores c).tasks[t]? = some task) :
    tickStep setup c s (.slot now t busy) =
      if skipped setup s.statics c t task now then (s, .slot now (t+1) busy)
      else ((s.markDispatch setup c t task now).startTimer (.scheduled task),
        .inTask now t task busy) := by
  rw [tickStep, htask]

theorem corePass_slot (c : ℕ) (s : State α) (call : Call) (now : UInt64) (t : ℕ) (busy : UInt64)
    (hframe : s.core c = some ⟨call, .inTick, .slot now t busy⟩) :
    corePass setup c s =
      (s.statics.system.cores c).tasks[t]?.map (slotPass setup s.statics c now t) := by
  rw [corePass, hframe]
  dsimp only
  cases htask : (s.statics.system.cores c).tasks[t]? with
  | none => rfl
  | some task =>
    rw [Option.map_some, Option.map_some, slot_result setup c s now t busy task htask, slotPass]
    by_cases hskip : skipped setup s.statics c t task now
    · rw [if_pos hskip, decide_eq_true hskip]
      rfl
    · rw [if_neg hskip, decide_eq_false hskip]
      rfl

theorem corePass_none (c : ℕ) (s : State α) (call : Call) (tick : Tick)
    (hframe : s.core c = some ⟨call, .inTick, tick⟩)
    (htick : ∀ now t busy, tick ≠ .slot now t busy) : corePass setup c s = none := by
  rw [corePass, hframe]
  cases tick with
  | slot now t busy => exact absurd rfl (htick now t busy)
  | _ => rfl

theorem passOf_other (c : ℕ) (s : State α) (a : Action α) (ha : a ≠ .core c) :
    passOf setup c s a = none := by
  cases a with
  | core d => exact if_neg (fun h => ha (by rw [h]))
  | _ => rfl

theorem tickStep_lastDispatch (c : ℕ) (tick : Tick) (s : State α)
    (htick : ∀ now t busy, tick ≠ .slot now t busy) :
    (tickStep setup c s tick).1.statics.lastDispatch = s.statics.lastDispatch := by
  cases tick with
  | start now => exact (detectRollover_steady setup c now s).lastDispatch
  | slot now t busy => exact absurd rfl (htick now t busy)
  | inTask now t task busy =>
    exact ((stopTimer_steady s _).trans (checkDeadline_steady setup task now _)).lastDispatch
  | background now i busy used =>
    rw [tickStep]
    split
    · split
      · rfl
      · split <;> rfl
    · rfl
  | inBackground now i task busy used => exact (callBackground_steady setup task s).lastDispatch
  | stopBackground now i task busy used => rfl
  | finish now busy => rfl
  | recordGap read gap tickEndTime => rfl
  | returned => rfl

theorem slot_lastDispatch (c : ℕ) (s : State α) (now : UInt64) (t : ℕ) (busy : UInt64)
    (d u : ℕ) :
    (tickStep setup c s (.slot now t busy)).1.statics.lastDispatch d u =
      if d = c ∧ u = t ∧ ∃ task, (s.statics.system.cores c).tasks[t]? = some task ∧
          managed setup task ∧ ¬ skipped setup s.statics c t task now then now
      else s.statics.lastDispatch d u := by
  cases htask : (s.statics.system.cores c).tasks[t]? with
  | none =>
    rw [if_neg (by simp), tickStep, htask]
  | some task =>
    rw [slot_result setup c s now t busy task htask]
    by_cases hskip : skipped setup s.statics c t task now
    · rw [if_pos hskip, if_neg (by simp [hskip])]
    · rw [if_neg hskip]
      show (s.markDispatch setup c t task now).statics.lastDispatch d u = _
      unfold State.markDispatch
      by_cases hmanaged : managed setup task
      · rw [if_pos hmanaged]
        show Function.update s.statics.lastDispatch c
          (Function.update (s.statics.lastDispatch c) t now) d u = _
        by_cases hd : d = c
        · subst hd
          rw [Function.update_self, Function.update_apply]
          simp [hmanaged, hskip]
        · rw [Function.update_of_ne hd, if_neg (by simp [hd])]
      · rw [if_neg hmanaged, if_neg (by simp [hmanaged])]

end Slots

section Others

variable {α : Type*} (setup : Setup)

theorem step_other (s : State α) (a : Action α) (c : ℕ) (ha : a ≠ .core c) (hop : Operating a)
    (hbuilt : s.statics.system.built = true) :
    (step setup s a).statics.lastDispatch c = s.statics.lastDispatch c ∧
      ((step setup s a).core c = s.core c ∨
        s.core c = none ∧ ∃ frame, (step setup s a).core c = some frame ∧ Entered a c frame) := by
  cases hpaces : a.paces with
  | false =>
    obtain ⟨h, hcore⟩ := step_steady setup s a hpaces
    refine ⟨congrFun h.lastDispatch c, (hcore c).imp_right ?_⟩
    rintro ⟨hidle, -, -, frame, hframe⟩
    exact ⟨hidle, frame, hframe⟩
  | true =>
    cases a with
    | register r => exact absurd hop id
    | reset => exact absurd hop id
    | setMicros micros => exact ⟨rfl, Or.inl rfl⟩
    | build deps clockSource =>
      rw [step_build_built setup s deps clockSource hbuilt]
      exact ⟨rfl, Or.inl rfl⟩
    | core d =>
      have hd : c ≠ d := fun h => ha (by rw [h])
      refine ⟨?_, Or.inl (stepCore_core setup s d c (Or.inl hd))⟩
      rw [step]
      unfold stepCore
      split
      · rfl
      · next frame hframe =>
        split
        · show (tickStep setup d s frame.tick).1.statics.lastDispatch c = _
          by_cases hslot : ∃ now t busy, frame.tick = .slot now t busy
          · obtain ⟨now, t, busy, hslot⟩ := hslot
            funext u
            rw [hslot, slot_lastDispatch, if_neg (by simp [hd])]
          · push Not at hslot
            rw [tickStep_lastDispatch setup d frame.tick s hslot]
        · obtain ⟨mid, x, h, heq, -⟩ := advance_steady setup s d frame.call frame.pc
          rw [heq]
          exact congrFun h.lastDispatch c
    | _ => cases hpaces

end Others

section Segments

variable {α : Type*} (setup : Setup)

def Ticking (c : ℕ) (s : State α) : Prop :=
  ∃ call tick, s.core c = some ⟨call, .inTick, tick⟩ ∧ tick ≠ .returned

instance (c : ℕ) (s : State α) : Decidable (Ticking c s) :=
  decidable_of_iff ((s.core c).any fun frame => frame.pc = .inTick ∧ frame.tick ≠ .returned) (by
    rw [Ticking]
    cases s.core c with
    | none => simp
    | some frame =>
      obtain ⟨call, pc, tick⟩ := frame
      simp [and_comm])

def remainingAt (statics : Statics α) (c : ℕ) : Tick → List Pass
  | .start now => upcoming setup statics c now 0
  | .slot now t _ => upcoming setup statics c now t
  | .inTask now t _ _ => upcoming setup statics c now (t+1)
  | _ => []

def remaining (c : ℕ) (s : State α) : List Pass :=
  match s.core c with
  | some ⟨_, .inTick, tick⟩ => remainingAt setup s.statics c tick
  | _ => []

theorem remaining_eq (c : ℕ) (s : State α) (call : Call) (tick : Tick)
    (hframe : s.core c = some ⟨call, .inTick, tick⟩) :
    remaining setup c s = remainingAt setup s.statics c tick := by
  rw [remaining, hframe]

theorem remainingAt_congr (statics statics' : Statics α) (c : ℕ) (tick : Tick)
    (hcores : statics'.system.cores = statics.system.cores)
    (hlast : statics'.lastDispatch c = statics.lastDispatch c) :
    remainingAt setup statics' c tick = remainingAt setup statics c tick := by
  have hcongr : ∀ now t, upcoming setup statics' c now t = upcoming setup statics c now t :=
    fun now t => upcoming_congr setup statics statics' c now t hcores (fun u _ => by rw [hlast])
  cases tick with
  | start now => exact hcongr now 0
  | slot now t busy => exact hcongr now t
  | inTask now t task busy => exact hcongr now (t+1)
  | _ => rfl

theorem tickStep_remaining (c : ℕ) (s : State α) (call : Call) (tick : Tick)
    (hframe : s.core c = some ⟨call, .inTick, tick⟩) :
    remainingAt setup s.statics c tick =
      (corePass setup c s).toList ++
        remainingAt setup (tickStep setup c s tick).1.statics c (tickStep setup c s tick).2 := by
  have hcores := (tickStep_keeps setup c tick s).cores
  have hnone := corePass_none setup c s call tick hframe
  have hlast : (∀ now t busy, tick ≠ .slot now t busy) → ∀ next,
      remainingAt setup (tickStep setup c s tick).1.statics c next =
        remainingAt setup s.statics c next := by
    intro htick next
    exact remainingAt_congr setup _ _ c next hcores
      (by rw [tickStep_lastDispatch setup c tick s htick])
  cases tick with
  | slot now t busy =>
    rw [corePass_slot setup c s call now t busy hframe]
    cases htask : (s.statics.system.cores c).tasks[t]? with
    | none =>
      rw [tickStep, htask]
      show upcoming setup s.statics c now t = _
      rw [upcoming_nil setup s.statics c now t htask]
      dsimp only
      split <;> rfl
    | some task =>
      show upcoming setup s.statics c now t = _
      rw [upcoming_cons setup s.statics c now t task htask]
      have htail : upcoming setup (tickStep setup c s (.slot now t busy)).1.statics c now (t+1) =
          upcoming setup s.statics c now (t+1) := by
        apply upcoming_congr setup _ _ c now (t+1) hcores
        intro u hu
        rw [slot_lastDispatch, if_neg (by omega)]
      rw [← htail, slot_result setup c s now t busy task htask]
      split <;> rfl
  | start now =>
    rw [hnone (by simp), hlast (by simp)]
    rfl
  | inTask now t task busy =>
    rw [hnone (by simp), hlast (by simp)]
    rfl
  | background now i busy used =>
    rw [hnone (by simp), hlast (by simp), tickStep]
    split
    · split
      · rfl
      · split <;> rfl
    · rfl
  | _ =>
    rw [hnone (by simp), hlast (by simp)]
    rfl

theorem step_remaining (c : ℕ) (s : State α) (a : Action α) (ht : Ticking c s)
    (hop : Operating a) (hbuilt : s.statics.system.built = true) :
    remaining setup c s = (passOf setup c s a).toList ++ remaining setup c (step setup s a) := by
  obtain ⟨call, tick, hframe, htick⟩ := ht
  rw [remaining_eq setup c s call tick hframe]
  by_cases ha : a = .core c
  · subst ha
    have hcore : (step setup s (.core c)).core c = _ :=
      stepCore_tick_core setup s c call tick hframe htick
    have hstatics : (step setup s (.core c)).statics = _ :=
      stepCore_tick_statics setup s c call tick hframe htick
    rw [tickStep_remaining setup c s call tick hframe,
      remaining_eq setup c _ call _ hcore, hstatics, passOf, if_pos rfl]
  · obtain ⟨hlast, hcore⟩ := step_other setup s a c ha hop hbuilt
    have hstay : (step setup s a).core c = some ⟨call, .inTick, tick⟩ := by
      rcases hcore with h | ⟨h, -⟩
      · rw [h, hframe]
      · rw [hframe] at h
        cases h
    rw [passOf_other setup c s a ha, remaining_eq setup c _ call tick hstay,
      remainingAt_congr setup s.statics (step setup s a).statics c tick
        (operating_cores setup s a hop hbuilt).1 hlast]
    rfl

/-- While a tick lasts, what it had to pass is what it has passed and has still to pass. -/
theorem tick_passes (c : ℕ) (s : State α) (as : List (Action α))
    (hop : ∀ a ∈ as, Operating a) (hbuilt : s.statics.system.built = true)
    (ht : Along (step setup) (fun s _ => Ticking c s) s as) :
    remaining setup c s =
      passes setup c s as ++ remaining setup c (run (step setup) s as) := by
  induction as generalizing s with
  | nil => rfl
  | cons a as ih =>
    have ha : Operating a := hop a (by simp)
    rw [step_remaining setup c s a ht.1 ha hbuilt, passes, run_cons, List.append_assoc,
      ih (step setup s a) (fun b hb => hop b (by simp [hb]))
        (operating_cores setup s a ha hbuilt).2 ht.2]

end Segments

section Termination

variable {α : Type*} (setup : Setup)

theorem tickStep_system (c : ℕ) (tick : Tick) (s : State α) :
    (tickStep setup c s tick).1.statics.system = s.statics.system := by
  cases tick with
  | start now =>
    show (s.detectRollover setup c now).statics.system = _
    unfold State.detectRollover
    split <;> rfl
  | slot now t busy =>
    rw [tickStep]
    split
    · rfl
    · split
      · rfl
      · show (s.markDispatch setup c t _ now).statics.system = _
        unfold State.markDispatch
        split <;> rfl
  | inTask now t task busy =>
    show (State.checkDeadline setup _ task now).statics.system = _
    unfold State.checkDeadline
    split <;> rfl
  | background now i busy used =>
    rw [tickStep]
    split
    · split
      · rfl
      · split <;> rfl
    · rfl
  | inBackground now i task busy used =>
    cases task with
    | user t => rfl
    | diagsTask =>
      show (s.diagTick setup).statics.system = _
      unfold State.diagTick
      split <;> rfl
  | stopBackground now i task busy used => rfl
  | finish now busy => rfl
  | recordGap read gap tickEndTime => rfl
  | returned => rfl

/-- A bound for the steps left of a tick over `n` slots and a ring of `m`. -/
def rank (n m : ℕ) : Tick → ℕ
  | .start _ => 2*n+3*m+5
  | .slot _ t _ => 2*(n-t)+3*m+4
  | .inTask _ t _ _ => 2*(n-(t+1))+3*m+5
  | .background _ i _ _ => 3*(m-i)+3
  | .inBackground _ i _ _ _ => 3*(m-(i+1))+5
  | .stopBackground _ i _ _ _ => 3*(m-(i+1))+4
  | .finish _ _ => 2
  | .recordGap _ _ _ => 1
  | .returned => 0

theorem tickStep_rank (c : ℕ) (s : State α) (tick : Tick) (htick : tick ≠ .returned) :
    rank (s.statics.system.cores c).tasks.length s.statics.system.backgroundTasks.length
        (tickStep setup c s tick).2 <
      rank (s.statics.system.cores c).tasks.length s.statics.system.backgroundTasks.length
        tick := by
  cases tick with
  | start now =>
    simp only [tickStep, rank]
    omega
  | slot now t busy =>
    cases htask : (s.statics.system.cores c).tasks[t]? with
    | none =>
      simp only [tickStep, htask]
      split_ifs <;> simp only [rank] <;> omega
    | some task =>
      obtain ⟨hlt, -⟩ := List.getElem?_eq_some_iff.mp htask
      rw [slot_result setup c s now t busy task htask]
      split_ifs <;> simp only [rank] <;> omega
  | inTask now t task busy =>
    simp only [tickStep, rank]
    omega
  | background now i busy used =>
    rw [tickStep]
    split
    · split
      · simp only [rank]
        omega
      · split <;> simp only [rank] <;> omega
    · simp only [rank]
      omega
  | inBackground now i task busy used =>
    simp only [tickStep, rank]
    omega
  | stopBackground now i task busy used =>
    simp only [tickStep, rank]
    omega
  | finish now busy =>
    simp only [tickStep, rank]
    omega
  | recordGap read gap tickEndTime =>
    simp only [tickStep, rank]
    omega
  | returned => exact absurd rfl htick

/-- A core that goes on alone comes to the end of its tick. -/
theorem tick_returns (c : ℕ) (call : Call) (s : State α) (tick : Tick)
    (hframe : s.core c = some ⟨call, .inTick, tick⟩) :
    ∃ bs : List (Action α), (∀ b ∈ bs, Operating b) ∧
      Along (step setup) (fun s _ => Ticking c s) s bs ∧
      (run (step setup) s bs).core c = some ⟨call, .inTick, .returned⟩ := by
  generalize hr : rank (s.statics.system.cores c).tasks.length
    s.statics.system.backgroundTasks.length tick = r
  induction r using Nat.strongRecOn generalizing s tick with
  | ind r ih =>
    by_cases htick : tick = .returned
    · subst htick
      exact ⟨[], by simp, trivial, hframe⟩
    · have hnext : (step setup s (.core c)).core c = _ :=
        stepCore_tick_core setup s c call tick hframe htick
      have hstatics : (step setup s (.core c)).statics = _ :=
        stepCore_tick_statics setup s c call tick hframe htick
      have hsystem : (step setup s (.core c)).statics.system = s.statics.system := by
        rw [hstatics]
        exact tickStep_system setup c tick s
      have hless := tickStep_rank setup c s tick htick
      rw [hr, ← hsystem] at hless
      obtain ⟨bs, hop, halong, hend⟩ := ih _ hless (step setup s (.core c)) _ hnext rfl
      refine ⟨.core c::bs, ?_, ⟨⟨call, tick, hframe, htick⟩, halong⟩, hend⟩
      intro b hb
      rcases List.mem_cons.mp hb with rfl | hb
      · exact trivial
      · exact hop b hb

end Termination

end SputterOS.TickDispatch
