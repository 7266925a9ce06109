import SputterOS.Builder.TaskKinds
import SputterOS.Foundation.Transition

/-!
# The array of the background ring

A registration of the user is stored while the ring has a free slot. A build
with an application stores the diagnostics task in any case, before it
validates anything, and an attempt that fails leaves it there.
-/

set_option autoImplicit false

namespace SputterOS.RingCapacity
open Foundation.Transition SputterOS.Builder SputterOS.Kernel

inductive Action where
  | register (r : Registration)
  | build (user : UserTasks) (deps : Dependencies)
  | reset

def stores (cfg : Config) (sys : System) : Action → Option ℕ
  | .register (.addBackgroundTask _) =>
    if sys.backgroundTasks.length < cfg.maxBackgroundTasks then some sys.backgroundTasks.length
    else none
  | .register _ => none
  | .build _ deps =>
    if sys.built = false ∧ deps.app = true then some sys.backgroundTasks.length else none
  | .reset => none

/-- The system and the indices of the ring that have been written. -/
structure State where
  sys : System
  written : List ℕ

def boot : State := ⟨.reset, []⟩

def call (cfg : Config) (sys : System) : Action → System
  | .register r => register cfg sys r
  | .build user deps => (build cfg user deps sys).1
  | .reset => .reset

def step (cfg : Config) (s : State) (a : Action) : State :=
  ⟨call cfg s.sys a, s.written ++ (stores cfg s.sys a).toList⟩

/-- The ring is within its array, and so was every write. -/
structure InBounds (cfg : Config) (s : State) : Prop where
  count : s.sys.backgroundTasks.length ≤ cfg.maxBackgroundTasks
  writes : ∀ i ∈ s.written, i < cfg.maxBackgroundTasks

/-- A build that creates the kernel tasks finds a free slot. -/
def Room (cfg : Config) (s : State) : Action → Prop
  | .build _ deps => s.sys.built = false → deps.app = true →
      s.sys.backgroundTasks.length < cfg.maxBackgroundTasks
  | _ => True

theorem build_backgroundTasks (cfg : Config) (user : UserTasks) (deps : Dependencies)
    (sys : System) : (build cfg user deps sys).1.backgroundTasks =
      sys.backgroundTasks ++ if sys.built = false ∧ deps.app = true then [.diagsTask] else [] := by
  unfold build
  cases sys.built with
  | true => simp
  | false =>
    have hprepared := prepared_backgroundTasks cfg user deps sys
    cases validate cfg user ((prepared cfg user deps sys).held deps)
      (prepared cfg user deps sys) <;> simpa using hprepared

theorem call_cases (cfg : Config) (sys : System) (a : Action) :
    (stores cfg sys a = some sys.backgroundTasks.length ∧
      (call cfg sys a).backgroundTasks.length = sys.backgroundTasks.length+1) ∨
    (stores cfg sys a = none ∧
      (call cfg sys a).backgroundTasks.length ≤ sys.backgroundTasks.length) := by
  cases a with
  | register r =>
    cases r with
    | addScheduledTask coreId task => exact .inr ⟨rfl, Nat.le_refl _⟩
    | setCrunchTask coreId task => exact .inr ⟨rfl, Nat.le_refl _⟩
    | addBackgroundTask task =>
      by_cases hroom : sys.backgroundTasks.length < cfg.maxBackgroundTasks
      · left
        simp [stores, call, register, hroom]
      · right
        simp [stores, call, register, hroom]
  | build user deps =>
    by_cases hcreate : sys.built = false ∧ deps.app = true
    · left
      simp [stores, call, build_backgroundTasks, hcreate]
    · right
      simp only [stores, call, build_backgroundTasks, if_neg hcreate, List.append_nil, true_and]
      exact Nat.le_refl _
  | reset => exact .inr ⟨rfl, Nat.zero_le _⟩

/-- Only a build stores without a look at the bound. -/
theorem stores_lt (cfg : Config) (s : State) (a : Action) (ha : Room cfg s a) (i : ℕ)
    (hi : stores cfg s.sys a = some i) : i < cfg.maxBackgroundTasks := by
  cases a with
  | register r =>
    cases r with
    | addScheduledTask coreId task => cases hi
    | setCrunchTask coreId task => cases hi
    | addBackgroundTask task =>
      simp only [stores, Option.ite_none_right_eq_some, Option.some.injEq] at hi
      exact hi.2 ▸ hi.1
  | build user deps =>
    simp only [stores, Option.ite_none_right_eq_some, Option.some.injEq] at hi
    exact hi.2 ▸ ha hi.1.1 hi.1.2
  | reset => cases hi

theorem step_inBounds (cfg : Config) (s : State) (a : Action) (ha : Room cfg s a)
    (h : InBounds cfg s) : InBounds cfg (step cfg s a) := by
  have hcount := h.count
  rcases call_cases cfg s.sys a with ⟨hstore, hlen⟩ | ⟨hstore, hlen⟩
  · have hlt := stores_lt cfg s a ha _ hstore
    refine ⟨?_, fun i hi => ?_⟩
    · change (call cfg s.sys a).backgroundTasks.length ≤ _
      omega
    · simp only [step, hstore, Option.toList_some, List.mem_append, List.mem_singleton] at hi
      rcases hi with hold | rfl
      · exact h.writes i hold
      · exact hlt
  · refine ⟨Nat.le_trans hlen hcount, fun i hi => h.writes i ?_⟩
    simpa [step, hstore] using hi

theorem room_of_step (cfg : Config) (s : State) (a : Action) (h : InBounds cfg (step cfg s a)) :
    Room cfg s a := by
  cases a with
  | register r => trivial
  | build user deps =>
    intro hbuilt happ
    have hcount := h.count
    simp only [step, call, build_backgroundTasks, hbuilt, happ, and_self, if_true,
      List.length_append, List.length_singleton] at hcount
    exact hcount
  | reset => trivial

/-- The ring stays within its array behind every call, and no call writes past it,
exactly if each build that creates the kernel tasks finds a free slot. -/
theorem ring_inBounds_iff (cfg : Config) (actions : List Action) :
    (∀ before, before <+: actions → InBounds cfg (run (step cfg) boot before)) ↔
      Along (step cfg) (Room cfg) boot actions :=
  run_prefixes_iff (step cfg) (InBounds cfg) (InBounds cfg) (Room cfg) (fun _ h => h)
    (step_inBounds cfg) (fun s a _ h => room_of_step cfg s a h) boot
    ⟨Nat.zero_le _, by simp [boot]⟩ actions

def ninthSlot : List Action := fullRing.map .register ++ [.build plainTasks fullDependencies]

theorem ring_overrun :
    ¬ ∀ actions before, before <+: actions → InBounds dualCore (run (step dualCore) boot before) := by
  intro h
  have hcount := (h ninthSlot ninthSlot (List.prefix_refl _)).count
  exact absurd hcount (by decide +kernel)

end SputterOS.RingCapacity
