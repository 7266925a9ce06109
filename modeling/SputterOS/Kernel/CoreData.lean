import Mathlib.Data.List.Basic

/-!
# Tasks of one core

Tasks are pointers, compared as such. The two kernel tasks that have a core
stand beside the tasks of the user.
-/

set_option autoImplicit false

namespace SputterOS.Kernel

inductive TaskPtr where
  | controlTask
  | commsTask
  | user (task : ℕ)
  deriving DecidableEq, Repr

inductive BackgroundPtr where
  | diagsTask
  | user (task : ℕ)
  deriving DecidableEq, Repr

inductive CoreDispatchMode where
  | flatLoop
  | crunch
  deriving DecidableEq, Repr

def kMaxTasksPerCore : ℕ := 256

structure CoreData where
  tasks : List TaskPtr
  mode : CoreDispatchMode
  crunchTask : Option ℕ
  deriving DecidableEq, Repr

def CoreData.empty : CoreData := ⟨[], .flatLoop, none⟩

def CoreData.isActive (core : CoreData) : Bool := core.tasks.length > 0 || core.crunchTask.isSome

def CoreData.addTask (core : CoreData) (task : TaskPtr) : CoreData :=
  if core.tasks.length < kMaxTasksPerCore then { core with tasks := core.tasks ++ [task] } else core

def CoreData.prependTask (core : CoreData) (task : TaskPtr) : CoreData :=
  if core.tasks.length < kMaxTasksPerCore then { core with tasks := task::core.tasks } else core

def CoreData.setCrunchTask (core : CoreData) (task : ℕ) : CoreData :=
  { core with mode := .crunch, crunchTask := some task }

def CoreData.runsCrunch (core : CoreData) : Bool :=
  core.mode = .crunch && core.crunchTask.isSome

/-- Only `setCrunchTask` changes the mode. -/
def CoreData.Coherent (core : CoreData) : Prop := core.mode = .crunch ↔ core.crunchTask.isSome

@[simp] theorem addTask_mode (core : CoreData) (task : TaskPtr) :
    (core.addTask task).mode = core.mode := by
  unfold CoreData.addTask
  split <;> rfl

@[simp] theorem addTask_crunchTask (core : CoreData) (task : TaskPtr) :
    (core.addTask task).crunchTask = core.crunchTask := by
  unfold CoreData.addTask
  split <;> rfl

@[simp] theorem prependTask_mode (core : CoreData) (task : TaskPtr) :
    (core.prependTask task).mode = core.mode := by
  unfold CoreData.prependTask
  split <;> rfl

@[simp] theorem prependTask_crunchTask (core : CoreData) (task : TaskPtr) :
    (core.prependTask task).crunchTask = core.crunchTask := by
  unfold CoreData.prependTask
  split <;> rfl

theorem prependTask_nonempty (core : CoreData) (task : TaskPtr) :
    0 < (core.prependTask task).tasks.length := by
  unfold CoreData.prependTask
  split
  · exact Nat.succ_pos _
  · next h => exact Nat.lt_of_lt_of_le (by decide) (Nat.not_lt.mp h)

end SputterOS.Kernel
