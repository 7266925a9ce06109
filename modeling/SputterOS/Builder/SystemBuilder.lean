import SputterOS.Kernel.CoreData
import SputterOS.Kernel.KernelState
import Mathlib.Data.List.Nodup
import Mathlib.Data.List.Perm.Basic

/-!
# Building the system

Registrations write into the static data of the system. `build` adds the
kernel tasks, chooses the background core, sorts every task list and only then
validates. A failed build leaves what it has written.
-/

set_option autoImplicit false

namespace SputterOS.Builder
open SputterOS.Kernel

structure Config where
  kCoreCount : ℕ
  kCoreCount_pos : 1 ≤ kCoreCount
  controlBudgetUs : UInt32
  commsBudgetUs : UInt64
  minSchedulePeriodUs : UInt64
  maxBackgroundTasks : ℕ

structure ScheduledTask where
  periodUs : UInt64
  schedulePriority : UInt8
  validateDependencies : Bool

structure UserTasks where
  scheduled : ℕ → ScheduledTask
  crunchPeriodUs : ℕ → UInt64

structure Dependencies where
  app : Bool
  stream : Bool
  watchdogKick : Bool

structure System where
  cores : ℕ → CoreData
  backgroundTasks : List BackgroundPtr
  backgroundCoreId : ℕ
  watchdogKickFn : Bool
  built : Bool
  kernelState : KernelState
  /-- The dependencies that the kernel tasks were last emplaced with. -/
  emplaced : Option Dependencies

def System.reset : System := ⟨fun _ => .empty, [], 0, false, false, .unconfigured, none⟩

/-- What the kernel tasks answer from. Without any there is nothing to answer. -/
def System.held (sys : System) (deps : Dependencies) : Dependencies := sys.emplaced.getD deps

inductive Registration where
  | addScheduledTask (coreId task : ℕ)
  | setCrunchTask (coreId task : ℕ)
  | addBackgroundTask (task : ℕ)

def Config.core (cfg : Config) (coreId : ℕ) : ℕ := if coreId < cfg.kCoreCount then coreId else 0

def System.updateCore (sys : System) (c : ℕ) (f : CoreData → CoreData) : System :=
  { sys with cores := Function.update sys.cores c (f (sys.cores c)) }

def register (cfg : Config) (sys : System) : Registration → System
  | .addScheduledTask coreId task =>
    sys.updateCore (cfg.core coreId) (fun core => core.addTask (.user task))
  | .setCrunchTask coreId task =>
    sys.updateCore (cfg.core coreId) (fun core => core.setCrunchTask task)
  | .addBackgroundTask task =>
    if sys.backgroundTasks.length < cfg.maxBackgroundTasks then
      { sys with backgroundTasks := sys.backgroundTasks ++ [.user task] }
    else sys

def declared (cfg : Config) (regs : List Registration) : System := regs.foldl (register cfg) .reset

def lastActive (sys : System) : ℕ → ℕ
  | 0 => 0
  | c+1 => if (sys.cores c).isActive then c else lastActive sys c

def System.prependTask (sys : System) (c : ℕ) (task : TaskPtr) : System :=
  sys.updateCore c (fun core => core.prependTask task)

/-- The comms task falls back to the first core when the second one is a
crunch core. -/
def registerKernelTasks (cfg : Config) (sys : System) : System :=
  if cfg.kCoreCount ≥ 2 then
    if ((sys.prependTask 0 .controlTask).cores 1).mode = .crunch then
      (sys.prependTask 0 .controlTask).prependTask 0 .commsTask
    else (sys.prependTask 0 .controlTask).prependTask 1 .commsTask
  else (sys.prependTask 0 .commsTask).prependTask 0 .controlTask

def createKernelTasks (cfg : Config) (deps : Dependencies) (sys : System) : System :=
  { registerKernelTasks cfg sys with
    backgroundTasks := sys.backgroundTasks ++ [.diagsTask]
    backgroundCoreId :=
      if cfg.kCoreCount ≥ 2 then lastActive (registerKernelTasks cfg sys) cfg.kCoreCount else 0
    watchdogKickFn := deps.watchdogKick
    emplaced := some deps }

/-- Every task of a core is a scheduled task. The kernel tasks check the pointers
they were emplaced with. -/
def taskInfo (cfg : Config) (user : UserTasks) (deps : Dependencies) : TaskPtr → ScheduledTask
  | .controlTask => ⟨cfg.controlBudgetUs.toUInt64, 0, deps.app⟩
  | .commsTask => ⟨cfg.commsBudgetUs, 1, deps.stream⟩
  | .user task => user.scheduled task

def effectivePriority (task : ScheduledTask) : UInt8 :=
  if task.schedulePriority ≠ 0xFF then task.schedulePriority
  else if task.periodUs = 0 then 0xFE
  else if task.periodUs ≤ 100 then 2
  else if task.periodUs ≤ 1000 then 10
  else if task.periodUs ≤ 10000 then 20
  else if task.periodUs ≤ 100000 then 40
  else if task.periodUs ≤ 1000000 then 80
  else 0xA0

/-- The inner loop of the sort on the reversed front of the list. -/
def insertKey (pri : TaskPtr → UInt8) (key : TaskPtr) : List TaskPtr → List TaskPtr
  | [] => [key]
  | x::xs => if pri x > pri key then x::insertKey pri key xs else key::x::xs

def sortTasks (pri : TaskPtr → UInt8) (tasks : List TaskPtr) : List TaskPtr :=
  (tasks.foldl (fun front key => insertKey pri key front) []).reverse

def sortTasksByPriority (cfg : Config) (user : UserTasks) (deps : Dependencies) (sys : System) :
    System :=
  { sys with
    cores := fun c =>
      if c < cfg.kCoreCount then
        { sys.cores c with
          tasks := sortTasks (fun t => effectivePriority (taskInfo cfg user deps t))
            (sys.cores c).tasks }
      else sys.cores c }

def allTasks (cfg : Config) (sys : System) : List TaskPtr :=
  (List.range cfg.kCoreCount).flatMap (fun c => (sys.cores c).tasks)

def anyActive (cfg : Config) (sys : System) : Bool :=
  (List.range cfg.kCoreCount).any (fun c => (sys.cores c).isActive)

def validateSchedulingConstraints (cfg : Config) (user : UserTasks) (deps : Dependencies)
    (sys : System) : Option String :=
  if (allTasks cfg sys).any (fun t =>
      (taskInfo cfg user deps t).periodUs > 0 &&
        (taskInfo cfg user deps t).periodUs < cfg.minSchedulePeriodUs) then
    some "Scheduled task period below minimum"
  else if ¬ (allTasks cfg sys).Nodup then some "Duplicate task registration detected"
  else none

def crunchConstraint (cfg : Config) (user : UserTasks) (sys : System) (c : ℕ) : Option String :=
  if (sys.cores c).mode ≠ .crunch then none
  else if c = 0 then some "ICrunchTask cannot be registered on Core 0"
  else
    match (sys.cores c).crunchTask with
    | none => some "CRUNCH core has no ICrunchTask"
    | some task =>
      if (sys.cores c).tasks.length > 0 then some "CRUNCH core cannot have other tasks"
      else if cfg.kCoreCount < 2 then some "CRUNCH mode requires kCoreCount >= 2"
      else if user.crunchPeriodUs task > 0 ∧ user.crunchPeriodUs task < cfg.minSchedulePeriodUs then
        some "Crunch task period below minimum"
      else none

def validateCrunchConstraints (cfg : Config) (user : UserTasks) (sys : System) : Option String :=
  (List.range cfg.kCoreCount).findSome? (crunchConstraint cfg user sys)

def validateTaskDependencies (cfg : Config) (user : UserTasks) (deps : Dependencies)
    (sys : System) : Option String :=
  if (allTasks cfg sys).any (fun t => !(taskInfo cfg user deps t).validateDependencies) then
    some "Task dependency validation failed"
  else none

/-- The checks of a build in their order, with the error of the first that fails. -/
def validate (cfg : Config) (user : UserTasks) (deps : Dependencies) (sys : System) :
    Option String :=
  if !anyActive cfg sys then some "No tasks registered on any core"
  else
    (validateSchedulingConstraints cfg user deps sys).or <|
      (validateCrunchConstraints cfg user sys).or (validateTaskDependencies cfg user deps sys)

/-- The system a build validates: kernel tasks in place and task lists sorted. -/
def prepared (cfg : Config) (user : UserTasks) (deps : Dependencies) (sys : System) : System :=
  sortTasksByPriority cfg user deps (if deps.app then createKernelTasks cfg deps sys else sys)

def build (cfg : Config) (user : UserTasks) (deps : Dependencies) (sys : System) :
    System × Option String :=
  if sys.built then (sys, some "SystemBuilder::build() already called")
  else
    -- without an application the tasks of an earlier build keep their dependencies
    match validate cfg user ((prepared cfg user deps sys).held deps) (prepared cfg user deps sys) with
    | some error => (prepared cfg user deps sys, some error)
    | none =>
      ({ prepared cfg user deps sys with
          built := true
          kernelState := transitionTo (prepared cfg user deps sys).kernelState .configured },
        none)

end SputterOS.Builder
