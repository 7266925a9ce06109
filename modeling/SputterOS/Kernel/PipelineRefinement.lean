import SputterOS.Kernel.CommandPipeline
import SputterOS.Kernel.DrainLoop

/-!
# The communications task among the others and alone

Between two ticks the communications task of the plant stands where the task alone
stands behind the same reads, when the queue it asks answers as the queue of the
plant did. What holds of the task alone for every queue holds of the plant.
-/

set_option autoImplicit false

namespace SputterOS.PipelineRefinement
open SputterOS.Logic SputterOS.CommandLine SputterOS.ReceivedStream SputterOS.ReadLoops
  SputterOS.ScheduledCommsTask SputterOS.CommandReplies SputterOS.ReadTimeline
  SputterOS.CommandPipeline SputterOS.DrainLoop Foundation.Transition
open Foundation.NumberText (ascii)

def recorded (history es : List Effect) : Bool :=
  match history[es.length]? with
  | some (.tryPush _ accepted) => accepted
  | _ => false

def replaying (env : Environment) (history : List Effect) : Environment :=
  { env with try_push := fun es _ => recorded history es }

section Model

variable (cfg : Cfg) (env : Environment) (w : ControlTask.Wiring)

def began (s : Plant) : Action → List Read
  | .read read =>
    match s.comms with
    | .idle _ => [read]
    | _ => []
  | _ => []

def ticked : Plant → List Action → List Read
  | _, [] => []
  | s, a::as => began s a ++ ticked (step cfg env w s a) as

def told : CommsPc → List Effect
  | .answering c cmd accepted => c.history ++ [.tryPush cmd accepted]
  | pc => pc.cli.history

def isIdle : CommsPc → Bool
  | .idle _ => true
  | _ => false

theorem idle_cli (pc : CommsPc) (h : isIdle pc = true) : pc = .idle pc.cli := by
  cases pc with
  | idle c => rfl
  | _ => cases h

/-- Where the task alone ends the tick that the plant is inside. -/
def Ends (history : List Effect) (result : Option CLI) : CommsPc → Prop
  | .idle c => result = some c
  | .draining c =>
    result = some (if c.hasCommand then drainStep cfg (replaying env history) c else c)
  | .pushing c cmd =>
    c.hasCommand = false ∧ result = some (answer cfg (replaying env history) c cmd)
  | .answering c cmd _ =>
    c.hasCommand = false ∧ result = some (answer cfg (replaying env history) c cmd)

structure Follows (fuel : ℕ) (atInit : Read) (reads : List Read) (s : Plant) : Prop where
  ready : Ready s.comms.cli
  ends : ∀ history, told s.comms <+: history →
    Ends cfg env history
      (ScheduledCommsTask.run cfg (replaying env history) (fuel+1) atInit reads) s.comms

end Model

section Effects

theorem recorded_next (es history : List Effect) (cmd : Command) (accepted : Bool)
    (h : es ++ [.tryPush cmd accepted] <+: history) : recorded history es = accepted := by
  obtain ⟨rest, rfl⟩ := h
  simp [recorded]

variable (cfg : Cfg) (env : Environment)

theorem answer_recorded (history : List Effect) (c : CLI) (cmd : Command) (accepted : Bool)
    (h : c.history ++ [.tryPush cmd accepted] <+: history) :
    answer cfg (replaying env history) c cmd = answer cfg (answered env accepted) c cmd := by
  have hpush : tryPush (replaying env history) c cmd = tryPush (answered env accepted) c cmd := by
    simp only [tryPush, replaying, answered, recorded_next c.history history cmd accepted h]
  unfold answer
  rw [hpush]

theorem answer_extends (c : CLI) (cmd : Command) (accepted : Bool) :
    c.history ++ [.tryPush cmd accepted] <+: (answer cfg (answered env accepted) c cmd).history := by
  obtain ⟨builder, heq⟩ := answer_eq cfg (answered env accepted) c cmd
  rw [heq]
  exact ⟨[.write .tick (reply cfg (taken c cmd) accepted)], by simp [answered]⟩

theorem answer_hasCommand (env' : Environment) (c : CLI) (cmd : Command) :
    (answer cfg env' c cmd).hasCommand = c.hasCommand := by
  obtain ⟨builder, heq⟩ := answer_eq cfg env' c cmd
  rw [heq]
  rfl

theorem answer_ready (env' : Environment) (c : CLI) (cmd : Command) (h : Ready c) :
    Ready (answer cfg env' c cmd) := by
  obtain ⟨builder, heq⟩ := answer_eq cfg env' c cmd
  rw [heq]
  exact ⟨h.router, h.sync⟩

theorem release_hasCommand (c : CLI) : (release c).hasCommand = false := by
  have hidle : waiting (release c) = none := release_idle c (release c).builder (release c).history
  simpa [waiting] using hidle

theorem after_extends (s : Loop) (bs : List UInt8) (h : Ready s.cli) :
    s.cli.history <+: (s.after cfg kMaxPayload (protocolHandler env) bs).cli.history := by
  induction bs generalizing s with
  | nil => exact List.prefix_refl _
  | cons b bs ih =>
    have hmove := step_move cfg env s b h.router
    obtain ⟨es, hhist, -⟩ := hmove.effects
    have hfirst : s.cli.history <+: (s.step cfg kMaxPayload (protocolHandler env) b).cli.history :=
      ⟨es, hhist.symm⟩
    exact hfirst.trans (ih _ (hmove.ready _ _ _ _ h))

theorem init_ready (atInit : Read) : Ready (init cfg env atInit) := by
  rw [init, tick_eq]
  exact after_ready cfg env (Loop.enter CLI.initial.setProtocolHandler) atInit.bytes initial_ready

end Effects

section Steps

variable (cfg : Cfg) (env : Environment) (w : ControlTask.Wiring) (fuel : ℕ) (atInit : Read)
  (reads : List Read)

theorem read_follows (s : Plant) (read : Read) (h : Follows cfg env fuel atInit reads s) :
    Follows cfg env fuel atInit (reads ++ began s (.read read)) (readStep cfg env s read) := by
  obtain ⟨comms, control, received⟩ := s
  cases comms with
  | idle c =>
    have hready : Ready c := h.ready
    have hafter := after_ready cfg env (Loop.enter c) read.bytes hready
    have hextends := after_extends cfg env (Loop.enter c) read.bytes hready
    rw [← tick_eq] at hafter hextends
    refine ⟨hafter, fun history hhistory => ?_⟩
    have hrun := h.ends history (hextends.trans hhistory)
    change _ = some c at hrun
    have hhandler : protocolHandler (replaying env history) = protocolHandler env := rfl
    have hticked : ScheduledCommsTask.run cfg (replaying env history) (fuel+1) atInit
        (reads ++ [read]) = tick cfg (replaying env history) (fuel+1) c read := by
      rw [ScheduledCommsTask.run] at hrun
      rw [ScheduledCommsTask.run, List.foldlM_append, hrun, Option.bind_eq_bind, Option.bind_some]
      simp only [List.foldlM_cons, List.foldlM_nil, bind_pure]
    change ScheduledCommsTask.run cfg (replaying env history) (fuel+1) atInit (reads ++ [read]) = _
    rw [hticked, tick, hhandler]
    exact drain_once cfg (replaying env history) fuel _ hafter.sync
  | draining c =>
    rw [began, List.append_nil]
    exact h
  | pushing c cmd =>
    rw [began, List.append_nil]
    exact h
  | answering c cmd accepted =>
    rw [began, List.append_nil]
    exact h

theorem comms_follows (s : Plant) (h : Follows cfg env fuel atInit reads s) :
    Follows cfg env fuel atInit reads (commsStep cfg env w s) := by
  obtain ⟨comms, control, received⟩ := s
  cases comms with
  | idle c => exact h
  | draining c =>
    have hready : Ready c := h.ready
    cases hw : waiting c with
    | none =>
      have hc : c.hasCommand = false := by simpa [waiting] using hw
      have hstep : commsStep cfg env w ⟨.draining c, control, received⟩ =
          ⟨.idle c, control, received⟩ := by
        simp [commsStep, hc]
      rw [hstep]
      refine ⟨hready, fun history hhistory => ?_⟩
      have hend := h.ends history hhistory
      simp only [Ends, hc, Bool.false_eq_true, if_false] at hend
      exact hend
    | some r =>
      obtain ⟨hget, -⟩ := getCommand_waiting c hready.sync r hw
      have hc : c.hasCommand = true := by
        by_contra hn
        simp [waiting, hn] at hw
      have hstep : commsStep cfg env w ⟨.draining c, control, received⟩ =
          ⟨.pushing (release c) r.command,
            ControlTask.step w control (.producer (.callPush r.command)), received⟩ := by
        simp [commsStep, hc, hget]
      rw [hstep]
      refine ⟨release_ready c (release c).builder (release c).history hready,
        fun history hhistory => ⟨release_hasCommand c, ?_⟩⟩
      have hsame : told (.pushing (release c) r.command) = c.history := release_history c
      rw [hsame] at hhistory
      have hend := h.ends history hhistory
      simp only [Ends, hc, if_true, drainStep, hget] at hend
      exact hend
  | pushing c cmd =>
    have hsame : ∀ control', Follows cfg env fuel atInit reads ⟨.pushing c cmd, control', received⟩ :=
      fun control' => ⟨h.ready, h.ends⟩
    unfold commsStep
    dsimp only
    split
    · next accepted _ =>
      refine ⟨h.ready, fun history hhistory => ?_⟩
      exact h.ends history ((List.prefix_append _ _).trans hhistory)
    · exact hsame _
  | answering c cmd accepted =>
    refine ⟨answer_ready cfg _ c cmd h.ready, fun history hhistory => ?_⟩
    have hbefore := (answer_extends cfg env c cmd accepted).trans hhistory
    obtain ⟨hc, hend⟩ := h.ends history hbefore
    rw [answer_recorded cfg env history c cmd accepted hbefore] at hend
    have hidle := (answer_hasCommand cfg (answered env accepted) c cmd).trans hc
    simp only [commsStep, Ends, hidle, Bool.false_eq_true, if_false]
    exact hend

theorem step_follows (s : Plant) (a : Action) (h : Follows cfg env fuel atInit reads s) :
    Follows cfg env fuel atInit (reads ++ began s a) (step cfg env w s a) := by
  cases a with
  | read read => exact read_follows cfg env fuel atInit reads s read h
  | comms =>
    change Follows cfg env fuel atInit (reads ++ []) _
    rw [List.append_nil]
    exact comms_follows cfg env w fuel atInit reads s h
  | _ =>
    change Follows cfg env fuel atInit (reads ++ []) _
    rw [List.append_nil]
    exact ⟨h.ready, h.ends⟩

theorem run_follows (s : Plant) (as : List Action) (h : Follows cfg env fuel atInit reads s) :
    Follows cfg env fuel atInit (reads ++ ticked cfg env w s as) (run (step cfg env w) s as) := by
  induction as generalizing s reads with
  | nil =>
    rw [ticked, List.append_nil]
    exact h
  | cons a as ih =>
    rw [ticked, ← List.append_assoc, run_cons]
    exact ih (reads ++ began s a) _ (step_follows cfg env w fuel atInit reads s a h)

theorem comms_told (s : Plant) (h : Ready s.comms.cli) :
    told s.comms <+: told (commsStep cfg env w s).comms := by
  obtain ⟨comms, control, received⟩ := s
  cases comms with
  | idle c => exact List.prefix_refl _
  | draining c =>
    unfold commsStep
    dsimp only
    split
    · next hc =>
      obtain ⟨r, hw⟩ : ∃ r, waiting c = some r := ⟨_, if_pos hc⟩
      obtain ⟨hget, -⟩ := getCommand_waiting c h.sync r hw
      rw [hget]
      exact ⟨[], (List.append_nil _).trans (release_history c).symm⟩
    · exact List.prefix_refl _
  | pushing c cmd =>
    unfold commsStep
    dsimp only
    split
    · exact List.prefix_append _ _
    · exact List.prefix_refl _
  | answering c cmd accepted => exact answer_extends cfg env c cmd accepted

theorem step_told (s : Plant) (a : Action) (h : Ready s.comms.cli) :
    told s.comms <+: told (step cfg env w s a).comms := by
  cases a with
  | read read =>
    obtain ⟨comms, control, received⟩ := s
    cases comms with
    | idle c =>
      have hextends := after_extends cfg env (Loop.enter c) read.bytes h
      rw [← tick_eq] at hextends
      exact hextends
    | draining c => exact List.prefix_refl _
    | pushing c cmd => exact List.prefix_refl _
    | answering c cmd accepted => exact List.prefix_refl _
  | comms => exact comms_told cfg env w s h
  | _ => exact List.prefix_refl _

theorem run_told (s : Plant) (as : List Action) (h : Follows cfg env fuel atInit reads s) :
    told s.comms <+: told (run (step cfg env w) s as).comms := by
  induction as generalizing s reads with
  | nil => exact List.prefix_refl _
  | cons a as ih =>
    have hnext := step_follows cfg env w fuel atInit reads s a h
    exact (step_told cfg env w s a h.ready).trans (ih (reads ++ began s a) _ hnext)

theorem start_follows : Follows cfg env fuel atInit [] (start cfg env atInit) :=
  ⟨init_ready cfg env atInit, fun _ _ => rfl⟩

end Steps

section Ticks

def accepted (offers : List (Command × Bool)) : List Command :=
  offers.filterMap fun o => if o.2 then some o.1 else none

theorem acknowledged_answers (es : List Effect) :
    (es.filter isAnswer).filterMap acknowledged = es.filterMap acknowledged := by
  rw [List.filterMap_filter]
  congr 1
  funext e
  cases e with
  | tryPush cmd accepted => rfl
  | write writer bytes => exact ite_self none

theorem acknowledged_offers (es : List Effect) :
    es.filterMap acknowledged = accepted (es.filterMap offer) := by
  rw [accepted, List.filterMap_filterMap]
  congr 1
  funext e
  cases e <;> rfl

theorem acknowledged_behind (c c' : CLI) (es : List Effect) (h : c'.history = c.history ++ es) :
    (answers c').filterMap acknowledged =
      (answers c).filterMap acknowledged ++ accepted (es.filterMap offer) := by
  rw [answers, answers, acknowledged_answers, acknowledged_answers, h, List.filterMap_append,
    acknowledged_offers es]

variable (cfg : Cfg) (env : Environment) (w : ControlTask.Wiring)

/-- The communications task is between two ticks behind a schedule. -/
def Between (atInit : Read) (as : List Action) (c : CLI) : Prop :=
  (run (step cfg env w) (start cfg env atInit) as).comms = .idle c

/-- From one pause between two ticks to a later one, the task alone makes the ticks of
the reads, with a queue that answers as the whole history says. -/
theorem between_ticks (atInit : Read) (as bs : List Action) (c c' : CLI)
    (hbefore : Between cfg env w atInit as c) (hafter : Between cfg env w atInit (as ++ bs) c') :
    ScheduledCommsTask.run cfg (replaying env c'.history) 1 atInit
        (ticked cfg env w (start cfg env atInit) as) = some c ∧
      (ticked cfg env w (run (step cfg env w) (start cfg env atInit) as) bs).foldlM
        (tick cfg (replaying env c'.history) 1) c = some c' := by
  unfold Between at hbefore hafter
  have hstart := start_follows cfg env 0 atInit
  have hfirst := run_follows cfg env w 0 atInit [] _ as hstart
  have hsecond := run_follows cfg env w 0 atInit _ _ bs hfirst
  have hgrows := run_told cfg env w 0 atInit _ _ bs hfirst
  rw [← run_append] at hsecond hgrows
  rw [hafter] at hgrows
  have hrun := hfirst.ends c'.history hgrows
  have hrun' := hsecond.ends c'.history (by rw [hafter]; exact List.prefix_refl _)
  rw [hbefore, List.nil_append] at hrun
  rw [hafter, List.nil_append] at hrun'
  change ScheduledCommsTask.run cfg (replaying env c'.history) 1 atInit _ = some c at hrun
  change ScheduledCommsTask.run cfg (replaying env c'.history) 1 atInit _ = some c' at hrun'
  refine ⟨hrun, ?_⟩
  rw [ScheduledCommsTask.run] at hrun hrun'
  rw [List.foldlM_append, hrun, Option.bind_eq_bind, Option.bind_some] at hrun'
  exact hrun'

/-- Behind enough rounds of the control task the application has handled what was
acknowledged before and between the two pauses. -/
theorem between_handled (hvalid : w.validateDependencies = true) (atInit : Read)
    (as : List Action) (c c' : CLI) (es : List Effect) (hafter : Between cfg env w atInit as c')
    (hhist : c'.history = c.history ++ es) (rounds : List (List Action))
    (hrounds : ∀ r ∈ rounds, Round w r) (hroom : w.queueCapacity < (rounds.length-1)*w.limit) :
    (answers c).filterMap acknowledged ++ accepted (es.filterMap offer) <+:
      (run (step cfg env w) (start cfg env atInit) (as ++ rounds.flatten)).control.handled := by
  unfold Between at hafter
  have hhandled := rounds_acknowledged cfg env w hvalid _ (run_inv cfg env w hvalid atInit as)
    rounds hrounds hroom
  rw [← run_append, hafter] at hhandled
  change (answers c').filterMap acknowledged <+: _ at hhandled
  rw [acknowledged_behind c c' es hhist] at hhandled
  exact hhandled

end Ticks

/-- Whatever the interleaving, behind a tick the communications task of the plant
stands where the task alone stands behind the same reads, with a queue that answers
as the history says. -/
theorem plant_refines (cfg : Cfg) (env : Environment) (w : ControlTask.Wiring) (fuel : ℕ)
    (atInit : Read) (as : List Action) (c : CLI)
    (hidle : (run (step cfg env w) (start cfg env atInit) as).comms = .idle c) :
    ScheduledCommsTask.run cfg (replaying env c.history) (fuel+1) atInit
      (ticked cfg env w (start cfg env atInit) as) = some c := by
  have hfollows := run_follows cfg env w fuel atInit [] _ as (start_follows cfg env fuel atInit)
  have hend := hfollows.ends c.history
  rw [hidle] at hend
  exact hend (List.prefix_refl _)

def ticks (reads : List Read) : List Action :=
  reads.flatMap fun read => .read read :: List.replicate 7 .comms

theorem reads_injective : Function.Injective (List.map Read.bytes) := by
  apply List.map_injective_iff.mpr
  rintro ⟨bytes, _⟩ ⟨bytes', _⟩ rfl
  rfl

def takenCommand : List Action := ticks [⟨ascii "4 1 7\n", by decide⟩]

theorem takenCommand_idle :
    isIdle (run (step plainCfg noSnapshot ControlTask.dualMonitor)
      (start plainCfg noSnapshot ⟨[], by decide⟩) takenCommand).comms = true := by decide +kernel

theorem plant_refines_taken :
    ∃ c, ScheduledCommsTask.run plainCfg (replaying noSnapshot c.history) 1 ⟨[], by decide⟩
        [⟨ascii "4 1 7\n", by decide⟩] = some c ∧ answers c ≠ [] :=
  ⟨_, plant_refines plainCfg noSnapshot ControlTask.dualMonitor 0 ⟨[], by decide⟩ takenCommand _
    (idle_cli _ takenCommand_idle), by decide +kernel⟩

end SputterOS.PipelineRefinement
