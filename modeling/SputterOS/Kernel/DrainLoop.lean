import SputterOS.Kernel.ReadTimeline

/-!
# The end of the drain loop

In TEXT mode the loop of a tick asks the flag of the command line for a command
and takes it from the parser, whose own flag decides. The two flags agree in
every state, whatever the bytes, the modes and the answers of the queue, so the
loop takes what it was promised and ends.
-/

set_option autoImplicit false

namespace SputterOS.DrainLoop
open SputterOS.CommandLine SputterOS.Logic SputterOS.ReadLoops SputterOS.ScheduledCommsTask
  SputterOS.CommandReplies SputterOS.ReadTimeline
open Foundation.NumberText (ascii)

/-- The states of the command line of a communications task: behind any bytes of
a read, in the loop of a tick, and when the application changes the mode. The
queue and the snapshots answer anew in every step. -/
inductive Reachable (cfg : Cfg) : CLI → Prop
  | initial : Reachable cfg CLI.initial.setProtocolHandler
  | bytes (env : Environment) (c : CLI) (bs : List UInt8) (h : Reachable cfg c) :
    Reachable cfg ((Loop.enter c).after cfg kMaxPayload (protocolHandler env) bs).cli
  | getCommand (c : CLI) (h : Reachable cfg c) : Reachable cfg c.getCommand.2
  | answer (env : Environment) (c : CLI) (cmd : Command) (h : Reachable cfg c) :
    Reachable cfg (answer cfg env c cmd)
  | enterFramedMode (c : CLI) (h : Reachable cfg c) : Reachable cfg c.enterFramedMode
  | exitFramedMode (c : CLI) (h : Reachable cfg c) : Reachable cfg c.exitFramedMode

theorem getCommand_ready (c : CLI) (h : Ready c) : Ready c.getCommand.2 := by
  cases hw : waiting c with
  | some w =>
    rw [(getCommand_waiting c h.sync w hw).1]
    exact release_ready c (release c).builder (release c).history h
  | none =>
    have hc : c.hasCommand = false := by simpa [waiting] using hw
    have hsame : c.getCommand.2 = c := by
      unfold CLI.getCommand
      unfold CLI.hasCommand at hc
      split
      · next hm => simp [hm] at hc; simp [hc]
      · next hm => simp [hm] at hc; simp [hc]
    rw [hsame]
    exact h

theorem reachable_ready (cfg : Cfg) (c : CLI) (h : Reachable cfg c) : Ready c := by
  induction h with
  | initial => exact initial_ready
  | bytes env c bs _ ih => exact after_ready cfg env (Loop.enter c) bs ih
  | getCommand c _ ih => exact getCommand_ready c ih
  | answer env c cmd _ ih =>
    obtain ⟨builder, heq⟩ := answer_eq cfg env c cmd
    rw [heq]
    exact ⟨ih.router, ih.sync⟩
  | enterFramedMode c _ ih => exact ⟨ih.router, ih.sync⟩
  | exitFramedMode c _ ih => exact ⟨ih.router, rfl⟩

section Loop

variable (cfg : Cfg) (env : Environment)

theorem drainStep_hasCommand (c : CLI) (hsync : c.hasPending = c.parser.hasPending)
    (hc : c.hasCommand = true) : (drainStep cfg env c).hasCommand = false := by
  obtain ⟨w, hw⟩ : ∃ w, waiting c = some w := ⟨_, if_pos hc⟩
  obtain ⟨accepted, builder, hdrain⟩ := drain_waiting cfg env 0 c hsync w hw
  rw [drain, if_pos hc] at hdrain
  by_contra hmore
  rw [drain, if_pos (by simpa using hmore)] at hdrain
  cases hdrain

/-- The loop runs its body once for a command and not at all without one. -/
theorem drain_once (fuel : ℕ) (c : CLI) (hsync : c.hasPending = c.parser.hasPending) :
    drain cfg env (fuel+1) c = some (if c.hasCommand then drainStep cfg env c else c) := by
  rw [drain]
  by_cases hc : c.hasCommand = true
  · have hidle := drainStep_hasCommand cfg env c hsync hc
    rw [if_pos hc, if_pos hc]
    exact drain_idle cfg env fuel _ (by simp [waiting, hidle])
  · rw [if_neg hc, if_neg hc]

end Loop

/-- In every reachable state the flags agree, and every tick from there ends after
at most one turn of its loop, without a command. -/
theorem drain_ends (cfg : Cfg) (c : CLI) (h : Reachable cfg c) :
    c.hasPending = c.parser.hasPending ∧
    ∀ (env : Environment) (read : Read) (fuel : ℕ),
      let received := c.tick cfg kMaxPayload (protocolHandler env) read
      ∃ drained, drained = (if received.hasCommand then drainStep cfg env received else received) ∧
        tick cfg env (fuel+1) c read = some drained ∧ drained.hasCommand = false := by
  refine ⟨(reachable_ready cfg c h).sync, fun env read fuel => ?_⟩
  have hsync : (c.tick cfg kMaxPayload (protocolHandler env) read).hasPending =
      (c.tick cfg kMaxPayload (protocolHandler env) read).parser.hasPending := by
    rw [tick_eq]
    exact (reachable_ready cfg _ (.bytes env c read.bytes h)).sync
  refine ⟨_, rfl, drain_once cfg env fuel _ hsync, ?_⟩
  by_cases hc : (c.tick cfg kMaxPayload (protocolHandler env) read).hasCommand = true
  · rw [if_pos hc]
    exact drainStep_hasCommand cfg env _ hsync hc
  · rw [if_neg hc]
    simpa using hc

/-- A line that the tick reads in the initial state. -/
theorem drain_ends_line :
    ∃ drained, tick ⟨64, 255, 32, fun _ => 0x7FC00000, fun _ => []⟩ ⟨fun _ _ => true, none⟩ 1
      CLI.initial.setProtocolHandler ⟨ascii "1 0 50\n", by decide⟩ = some drained ∧
      drained.hasCommand = false := by
  obtain ⟨drained, -, htick, hno⟩ := (drain_ends ⟨64, 255, 32, fun _ => 0x7FC00000, fun _ => []⟩
    CLI.initial.setProtocolHandler .initial).2 ⟨fun _ _ => true, none⟩
    ⟨ascii "1 0 50\n", by decide⟩ 0
  exact ⟨drained, htick, hno⟩

end SputterOS.DrainLoop
