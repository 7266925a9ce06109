import SputterOS.Kernel.ReadTimeline
import SputterOS.Kernel.CommandLatency

/-!
# From the stream to the application

The communications task, the queue and the control task as one system. Every
atomic step of a push and of a pop, every reply and every step of the control
task is a step of its own, and the two tasks interleave in any order. A command
is in a slot of the command line, on its way into the queue, in the queue, in
the hand of the control task or handled.
-/

set_option autoImplicit false

namespace SputterOS.CommandPipeline
open SputterOS.LockFreeQueue SputterOS.Logic SputterOS.CommandLine SputterOS.ReceivedStream
  SputterOS.ReadLoops SputterOS.ScheduledCommsTask SputterOS.CommandReplies SputterOS.ReadTimeline
  Foundation.Transition Foundation.BoundedFifo Foundation.Linearizability Foundation.NumberText

inductive CommsPc where
  | idle (c : CLI)
  | draining (c : CLI)
  | pushing (c : CLI) (cmd : Command)
  | answering (c : CLI) (cmd : Command) (accepted : Bool)

def CommsPc.cli : CommsPc → CLI
  | .idle c => c
  | .draining c => c
  | .pushing c _ => c
  | .answering c _ _ => c

structure Plant where
  comms : CommsPc
  control : ControlTask.ControlState Command
  received : List Received

/-- The steps of the two tasks. A tick of the communications task begins with
its read. -/
inductive Action where
  | read (read : Read)
  | comms
  | tick
  | control (safeVerdict : Bool)
  | signalSafetyAbort
  | clearSafetyAbort

section Model

variable (cfg : Cfg) (env : Environment) (w : ControlTask.Wiring)

def readCommands (c : CLI) (read : Read) : List Received :=
  commands (((Loop.enter c).steps cfg kMaxPayload (protocolHandler env) read.bytes).map
    Step.completed)

def answered (accepted : Bool) : Environment := { env with try_push := fun _ _ => accepted }

def commsStep (s : Plant) : Plant :=
  match s.comms with
  | .idle _ => s
  | .draining c =>
    if c.hasCommand then
      match c.getCommand with
      | (some cmd, c) =>
        { s with
          comms := .pushing c cmd
          control := ControlTask.step w s.control (.producer (.callPush cmd)) }
      | (none, c) => { s with comms := .draining c }
    else { s with comms := .idle c }
  | .pushing c cmd =>
    let control := ControlTask.step w s.control (.producer .producerStep)
    match (produce w.queueCapacity s.control.queue.producer s.control.queue.memory).2.2 with
    | some (.result (.pushed accepted)) =>
      { s with comms := .answering c cmd accepted, control := control }
    | _ => { s with control := control }
  | .answering c cmd accepted =>
    { s with comms := .draining (answer cfg (answered env accepted) c cmd) }

def readStep (s : Plant) (read : Read) : Plant :=
  match s.comms with
  | .idle c =>
    { s with
      comms := .draining (c.tick cfg kMaxPayload (protocolHandler env) read)
      received := s.received ++ readCommands cfg env c read }
  | _ => s

def step (s : Plant) : Action → Plant
  | .read read => readStep cfg env s read
  | .comms => commsStep cfg env w s
  | .tick => { s with control := ControlTask.step w s.control .tick }
  | .control safeVerdict =>
    { s with control := ControlTask.step w s.control (.control safeVerdict) }
  | .signalSafetyAbort => { s with control := ControlTask.step w s.control .signalSafetyAbort }
  | .clearSafetyAbort => { s with control := ControlTask.step w s.control .clearSafetyAbort }

def start (atInit : Read) : Plant :=
  { comms := .idle (init cfg env atInit)
    control := ControlTask.initial
    received := readCommands cfg env CLI.initial.setProtocolHandler atInit }

end Model

section Queue

variable {α : Type*} (Capacity : ℕ)

theorem produce_push (m : Memory α) (pc : Producer α) (cmd : α)
    (hp : producerCall pc = some (.push cmd)) :
    ((produce Capacity pc m).2.2 = none ∧
        producerCall (produce Capacity pc m).2.1 = some (.push cmd)) ∨
      ∃ ok, (produce Capacity pc m).2.2 = some (.result (.pushed ok)) ∧
        (produce Capacity pc m).2.1 = .idle := by
  cases pc with
  | pushLoadHead x => exact Or.inl ⟨rfl, hp⟩
  | pushLoadTail x head =>
    simp only [produce]
    split_ifs
    · exact Or.inr ⟨false, rfl, rfl⟩
    · exact Or.inl ⟨rfl, hp⟩
  | pushWrite x head => exact Or.inl ⟨rfl, hp⟩
  | pushStore x head => exact Or.inr ⟨true, rfl, rfl⟩
  | _ => simp [producerCall] at hp

def pushedItem (cmd : α) : Option (Return α) → List α
  | some (.result (.pushed true)) => [cmd]
  | _ => []

theorem producerStep_accepted (s : LockFreeQueue.State α) (cmd : α)
    (hs : LockFreeQueue.Inv Capacity s) (hp : producerCall s.producer = some (.push cmd)) :
    (LockFreeQueue.step Capacity s .producerStep).accepted =
      s.accepted ++ pushedItem cmd (produce Capacity s.producer s.memory).2.2 := by
  obtain ⟨items, taken, h⟩ := hs
  have hrun := h.pushing
  obtain ⟨m, producer, consumer, written, history, sizes⟩ := s
  rw [hp] at hrun
  cases producer with
  | pushLoadTail x head =>
    simp only [LockFreeQueue.step, producerStep, produce]
    split_ifs
    · simp [State.respond, State.accepted, outcomes_respond history _ _ _ hrun, acceptedItem,
        pushedItem]
    · simp [State.respond, State.accepted, pushedItem]
  | pushStore x head =>
    simp [LockFreeQueue.step, producerStep, produce, State.respond, State.accepted,
      outcomes_respond history _ _ _ hrun, acceptedItem, pushedItem]
  | _ => simp [LockFreeQueue.step, producerStep, produce, State.respond, State.accepted, pushedItem]

theorem producerStep_producer (s : LockFreeQueue.State α) :
    (LockFreeQueue.step Capacity s .producerStep).producer =
      (produce Capacity s.producer s.memory).2.1 := by
  simp only [LockFreeQueue.step, producerStep]
  rcases (produce Capacity s.producer s.memory).2.2 with _ | r | n <;> rfl

theorem callPush_idle (s : LockFreeQueue.State α) (cmd : α) (hp : s.producer = .idle) :
    (LockFreeQueue.step Capacity s (.callPush cmd)).producer = .pushLoadHead cmd ∧
      (LockFreeQueue.step Capacity s (.callPush cmd)).accepted = s.accepted := by
  simp [LockFreeQueue.step, hp, State.accepted]

def Unpushed (s s' : LockFreeQueue.State α) : Prop :=
  s'.producer = s.producer ∧ s'.accepted = s.accepted

theorem callPop_unpushed (s : LockFreeQueue.State α) :
    Unpushed s (LockFreeQueue.step Capacity s .callPop) := by
  obtain ⟨m, producer, consumer, written, history, sizes⟩ := s
  cases consumer <;> simp [Unpushed, LockFreeQueue.step, State.accepted]

theorem consumerStep_unpushed (s : LockFreeQueue.State α) (hs : LockFreeQueue.Inv Capacity s) :
    Unpushed s (LockFreeQueue.step Capacity s .consumerStep) := by
  obtain ⟨items, taken, h⟩ := hs
  have hpop := h.popping
  obtain ⟨m, producer, consumer, written, history, sizes⟩ := s
  cases consumer with
  | popLoadHead tail =>
    simp only [LockFreeQueue.step, consumerStep, consume]
    split_ifs
    · simp [Unpushed, State.respond, State.accepted, outcomes_respond history _ _ _ hpop,
        acceptedItem]
    · simp [Unpushed, State.respond, State.accepted]
  | popStore tail cmd =>
    simp [Unpushed, LockFreeQueue.step, consumerStep, consume, State.respond, State.accepted,
      outcomes_respond history _ _ _ hpop, acceptedItem]
  | _ => simp [Unpushed, LockFreeQueue.step, consumerStep, consume, State.respond, State.accepted]

theorem control_unpushed (w : ControlTask.Wiring) (v : Bool) (s : ControlTask.ControlState α)
    (h : ControlTask.ControlInv w s) :
    Unpushed s.queue (ControlTask.step w s (.control v)).queue := by
  have hstay : Unpushed s.queue s.queue := ⟨rfl, rfl⟩
  have hqueue := consumerStep_unpushed w.queueCapacity s.queue h.queue
  have hcall := callPop_unpushed w.queueCapacity s.queue
  obtain ⟨queue, safetyAbort, pc, current, ticks⟩ := s
  simp only [ControlTask.step, ControlTask.controlStep]
  cases pc with
  | tryPop processed =>
    dsimp only
    split
    · exact hqueue
    · exact hqueue
    · exact hqueue
  | drain processed =>
    dsimp only
    split_ifs
    · exact hcall
    · exact hstay
  | _ =>
    dsimp only
    try split_ifs
    all_goals exact hstay

end Queue

section Slots

def slots (c : CLI) : List Received :=
  (if c.parser.hasPending then [⟨none, c.parser.pending⟩] else []) ++
    (if c.hasFramedCommand then [⟨some c.framedSeqNum, c.framedCommand⟩] else [])

theorem move_slots (c : CLI) (m : CommsMode) (e : Option Reception) (s : Loop)
    (hmove : Move c m e s) (x : Received) :
    (slots s.cli).count x ≤ (slots c).count x+(commands [e]).count x := by
  cases hmove with
  | handshake bytes => exact Nat.le_add_right _ _
  | line active probe text => exact Nat.le_add_right _ _
  | frame decoder es hes => exact Nat.le_add_right _ _
  | lineCommand active probe cmd =>
    simp only [slots, commands, if_true, List.filterMap_cons, List.filterMap_nil, Option.bind_some,
      Reception.received, List.count_append]
    omega
  | frameCommand decoder seqNum cmd =>
    simp only [slots, commands, if_true, List.filterMap_cons, List.filterMap_nil, Option.bind_some,
      Reception.received, List.count_append]
    omega
  | exit decoder bytes => simp [slots, CLI.exitFramedMode, CommandParser.reset]

theorem move_answers (c : CLI) (m : CommsMode) (e : Option Reception) (s : Loop)
    (hmove : Move c m e s) : answers s.cli = answers c := by
  obtain ⟨es, hhist, hes⟩ := hmove.effects
  have hquiet : es.filter isAnswer = [] := by
    rw [List.filter_eq_nil_iff]
    rcases hes with ⟨-, -, bytes, rfl⟩ | ⟨-, -, bytes, rfl⟩ | ⟨-, -, hcall, -⟩
    · simp [isAnswer]
    · simp [isAnswer]
    · intro x hx
      obtain ⟨writer, bytes, rfl, htick, -⟩ := hcall x hx
      simp [isAnswer, htick]
  rw [answers, answers, hhist, List.filter_append, hquiet, List.append_nil]

variable (cfg : Cfg) (env : Environment)

theorem after_slots (s : Loop) (bs : List UInt8) (h : Ready s.cli) :
    answers (s.after cfg kMaxPayload (protocolHandler env) bs).cli = answers s.cli ∧
      ∀ x, (slots (s.after cfg kMaxPayload (protocolHandler env) bs).cli).count x ≤
        (slots s.cli).count x+(commands ((s.steps cfg kMaxPayload (protocolHandler env) bs).map
          Step.completed)).count x := by
  induction bs generalizing s with
  | nil => exact ⟨rfl, fun x => Nat.le_add_right _ _⟩
  | cons b bs ih =>
    have hmove := step_move cfg env s b h.router
    obtain ⟨hans, hcount⟩ := ih _ (hmove.ready _ _ _ _ h)
    constructor
    · exact hans.trans (move_answers _ _ _ _ hmove)
    · intro x
      have hhead := move_slots _ _ _ _ hmove x
      have htail := hcount x
      have hsplit : commands ((s.steps cfg kMaxPayload (protocolHandler env) (b::bs)).map
          Step.completed) = commands [s.completed cfg kMaxPayload b] ++
            commands (((s.step cfg kMaxPayload (protocolHandler env) b).steps cfg kMaxPayload
              (protocolHandler env) bs).map Step.completed) := by
        rw [← commands_append]
        rfl
      rw [hsplit, List.count_append]
      exact htail.trans (by omega)

theorem release_slots (c : CLI) (hsync : c.hasPending = c.parser.hasPending) (r : Received)
    (h : waiting c = some r) (x : Received) :
    (slots c).count x = [r].count x+(slots (release c)).count x := by
  have hc : c.hasCommand = true := by
    by_contra hn
    simp [waiting, hn] at h
  have hr : taken c (if c.mode = .text then c.parser.pending else c.framedCommand) = r := by
    simpa [waiting, hc] using h
  by_cases hm : c.mode = .text
  · have hp : c.parser.hasPending = true := by simpa [CLI.hasCommand, hm, hsync] using hc
    have hslot : r = ⟨none, c.parser.pending⟩ := by simp [← hr, hm, taken]
    simp only [slots, release, hm, hp, hslot, if_true, Bool.false_eq_true, if_false,
      List.nil_append, List.count_append]
  · have hf : c.mode = .framed := by
      cases hmode : c.mode with
      | text => exact absurd hmode hm
      | framed => rfl
    have hp : c.hasFramedCommand = true := by simpa [CLI.hasCommand, hf] using hc
    have hslot : r = ⟨some c.framedSeqNum, c.framedCommand⟩ := by simp [← hr, hf, taken]
    simp [slots, release, hf, hp, hslot, List.count_append, Nat.add_comm]

end Slots

section Run

variable (cfg : Cfg) (env : Environment) (w : ControlTask.Wiring)

/-- The command the queue has taken and its reply does not tell yet. -/
def unanswered : CommsPc → List Command
  | .answering _ cmd true => [cmd]
  | _ => []

def inTransit : CommsPc → List Received
  | .pushing c cmd => [taken c cmd]
  | .answering c cmd _ => [taken c cmd]
  | _ => []

def acknowledged : Effect → Option Command
  | .tryPush cmd accepted => if accepted then some cmd else none
  | .write _ _ => none

def ProducerAt (producer : Producer Command) : CommsPc → Prop
  | .pushing _ cmd => producerCall producer = some (.push cmd)
  | _ => producer = .idle

structure PlantInv (s : Plant) : Prop where
  control : ControlTask.ControlInv w s.control
  producer : ProducerAt s.control.queue.producer s.comms
  ready : Ready s.comms.cli
  accepted : s.control.queue.accepted =
    (answers s.comms.cli).filterMap acknowledged ++ unanswered s.comms
  answered : ∃ rs, Answered cfg rs (answers s.comms.cli) ∧ ∀ x,
    rs.count x+(inTransit s.comms).count x+(slots s.comms.cli).count x ≤ s.received.count x

theorem answered_snoc (rs : List Received) (es : List Effect) (r : Received) (accepted : Bool)
    (h : Answered cfg rs es) :
    Answered cfg (rs ++ [r])
      (es ++ [.tryPush r.command accepted, .write .tick (reply cfg r accepted)]) :=
  h.append cfg rs [r] es _ (Answered.cons r accepted [] [] Answered.nil)

theorem control_keeps (hvalid : w.validateDependencies = true) (s : Plant)
    (a : ControlTask.Action Command)
    (hun : Unpushed s.control.queue (ControlTask.step w s.control a).queue)
    (h : PlantInv cfg w s) :
    PlantInv cfg w { s with control := ControlTask.step w s.control a } := by
  obtain ⟨hprod, hacc⟩ := hun
  refine ⟨ControlTask.step_inv w hvalid s.control a h.control, ?_, h.ready, ?_, h.answered⟩
  · rw [hprod]
    exact h.producer
  · exact hacc.trans h.accepted

theorem readStep_keeps (s : Plant) (read : Read) (h : PlantInv cfg w s) :
    PlantInv cfg w (readStep cfg env s read) := by
  obtain ⟨comms, control, received⟩ := s
  cases comms with
  | idle c =>
    obtain ⟨rs, hans, hcount⟩ := h.answered
    have hready : Ready c := h.ready
    obtain ⟨hquiet, hslots⟩ := after_slots cfg env (Loop.enter c) read.bytes hready
    have hafter := after_ready cfg env (Loop.enter c) read.bytes hready
    have hstep : readStep cfg env ⟨.idle c, control, received⟩ read =
        ⟨.draining (c.tick cfg kMaxPayload (protocolHandler env) read), control,
          received ++ readCommands cfg env c read⟩ := rfl
    rw [← tick_eq] at hquiet hslots hafter
    rw [hstep]
    generalize c.tick cfg kMaxPayload (protocolHandler env) read = c' at hquiet hslots hafter ⊢
    have hsame : answers c' = answers c := hquiet
    refine ⟨h.control, h.producer, hafter, ?_, rs, ?_, ?_⟩
    · have hacc := h.accepted
      simp only [CommsPc.cli, unanswered] at hacc ⊢
      rw [hsame]
      exact hacc
    · simp only [CommsPc.cli]
      rw [hsame]
      exact hans
    · intro x
      have hx := hcount x
      have hs : (slots c').count x ≤ (slots c).count x+(readCommands cfg env c read).count x :=
        hslots x
      simp only [CommsPc.cli, inTransit, List.count_append] at hx ⊢
      omega
  | draining c => exact h
  | pushing c cmd => exact h
  | answering c cmd accepted => exact h

theorem drain_keeps (hvalid : w.validateDependencies = true) (c : CLI)
    (control : ControlTask.ControlState Command) (received : List Received)
    (h : PlantInv cfg w ⟨.draining c, control, received⟩) :
    PlantInv cfg w (commsStep cfg env w ⟨.draining c, control, received⟩) := by
  have hready : Ready c := h.ready
  cases hw : waiting c with
  | none =>
    have hc : c.hasCommand = false := by simpa [waiting] using hw
    have hstep : commsStep cfg env w ⟨.draining c, control, received⟩ =
        ⟨.idle c, control, received⟩ := by
      simp [commsStep, hc]
    rw [hstep]
    exact ⟨h.control, h.producer, h.ready, h.accepted, h.answered⟩
  | some r =>
    obtain ⟨rs, hans, hcount⟩ := h.answered
    obtain ⟨hget, htaken⟩ := getCommand_waiting c hready.sync r hw
    have hslots := release_slots c hready.sync r hw
    have hc : c.hasCommand = true := by
      by_contra hn
      simp [waiting, hn] at hw
    have hstep : commsStep cfg env w ⟨.draining c, control, received⟩ =
        ⟨.pushing (release c) r.command,
          ControlTask.step w control (.producer (.callPush r.command)), received⟩ := by
      simp [commsStep, hc, hget]
    have hinv := ControlTask.step_inv w hvalid control (.producer (.callPush r.command)) h.control
    obtain ⟨hpush, hacc⟩ := callPush_idle w.queueCapacity control.queue r.command h.producer
    have hrelease : Ready (release c) :=
      release_ready c (release c).builder (release c).history hready
    have hsame : answers (release c) = answers c := by rw [answers, answers, release_history]
    rw [hstep]
    refine ⟨hinv, ?_, hrelease, ?_, rs, ?_, ?_⟩
    · simp only [ProducerAt, ControlTask.step, ControlTask.producerStep]
      rw [hpush]
      rfl
    · have hbefore := h.accepted
      simp only [CommsPc.cli, unanswered] at hbefore ⊢
      rw [hsame]
      exact hacc.trans hbefore
    · simp only [CommsPc.cli]
      rw [hsame]
      exact hans
    · intro x
      have hx := hcount x
      have hs := hslots x
      simp only [CommsPc.cli, inTransit, release_taken, htaken, List.count_nil] at hx ⊢
      omega

theorem push_keeps (hvalid : w.validateDependencies = true) (c : CLI) (cmd : Command)
    (control : ControlTask.ControlState Command) (received : List Received)
    (h : PlantInv cfg w ⟨.pushing c cmd, control, received⟩) :
    PlantInv cfg w (commsStep cfg env w ⟨.pushing c cmd, control, received⟩) := by
  have hprod : producerCall control.queue.producer = some (.push cmd) := h.producer
  have hinv := ControlTask.step_inv w hvalid control (.producer .producerStep) h.control
  have hacc := producerStep_accepted w.queueCapacity control.queue cmd h.control.queue hprod
  have hnext := producerStep_producer w.queueCapacity control.queue
  have hbefore := h.accepted
  rcases produce_push w.queueCapacity control.queue.memory control.queue.producer cmd hprod with
    ⟨hret, hstill⟩ | ⟨ok, hret, hidle⟩
  · have hstep : commsStep cfg env w ⟨.pushing c cmd, control, received⟩ =
        ⟨.pushing c cmd, ControlTask.step w control (.producer .producerStep), received⟩ := by
      simp [commsStep, hret]
    rw [hret] at hacc
    rw [hstep]
    refine ⟨hinv, ?_, h.ready, (hacc.trans (List.append_nil _)).trans hbefore, h.answered⟩
    rw [← hnext] at hstill
    exact hstill
  · have hstep : commsStep cfg env w ⟨.pushing c cmd, control, received⟩ =
        ⟨.answering c cmd ok, ControlTask.step w control (.producer .producerStep),
          received⟩ := by
      simp [commsStep, hret]
    rw [hret] at hacc
    rw [hstep]
    refine ⟨hinv, hnext.trans hidle, h.ready, ?_, h.answered⟩
    simp only [CommsPc.cli, unanswered, List.append_nil] at hbefore ⊢
    cases ok with
    | true => exact hacc.trans (congrArg (· ++ [cmd]) hbefore)
    | false => exact hacc.trans (congrArg (· ++ []) hbefore)

theorem answer_keeps (c : CLI) (cmd : Command) (accepted : Bool)
    (control : ControlTask.ControlState Command) (received : List Received)
    (h : PlantInv cfg w ⟨.answering c cmd accepted, control, received⟩) :
    PlantInv cfg w (commsStep cfg env w ⟨.answering c cmd accepted, control, received⟩) := by
  obtain ⟨rs, hans, hcount⟩ := h.answered
  obtain ⟨builder, heq⟩ := answer_eq cfg (answered env accepted) c cmd
  have hready : Ready c := h.ready
  have hanswers : answers (answer cfg (answered env accepted) c cmd) = answers c ++
      [.tryPush cmd accepted, .write .tick (reply cfg (taken c cmd) accepted)] := by
    rw [heq, answers, answers, List.filter_append]
    rfl
  have hslots : slots (answer cfg (answered env accepted) c cmd) = slots c := by
    rw [heq]
    rfl
  have hafter : Ready (answer cfg (answered env accepted) c cmd) := by
    rw [heq]
    exact ⟨hready.router, hready.sync⟩
  have hstep : commsStep cfg env w ⟨.answering c cmd accepted, control, received⟩ =
      ⟨.draining (answer cfg (answered env accepted) c cmd), control, received⟩ := rfl
  rw [hstep]
  generalize answer cfg (answered env accepted) c cmd = c' at hanswers hslots hafter ⊢
  refine ⟨h.control, h.producer, hafter, ?_, rs ++ [taken c cmd], ?_, ?_⟩
  · have hbefore := h.accepted
    simp only [CommsPc.cli, unanswered, List.append_nil] at hbefore ⊢
    rw [hanswers, List.filterMap_append, hbefore]
    cases accepted <;> rfl
  · simp only [CommsPc.cli]
    rw [hanswers]
    exact answered_snoc cfg rs _ (taken c cmd) accepted hans
  · intro x
    have hx := hcount x
    simp only [CommsPc.cli, inTransit, hslots, List.count_append, List.count_nil] at hx ⊢
    omega

theorem step_keeps (hvalid : w.validateDependencies = true) (s : Plant) (a : Action)
    (h : PlantInv cfg w s) : PlantInv cfg w (step cfg env w s a) := by
  cases a with
  | read read => exact readStep_keeps cfg env w s read h
  | comms =>
    obtain ⟨comms, control, received⟩ := s
    cases comms with
    | idle c => exact h
    | draining c => exact drain_keeps cfg env w hvalid c control received h
    | pushing c cmd => exact push_keeps cfg env w hvalid c cmd control received h
    | answering c cmd accepted => exact answer_keeps cfg env w c cmd accepted control received h
  | tick =>
    apply control_keeps cfg w hvalid s .tick _ h
    obtain ⟨comms, ⟨queue, safetyAbort, pc, current, ticks⟩, received⟩ := s
    cases pc <;> exact ⟨rfl, rfl⟩
  | control v =>
    exact control_keeps cfg w hvalid s (.control v) (control_unpushed w v s.control h.control) h
  | signalSafetyAbort => exact control_keeps cfg w hvalid s .signalSafetyAbort ⟨rfl, rfl⟩ h
  | clearSafetyAbort => exact control_keeps cfg w hvalid s .clearSafetyAbort ⟨rfl, rfl⟩ h

theorem start_inv (hvalid : w.validateDependencies = true) (atInit : Read) :
    PlantInv cfg w (start cfg env atInit) := by
  obtain ⟨hquiet, hslots⟩ := after_slots cfg env (Loop.enter CLI.initial.setProtocolHandler)
    atInit.bytes initial_ready
  have hready := after_ready cfg env (Loop.enter CLI.initial.setProtocolHandler) atInit.bytes
    initial_ready
  have hcontrol := ControlTask.run_inv (α := Command) w hvalid []
  rw [← tick_eq] at hquiet hslots hready
  have hnone : answers (init cfg env atInit) = [] := hquiet
  refine ⟨hcontrol, rfl, hready, ?_, [], ?_, ?_⟩
  · have hcli : (start cfg env atInit).comms.cli = init cfg env atInit := rfl
    rw [hcli, hnone]
    rfl
  · have hcli : (start cfg env atInit).comms.cli = init cfg env atInit := rfl
    rw [hcli, hnone]
    exact Answered.nil
  · intro x
    have hempty : slots CLI.initial.setProtocolHandler = [] := rfl
    have hx := hslots x
    have henter : (Loop.enter CLI.initial.setProtocolHandler).cli =
        CLI.initial.setProtocolHandler := rfl
    rw [henter, hempty] at hx
    simpa [start, CommsPc.cli, inTransit, init, readCommands] using hx

theorem run_inv (hvalid : w.validateDependencies = true) (atInit : Read) (as : List Action) :
    PlantInv cfg w (run (step cfg env w) (start cfg env atInit) as) :=
  run_preserves _ _ (step_keeps cfg env w hvalid) _ (start_inv cfg env w hvalid atInit) as

theorem acknowledged_sublist (es : List Effect) :
    (es.filterMap acknowledged).Sublist (es.filterMap offered) := by
  induction es with
  | nil => exact List.Sublist.refl _
  | cons e es ih =>
    cases e with
    | write writer bytes => exact ih
    | tryPush cmd accepted =>
      cases accepted with
      | true => exact ih.cons_cons cmd
      | false => exact ih.cons cmd

theorem unanswered_sublist (pc : CommsPc) :
    (unanswered pc).Sublist ((inTransit pc).map Received.command) := by
  cases pc with
  | answering c cmd accepted =>
    cases accepted with
    | true => exact List.Sublist.refl _
    | false => exact List.nil_sublist _
  | _ => exact List.nil_sublist _

/-- In every interleaving of the two tasks every command offered to the queue
has one reply, which says what the queue answered; the acknowledged commands,
with the one whose reply is still to come, are those handled, then the one in
hand, then at most as many as the queue has room for; and no command is handled
more often than the stream has said it. -/
theorem commands_conserved (hvalid : w.validateDependencies = true) (atInit : Read)
    (as : List Action) :
    let s := run (step cfg env w) (start cfg env atInit) as
    (∃ rs, Answered cfg rs (answers s.comms.cli) ∧ rs.Subperm s.received) ∧
    (∃ queued, (answers s.comms.cli).filterMap acknowledged ++ unanswered s.comms =
        s.control.handled ++ ControlTask.inHand s.control.pc ++ queued ∧
      queued.length ≤ w.queueCapacity) ∧
    s.control.handled.Subperm (s.received.map Received.command) := by
  intro s
  have h : PlantInv cfg w s := run_inv cfg env w hvalid atInit as
  obtain ⟨rs, hans, hcount⟩ := h.answered
  obtain ⟨queued, hsplit, hroom⟩ := ControlTask.accepted_split w s.control h.control
  have hsub : (rs ++ inTransit s.comms).Subperm s.received := by
    rw [List.subperm_iff_count]
    intro x
    have hx := hcount x
    rw [List.count_append]
    omega
  refine ⟨⟨rs, hans, ?_⟩, ⟨queued, h.accepted.symm.trans hsplit, hroom⟩, ?_⟩
  · exact (List.sublist_append_left rs _).subperm.trans hsub
  · have hhandled : s.control.handled.Sublist ((answers s.comms.cli).filterMap acknowledged ++
        unanswered s.comms) := by
      rw [← h.accepted]
      exact (ControlTask.handled_accepted w s.control h.control).sublist
    have htold : ((answers s.comms.cli).filterMap acknowledged ++ unanswered s.comms).Sublist
        ((rs ++ inTransit s.comms).map Received.command) := by
      rw [List.map_append, ← hans.commands_offered]
      exact (acknowledged_sublist _).append (unanswered_sublist _)
    obtain ⟨rest, hperm, hrest⟩ := hsub
    have hmapped : ((rs ++ inTransit s.comms).map Received.command).Subperm
        (s.received.map Received.command) := ⟨_, hperm.map _, hrest.map _⟩
    exact (hhandled.trans htold).subperm.trans hmapped

def projected (s : Plant) : Action → List (ControlTask.Action Command)
  | .read _ => []
  | .comms =>
    match s.comms with
    | .draining c =>
      if c.hasCommand then c.getCommand.1.toList.map fun cmd => .producer (.callPush cmd) else []
    | .pushing _ _ => [.producer .producerStep]
    | _ => []
  | .tick => [.tick]
  | .control safeVerdict => [.control safeVerdict]
  | .signalSafetyAbort => [.signalSafetyAbort]
  | .clearSafetyAbort => [.clearSafetyAbort]

theorem step_projected (s : Plant) (a : Action) :
    (step cfg env w s a).control = run (ControlTask.step w) s.control (projected s a) := by
  obtain ⟨comms, control, received⟩ := s
  cases a with
  | read read => cases comms <;> rfl
  | comms =>
    cases comms with
    | draining c =>
      simp only [step, commsStep, projected]
      split_ifs
      · rcases c.getCommand with ⟨_ | cmd, c'⟩ <;> rfl
      · rfl
    | pushing c cmd =>
      simp only [step, commsStep, projected]
      split <;> rfl
    | _ => rfl
  | _ => rfl

def projectedRun : Plant → List Action → List (ControlTask.Action Command)
  | _, [] => []
  | s, a::as => projected s a ++ projectedRun (step cfg env w s a) as

theorem run_projected (s : Plant) (as : List Action) :
    (run (step cfg env w) s as).control =
      run (ControlTask.step w) s.control (projectedRun cfg env w s as) := by
  induction as generalizing s with
  | nil => rfl
  | cons a as ih => rw [run_cons, ih, step_projected, projectedRun, run_append]

theorem projectedRun_append (s : Plant) (as bs : List Action) :
    projectedRun cfg env w s (as ++ bs) =
      projectedRun cfg env w s as ++ projectedRun cfg env w (run (step cfg env w) s as) bs := by
  induction as generalizing s with
  | nil => rfl
  | cons a as ih => rw [List.cons_append, projectedRun, projectedRun, ih, List.append_assoc, run_cons]

def Action.isControl : Action → Bool
  | .control _ => true
  | _ => false

structure Round (as : List Action) : Prop where
  safe : Action.control false ∉ as
  ticked : ∃ bs cs, as = bs ++ Action.tick :: cs ∧
    ControlTask.tickSteps w ≤ cs.countP Action.isControl

theorem projected_control (s : Plant) (a : Action) :
    (projected s a).countP ControlTask.Action.isControl = (if a.isControl then 1 else 0) ∧
      (ControlTask.Action.control false ∈ projected s a → a = .control false) := by
  obtain ⟨comms, control, received⟩ := s
  cases a with
  | comms =>
    cases comms with
    | draining c =>
      have hcomms : Action.comms.isControl = false := rfl
      simp only [projected, hcomms]
      by_cases hc : c.hasCommand = true
      · rw [if_pos hc]
        rcases c.getCommand with ⟨_ | cmd, c'⟩
        · exact ⟨rfl, by simp⟩
        · exact ⟨rfl, by simp⟩
      · rw [if_neg hc]
        exact ⟨rfl, by simp⟩
    | pushing c cmd => exact ⟨rfl, by simp [projected]⟩
    | _ => exact ⟨rfl, by simp [projected]⟩
  | control v => exact ⟨rfl, by simp [projected]⟩
  | _ => exact ⟨rfl, by simp [projected]⟩

theorem projectedRun_control (s : Plant) (as : List Action) :
    (projectedRun cfg env w s as).countP ControlTask.Action.isControl =
        as.countP Action.isControl ∧
      (ControlTask.Action.control false ∈ projectedRun cfg env w s as →
        Action.control false ∈ as) := by
  induction as generalizing s with
  | nil => exact ⟨rfl, by simp [projectedRun]⟩
  | cons a as ih =>
    obtain ⟨hcount, hmem⟩ := projected_control s a
    obtain ⟨hcounts, hmems⟩ := ih (step cfg env w s a)
    rw [projectedRun, List.countP_append, hcount, hcounts, List.countP_cons, Nat.add_comm]
    refine ⟨rfl, ?_⟩
    intro hbad
    rcases List.mem_append.mp hbad with hbad | hbad
    · rw [hmem hbad]
      exact List.mem_cons_self
    · exact List.mem_cons_of_mem a (hmems hbad)

theorem projectedRun_round (s : Plant) (as : List Action) (h : Round w as) :
    ControlTask.Round w (projectedRun cfg env w s as) := by
  obtain ⟨bs, cs, rfl, henough⟩ := h.ticked
  have hsafe := (projectedRun_control cfg env w s (bs ++ .tick :: cs)).2
  refine ⟨fun hbad => h.safe (hsafe hbad), projectedRun cfg env w s bs,
    projectedRun cfg env w (step cfg env w (run (step cfg env w) s bs) .tick) cs, ?_, ?_⟩
  · rw [projectedRun_append]
    rfl
  · rw [(projectedRun_control cfg env w _ cs).1]
    exact henough

theorem projectedRun_rounds (s : Plant) (rounds : List (List Action))
    (hrounds : ∀ as ∈ rounds, Round w as) :
    ∃ projections : List (List (ControlTask.Action Command)),
      projectedRun cfg env w s rounds.flatten = projections.flatten ∧
      projections.length = rounds.length ∧ ∀ as ∈ projections, ControlTask.Round w as := by
  induction rounds generalizing s with
  | nil => exact ⟨[], rfl, rfl, by simp⟩
  | cons as rounds ih =>
    obtain ⟨projections, hrun, hlen, hround⟩ := ih (run (step cfg env w) s as)
      (fun bs hbs => hrounds bs (by simp [hbs]))
    use projectedRun cfg env w s as :: projections
    refine ⟨?_, by simp [hlen], ?_⟩
    · rw [List.flatten_cons, projectedRun_append, hrun, List.flatten_cons]
    · intro bs hbs
      rcases List.mem_cons.mp hbs with rfl | hbs
      · exact projectedRun_round cfg env w s as (hrounds as (by simp))
      · exact hround bs hbs

/-- Rounds of the control task handle what had been acknowledged before them. -/
theorem rounds_acknowledged (hvalid : w.validateDependencies = true) (s : Plant)
    (h : PlantInv cfg w s) (rounds : List (List Action)) (hrounds : ∀ bs ∈ rounds, Round w bs)
    (hroom : w.queueCapacity < (rounds.length-1)*w.limit) :
    (answers s.comms.cli).filterMap acknowledged <+:
      (run (step cfg env w) s rounds.flatten).control.handled := by
  obtain ⟨projections, hrun, hlen, hround⟩ := projectedRun_rounds cfg env w s rounds hrounds
  have hhandled := ControlTask.rounds_handled w hvalid s.control h.control projections hround
  obtain ⟨queued, hsplit, hqueued⟩ := ControlTask.accepted_split w s.control h.control
  have hhand : (ControlTask.inHand s.control.pc).length ≤ 1 := by
    cases s.control.pc <;> simp [ControlTask.inHand]
  have hsize := congrArg List.length hsplit
  rw [List.length_append, List.length_append] at hsize
  rw [List.take_of_length_le (by rw [hlen]; omega)] at hhandled
  rw [run_projected, hrun]
  apply List.IsPrefix.trans _ hhandled
  rw [h.accepted]
  exact List.prefix_append _ _

/-- An acknowledgement is a promise: whatever the communications task and the
queue do meanwhile, some rounds of the control task after any reachable state
every command acknowledged by then has been handled, in the order of the
acknowledgements. -/
theorem acknowledged_handled (hvalid : w.validateDependencies = true) (atInit : Read)
    (as : List Action) (rounds : List (List Action)) (hrounds : ∀ bs ∈ rounds, Round w bs)
    (hroom : w.queueCapacity < (rounds.length-1)*w.limit) :
    (answers (run (step cfg env w) (start cfg env atInit) as).comms.cli).filterMap acknowledged <+:
      (run (step cfg env w) (start cfg env atInit) (as ++ rounds.flatten)).control.handled := by
  rw [run_append]
  exact rounds_acknowledged cfg env w hvalid _ (run_inv cfg env w hvalid atInit as) rounds hrounds
    hroom

end Run

section Example

def plainCfg : Cfg := { floatText := fun _ => [] }

def noSnapshot : Environment := { try_push := fun _ _ => false, snapshotFn := none }

def handledFirst : List Action :=
  .read ⟨ascii "3 0 5\n", by decide⟩ :: List.replicate 5 .comms ++
    Action.tick :: List.replicate 10 (.control true)

theorem handled_before_reply :
    let s := run (step plainCfg noSnapshot ControlTask.dualMonitor)
      (start plainCfg noSnapshot ⟨[], by decide⟩) handledFirst
    s.control.handled = [⟨3, 0, 0x40A00000⟩] ∧ answers s.comms.cli = [] ∧
      s.control.handled.Subperm (s.received.map Received.command) := by
  intro s
  have hrun : s.control.handled = [⟨3, 0, 0x40A00000⟩] ∧ answers s.comms.cli = [] := by
    decide +kernel
  exact ⟨hrun.1, hrun.2, (commands_conserved plainCfg noSnapshot ControlTask.dualMonitor rfl
    ⟨[], by decide⟩ handledFirst).2.2⟩

def answeredAfter : List Action := handledFirst ++ [.comms]

def safeRound : List Action := .tick :: .comms :: List.replicate 54 (.control true)

theorem safeRounds : ∀ as ∈ [safeRound, safeRound], Round ControlTask.dualMonitor as := by
  have hsafe : Round ControlTask.dualMonitor safeRound :=
    ⟨by simp [safeRound], [], _, rfl, by decide⟩
  simpa using hsafe

theorem acknowledged_once :
    let s := run (step plainCfg noSnapshot ControlTask.dualMonitor)
      (start plainCfg noSnapshot ⟨[], by decide⟩) answeredAfter
    (answers s.comms.cli).filterMap acknowledged = [⟨3, 0, 0x40A00000⟩] ∧
      (answers s.comms.cli).filterMap acknowledged <+:
        (run (step plainCfg noSnapshot ControlTask.dualMonitor)
          (start plainCfg noSnapshot ⟨[], by decide⟩)
          (answeredAfter ++ [safeRound, safeRound].flatten)).control.handled := by
  intro s
  exact ⟨by decide +kernel, acknowledged_handled plainCfg noSnapshot ControlTask.dualMonitor rfl
    ⟨[], by decide⟩ answeredAfter [safeRound, safeRound] safeRounds (by decide)⟩

end Example

end SputterOS.CommandPipeline
