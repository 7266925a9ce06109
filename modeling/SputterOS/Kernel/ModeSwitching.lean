import SputterOS.Kernel.ReadTimeline
import SputterOS.Kernel.CommandAnswers

/-!
# Switching between the modes

The bytes of a stream are taken by the loop that the handshakes answered and
the exits handled so far ask for, however the stream is cut into reads, as long
as nothing follows an exit in its read. A byte that does follow one in its read
is still taken by the framed loop.
-/

set_option autoImplicit false

namespace SputterOS.ModeSwitching
open SputterOS.FrameCodec SputterOS.FrameStream SputterOS.Logic SputterOS.CommandLine
  SputterOS.ReceivedStream SputterOS.ReadLoops SputterOS.ScheduledCommsTask
  SputterOS.CommandReplies SputterOS.CommandAnswers SputterOS.ReadTimeline

section Routes

def Exits (s : Step) : Prop := ∃ bytes, Effect.write .onExitHandshake bytes ∈ s.effects

def Responds (s : Step) : Prop := ∃ bytes, Effect.write .onHandshakeRequest bytes ∈ s.effects

/-- The bytes behind an exit are taken as text until a handshake is answered. -/
def TextAfterExit (steps : List Step) : Prop :=
  ∀ before exit between step rest, steps = before ++ exit :: (between ++ step :: rest) →
    Exits exit → (∀ s ∈ between, ¬ Responds s) → step.loop = .text

/-- From the answer to a handshake on the mode is FRAMED until an exit. -/
def FramedAfterResponse (steps : List Step) : Prop :=
  ∀ before response between rest, steps = before ++ response :: (between ++ rest) →
    Responds response → (∀ s ∈ between, ¬ Exits s) → ∀ s ∈ response::between, s.mode = .framed

def Routed : CommsMode → List Step → Prop
  | _, [] => True
  | m, s::ss =>
    s.loop = m ∧ (Exits s → s.mode = .text) ∧ (Responds s → s.mode = .framed) ∧
      (¬ Exits s → ¬ Responds s → s.mode = m) ∧ Routed s.mode ss

def endMode (m : CommsMode) (steps : List Step) : CommsMode := steps.foldl (fun _ s => s.mode) m

theorem routed_append (m : CommsMode) (xs ys : List Step) (hx : Routed m xs)
    (hy : Routed (endMode m xs) ys) : Routed m (xs ++ ys) := by
  induction xs generalizing m with
  | nil => exact hy
  | cons x xs ih =>
    obtain ⟨hloop, hexit, hresp, hkeep, hrest⟩ := hx
    exact ⟨hloop, hexit, hresp, hkeep, ih x.mode hrest hy⟩

theorem routed_tail (m : CommsMode) (xs ys : List Step) (h : Routed m (xs ++ ys)) :
    Routed (endMode m xs) ys := by
  induction xs generalizing m with
  | nil => exact h
  | cons x xs ih => exact ih x.mode h.2.2.2.2

theorem routed_text (between : List Step) (step : Step) (rest : List Step)
    (h : Routed .text (between ++ step :: rest)) (hb : ∀ s ∈ between, ¬ Responds s) :
    step.loop = .text := by
  induction between with
  | nil => exact h.1
  | cons s ss ih =>
    obtain ⟨-, hexit, -, hkeep, hrest⟩ := h
    have hmode : s.mode = .text := by
      by_cases he : Exits s
      · exact hexit he
      · exact hkeep he (hb s (by simp))
    rw [hmode] at hrest
    exact ih hrest (fun t ht => hb t (by simp [ht]))

theorem routed_framed (between rest : List Step) (h : Routed .framed (between ++ rest))
    (hb : ∀ s ∈ between, ¬ Exits s) : ∀ s ∈ between, s.mode = .framed := by
  induction between with
  | nil => simp
  | cons s ss ih =>
    obtain ⟨-, -, hresp, hkeep, hrest⟩ := h
    have hmode : s.mode = .framed := by
      by_cases hr : Responds s
      · exact hresp hr
      · exact hkeep (hb s (by simp)) hr
    rw [hmode] at hrest
    intro t ht
    rcases List.mem_cons.mp ht with rfl | ht
    · exact hmode
    · exact ih hrest (fun u hu => hb u (by simp [hu])) t ht

theorem Routed.textAfterExit (m : CommsMode) (steps : List Step) (h : Routed m steps) :
    TextAfterExit steps := by
  intro before exit between step rest hsplit hexit hb
  rw [hsplit] at h
  obtain ⟨-, hmode, -, -, hrest⟩ := routed_tail m before _ h
  rw [hmode hexit] at hrest
  exact routed_text between step rest hrest hb

theorem Routed.framedAfterResponse (m : CommsMode) (steps : List Step) (h : Routed m steps) :
    FramedAfterResponse steps := by
  intro before response between rest hsplit hresp hb
  rw [hsplit] at h
  obtain ⟨-, -, hmode, -, hrest⟩ := routed_tail m before _ h
  have hframed := hmode hresp
  rw [hframed] at hrest
  intro s hs
  rcases List.mem_cons.mp hs with rfl | hs
  · exact hframed
  · exact routed_framed between rest hrest hb s hs

/-- A byte right behind an exit is taken by the framed loop. -/
def Misrouted (steps : List Step) : Prop :=
  ∃ before exit step rest, steps = before ++ exit :: step :: rest ∧ Exits exit ∧
    step.loop = .framed

theorem Misrouted.not_textAfterExit (steps : List Step) (h : Misrouted steps) :
    ¬ TextAfterExit steps := by
  obtain ⟨before, exit, step, rest, hsplit, hexit, hloop⟩ := h
  intro htext
  have ht := htext before exit [] step rest hsplit hexit (by simp)
  rw [hloop] at ht
  exact absurd ht (by decide)

theorem Misrouted.append_right (xs ys : List Step) (h : Misrouted xs) : Misrouted (xs ++ ys) := by
  obtain ⟨before, exit, step, rest, rfl, hexit, hloop⟩ := h
  exact ⟨before, exit, step, rest ++ ys, by simp, hexit, hloop⟩

theorem Misrouted.append_left (xs ys : List Step) (h : Misrouted ys) : Misrouted (xs ++ ys) := by
  obtain ⟨before, exit, step, rest, rfl, hexit, hloop⟩ := h
  exact ⟨xs ++ before, exit, step, rest, by simp, hexit, hloop⟩

end Routes

section Read

variable (cfg : Cfg) (env : Environment)

def modes : Receiver → List UInt8 → List CommsMode
  | _, [] => []
  | r, b::bs => r.mode :: modes (receive cfg kMaxPayload r b).2 bs

theorem modes_append (r : Receiver) (xs ys : List UInt8) :
    modes cfg r (xs ++ ys) = modes cfg r xs ++ modes cfg (after cfg kMaxPayload r xs) ys := by
  induction xs generalizing r with
  | nil => rfl
  | cons x xs ih =>
    have hx : after cfg kMaxPayload r (x::xs) =
        after cfg kMaxPayload (receive cfg kMaxPayload r x).2 xs := rfl
    simp only [List.cons_append, modes, ih, hx]

theorem view_eq (c : CLI) (r : Receiver) (held : Option Received) (h : Tracks c r held) :
    view c = r := by
  have hprobe : (if c.probeActive then some c.probeBuf else none) = r.probe := by
    rw [h.probeActive, h.probeBuf]
    cases r.probe <;> rfl
  rw [view, hprobe, h.mode, h.line, h.decoder]

theorem enter_completed (c : CLI) (r : Receiver) (held : Option Received) (b : UInt8)
    (h : Tracks c r held) :
    (Loop.enter c).completed cfg kMaxPayload b = (receive cfg kMaxPayload r b).1 := by
  have hview : { view c with mode := (Loop.enter c).mode } = view c := rfl
  rw [Loop.completed, Loop.enter, ← view_eq c r held h]
  rfl

theorem observe_mode (c : CLI) (b : UInt8) (o : Step) (hr : c.hasRouter = true)
    (ho : o = (Loop.enter c).observe cfg kMaxPayload (protocolHandler env) b) :
    (Exits o → o.mode = .text) ∧ (Responds o → o.mode = .framed) ∧
      (¬ Exits o → ¬ Responds o → o.mode = c.mode) := by
  have hm : (Loop.enter c).mode = c.mode := rfl
  have hmode : o.mode = ((Loop.enter c).step cfg kMaxPayload (protocolHandler env) b).cli.mode := by
    rw [ho]
    rfl
  obtain ⟨es, hhist, hcases⟩ := (step_move cfg env (Loop.enter c) b hr).effects
  have heff : o.effects = es := by
    rw [ho]
    exact observe_effects cfg env _ b es hhist
  unfold Exits Responds
  rw [heff, hmode]
  rcases hcases with ⟨-, htext, bytes, rfl⟩ | ⟨-, hframed, bytes, rfl⟩ | ⟨-, hkeep, hcall, hloop⟩
  · rw [htext]
    simp
  · rw [hframed]
    simp
  · rw [hkeep]
    refine ⟨?_, ?_, fun _ _ => rfl⟩
    · rintro ⟨bytes, hb⟩
      obtain ⟨writer, bytes', heq, -, hne⟩ := hcall _ hb
      simp only [Effect.write.injEq] at heq
      exact absurd heq.1.symm hne
    · rintro ⟨bytes, hb⟩
      rcases hloop with hf | hnil
      · exact hm.symm.trans hf
      · simp [hnil] at hb

theorem observe_exits (s : Loop) (b : UInt8) (hr : s.cli.hasRouter = true)
    (he : s.completed cfg kMaxPayload b = some .exit) :
    Exits (s.observe cfg kMaxPayload (protocolHandler env) b) ∧
      (s.step cfg kMaxPayload (protocolHandler env) b).mode = .framed := by
  have hmove := step_move cfg env s b hr
  have heff := observe_effects cfg env s b
  unfold Exits
  rw [he] at hmove
  revert heff
  generalize s.observe cfg kMaxPayload (protocolHandler env) b = o
  generalize s.step cfg kMaxPayload (protocolHandler env) b = s' at hmove
  intro heff
  generalize hm : s.mode = m at hmove
  cases hmove with
  | exit decoder bytes =>
    rw [heff _ rfl]
    exact ⟨⟨bytes, by simp⟩, rfl⟩

theorem enter_step (c : CLI) (r : Receiver) (held : Option Received) (b : UInt8)
    (h : Tracks c r held) (he : (receive cfg kMaxPayload r b).1 ≠ some .exit) :
    (Loop.enter c).step cfg kMaxPayload (protocolHandler env) b =
      Loop.enter (c.processByte cfg kMaxPayload (protocolHandler env) b) := by
  rw [← enter_completed cfg c r held b h] at he
  rw [← enter_step_cli]
  exact (step_move cfg env (Loop.enter c) b h.router).enter c _ _ he

structure Alike (r : Receiver) (bs : List UInt8) (steps : List Step) : Prop where
  routed : Routed r.mode steps
  loops : steps.map Step.loop = modes cfg r bs
  completed : steps.map Step.completed = receptions cfg kMaxPayload r bs
  last : endMode r.mode steps = (after cfg kMaxPayload r bs).mode

theorem Alike.append (r : Receiver) (xs ys : List UInt8) (ss ts : List Step)
    (h : Alike cfg r xs ss) (h' : Alike cfg (after cfg kMaxPayload r xs) ys ts) :
    Alike cfg r (xs ++ ys) (ss ++ ts) := by
  have hafter : after cfg kMaxPayload r (xs ++ ys) =
      after cfg kMaxPayload (after cfg kMaxPayload r xs) ys := List.foldl_append
  have hend : endMode r.mode (ss ++ ts) = endMode (endMode r.mode ss) ts := List.foldl_append
  constructor
  · apply routed_append _ _ _ h.routed
    rw [h.last]
    exact h'.routed
  · rw [List.map_append, h.loops, h'.loops, modes_append]
  · rw [List.map_append, h.completed, h'.completed, receptions_append]
  · rw [hend, h.last, h'.last, hafter]

theorem observe_alike (c : CLI) (r : Receiver) (held : Option Received) (b : UInt8)
    (h : Tracks c r held) :
    Alike cfg r [b] [(Loop.enter c).observe cfg kMaxPayload (protocolHandler env) b] := by
  obtain ⟨htracks, -⟩ := processByte_follows cfg env c r held b h
  have hloop : ((Loop.enter c).observe cfg kMaxPayload (protocolHandler env) b).loop = c.mode := rfl
  have hmode : ((Loop.enter c).observe cfg kMaxPayload (protocolHandler env) b).mode =
      ((Loop.enter c).step cfg kMaxPayload (protocolHandler env) b).cli.mode := rfl
  obtain ⟨hexit, hresp, hkeep⟩ := observe_mode cfg env c b _ h.router rfl
  constructor
  · exact ⟨hloop.trans h.mode, hexit, hresp, fun he hr => (hkeep he hr).trans h.mode, trivial⟩
  · simp [modes, hloop, h.mode]
  · have hcompleted := enter_completed cfg c r held b h
    simp [receptions, Loop.observe, hcompleted]
  · show ((Loop.enter c).observe cfg kMaxPayload (protocolHandler env) b).mode = _
    rw [hmode, enter_step_cli]
    exact htracks.mode

theorem steps_alike (c : CLI) (r : Receiver) (held : Option Received) (bs : List UInt8)
    (h : Tracks c r held) (hexit : ExitLast (receptions cfg kMaxPayload r bs)) :
    Alike cfg r bs ((Loop.enter c).steps cfg kMaxPayload (protocolHandler env) bs) := by
  induction bs generalizing c r held with
  | nil => exact ⟨trivial, rfl, rfl, rfl⟩
  | cons b bs ih =>
    obtain ⟨hhead, htail⟩ := List.pairwise_cons.mp hexit
    obtain ⟨htracks, -⟩ := processByte_follows cfg env c r held b h
    have hbyte := observe_alike cfg env c r held b h
    by_cases he : (receive cfg kMaxPayload r b).1 = some .exit
    · have hnil : bs = [] := receptions_eq_nil cfg _ bs (fun e hmem => hhead e hmem he)
      rw [hnil]
      exact hbyte
    · rw [Loop.steps, enter_step cfg env c r held b h he]
      exact hbyte.append cfg r [b] bs [_] _ (ih _ _ _ htracks htail)

/-- A byte behind an exit in its read is taken by the framed loop. -/
theorem steps_misrouted (c : CLI) (r : Receiver) (held : Option Received) (bs : List UInt8)
    (h : Tracks c r held) (hexit : ¬ ExitLast (receptions cfg kMaxPayload r bs)) :
    Misrouted ((Loop.enter c).steps cfg kMaxPayload (protocolHandler env) bs) := by
  induction bs generalizing c r held with
  | nil => exact absurd List.Pairwise.nil hexit
  | cons b bs ih =>
    by_cases he : (receive cfg kMaxPayload r b).1 = some .exit
    · rw [← enter_completed cfg c r held b h] at he
      obtain ⟨hexits, hloop⟩ := observe_exits cfg env (Loop.enter c) b h.router he
      cases bs with
      | nil => exact absurd (List.pairwise_singleton _ _) hexit
      | cons b' bs => exact ⟨[], _, _, _, rfl, hexits, hloop⟩
    · have htail : ¬ ExitLast (receptions cfg kMaxPayload (receive cfg kMaxPayload r b).2 bs) :=
        fun ht => hexit (List.pairwise_cons.mpr ⟨fun _ _ => he, ht⟩)
      obtain ⟨htracks, -⟩ := processByte_follows cfg env c r held b h
      rw [Loop.steps, enter_step cfg env c r held b h he]
      exact (ih _ _ _ htracks htail).append_left [_] _

end Read

section Runs

variable (cfg : Cfg) (env : Environment)

theorem timeline_cons (fuel : ℕ) (c c' : CLI) (read : Read) (reads : List Read)
    (htick : tick cfg env fuel c read = some c') :
    timeline cfg env fuel c (read::reads) =
      (Loop.enter c).steps cfg kMaxPayload (protocolHandler env) read.bytes ++
        timeline cfg env fuel c' reads := by
  rw [timeline, htick]
  rfl

theorem timeline_alike (fuel : ℕ) (c : CLI) (r : Receiver) (held : Option Received)
    (reads : List Read) (h : Tracks c r held) (hexit : ExitLastReads cfg r reads) :
    Alike cfg r (reads.flatMap Read.bytes) (timeline cfg env (fuel+1) c reads) ∧
    ∃ c', reads.foldlM (tick cfg env (fuel+1)) c = some c' ∧
      c'.mode = (after cfg kMaxPayload r (reads.flatMap Read.bytes)).mode := by
  induction reads generalizing c r held with
  | nil => exact ⟨⟨trivial, rfl, rfl, rfl⟩, c, rfl, h.mode⟩
  | cons read reads ih =>
    obtain ⟨hread, hrest⟩ := hexit
    obtain ⟨c₁, -, htick, htracks, -⟩ := tick_answered cfg env fuel c r held read h hread
    obtain ⟨halike, c₂, hrun, hmode⟩ := ih c₁ _ none htracks hrest
    have hafter : after cfg kMaxPayload r ((read::reads).flatMap Read.bytes) =
        after cfg kMaxPayload (after cfg kMaxPayload r read.bytes) (reads.flatMap Read.bytes) :=
      List.foldl_append
    constructor
    · rw [timeline_cons cfg env (fuel+1) c c₁ read reads htick, List.flatMap_cons]
      exact (steps_alike cfg env c r held read.bytes h hread).append cfg _ _ _ _ _ halike
    · use c₂
      rw [List.foldlM_cons, htick, hafter]
      exact ⟨hrun, hmode⟩

theorem timeline_misrouted (fuel : ℕ) (c : CLI) (r : Receiver) (held : Option Received)
    (reads : List Read) (h : Tracks c r held) (hexit : ¬ ExitLastReads cfg r reads) :
    Misrouted (timeline cfg env (fuel+1) c reads) := by
  induction reads generalizing c r held with
  | nil => exact absurd trivial hexit
  | cons read reads ih =>
    by_cases hread : ExitLast (receptions cfg kMaxPayload r read.bytes)
    · have hrest : ¬ ExitLastReads cfg (after cfg kMaxPayload r read.bytes) reads :=
        fun hr => hexit ⟨hread, hr⟩
      obtain ⟨c₁, -, htick, htracks, -⟩ := tick_answered cfg env fuel c r held read h hread
      rw [timeline_cons cfg env (fuel+1) c c₁ read reads htick]
      exact (ih c₁ _ none htracks hrest).append_left _ _
    · exact (steps_misrouted cfg env c r held read.bytes h hread).append_right _ _

theorem run_alike (fuel : ℕ) (atInit : Read) (reads : List Read)
    (hexit : ExitLastReads cfg initial (atInit::reads)) :
    Alike cfg initial (atInit.bytes ++ reads.flatMap Read.bytes)
      (runTimeline cfg env (fuel+1) atInit reads) ∧
    ∃ c, run cfg env (fuel+1) atInit reads = some c ∧
      c.mode = (after cfg kMaxPayload initial (atInit.bytes ++ reads.flatMap Read.bytes)).mode := by
  obtain ⟨hinit, hreads⟩ := hexit
  obtain ⟨htracks, -⟩ := processBytes_follows cfg env _ _ none atInit.bytes initial_tracks hinit
  obtain ⟨halike, c, hrun, hmode⟩ := timeline_alike cfg env fuel _ _ _ reads htracks hreads
  have hafter : after cfg kMaxPayload initial (atInit.bytes ++ reads.flatMap Read.bytes) =
      after cfg kMaxPayload (after cfg kMaxPayload initial atInit.bytes)
        (reads.flatMap Read.bytes) := List.foldl_append
  rw [hafter]
  exact ⟨(steps_alike cfg env _ _ none atInit.bytes initial_tracks hinit).append cfg _ _ _ _ _ halike,
    c, hrun, hmode⟩

theorem run_misrouted (fuel : ℕ) (atInit : Read) (reads : List Read)
    (hexit : ¬ ExitLastReads cfg initial (atInit::reads)) :
    Misrouted (runTimeline cfg env (fuel+1) atInit reads) := by
  by_cases hinit : ExitLast (receptions cfg kMaxPayload initial atInit.bytes)
  · obtain ⟨htracks, -⟩ := processBytes_follows cfg env _ _ none atInit.bytes initial_tracks hinit
    have hreads : ¬ ExitLastReads cfg (after cfg kMaxPayload initial atInit.bytes) reads :=
      fun hr => hexit ⟨hinit, hr⟩
    exact (timeline_misrouted cfg env fuel _ _ _ reads htracks hreads).append_left _ _
  · exact (steps_misrouted cfg env _ _ none atInit.bytes initial_tracks hinit).append_right _ _

/-- Two runs end in the same mode, take every byte by the same loop, and both
go by the exits and the answered handshakes. -/
def SwitchAlike (c₁ c₂ : CLI) (steps₁ steps₂ : List Step) : Prop :=
  c₁.mode = c₂.mode ∧ steps₁.map Step.loop = steps₂.map Step.loop ∧
    (TextAfterExit steps₁ ∧ FramedAfterResponse steps₁) ∧
    (TextAfterExit steps₂ ∧ FramedAfterResponse steps₂)

/-- However one stream is cut into reads, and whatever the queues answer, the
runs switch modes alike if and only if in neither of them a byte follows an
exit in its read. -/
theorem mode_switching_iff (env₁ env₂ : Environment) (fuel : ℕ) (atInit₁ atInit₂ : Read)
    (reads₁ reads₂ : List Read)
    (hstream : atInit₁.bytes ++ reads₁.flatMap Read.bytes =
      atInit₂.bytes ++ reads₂.flatMap Read.bytes) :
    (∃ c₁ c₂, run cfg env₁ (fuel+1) atInit₁ reads₁ = some c₁ ∧
      run cfg env₂ (fuel+1) atInit₂ reads₂ = some c₂ ∧
      SwitchAlike c₁ c₂ (runTimeline cfg env₁ (fuel+1) atInit₁ reads₁)
        (runTimeline cfg env₂ (fuel+1) atInit₂ reads₂)) ↔
    ExitLastReads cfg initial (atInit₁::reads₁) ∧ ExitLastReads cfg initial (atInit₂::reads₂) := by
  constructor
  · rintro ⟨c₁, c₂, -, -, -, -, ⟨htext₁, -⟩, htext₂, -⟩
    constructor
    · by_contra hexit
      exact (run_misrouted cfg env₁ fuel atInit₁ reads₁ hexit).not_textAfterExit _ htext₁
    · by_contra hexit
      exact (run_misrouted cfg env₂ fuel atInit₂ reads₂ hexit).not_textAfterExit _ htext₂
  · rintro ⟨hexit₁, hexit₂⟩
    obtain ⟨h₁, c₁, hrun₁, hmode₁⟩ := run_alike cfg env₁ fuel atInit₁ reads₁ hexit₁
    obtain ⟨h₂, c₂, hrun₂, hmode₂⟩ := run_alike cfg env₂ fuel atInit₂ reads₂ hexit₂
    refine ⟨c₁, c₂, hrun₁, hrun₂, ?_, ?_, ?_, ?_⟩
    · rw [hmode₁, hmode₂, hstream]
    · rw [h₁.loops, h₂.loops, hstream]
    · exact ⟨h₁.routed.textAfterExit, h₁.routed.framedAfterResponse⟩
    · exact ⟨h₂.routed.textAfterExit, h₂.routed.framedAfterResponse⟩

end Runs

section Sessions

def pipelined : Read := ⟨handshake.bytes ++ framedCommand.bytes, by decide +kernel⟩

theorem mode_switching_pipelined :
    ∃ c₁ c₂, run plainCfg alternating 1 noBytes [handshake, framedCommand, leave] = some c₁ ∧
      run plainCfg alternating 1 noBytes [pipelined, leave] = some c₂ ∧
      SwitchAlike c₁ c₂
        (runTimeline plainCfg alternating 1 noBytes [handshake, framedCommand, leave])
        (runTimeline plainCfg alternating 1 noBytes [pipelined, leave]) :=
  (mode_switching_iff plainCfg alternating alternating 0 noBytes noBytes
    [handshake, framedCommand, leave] [pipelined, leave] (by decide +kernel)).mpr
      (by decide +kernel)

def rehandshake : Read := ⟨leave.bytes ++ handshake.bytes, by decide +kernel⟩

/-- In one read with the exit, the handshake is answered and the mode is TEXT
all the same; in a read of its own it leads to FRAMED mode. -/
theorem handshake_ignored :
    [handshake, rehandshake].flatMap Read.bytes = [handshake, leave, handshake].flatMap Read.bytes ∧
    (run plainCfg alternating 1 noBytes [handshake, rehandshake]).map
        (fun c => (c.mode, c.history.getLast?)) =
      some (.text, some (.write .onHandshakeRequest
        (wire kMaxPayload ⟨.handshakeResp, 1, some [1, 0, 0x53, 0x4F, 0x50, 0x53], 6⟩))) ∧
    (run plainCfg alternating 1 noBytes [handshake, leave, handshake]).map CLI.mode =
      some .framed ∧
    ¬ ∃ c₁ c₂, run plainCfg alternating 1 noBytes [handshake, rehandshake] = some c₁ ∧
      run plainCfg alternating 1 noBytes [handshake, leave, handshake] = some c₂ ∧
      SwitchAlike c₁ c₂ (runTimeline plainCfg alternating 1 noBytes [handshake, rehandshake])
        (runTimeline plainCfg alternating 1 noBytes [handshake, leave, handshake]) := by
  have hone : (run plainCfg alternating 1 noBytes [handshake, rehandshake]).map
        (fun c => (c.mode, c.history.getLast?)) =
      some (.text, some (.write .onHandshakeRequest
        (wire kMaxPayload ⟨.handshakeResp, 1, some [1, 0, 0x53, 0x4F, 0x50, 0x53], 6⟩))) := by
    decide +kernel
  have htwo : (run plainCfg alternating 1 noBytes [handshake, leave, handshake]).map CLI.mode =
      some .framed := by
    decide +kernel
  refine ⟨by decide +kernel, hone, htwo, ?_⟩
  rintro ⟨c₁, c₂, h₁, h₂, hmode, -⟩
  simp only [h₁, Option.map_some, Option.some_inj, Prod.mk.injEq] at hone
  simp only [h₂, Option.map_some, Option.some_inj] at htwo
  rw [hone.1, htwo] at hmode
  exact absurd hmode (by decide)

end Sessions

end SputterOS.ModeSwitching
