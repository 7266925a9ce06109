import SputterOS.Kernel.ReadTimeline
import SputterOS.Kernel.CommandAnswers

/-!
# Failed handshakes

The zero that ends a probe also starts the next one. After a probe that is no
handshake the line that follows is taken as a probe again, and only what is
left of it behind the size of the probe buffer reaches the parser.
-/

set_option autoImplicit false

namespace SputterOS.TextProbe
open SputterOS.FrameCodec SputterOS.FrameStream SputterOS.Logic SputterOS.CommandLine
  SputterOS.ReceivedStream SputterOS.ScheduledCommsTask SputterOS.CommandReplies
  SputterOS.CommandAnswers SputterOS.ReadTimeline Foundation.NumberText

section Stream

variable (cfg : Cfg)

/-- A line with its terminator that the parser accepts. -/
structure ValidLine (line : List UInt8) (t : UInt8) (cmd : Command) : Prop where
  bytes : ∀ b ∈ line, b ≠ kFrameDelimiter ∧ CommandParser.isTerminator b = false
  terminator : CommandParser.isTerminator t = true
  fits : line.length ≤ cfg.kMaxLineLen-1
  parsed : CommandParser.parseLine cfg line = some cmd

def lineReception (line : List UInt8) : Option Reception :=
  (CommandParser.parseLine cfg line).map fun cmd => .command ⟨none, cmd⟩

theorem parseLine_nil : CommandParser.parseLine cfg [] = none := rfl

theorem terminator_ne (t : UInt8) (h : CommandParser.isTerminator t = true) :
    t ≠ kFrameDelimiter := by
  rintro rfl
  exact absurd h (by decide)

theorem receiveText_terminator (r : Receiver) (t : UInt8)
    (ht : CommandParser.isTerminator t = true) :
    (receiveText cfg r t).1 = lineReception cfg r.line := by
  unfold receiveText CommandParser.feedByte lineReception
  dsimp only
  rw [if_pos ht]
  by_cases hl : r.line.length = 0
  · rw [List.length_eq_zero_iff.mp hl, parseLine_nil]
    rfl
  · rw [if_neg hl]
    cases CommandParser.parseLine cfg r.line <;> rfl

theorem receiveText_data (r : Receiver) (b : UInt8) (hb : CommandParser.isTerminator b = false)
    (hl : r.line.length < cfg.kMaxLineLen-1) :
    receiveText cfg r b = (none, { r with line := r.line ++ [b] }) := by
  have hfed : CommandParser.feedByte cfg { CommandParser.initial with buf := r.line } b =
      (false, { CommandParser.initial with buf := r.line ++ [b] }) := by
    unfold CommandParser.feedByte
    rw [if_neg (by simp [hb]), if_neg (Nat.not_le.mpr hl)]
  rw [receiveText, hfed]
  rfl

theorem receptions_line (r : Receiver) (line : List UInt8) (hm : r.mode = .text)
    (hp : r.probe = none)
    (hb : ∀ b ∈ line, b ≠ kFrameDelimiter ∧ CommandParser.isTerminator b = false)
    (hl : r.line.length+line.length ≤ cfg.kMaxLineLen-1) :
    receptions cfg kMaxPayload r line = List.replicate line.length none ∧
      after cfg kMaxPayload r line = { r with line := r.line ++ line } := by
  induction line generalizing r with
  | nil => simp [receptions, after]
  | cons b bs ih =>
    obtain ⟨hz, ht⟩ := hb b (by simp)
    have hlt : r.line.length < cfg.kMaxLineLen-1 := by
      simp only [List.length_cons] at hl
      omega
    have hstep : receive cfg kMaxPayload r b = (none, { r with line := r.line ++ [b] }) := by
      rw [receive, if_pos hm, receiveProbed, if_neg hz, if_pos hp]
      exact receiveText_data cfg r b ht hlt
    obtain ⟨hrec, hafter⟩ := ih { r with line := r.line ++ [b] } hm hp
      (fun x hx => hb x (by simp [hx])) (by simp at hl ⊢; omega)
    constructor
    · rw [receptions, hstep, hrec]
      rfl
    · have hcons : after cfg kMaxPayload r (b::bs) =
          after cfg kMaxPayload (receive cfg kMaxPayload r b).2 bs := rfl
      rw [hcons, hstep, hafter]
      simp

theorem receptions_probe (r : Receiver) (q bs : List UInt8) (hm : r.mode = .text)
    (hp : r.probe = some q) (hz : kFrameDelimiter ∉ bs)
    (hl : q.length+bs.length ≤ kMaxProbeSize) :
    receptions cfg kMaxPayload r bs = List.replicate bs.length none ∧
      after cfg kMaxPayload r bs = { r with probe := some (q ++ bs) } := by
  induction bs generalizing r q with
  | nil => simp [receptions, after, ← hp]
  | cons b bs ih =>
    have hb : b ≠ kFrameDelimiter := fun h => hz (by simp [h])
    have hlt : q.length < kMaxProbeSize := by
      simp only [List.length_cons] at hl
      omega
    have hstep : receive cfg kMaxPayload r b = (none, { r with probe := some (q ++ [b]) }) := by
      rw [receive, if_pos hm, receiveProbed, if_neg hb, hp, if_neg (by simp)]
      exact if_pos hlt
    obtain ⟨hrec, hafter⟩ := ih { r with probe := some (q ++ [b]) } (q ++ [b]) hm rfl
      (fun h => hz (by simp [h])) (by simp at hl ⊢; omega)
    constructor
    · rw [receptions, hstep, hrec]
      rfl
    · have hcons : after cfg kMaxPayload r (b::bs) =
          after cfg kMaxPayload (receive cfg kMaxPayload r b).2 bs := rfl
      rw [hcons, hstep, hafter]
      simp

theorem receive_zero (r : Receiver) (hm : r.mode = .text)
    (hno : r.probe.any (isHandshake kMaxPayload) = false) :
    receive cfg kMaxPayload r kFrameDelimiter = (none, { r with probe := some [] }) := by
  rw [receive, if_pos hm, receiveProbed, if_pos rfl, hno]
  rfl

theorem receive_overflow (r : Receiver) (q : List UInt8) (b : UInt8) (hm : r.mode = .text)
    (hp : r.probe = some q) (hq : kMaxProbeSize ≤ q.length) (hb : b ≠ kFrameDelimiter) :
    receive cfg kMaxPayload r b = receive cfg kMaxPayload { r with probe := none } b := by
  have hfull : ¬ (r.probe.getD []).length < kMaxProbeSize := by
    rw [hp]
    exact Nat.not_lt.mpr hq
  rw [receive, receive, if_pos hm, if_pos hm, receiveProbed, receiveProbed, if_neg hb, if_neg hb,
    if_neg (by simp [hp]), if_neg hfull]
  rfl

theorem receptions_text_line (r : Receiver) (line : List UInt8) (t : UInt8) (hm : r.mode = .text)
    (hline : r.line = []) (hp : r.probe = none)
    (hb : ∀ b ∈ line, b ≠ kFrameDelimiter ∧ CommandParser.isTerminator b = false)
    (ht : CommandParser.isTerminator t = true) (hl : line.length ≤ cfg.kMaxLineLen-1) :
    receptions cfg kMaxPayload r (line ++ [t]) =
      List.replicate line.length none ++ [lineReception cfg line] := by
  obtain ⟨hrec, hafter⟩ := receptions_line cfg r line hm hp hb (by simpa [hline] using hl)
  have hlast : (receive cfg kMaxPayload { r with line := r.line ++ line } t).1 =
      lineReception cfg line := by
    rw [receive, if_pos hm, receiveProbed, if_neg (terminator_ne t ht), if_pos hp,
      receiveText_terminator cfg _ t ht, hline]
    rfl
  rw [receptions_append, hrec, hafter, receptions, hlast]
  rfl

theorem receptions_probed_line (r : Receiver) (line : List UInt8) (t : UInt8) (hm : r.mode = .text)
    (hline : r.line = []) (hp : r.probe = some [])
    (hb : ∀ b ∈ line, b ≠ kFrameDelimiter ∧ CommandParser.isTerminator b = false)
    (ht : CommandParser.isTerminator t = true) (hl : line.length ≤ cfg.kMaxLineLen-1) :
    receptions cfg kMaxPayload r (line ++ [t]) =
      List.replicate line.length none ++ [lineReception cfg (line.drop kMaxProbeSize)] := by
  have hz : kFrameDelimiter ∉ line := fun h => (hb _ h).1 rfl
  have htz : t ≠ kFrameDelimiter := terminator_ne t ht
  by_cases hlen : line.length ≤ kMaxProbeSize
  · obtain ⟨hrec, hafter⟩ := receptions_probe cfg r [] line hm hp hz (by simpa using hlen)
    have hdrop : line.drop kMaxProbeSize = [] := List.drop_eq_nil_of_le hlen
    have hlast : (receive cfg kMaxPayload { r with probe := some ([] ++ line) } t).1 = none := by
      rw [receive, if_pos hm, receiveProbed, if_neg htz, if_neg (by simp)]
      dsimp only
      split_ifs
      · rfl
      · rw [receiveText_terminator cfg _ t ht, hline]
        rfl
    rw [receptions_append, hrec, hafter, hdrop, receptions, hlast]
    rfl
  · have htake : (line.take kMaxProbeSize).length = kMaxProbeSize := by
      rw [List.length_take]
      omega
    obtain ⟨x, rest, hrest⟩ : ∃ x rest, line.drop kMaxProbeSize = x::rest := by
      apply List.exists_cons_of_ne_nil
      intro hnil
      exact hlen (List.drop_eq_nil_iff.mp hnil)
    have hsplit : line = line.take kMaxProbeSize ++ x::rest := by
      rw [← hrest, List.take_append_drop]
    have hmem : ∀ b ∈ x::rest, b ≠ kFrameDelimiter ∧ CommandParser.isTerminator b = false := by
      intro b hmem
      exact hb b (by rw [hsplit]; exact List.mem_append_right _ hmem)
    have hcount : line.length = kMaxProbeSize+(x::rest).length := by
      rw [← htake, ← List.length_append, ← hsplit]
    obtain ⟨hrec, hafter⟩ := receptions_probe cfg r [] (line.take kMaxProbeSize) hm hp
      (fun h => hz (List.mem_of_mem_take h)) (by simp)
    have hover := receive_overflow cfg { r with probe := some ([] ++ line.take kMaxProbeSize) } _ x
      hm rfl (by simp [htake]) (hmem x (by simp)).1
    have htail := receptions_text_line cfg { r with probe := none } (x::rest) t hm hline rfl hmem ht
      (by omega)
    have hcons : receptions cfg kMaxPayload { r with probe := some ([] ++ line.take kMaxProbeSize) }
        (x::rest ++ [t]) =
        receptions cfg kMaxPayload { r with probe := none } (x::rest ++ [t]) := by
      simp only [List.cons_append, receptions, hover]
    rw [hrest]
    nth_rewrite 1 [hsplit]
    rw [List.append_assoc, receptions_append, hrec, hafter, hcons, htail, htake, hcount,
      List.replicate_add, List.append_assoc]

theorem receptions_failed_probe (r : Receiver) (p line : List UInt8) (t : UInt8)
    (hm : r.mode = .text) (hline : r.line = [])
    (hno : r.probe.any (isHandshake kMaxPayload) = false) (hz : kFrameDelimiter ∉ p)
    (hlen : p.length ≤ kMaxProbeSize) (hp : isHandshake kMaxPayload p = false)
    (hb : ∀ b ∈ line, b ≠ kFrameDelimiter ∧ CommandParser.isTerminator b = false)
    (ht : CommandParser.isTerminator t = true) (hl : line.length ≤ cfg.kMaxLineLen-1) :
    receptions cfg kMaxPayload r
        (kFrameDelimiter :: (p ++ kFrameDelimiter :: (line ++ [t]))) =
      List.replicate (p.length+line.length+2) none ++
        [lineReception cfg (line.drop kMaxProbeSize)] := by
  have hfirst := receive_zero cfg r hm hno
  obtain ⟨hrec, hafter⟩ := receptions_probe cfg { r with probe := some [] } [] p hm rfl hz
    (by simpa using hlen)
  have hsecond := receive_zero cfg { r with probe := some ([] ++ p) } hm (by simpa using hp)
  have hrest := receptions_probed_line cfg { r with probe := some [] } line t hm hline rfl hb ht hl
  have hcount : p.length+line.length+2 = 1+(p.length+(1+line.length)) := by omega
  rw [receptions, hfirst, receptions_append, hrec, hafter, receptions, hsecond, hrest, hcount,
    List.replicate_add, List.replicate_add, List.replicate_add]
  simp

end Stream

section Slot

variable (cfg : Cfg) (env : Environment)

/-- The command line without what text does not depend on: the slot for framed
commands and the buffer of an idle probe. -/
def forget (c : CLI) : CLI :=
  { c with
    hasFramedCommand := false
    probeBuf := if c.probeActive then c.probeBuf else [] }

theorem tryHandshakeProbe_rejects (c : CLI) (hr : c.hasRouter = true)
    (hno : isHandshake kMaxPayload c.probeBuf = false) :
    c.tryHandshakeProbe kMaxPayload (protocolHandler env) = (false, c) := by
  rcases tryHandshakeProbe_cases kMaxPayload (protocolHandler env) c hr with ⟨-, h⟩ | ⟨hyes, -⟩
  · exact h
  · exact absurd (hno.symm.trans hyes) (by decide)

theorem processTextByte_forget (c : CLI) (b : UInt8) (hr : c.hasRouter = true)
    (hno : b = kFrameDelimiter → c.probeActive = true → isHandshake kMaxPayload c.probeBuf = false) :
    (forget c).processTextByte cfg kMaxPayload (protocolHandler env) b =
        (false, forget (c.processTextByte cfg kMaxPayload (protocolHandler env) b).2) ∧
      (c.processTextByte cfg kMaxPayload (protocolHandler env) b).1 = false := by
  have hactive : (forget c).probeActive = c.probeActive := rfl
  unfold CLI.processTextByte
  rw [hactive]
  cases ha : c.probeActive with
  | false =>
    by_cases hb : b = kFrameDelimiter
    · rw [if_pos hb, if_pos hb]
      simp [forget]
    · rw [if_neg hb, if_neg hb]
      simp [forget, CLI.feedParser, ha]
  | true =>
    have hbuf : (forget c).probeBuf = c.probeBuf := if_pos ha
    rw [hbuf]
    by_cases hb : b = kFrameDelimiter
    · have hf := tryHandshakeProbe_rejects env (forget c) hr (by rw [hbuf]; exact hno hb ha)
      have hc := tryHandshakeProbe_rejects env c hr (hno hb ha)
      rw [if_pos hb, if_pos hb, hf, hc, ite_self, ite_self]
      simp [forget]
    · rw [if_neg hb, if_neg hb, if_pos rfl, if_pos rfl]
      split_ifs
      · simp [forget]
      · simp [forget, CLI.feedParser]

theorem processTextBytes_forget (c : CLI) (r : Receiver) (held : Option Received) (bs : List UInt8)
    (h : Tracks (forget c) r held) (hm : c.mode = .text)
    (hno : ∀ e ∈ receptions cfg kMaxPayload r bs, e ≠ some .handshake) :
    (forget c).processTextBytes cfg kMaxPayload (protocolHandler env) bs =
        forget (c.processTextBytes cfg kMaxPayload (protocolHandler env) bs) ∧
      (c.processTextBytes cfg kMaxPayload (protocolHandler env) bs).mode = .text := by
  induction bs generalizing c r held with
  | nil => exact ⟨rfl, hm⟩
  | cons b bs ih =>
    have hr : r.mode = .text := h.mode.symm.trans hm
    have hbyte : (receive cfg kMaxPayload r b).1 ≠ some .handshake := hno _ (by simp [receptions])
    have hprobe : b = kFrameDelimiter → c.probeActive = true →
        isHandshake kMaxPayload c.probeBuf = false := by
      rintro rfl ha
      have hsome : r.probe.isSome = true := h.probeActive.symm.trans ha
      obtain ⟨q, hq⟩ := Option.isSome_iff_exists.mp hsome
      have hbuf : c.probeBuf = q := by
        have hforget : (forget c).probeBuf = c.probeBuf := if_pos ha
        rw [← hforget, h.probeBuf, hq]
        rfl
      rw [hbuf]
      rw [receive, if_pos hr, receiveProbed, if_pos rfl, hq, Option.any_some] at hbyte
      cases hyes : isHandshake kMaxPayload q with
      | false => rfl
      | true => simp [hyes] at hbyte
    obtain ⟨hstep, hdone⟩ := processTextByte_forget cfg env c b h.router hprobe
    have hmode := processTextByte_mode cfg kMaxPayload (protocolHandler env) c h.router hm b
    rw [hdone] at hmode
    obtain ⟨htracks, -⟩ := processByte_follows cfg env (forget c) r held b h
    have hprocess : (forget c).processByte cfg kMaxPayload (protocolHandler env) b =
        forget (c.processTextByte cfg kMaxPayload (protocolHandler env) b).2 := by
      have htext : (forget c).mode = .text := hm
      rw [CLI.processByte, if_pos htext, hstep]
    rw [hprocess] at htracks
    rw [CLI.processTextBytes, CLI.processTextBytes, hstep, hdone]
    exact ih _ _ _ htracks hmode (fun e he => hno e (by simp [receptions, he]))

theorem receive_text_mode (r : Receiver) (b : UInt8) (hm : r.mode = .text)
    (hno : (receive cfg kMaxPayload r b).1 ≠ some .handshake) :
    (receive cfg kMaxPayload r b).2.mode = .text ∧
      (receive cfg kMaxPayload r b).1 ≠ some .exit := by
  have htext : ∀ r : Receiver, (receiveText cfg r b).2.mode = r.mode ∧
      (receiveText cfg r b).1 ≠ some .exit := by
    intro r
    unfold receiveText
    dsimp only
    split_ifs <;> simp
  rw [receive, if_pos hm, receiveProbed] at hno ⊢
  split_ifs at hno ⊢ with hb hyes hp hl
  · exact absurd rfl hno
  · exact ⟨hm, by simp⟩
  · exact ⟨(htext r).1.trans hm, (htext r).2⟩
  · exact ⟨hm, by simp⟩
  · exact ⟨(htext { r with probe := none }).1.trans hm, (htext { r with probe := none }).2⟩

theorem after_text_mode (r : Receiver) (bs : List UInt8) (hm : r.mode = .text)
    (hno : ∀ e ∈ receptions cfg kMaxPayload r bs, e ≠ some .handshake) :
    (after cfg kMaxPayload r bs).mode = .text ∧
      ExitLast (receptions cfg kMaxPayload r bs) := by
  induction bs generalizing r with
  | nil => exact ⟨hm, List.Pairwise.nil⟩
  | cons b bs ih =>
    obtain ⟨hmode, hexit⟩ := receive_text_mode cfg r b hm (hno _ (by simp [receptions]))
    obtain ⟨hafter, hlast⟩ := ih _ hmode (fun e he => hno e (by simp [receptions, he]))
    exact ⟨hafter, List.pairwise_cons.mpr ⟨fun _ _ => hexit, hlast⟩⟩

theorem tick_text (fuel : ℕ) (c : CLI) (r : Receiver) (held : Option Received) (read : Read)
    (h : Tracks (forget c) r held) (hm : c.mode = .text)
    (hno : ∀ e ∈ receptions cfg kMaxPayload r read.bytes, e ≠ some .handshake) :
    ∃ c' es, tick cfg env (fuel+1) c read = some c' ∧
      Tracks (forget c') (after cfg kMaxPayload r read.bytes) none ∧ c'.mode = .text ∧
      answers c' = answers c ++ es ∧
      Answered cfg (settle held (receptions cfg kMaxPayload r read.bytes)).toList es := by
  have hr : r.mode = .text := h.mode.symm.trans hm
  obtain ⟨-, hexit⟩ := after_text_mode cfg r read.bytes hr hno
  obtain ⟨htracks, hans⟩ := processBytes_follows cfg env (forget c) r held read.bytes h hexit
  obtain ⟨heq, hmode⟩ := processTextBytes_forget cfg env c r held read.bytes h hm hno
  have hforget : (forget c).processBytes cfg kMaxPayload (protocolHandler env) read.bytes =
      forget (c.processTextBytes cfg kMaxPayload (protocolHandler env) read.bytes) :=
    (if_pos hm).trans heq
  have hread : c.tick cfg kMaxPayload (protocolHandler env) read =
      c.processTextBytes cfg kMaxPayload (protocolHandler env) read.bytes := if_pos hm
  have htick : tick cfg env (fuel+1) c read = drain cfg env (fuel+1)
      (c.tick cfg kMaxPayload (protocolHandler env) read) := rfl
  rw [hforget] at htracks hans
  rw [htick, hread]
  generalize c.processTextBytes cfg kMaxPayload (protocolHandler env) read.bytes = c₁ at *
  have hwait : waiting c₁ = settle held (receptions cfg kMaxPayload r read.bytes) := by
    rw [← htracks.waiting]
    simp [waiting, CLI.hasCommand, forget, hmode, taken]
  obtain ⟨builder, es, hanswered, hdrain⟩ := drain_spec cfg env fuel c₁ htracks.sync
  rw [hwait] at hanswered
  refine ⟨_, es, hdrain, ?_, ?_, ?_, hanswered⟩
  · have hrelease := release_tracks (forget c₁) _ _ builder (c₁.history ++ es) htracks
    have hsame : { release (forget c₁) with builder := builder, history := c₁.history ++ es } =
        forget { release c₁ with builder := builder, history := c₁.history ++ es } := by
      simp [release, forget, hmode]
    rw [hsame] at hrelease
    exact hrelease
  · simp [release, hmode]
  · have hans' : answers c₁ = answers c := hans
    rw [← hans']
    exact Answered.answers_eq cfg _ es _ _ hanswered rfl

/-- Undisturbed text commands are answered, however they are cut into reads. -/
theorem ticks_text (fuel : ℕ) (reads : List Read) (c : CLI) (r : Receiver)
    (h : Tracks (forget c) r none) (hm : c.mode = .text)
    (hno : ∀ e ∈ receptions cfg kMaxPayload r (reads.flatMap Read.bytes), e ≠ some .handshake)
    (hund : Undisturbed (receptions cfg kMaxPayload r (reads.flatMap Read.bytes))) :
    ∃ c' es, reads.foldlM (tick cfg env (fuel+1)) c = some c' ∧ answers c' = answers c ++ es ∧
      Answered cfg (commands (receptions cfg kMaxPayload r (reads.flatMap Read.bytes))) es := by
  induction reads generalizing c r with
  | nil => exact ⟨c, [], rfl, (List.append_nil _).symm, Answered.nil⟩
  | cons read reads ih =>
    rw [List.flatMap_cons, receptions_append] at hno hund ⊢
    obtain ⟨hhead, hrest, -⟩ := List.pairwise_append.mp hund
    obtain ⟨c₁, es₁, htick, htracks, hm₁, hans, hanswered⟩ := tick_text cfg env fuel c r none read h
      hm (fun e he => hno e (List.mem_append_left _ he))
    obtain ⟨c₂, es₂, hticks, hans₂, hanswered₂⟩ := ih c₁ _ htracks hm₁
      (fun e he => hno e (List.mem_append_right _ he)) hrest
    rw [settle_toList none _ ⟨hhead, Or.inl rfl⟩] at hanswered
    refine ⟨c₂, es₁ ++ es₂, ?_, ?_, ?_⟩
    · rw [List.foldlM_cons, htick]
      exact hticks
    · rw [hans₂, hans, List.append_assoc]
    · rw [commands_append]
      exact hanswered.append cfg _ _ _ _ hanswered₂

end Slot

section FailedProbe

variable (cfg : Cfg) (env : Environment)

/-- TEXT mode between two lines: no command waits, and the probe that may be
running is not a handshake. -/
structure AtRest (c : CLI) : Prop where
  ready : Ready c
  mode : c.mode = .text
  line : c.parser.buf = []
  idle : c.hasPending = false
  probe : c.probeActive = true → isHandshake kMaxPayload c.probeBuf = false

theorem AtRest.tracks (c : CLI) (h : AtRest c) :
    ∃ r, Tracks (forget c) r none ∧ r.mode = .text ∧ r.line = [] ∧
      r.probe.any (isHandshake kMaxPayload) = false := by
  have hwait : waiting (forget c) = none := by
    simp [waiting, CLI.hasCommand, forget, h.mode, h.idle]
  use ReadLoops.view c
  constructor
  · exact
      { router := h.ready.router
        mode := rfl
        line := rfl
        probeActive := by cases ha : c.probeActive <;> simp [ReadLoops.view, forget, ha]
        probeBuf := by cases ha : c.probeActive <;> simp [ReadLoops.view, forget, ha]
        decoder := rfl
        sync := h.ready.sync
        text := fun _ => rfl
        waiting := hwait }
  · refine ⟨h.mode, h.line, ?_⟩
    cases ha : c.probeActive with
    | false => simp [ReadLoops.view, ha]
    | true => simpa [ReadLoops.view, ha] using h.probe ha

theorem initial_atRest : AtRest CLI.initial.setProtocolHandler :=
  { ready := initial_ready
    mode := rfl
    line := rfl
    idle := rfl
    probe := by simp [CLI.initial, CLI.setProtocolHandler] }

theorem lineReception_last (n : ℕ) (line : List UInt8) :
    Undisturbed (List.replicate n none ++ [lineReception cfg line]) ∧
      (∀ e ∈ List.replicate n none ++ [lineReception cfg line], e ≠ some .handshake) ∧
      commands (List.replicate n none ++ [lineReception cfg line]) =
        ((CommandParser.parseLine cfg line).map (Received.mk none)).toList := by
  refine ⟨?_, ?_, ?_⟩
  · apply List.pairwise_append.mpr
    refine ⟨?_, List.pairwise_singleton _ _, ?_⟩
    · simp [List.pairwise_replicate]
    · intro e he
      simp [List.eq_of_mem_replicate he]
  · intro e he
    rcases List.mem_append.mp he with h | h
    · simp [List.eq_of_mem_replicate h]
    · rw [List.mem_singleton.mp h, lineReception]
      cases CommandParser.parseLine cfg line <;> simp
  · rw [commands_append, lineReception]
    cases CommandParser.parseLine cfg line <;> simp [commands, Reception.received]

def newAnswers (fuel : ℕ) (c : CLI) (reads : List Read) : Option (List Effect) :=
  (reads.foldlM (tick cfg env fuel) c).map fun c' => (answers c').drop (answers c).length

theorem line_answered (fuel : ℕ) (c : CLI) (r : Receiver) (reads : List Read) (n : ℕ)
    (line : List UInt8) (h : Tracks (forget c) r none) (hm : c.mode = .text)
    (hrec : receptions cfg kMaxPayload r (reads.flatMap Read.bytes) =
      List.replicate n none ++ [lineReception cfg line]) :
    ∃ es, newAnswers cfg env (fuel+1) c reads = some es ∧
      Answered cfg ((CommandParser.parseLine cfg line).map (Received.mk none)).toList es := by
  obtain ⟨hund, hno, hcommands⟩ := lineReception_last cfg n line
  rw [← hrec] at hund hno hcommands
  obtain ⟨c', es, hticks, hans, hanswered⟩ := ticks_text cfg env fuel reads c r h hm hno hund
  rw [hcommands] at hanswered
  refine ⟨es, ?_, hanswered⟩
  rw [newAnswers, hticks, Option.map_some, hans, List.drop_left]

def AnswerAlike (env' : Environment) (fuel : ℕ) (c c' : CLI) (reads reads' : List Read) : Prop :=
  ∃ rs es es', newAnswers cfg env fuel c reads = some es ∧
    newAnswers cfg env' fuel c' reads' = some es' ∧ Answered cfg rs es ∧ Answered cfg rs es'

theorem answerAlike_iff (env' : Environment) (fuel : ℕ) (c c' : CLI) (reads reads' : List Read)
    (cmds cmds' : Option Command) (es es' : List Effect)
    (h : newAnswers cfg env fuel c reads = some es)
    (h' : newAnswers cfg env' fuel c' reads' = some es')
    (hes : Answered cfg (cmds.map (Received.mk none)).toList es)
    (hes' : Answered cfg (cmds'.map (Received.mk none)).toList es') :
    AnswerAlike cfg env env' fuel c c' reads reads' ↔ cmds = cmds' := by
  constructor
  · rintro ⟨rs, fs, fs', hf, hf', hrs, hrs'⟩
    have he : fs = es := Option.some_inj.mp (hf.symm.trans h)
    have he' : fs' = es' := Option.some_inj.mp (hf'.symm.trans h')
    rw [he] at hrs
    rw [he'] at hrs'
    have hpush : (cmds.map (Received.mk none)).toList.map Received.command =
        (cmds'.map (Received.mk none)).toList.map Received.command := by
      rw [← hes.commands_offered, ← hes'.commands_offered, hrs.commands_offered, hrs'.commands_offered]
    cases cmds <;> cases cmds' <;> simp_all
  · rintro rfl
    exact ⟨_, es, es', h, h', hes, hes'⟩

/-- After a zero, a probe that is no handshake and another zero, a valid line is
answered as by a new command line if and only if it means the same without the
bytes that the probe buffer takes; a line that fits into the buffer never is. -/
theorem failed_probe_iff (env' : Environment) (fuel : ℕ) (c : CLI) (p line : List UInt8)
    (t : UInt8) (cmd : Command) (reads fresh : List Read) (h : AtRest c)
    (hz : kFrameDelimiter ∉ p) (hlen : p.length ≤ kMaxProbeSize)
    (hp : isHandshake kMaxPayload p = false) (hl : ValidLine cfg line t cmd)
    (hreads : reads.flatMap Read.bytes =
      kFrameDelimiter :: (p ++ kFrameDelimiter :: (line ++ [t])))
    (hfresh : fresh.flatMap Read.bytes = line ++ [t]) :
    AnswerAlike cfg env env' (fuel+1) c CLI.initial.setProtocolHandler reads fresh ↔
      CommandParser.parseLine cfg (line.drop kMaxProbeSize) = CommandParser.parseLine cfg line := by
  obtain ⟨r, htracks, hm, hline, hno⟩ := h.tracks
  have hrec := receptions_failed_probe cfg r p line t hm hline hno hz hlen hp hl.bytes hl.terminator
    hl.fits
  have hrec' := receptions_text_line cfg initial line t rfl rfl rfl hl.bytes hl.terminator hl.fits
  rw [← hreads] at hrec
  rw [← hfresh] at hrec'
  obtain ⟨es, hes, hanswered⟩ := line_answered cfg env fuel c r reads _ _ htracks h.mode hrec
  obtain ⟨es', hes', hanswered'⟩ := line_answered cfg env' fuel
    CLI.initial.setProtocolHandler initial fresh _ _ initial_tracks rfl hrec'
  exact answerAlike_iff cfg env env' (fuel+1) _ _ reads fresh _ _ es es' hes hes' hanswered hanswered'

theorem short_line_lost (line : List UInt8) (t : UInt8) (cmd : Command)
    (hl : ValidLine cfg line t cmd) (hlen : line.length ≤ kMaxProbeSize) :
    CommandParser.parseLine cfg (line.drop kMaxProbeSize) ≠ CommandParser.parseLine cfg line := by
  rw [List.drop_eq_nil_of_le hlen, parseLine_nil, hl.parsed]
  simp

end FailedProbe

section Lines

def probedLine : Read := ⟨[0, 1, 0] ++ ascii "1 0 5\n", by decide⟩

theorem failed_probe_swallows :
    AnswerAlike plainCfg alternating alternating 1 CLI.initial.setProtocolHandler
      CLI.initial.setProtocolHandler [probedLine] [plainLine] ↔
    CommandParser.parseLine plainCfg ((ascii "1 0 5").drop kMaxProbeSize) =
      CommandParser.parseLine plainCfg (ascii "1 0 5") :=
  failed_probe_iff plainCfg alternating alternating 0 CLI.initial.setProtocolHandler [1]
    (ascii "1 0 5") 0x0A ⟨1, 0, 0x40A00000⟩ [probedLine] [plainLine] initial_atRest (by decide)
    (by decide) (by decide +kernel)
    ⟨by decide +kernel, by decide, by decide, by decide +kernel⟩ (by decide) (by decide)

/-- The line behind the probe is not answered at all. -/
theorem probed_line_lost :
    newAnswers plainCfg alternating 1 CLI.initial.setProtocolHandler [probedLine] = some [] ∧
    newAnswers plainCfg alternating 1 CLI.initial.setProtocolHandler [plainLine] =
      some [.tryPush ⟨1, 0, 0x40A00000⟩ true, .write .tick (ascii "ACK 1\n")] ∧
    ¬ AnswerAlike plainCfg alternating alternating 1 CLI.initial.setProtocolHandler
      CLI.initial.setProtocolHandler [probedLine] [plainLine] := by
  have hprobed : newAnswers plainCfg alternating 1 CLI.initial.setProtocolHandler [probedLine] =
      some [] := by decide +kernel
  have hplain : newAnswers plainCfg alternating 1 CLI.initial.setProtocolHandler [plainLine] =
      some [.tryPush ⟨1, 0, 0x40A00000⟩ true, .write .tick (ascii "ACK 1\n")] := by
    decide +kernel
  refine ⟨hprobed, hplain, ?_⟩
  rintro ⟨rs, es, es', hes, hes', hrs, hrs'⟩
  rw [hprobed, Option.some_inj] at hes
  rw [hplain, Option.some_inj] at hes'
  have hnone := hrs.commands_offered
  have hone := hrs'.commands_offered
  rw [← hes] at hnone
  rw [← hes', ← hnone] at hone
  simp [offered] at hone

end Lines

end SputterOS.TextProbe
