import SputterOS.Kernel.PipelineRefinement
import SputterOS.Kernel.TextProbe
import SputterOS.Logic.CommandFields

/-!
# A session at a terminal

Lines are typed in TEXT mode and arrive in reads of any lengths, a read ending
the line of one command at most. Every line that spells out a command is answered
in turn, and what is acknowledged reaches the application.
-/

set_option autoImplicit false

namespace SputterOS.TextSession
open SputterOS.FrameCodec SputterOS.Logic SputterOS.CommandLine SputterOS.ReceivedStream
  SputterOS.ScheduledCommsTask SputterOS.CommandReplies SputterOS.ReadTimeline SputterOS.TextProbe
  SputterOS.CommandPipeline SputterOS.PipelineRefinement SputterOS.CommandFields
  Foundation.Transition Foundation.NumberText
open SputterOS.LineGrammar (parseLine_eq_some_iff parseLine_isSome_iff)

section Stream

variable (cfg : Cfg)

def heard : List UInt8 → List UInt8 → List Command
  | _, [] => []
  | text, b::bs =>
    if CommandParser.isTerminator b then (CommandParser.parseLine cfg text).toList ++ heard [] bs
    else heard (text ++ [b]) bs

def leftover : List UInt8 → List UInt8 → List UInt8
  | text, [] => text
  | text, b::bs => if CommandParser.isTerminator b then leftover [] bs else leftover (text ++ [b]) bs

/-- Bytes without a zero, in lines that fit the buffer of the parser. -/
def Plain : List UInt8 → List UInt8 → Prop
  | _, [] => True
  | text, b::bs =>
    b ≠ kFrameDelimiter ∧
      if CommandParser.isTerminator b then Plain [] bs
      else text.length < cfg.kMaxLineLen-1 ∧ Plain (text ++ [b]) bs

def Paced : List UInt8 → List Read → Prop
  | _, [] => True
  | text, read::reads =>
    (heard cfg text read.bytes).length ≤ 1 ∧ Paced (leftover text read.bytes) reads

theorem heard_append (text xs ys : List UInt8) :
    heard cfg text (xs ++ ys) = heard cfg text xs ++ heard cfg (leftover text xs) ys := by
  induction xs generalizing text with
  | nil => rfl
  | cons x xs ih =>
    rw [List.cons_append, heard, heard, leftover]
    split_ifs
    · rw [ih, List.append_assoc]
    · exact ih _

theorem leftover_append (text xs ys : List UInt8) :
    leftover text (xs ++ ys) = leftover (leftover text xs) ys := by
  induction xs generalizing text with
  | nil => rfl
  | cons x xs ih =>
    rw [List.cons_append, leftover, leftover]
    split_ifs
    · exact ih _
    · exact ih _

theorem plain_append (text xs ys : List UInt8) :
    Plain cfg text (xs ++ ys) ↔ Plain cfg text xs ∧ Plain cfg (leftover text xs) ys := by
  induction xs generalizing text with
  | nil => simp [Plain, leftover]
  | cons x xs ih =>
    rw [List.cons_append, Plain, Plain, leftover]
    split_ifs
    · rw [ih, and_assoc]
    · rw [ih, and_assoc, and_assoc]

end Stream

section Ticks

variable (cfg : Cfg) (env : Environment)

/-- TEXT mode inside a line, outside of a probe. -/
structure Typing (c : CLI) (text : List UInt8) : Prop where
  ready : Ready c
  mode : c.mode = .text
  probe : c.probeActive = false
  line : c.parser.buf = text

theorem waiting_text (c : CLI) (hm : c.mode = .text) :
    waiting c = if c.hasPending then some ⟨none, c.parser.pending⟩ else none := by
  simp [waiting, CLI.hasCommand, hm, taken]

structure Fed (c c' : CLI) (text : List UInt8) (cmds : List Command) : Prop where
  typing : Typing c' text
  history : c'.history = c.history
  waiting : waiting c' = (cmds.getLast?.map (Received.mk none)).or (waiting c)

theorem data_typed (c : CLI) (text : List UInt8) (b : UInt8) (h : Typing c text)
    (hz : b ≠ kFrameDelimiter) (hb : CommandParser.isTerminator b = false)
    (hl : text.length < cfg.kMaxLineLen-1) :
    ∃ c', c.processTextByte cfg kMaxPayload (protocolHandler env) b = (false, c') ∧
      Fed c c' (text ++ [b]) [] := by
  have hfed : c.parser.feedByte cfg b = (false, { c.parser with buf := text ++ [b] }) := by
    unfold CommandParser.feedByte
    rw [h.line, if_neg (by simp [hb]), if_neg (Nat.not_le.mpr hl)]
  refine ⟨{ c with parser := { c.parser with buf := text ++ [b] } }, ?_, ?_⟩
  · rw [CLI.processTextByte, if_neg hz, if_neg (by simp [h.probe]), CLI.feedParser, hfed]
    rfl
  · exact
      { typing := ⟨⟨h.ready.router, h.ready.sync⟩, h.mode, h.probe, rfl⟩
        history := rfl
        waiting := by simp [waiting_text, h.mode] }

theorem terminator_typed (c : CLI) (text : List UInt8) (t : UInt8) (h : Typing c text)
    (ht : CommandParser.isTerminator t = true) :
    ∃ c', c.processTextByte cfg kMaxPayload (protocolHandler env) t = (false, c') ∧
      Fed c c' [] (CommandParser.parseLine cfg text).toList := by
  have hstep : c.processTextByte cfg kMaxPayload (protocolHandler env) t =
      (false, c.feedParser cfg t) := by
    rw [CLI.processTextByte, if_neg (terminator_ne t ht), if_neg (by simp [h.probe])]
  cases hparse : CommandParser.parseLine cfg text with
  | none =>
    have hfed : c.parser.feedByte cfg t = (false, { c.parser with buf := [] }) := by
      unfold CommandParser.feedByte
      rw [if_pos ht, h.line, hparse]
      split_ifs with hl
      · rw [← List.length_eq_zero_iff.mp hl, ← h.line]
      · rfl
    refine ⟨{ c with parser := { c.parser with buf := [] } }, ?_, ?_⟩
    · rw [hstep, CLI.feedParser, hfed]
      rfl
    · exact
        { typing := ⟨⟨h.ready.router, h.ready.sync⟩, h.mode, h.probe, rfl⟩
          history := rfl
          waiting := by simp [waiting_text, h.mode] }
  | some cmd =>
    have hl : ¬ text.length = 0 := by
      intro hnil
      rw [List.length_eq_zero_iff.mp hnil, parseLine_nil] at hparse
      cases hparse
    have hfed : c.parser.feedByte cfg t =
        (true, { buf := [], pending := cmd, hasPending := true }) := by
      unfold CommandParser.feedByte
      rw [if_pos ht, h.line, if_neg hl, hparse]
    refine ⟨{ c with
      parser := { buf := [], pending := cmd, hasPending := true }, hasPending := true }, ?_, ?_⟩
    · rw [hstep, CLI.feedParser, hfed]
      rfl
    · exact
        { typing := ⟨⟨h.ready.router, rfl⟩, h.mode, h.probe, rfl⟩
          history := rfl
          waiting := by simp [waiting_text, h.mode] }

theorem bytes_typed (c : CLI) (text bs : List UInt8) (h : Typing c text) (hplain : Plain cfg text bs) :
    Fed c (c.processTextBytes cfg kMaxPayload (protocolHandler env) bs) (leftover text bs)
      (heard cfg text bs) := by
  induction bs generalizing c text with
  | nil => exact { typing := h, history := rfl, waiting := by simp [CLI.processTextBytes, heard] }
  | cons b bs ih =>
    obtain ⟨hz, hrest⟩ := hplain
    cases hb : CommandParser.isTerminator b with
    | true =>
      rw [if_pos hb] at hrest
      obtain ⟨c₁, hstep, hfirst⟩ := terminator_typed cfg env c text b h hb
      have hlast := ih c₁ [] hfirst.typing hrest
      rw [CLI.processTextBytes, hstep, leftover, if_pos hb, heard, if_pos hb]
      exact
        { typing := hlast.typing
          history := hlast.history.trans hfirst.history
          waiting := by
            rw [List.getLast?_append, Option.map_or, Option.or_assoc, ← hfirst.waiting]
            exact hlast.waiting }
    | false =>
      have hno : ¬ CommandParser.isTerminator b = true := by simp [hb]
      rw [if_neg hno] at hrest
      obtain ⟨c₁, hstep, hfirst⟩ := data_typed cfg env c text b h hz hb hrest.1
      have hlast := ih c₁ (text ++ [b]) hfirst.typing hrest.2
      rw [CLI.processTextBytes, hstep, leftover, if_neg hno, heard, if_neg hno]
      exact
        { typing := hlast.typing
          history := hlast.history.trans hfirst.history
          waiting := hlast.waiting.trans (congrArg _ hfirst.waiting) }

theorem tick_typed (fuel : ℕ) (c : CLI) (text : List UInt8) (read : Read) (h : Typing c text)
    (hidle : waiting c = none) (hplain : Plain cfg text read.bytes)
    (hone : (heard cfg text read.bytes).length ≤ 1) :
    ∃ c' es, tick cfg env (fuel+1) c read = some c' ∧ Typing c' (leftover text read.bytes) ∧
      waiting c' = none ∧ c'.history = c.history ++ es ∧
      Answered cfg ((heard cfg text read.bytes).map (Received.mk none)) es := by
  have htick : tick cfg env (fuel+1) c read = drain cfg env (fuel+1)
      (c.processTextBytes cfg kMaxPayload (protocolHandler env) read.bytes) := by
    rw [tick, CLI.tick, if_pos h.mode]
  have hbytes := bytes_typed cfg env c text read.bytes h hplain
  rw [htick]
  generalize c.processTextBytes cfg kMaxPayload (protocolHandler env) read.bytes = c₁ at hbytes
  obtain ⟨builder, es, hanswered, hdrain⟩ := drain_spec cfg env fuel c₁ hbytes.typing.ready.sync
  have hlast : (waiting c₁).toList = (heard cfg text read.bytes).map (Received.mk none) := by
    rw [hbytes.waiting, hidle, Option.or_none]
    generalize heard cfg text read.bytes = cmds at hone
    rcases cmds with _ | ⟨cmd, _ | ⟨_, _⟩⟩
    · rfl
    · rfl
    · simp at hone
  rw [hlast] at hanswered
  have hmode := hbytes.typing.mode
  refine ⟨_, es, hdrain, ⟨release_ready c₁ _ _ hbytes.typing.ready, ?_, ?_, ?_⟩,
    release_idle c₁ _ _, ?_, hanswered⟩
  · simp [release, hmode]
  · simp [release, hmode, hbytes.typing.probe]
  · simp [release, hmode, hbytes.typing.line]
  · rw [← hbytes.history]

/-- The commands of the lines are answered once each and in order, and nothing else
is written. -/
theorem ticks_typed (fuel : ℕ) (c : CLI) (text : List UInt8) (reads : List Read)
    (h : Typing c text) (hidle : waiting c = none)
    (hplain : Plain cfg text (reads.flatMap Read.bytes)) (hpaced : Paced cfg text reads) :
    ∃ c' es, reads.foldlM (tick cfg env (fuel+1)) c = some c' ∧
      Typing c' (leftover text (reads.flatMap Read.bytes)) ∧ waiting c' = none ∧
      c'.history = c.history ++ es ∧
      Answered cfg ((heard cfg text (reads.flatMap Read.bytes)).map (Received.mk none)) es := by
  induction reads generalizing c text with
  | nil => exact ⟨c, [], rfl, h, hidle, (List.append_nil _).symm, Answered.nil⟩
  | cons read reads ih =>
    rw [List.flatMap_cons, plain_append] at hplain
    obtain ⟨c₁, es₁, htick, htyping, hwait, hhist, hanswered⟩ :=
      tick_typed cfg env fuel c text read h hidle hplain.1 hpaced.1
    obtain ⟨c₂, es₂, hticks, htyping₂, hwait₂, hhist₂, hanswered₂⟩ :=
      ih c₁ _ htyping hwait hplain.2 hpaced.2
    refine ⟨c₂, es₁ ++ es₂, ?_, ?_, hwait₂, ?_, ?_⟩
    · rw [List.foldlM_cons, htick]
      exact hticks
    · rw [List.flatMap_cons, leftover_append]
      exact htyping₂
    · rw [hhist₂, hhist, List.append_assoc]
    · rw [List.flatMap_cons, heard_append, List.map_append]
      exact hanswered.append cfg _ _ _ _ hanswered₂

end Ticks

section Lines

/-- A text that spells out a command, its numbers in any way the parser reads. -/
def Spells (cfg : Cfg) (text : List UInt8) (cmd : Command) : Prop :=
  ∃ valueText rest, Written text cmd.id.toNat cmd.targetDevice.toNat valueText ∧
    strtof cfg.nanBits valueText = some (cmd.value, rest) ∧ cmd.id ≤ cfg.kMaxValidCommandID

structure Line where
  text : List UInt8
  terminator : UInt8
  command : Option Command

structure Line.Valid (cfg : Cfg) (l : Line) : Prop where
  bytes : ∀ b ∈ l.text, b ≠ kFrameDelimiter ∧ CommandParser.isTerminator b = false
  terminator : CommandParser.isTerminator l.terminator = true
  fits : l.text.length ≤ cfg.kMaxLineLen-1
  spells : ∀ cmd ∈ l.command, Spells cfg l.text cmd
  garbage : l.command = none → ¬ ∃ rest, LineGrammar.Line cfg l.text rest

def typed (lines : List Line) : List UInt8 := lines.flatMap fun l => l.text ++ [l.terminator]

variable (cfg : Cfg)

theorem ofInt_toNat (n : UInt8) : UInt8.ofInt n.toNat = n := by
  have hn := n.toNat_lt
  have hint := toNat_ofInt (n.toNat : ℤ)
  exact UInt8.toNat_inj.mp (by omega)

theorem parseLine_spells (hlong : 32 ≤ cfg.longBits) (text : List UInt8) (cmd : Command)
    (h : Spells cfg text cmd) : CommandParser.parseLine cfg text = some cmd := by
  obtain ⟨valueText, rest, hwritten, hvalue, hid⟩ := h
  have hbyte : ∀ n : UInt8, saturate cfg.longBits n.toNat = (n.toNat : ℤ) := by
    intro n
    have hn := n.toNat_lt
    exact saturate_of_range cfg.longBits hlong _ ⟨by omega, by omega⟩
  have hfields := (fields_written_iff cfg text rest (cmd.id.toNat : ℤ) (cmd.targetDevice.toNat : ℤ)
    cmd.value).mpr ⟨_, _, valueText, hwritten, (hbyte _).symm, (hbyte _).symm, hvalue⟩
  have hmax : cmd.id.toNat ≤ cfg.kMaxValidCommandID.toNat := UInt8.le_iff_toNat_le.mp hid
  refine (parseLine_eq_some_iff cfg text cmd).mpr ⟨_, _, cmd.value, rest, hfields,
    ⟨by omega, by omega⟩, ?_⟩
  rw [ofInt_toNat, ofInt_toNat]

theorem Line.Valid.parse (hlong : 32 ≤ cfg.longBits) (l : Line) (h : l.Valid cfg) :
    CommandParser.parseLine cfg l.text = l.command := by
  cases hcommand : l.command with
  | some cmd => exact parseLine_spells cfg hlong l.text cmd (h.spells cmd (by simp [hcommand]))
  | none =>
    rw [← Option.not_isSome_iff_eq_none, parseLine_isSome_iff]
    exact h.garbage hcommand

theorem spells_digits (cmd : Command) (idDigits deviceDigits valueText rest : List UInt8)
    (hid : idDigits ≠ []) (hidDigits : ∀ b ∈ idDigits, isDigit b = true) (hdevice : deviceDigits ≠ [])
    (hdeviceDigits : ∀ b ∈ deviceDigits, isDigit b = true)
    (hsep : CommandParser.separated valueText = true)
    (hidVal : digitsVal 10 idDigits = cmd.id.toNat)
    (hdeviceVal : digitsVal 10 deviceDigits = cmd.targetDevice.toNat)
    (hvalue : strtof cfg.nanBits valueText = some (cmd.value, rest))
    (hmax : cmd.id ≤ cfg.kMaxValidCommandID) :
    Spells cfg (idDigits ++ ([0x20] ++ deviceDigits ++ valueText)) cmd := by
  have hwritten := written_digits idDigits deviceDigits valueText hid hidDigits hdevice hdeviceDigits
    hsep
  rw [hidVal, hdeviceVal] at hwritten
  exact ⟨valueText, rest, hwritten, hvalue, hmax⟩

theorem line_collected (pre text bs : List UInt8)
    (hb : ∀ b ∈ text, b ≠ kFrameDelimiter ∧ CommandParser.isTerminator b = false)
    (hl : pre.length+text.length ≤ cfg.kMaxLineLen-1) :
    heard cfg pre (text ++ bs) = heard cfg (pre ++ text) bs ∧
      leftover pre (text ++ bs) = leftover (pre ++ text) bs ∧
      (Plain cfg pre (text ++ bs) ↔ Plain cfg (pre ++ text) bs) := by
  induction text generalizing pre with
  | nil => simp
  | cons b text ih =>
    obtain ⟨hz, hno⟩ := hb b List.mem_cons_self
    rw [List.length_cons] at hl
    have hrest := ih (pre ++ [b]) (fun x hx => hb x (List.mem_cons_of_mem b hx))
      (by rw [List.length_append, List.length_singleton]; omega)
    have hroom : pre.length < cfg.kMaxLineLen-1 := by omega
    rw [List.append_assoc, List.singleton_append] at hrest
    rw [List.cons_append, heard, leftover, Plain]
    simp only [hno, Bool.false_eq_true, if_false, hz, hroom, ne_eq, not_false_eq_true, true_and]
    exact hrest

theorem typed_heard (hlong : 32 ≤ cfg.longBits) (lines : List Line)
    (h : ∀ l ∈ lines, l.Valid cfg) :
    heard cfg [] (typed lines) = lines.filterMap Line.command ∧ leftover [] (typed lines) = [] ∧
      Plain cfg [] (typed lines) := by
  induction lines with
  | nil => exact ⟨rfl, rfl, trivial⟩
  | cons l lines ih =>
    have hl := h l List.mem_cons_self
    obtain ⟨hheard, hleft, hplain⟩ := ih fun x hx => h x (List.mem_cons_of_mem l hx)
    have hcons : typed (l::lines) = l.text ++ (l.terminator::typed lines) := by
      simp [typed]
    obtain ⟨hfirst, hover, hbytes⟩ := line_collected cfg [] l.text (l.terminator::typed lines)
      hl.bytes (by simpa using hl.fits)
    rw [hcons, hfirst, hover, hbytes, List.nil_append, heard, leftover, Plain, if_pos hl.terminator,
      if_pos hl.terminator, if_pos hl.terminator, hheard, hleft, hl.parse cfg hlong l]
    refine ⟨?_, rfl, terminator_ne _ hl.terminator, hplain⟩
    cases hcommand : l.command with
    | none => rw [List.filterMap_cons_none hcommand]; rfl
    | some cmd => rw [List.filterMap_cons_some hcommand]; rfl

end Lines

section Delivery

variable (cfg : Cfg) (env : Environment) (w : ControlTask.Wiring)

/-- What the lines typed at a terminal lead to on both sides of the queue. -/
structure Delivered (cmds handled : List Command) (c c' : CLI) : Prop where
  rest : AtRest c'
  probe : c'.probeActive = false
  answered : ∃ es, c'.history = c.history ++ es ∧
    Answered cfg (cmds.map (Received.mk none)) es ∧
    (answers c).filterMap acknowledged ++ accepted (es.filterMap offer) <+: handled

/-- Whatever the control task does meanwhile, every line that spells out a command is
answered in turn, and some rounds of the control task behind the session the
application has handled, in order, the commands that were acknowledged. -/
theorem lines_delivered (hlong : 32 ≤ cfg.longBits) (hvalid : w.validateDependencies = true)
    (atInit : Read) (as bs : List Action) (rounds : List (List Action)) (c c' : CLI)
    (lines : List Line) (hbefore : Between cfg env w atInit as c)
    (hafter : Between cfg env w atInit (as ++ bs) c') (hrest : AtRest c)
    (hprobe : c.probeActive = false) (hlines : ∀ l ∈ lines, l.Valid cfg)
    (hreads : (ticked cfg env w (run (step cfg env w) (start cfg env atInit) as) bs).flatMap
      Read.bytes = typed lines)
    (hpaced : Paced cfg [] (ticked cfg env w (run (step cfg env w) (start cfg env atInit) as) bs))
    (hrounds : ∀ r ∈ rounds, Round w r) (hroom : w.queueCapacity < (rounds.length-1)*w.limit) :
    Delivered cfg (lines.filterMap Line.command)
      (run (step cfg env w) (start cfg env atInit) (as ++ bs ++ rounds.flatten)).control.handled
      c c' := by
  obtain ⟨hheard, hleft, hplain⟩ := typed_heard cfg hlong lines hlines
  have htyping : Typing c [] := ⟨hrest.ready, hrest.mode, hprobe, hrest.line⟩
  have hidle : waiting c = none := by simp [waiting_text c hrest.mode, hrest.idle]
  obtain ⟨-, hticked⟩ := between_ticks cfg env w atInit as bs c c' hbefore hafter
  generalize ticked cfg env w (run (step cfg env w) (start cfg env atInit) as) bs = reads at *
  rw [← hreads] at hplain hheard hleft
  obtain ⟨c'', es, hticks, htyping', hidle', hhist, hanswered⟩ :=
    ticks_typed cfg (replaying env c'.history) 0 c [] reads htyping hidle hplain hpaced
  obtain rfl : c' = c'' := Option.some_inj.mp (hticked.symm.trans hticks)
  have hhandled := between_handled cfg env w hvalid atInit (as ++ bs) c c' es hafter hhist rounds
    hrounds hroom
  rw [hleft] at htyping'
  rw [hheard] at hanswered
  have hpending : c'.hasPending = false := by simpa [waiting_text c' htyping'.mode] using hidle'
  refine ⟨⟨htyping'.ready, htyping'.mode, htyping'.line, hpending, fun hactive => ?_⟩,
    htyping'.probe, es, hhist, hanswered, hhandled⟩
  rw [htyping'.probe] at hactive
  cases hactive

end Delivery

section Terminal

def someLines : List Line :=
  [⟨ascii "2 7 5", 0x0A, some ⟨2, 7, 0x40A00000⟩⟩, ⟨ascii "status", 0x0D, none⟩, ⟨[], 0x0A, none⟩,
    ⟨ascii "3 0 5", 0x0A, some ⟨3, 0, 0x40A00000⟩⟩]

theorem someLines_valid : ∀ l ∈ someLines, l.Valid plainCfg := by
  have hfirst : Spells plainCfg (ascii "2 7 5") ⟨2, 7, 0x40A00000⟩ :=
    spells_digits plainCfg _ (ascii "2") (ascii "7") (ascii " 5") [] (by decide +kernel)
      (by decide +kernel) (by decide +kernel) (by decide +kernel) (by decide +kernel)
      (by decide +kernel) (by decide +kernel) (by decide +kernel) (by decide)
  have hlast : Spells plainCfg (ascii "3 0 5") ⟨3, 0, 0x40A00000⟩ :=
    spells_digits plainCfg _ (ascii "3") (ascii "0") (ascii " 5") [] (by decide +kernel)
      (by decide +kernel) (by decide +kernel) (by decide +kernel) (by decide +kernel)
      (by decide +kernel) (by decide +kernel) (by decide +kernel) (by decide)
  have hgarbage : ∀ text, CommandParser.parseLine plainCfg text = none →
      ¬ ∃ rest, LineGrammar.Line plainCfg text rest := by
    intro text hnone
    rw [← parseLine_isSome_iff, hnone]
    exact Bool.false_ne_true
  intro l hl
  simp only [someLines, List.mem_cons, List.not_mem_nil, or_false] at hl
  rcases hl with rfl | rfl | rfl | rfl
  · exact ⟨by decide +kernel, by decide, by decide, by simpa using hfirst, by simp⟩
  · exact ⟨by decide +kernel, by decide, by decide, by simp, fun _ =>
      hgarbage _ (by decide +kernel)⟩
  · exact ⟨by decide +kernel, by decide, by decide, by simp, fun _ =>
      hgarbage _ (by decide +kernel)⟩
  · exact ⟨by decide +kernel, by decide, by decide, by simpa using hlast, by simp⟩

def someReads : List CommandLine.Read :=
  [⟨ascii "2 7 ", by decide⟩, ⟨ascii "5\nsta", by decide⟩, ⟨ascii "tus\r\n3 0 5\n", by decide⟩]

def plant (as : List Action) : Plant :=
  run (step plainCfg noSnapshot ControlTask.dualMonitor)
    (start plainCfg noSnapshot CommandAnswers.noBytes) as

theorem someReads_ticked :
    ticked plainCfg noSnapshot ControlTask.dualMonitor (plant []) (ticks someReads) = someReads :=
  reads_injective (by decide +kernel)

theorem someReads_paced : Paced plainCfg [] someReads :=
  ⟨by decide +kernel, by decide +kernel, by decide +kernel, trivial⟩

theorem lines_delivered_typed :
    (plant (ticks someReads ++ [safeRound, safeRound].flatten)).control.handled =
      [⟨2, 7, 0x40A00000⟩, ⟨3, 0, 0x40A00000⟩] ∧
    Delivered plainCfg (someLines.filterMap Line.command)
      (plant ([] ++ ticks someReads ++ [safeRound, safeRound].flatten)).control.handled
      (plant []).comms.cli (plant ([] ++ ticks someReads)).comms.cli := by
  have hrest : AtRest (plant []).comms.cli := initial_atRest
  have hidle : isIdle (plant (ticks someReads)).comms = true := by decide +kernel
  refine ⟨by decide +kernel, lines_delivered plainCfg noSnapshot ControlTask.dualMonitor (by decide)
    rfl CommandAnswers.noBytes [] (ticks someReads) [safeRound, safeRound] _ _ someLines rfl
    (idle_cli _ hidle) hrest rfl someLines_valid ?_ ?_ safeRounds (by decide)⟩
  · exact (congrArg _ someReads_ticked).trans (by decide)
  · exact (congrArg _ someReads_ticked).mpr someReads_paced

end Terminal

end SputterOS.TextSession
