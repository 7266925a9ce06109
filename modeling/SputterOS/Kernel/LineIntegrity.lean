import SputterOS.Kernel.ModeSwitching
import SputterOS.Kernel.TextProbe

/-!
# Integrity of text commands

While the stream is text, the line in the parser is what was received since the
last terminator, or since a probe that was given up, as long as no probe is
given up in the middle of a line. A probe that begins in a line and overflows
leaves the line where it was, and the bytes behind it are appended.
-/

set_option autoImplicit false

namespace SputterOS.LineIntegrity
open SputterOS.FrameCodec SputterOS.FrameStream SputterOS.Logic SputterOS.CommandLine
  SputterOS.ReceivedStream SputterOS.ReadLoops SputterOS.ScheduledCommsTask SputterOS.CommandReplies
  SputterOS.CommandAnswers SputterOS.ReadTimeline SputterOS.ModeSwitching SputterOS.TextProbe
  Foundation.NumberText

section Lines

variable (cfg : Cfg)

def feedAll (p : CommandParser) (bs : List UInt8) : CommandParser :=
  bs.foldl (fun p b => (p.feedByte cfg b).2) p

def parse (bs : List UInt8) (t : UInt8) : Option Command :=
  let fed := (feedAll cfg CommandParser.initial bs).feedByte cfg t
  if fed.1 then some fed.2.pending else none

/-- Where a line can begin: at the start of the stream, behind a terminator, or
behind a probe that was given up. -/
def Boundary (before : List UInt8) : Prop :=
  before = [] ∨ (∃ past t, before = past ++ [t] ∧ CommandParser.isTerminator t = true) ∨
    ∃ past q, before = past ++ kFrameDelimiter :: q ∧ q.length = kMaxProbeSize ∧ kFrameDelimiter ∉ q

def OfLine (run : List UInt8) : Prop :=
  ∀ b ∈ run, b ≠ kFrameDelimiter ∧ CommandParser.isTerminator b = false

/-- The command is what the parser makes of the bytes received in front of the
terminator, back to where the line began. -/
def FromLine (past : List UInt8) (t : UInt8) (cmd : Command) : Prop :=
  CommandParser.isTerminator t = true ∧ ∃ before run, past = before ++ run ∧ Boundary before ∧
    OfLine run ∧ parse cfg run t = some cmd

/-- Every command that a byte of the stream completes is from one line. -/
def Intact (bytes : List UInt8) (steps : List Step) : Prop :=
  ∀ past t future before step rest cmd, bytes = past ++ t :: future →
    steps = before ++ step :: rest → before.length = past.length →
    step.completed = some (.command ⟨none, cmd⟩) → FromLine cfg past t cmd

def Overflows (r : Receiver) (b : UInt8) : Bool :=
  b ≠ kFrameDelimiter && r.probe.any fun q => kMaxProbeSize ≤ q.length

/-- Probes are given up between lines only. -/
def ProbesBetweenLines : Receiver → List UInt8 → Prop
  | _, [] => True
  | r, b::bs =>
    (Overflows r b = true → r.line = []) ∧
      ProbesBetweenLines (receive cfg kMaxPayload r b).2 bs

instance decidableProbesBetweenLines : ∀ (r : Receiver) (bs : List UInt8),
    Decidable (ProbesBetweenLines cfg r bs)
  | _, [] => inferInstanceAs (Decidable True)
  | r, b::bs =>
    have := decidableProbesBetweenLines (receive cfg kMaxPayload r b).2 bs
    inferInstanceAs (Decidable (_ ∧ _))

/-- The receiver's line is the bytes received since a boundary, and the bytes
of a probe that runs are behind it. -/
def Accounted (past : List UInt8) (r : Receiver) : Prop :=
  ∃ before run, Boundary before ∧ OfLine run ∧
    r.line = (feedAll cfg CommandParser.initial run).buf ∧
    ((r.probe = none ∧ past = before ++ run) ∨
    ∃ junk q, r.probe = some q ∧ q.length ≤ kMaxProbeSize ∧ kFrameDelimiter ∉ q ∧
      past = before ++ run ++ junk ++ kFrameDelimiter :: q)

theorem initial_accounted : Accounted cfg [] initial :=
  ⟨[], [], Or.inl rfl, by simp [OfLine], rfl, Or.inl ⟨rfl, rfl⟩⟩

theorem feedByte_terminator_buf (p : CommandParser) (t : UInt8)
    (ht : CommandParser.isTerminator t = true) : (p.feedByte cfg t).2.buf = [] := by
  unfold CommandParser.feedByte
  rw [if_pos ht]
  by_cases hl : p.buf.length = 0
  · rw [if_pos hl]
    exact List.length_eq_zero_iff.mp hl
  · rw [if_neg hl]
    cases CommandParser.parseLine cfg p.buf <;> rfl

theorem feedByte_fst_terminator (p : CommandParser) (b : UInt8)
    (h : (p.feedByte cfg b).1 = true) : CommandParser.isTerminator b = true := by
  by_contra ht
  unfold CommandParser.feedByte at h
  rw [if_neg ht] at h
  split_ifs at h

theorem text_accounted (past : List UInt8) (r : Receiver) (before run : List UInt8) (b : UInt8)
    (hbound : Boundary before) (hrun : OfLine run)
    (hline : r.line = (feedAll cfg CommandParser.initial run).buf) (hp : r.probe = none)
    (hpast : past = before ++ run) (hb : b ≠ kFrameDelimiter) :
    Accounted cfg (past ++ [b]) (receiveText cfg r b).2 := by
  obtain ⟨-, hbuf, -⟩ := feedByte_congr cfg { CommandParser.initial with buf := r.line }
    (feedAll cfg CommandParser.initial run) b hline
  by_cases ht : CommandParser.isTerminator b = true
  · refine ⟨past ++ [b], [], Or.inr (Or.inl ⟨past, b, rfl, ht⟩), by simp [OfLine], ?_,
      Or.inl ⟨hp, by simp⟩⟩
    exact feedByte_terminator_buf cfg _ b ht
  · refine ⟨before, run ++ [b], hbound, ?_, ?_, Or.inl ⟨hp, by rw [hpast, List.append_assoc]⟩⟩
    · intro x hx
      rcases List.mem_append.mp hx with h | h
      · exact hrun x h
      · rw [List.mem_singleton.mp h]
        exact ⟨hb, by simpa using ht⟩
    · rw [feedAll, List.foldl_append]
      exact hbuf

theorem receive_accounted (past : List UInt8) (r : Receiver) (b : UInt8) (hm : r.mode = .text)
    (h : Accounted cfg past r) (hover : Overflows r b = true → r.line = [])
    (hno : (receive cfg kMaxPayload r b).1 ≠ some .handshake) :
    Accounted cfg (past ++ [b]) (receive cfg kMaxPayload r b).2 := by
  obtain ⟨before, run, hbound, hrun, hline, hprobe⟩ := h
  by_cases hb : b = kFrameDelimiter
  · rw [hb] at hno ⊢
    have hany : r.probe.any (isHandshake kMaxPayload) = false := by
      by_contra hyes
      rw [receive, if_pos hm, receiveProbed, if_pos rfl, if_pos (by simpa using hyes)] at hno
      exact hno rfl
    rw [receive_zero cfg r hm hany]
    refine ⟨before, run, hbound, hrun, hline, Or.inr ?_⟩
    rcases hprobe with ⟨-, hpast⟩ | ⟨junk, q, -, -, -, hpast⟩
    · exact ⟨[], [], rfl, by simp, by simp, by simp [hpast]⟩
    · exact ⟨junk ++ kFrameDelimiter :: q, [], rfl, by simp, by simp, by simp [hpast]⟩
  · rcases hprobe with ⟨hp, hpast⟩ | ⟨junk, q, hp, hlen, hz, hpast⟩
    · have hstep : receive cfg kMaxPayload r b = receiveText cfg r b := by
        rw [receive, if_pos hm, receiveProbed, if_neg hb, if_pos hp]
      rw [hstep]
      exact text_accounted cfg past r before run b hbound hrun hline hp hpast hb
    · by_cases hlt : q.length < kMaxProbeSize
      · have hz' : kFrameDelimiter ∉ [b] := by simpa using fun h => hb h.symm
        obtain ⟨-, hafter⟩ := receptions_probe cfg r q [b] hm hp hz' hlt
        have hstep : (receive cfg kMaxPayload r b).2 = { r with probe := some (q ++ [b]) } := hafter
        rw [hstep]
        refine ⟨before, run, hbound, hrun, hline, Or.inr ⟨junk, q ++ [b], rfl, ?_, ?_, ?_⟩⟩
        · rw [List.length_append]
          exact hlt
        · simp [hz, hz']
        · simp [hpast]
      · have hfull : kMaxProbeSize ≤ q.length := Nat.not_lt.mp hlt
        have hempty : r.line = [] := hover (by simp [Overflows, hb, hp, hfull])
        have hstep : receive cfg kMaxPayload r b = receiveText cfg { r with probe := none } b := by
          rw [receive_overflow cfg r q b hm hp hfull hb, receive, if_pos hm, receiveProbed,
            if_neg hb, if_pos rfl]
        rw [hstep]
        apply text_accounted cfg past { r with probe := none } past [] b _ (by simp [OfLine]) hempty
          rfl (by simp) hb
        right; right
        exact ⟨before ++ run ++ junk, q, hpast, by omega, hz⟩

theorem accounted_command (past : List UInt8) (r : Receiver) (t : UInt8) (cmd : Command)
    (hm : r.mode = .text) (h : Accounted cfg past r) (hover : Overflows r t = true → r.line = [])
    (hcmd : (receive cfg kMaxPayload r t).1 = some (.command ⟨none, cmd⟩)) :
    FromLine cfg past t cmd := by
  obtain ⟨before, run, hbound, hrun, hline, hprobe⟩ := h
  have htext : ∀ r : Receiver, (receiveText cfg r t).1 = some (.command ⟨none, cmd⟩) →
      CommandParser.isTerminator t = true ∧
        CommandParser.feedByte cfg { CommandParser.initial with buf := r.line } t =
          (true, { buf := [], pending := cmd, hasPending := true }) := by
    intro r hr
    rw [receiveText] at hr
    rcases feedByte_cases cfg { CommandParser.initial with buf := r.line } t with
      ⟨text, hfed⟩ | ⟨cmd', hfed⟩
    · simp [hfed] at hr
    · have heq : cmd' = cmd := by simpa [hfed] using hr
      exact ⟨feedByte_fst_terminator cfg _ t (by rw [hfed]), by rw [hfed, heq]⟩
  rw [receive, if_pos hm, receiveProbed] at hcmd
  by_cases hb : t = kFrameDelimiter
  · rw [if_pos hb] at hcmd
    split_ifs at hcmd
    simp at hcmd
  · rw [if_neg hb] at hcmd
    rcases hprobe with ⟨hp, hpast⟩ | ⟨junk, q, hp, -, -, -⟩
    · rw [if_pos hp] at hcmd
      obtain ⟨ht, hfed⟩ := htext r hcmd
      obtain ⟨hok, -, hpending⟩ := feedByte_congr cfg { CommandParser.initial with buf := r.line }
        (feedAll cfg CommandParser.initial run) t hline
      refine ⟨ht, before, run, hpast, hbound, hrun, ?_⟩
      rw [parse, ← hok, ← hpending (by rw [hfed]), hfed]
      rfl
    · rw [if_neg (by simp [hp])] at hcmd
      split_ifs at hcmd with hlen
      obtain ⟨ht, -⟩ := htext _ hcmd
      have hempty : r.line = [] := by
        apply hover
        simpa [Overflows, hb, hp] using hlen
      rw [receiveText_terminator cfg _ t ht, hempty] at hcmd
      simp [lineReception, parseLine_nil] at hcmd

/-- While the stream is text and probes are given up between lines only, every
command that it completes is from one line. -/
theorem receptions_fromLine (past bs : List UInt8) (r : Receiver) (ys : List UInt8) (t : UInt8)
    (future : List UInt8) (cmd : Command) (hm : r.mode = .text) (h : Accounted cfg past r)
    (hsplit : bs = ys ++ t :: future) (hprobes : ProbesBetweenLines cfg r bs)
    (hno : ∀ e ∈ receptions cfg kMaxPayload r bs, e ≠ some .handshake)
    (hcmd : (receive cfg kMaxPayload (after cfg kMaxPayload r ys) t).1 =
      some (.command ⟨none, cmd⟩)) :
    FromLine cfg (past ++ ys) t cmd := by
  induction ys generalizing past bs r with
  | nil =>
    rw [hsplit] at hprobes
    rw [List.append_nil]
    exact accounted_command cfg past r t cmd hm h hprobes.1 hcmd
  | cons y ys ih =>
    rw [hsplit] at hprobes hno
    have hbyte : (receive cfg kMaxPayload r y).1 ≠ some .handshake := hno _ (by simp [receptions])
    obtain ⟨hmode, -⟩ := receive_text_mode cfg r y hm hbyte
    have hnext := receive_accounted cfg past r y hm h hprobes.1 hbyte
    rw [List.append_cons]
    apply ih (past ++ [y]) (ys ++ t :: future) _ hmode hnext rfl hprobes.2
    · intro e he
      exact hno e (by simp [receptions, he])
    · exact hcmd

end Lines

section Runs

variable (cfg : Cfg) (env : Environment)

theorem receptions_length (r : Receiver) (bs : List UInt8) :
    (receptions cfg kMaxPayload r bs).length = bs.length := by
  induction bs generalizing r with
  | nil => rfl
  | cons b bs ih => simp [receptions, ih]

theorem exitLastReads_of (r : Receiver) (reads : List Read)
    (h : ExitLast (receptions cfg kMaxPayload r (reads.flatMap Read.bytes))) :
    ExitLastReads cfg r reads := by
  induction reads generalizing r with
  | nil => trivial
  | cons read reads ih =>
    rw [List.flatMap_cons, receptions_append] at h
    obtain ⟨hhead, hrest, -⟩ := List.pairwise_append.mp h
    exact ⟨hhead, ih _ hrest⟩

/-- In a run over a stream in TEXT mode, however it is cut into reads, every
command the command line accepts is what the parser makes of the bytes received
between two terminators, if no probe is given up in the middle of a line. -/
theorem text_commands_intact (fuel : ℕ) (atInit : Read) (reads : List Read)
    (htext : ∀ e ∈ receptions cfg kMaxPayload initial
      (atInit.bytes ++ reads.flatMap Read.bytes), e ≠ some .handshake)
    (hprobes : ProbesBetweenLines cfg initial (atInit.bytes ++ reads.flatMap Read.bytes)) :
    Intact cfg (atInit.bytes ++ reads.flatMap Read.bytes)
      (runTimeline cfg env (fuel+1) atInit reads) := by
  intro past t future before step rest cmd hsplit hsteps hlen hcmd
  obtain ⟨-, hexit⟩ := after_text_mode cfg initial _ rfl htext
  obtain ⟨halike, -⟩ := run_alike cfg env fuel atInit reads
    (exitLastReads_of cfg initial (atInit::reads) hexit)
  have hcompleted := halike.completed
  rw [hsteps, hsplit, receptions_append, List.map_append] at hcompleted
  obtain ⟨-, hrest⟩ := List.append_inj hcompleted (by
    rw [List.length_map, receptions_length, hlen])
  have hstep : step.completed = (receive cfg kMaxPayload (after cfg kMaxPayload initial past) t).1 :=
    (List.cons.inj hrest).1
  rw [hstep] at hcmd
  exact receptions_fromLine cfg [] _ initial past t future cmd rfl (initial_accounted cfg) hsplit
    hprobes htext hcmd

end Runs

section Streams

def interrupted : List Read :=
  [⟨ascii "1 0 5\n" ++ 0 :: List.replicate 57 0x78, by decide⟩,
    ⟨List.replicate 7 0x78 ++ ascii "\n2 0 7\n", by decide⟩]

theorem interrupted_intact :
    Intact plainCfg (noBytes.bytes ++ interrupted.flatMap Read.bytes)
      (runTimeline plainCfg alternating 1 noBytes interrupted) :=
  text_commands_intact plainCfg alternating 0 noBytes interrupted (by decide +kernel)
    (by decide +kernel)

def spliced : List Read :=
  [⟨ascii "1 0 5" ++ 0 :: List.replicate 58 0x78, by decide⟩,
    ⟨List.replicate 6 0x78 ++ ascii "0\n", by decide⟩]

/-- The value 50 is offered to the queue, which no bytes of the stream in front
of the terminator say. -/
theorem spliced_command :
    (run plainCfg alternating 1 noBytes spliced).map answers =
      some [.tryPush ⟨1, 0, 0x42480000⟩ true, .write .tick (ascii "ACK 1\n")] ∧
    (∀ n ≤ 71, parse plainCfg ((spliced.flatMap Read.bytes).dropLast.drop n) 0x0A ≠
      some ⟨1, 0, 0x42480000⟩) ∧
    ¬ Intact plainCfg (noBytes.bytes ++ spliced.flatMap Read.bytes)
      (runTimeline plainCfg alternating 1 noBytes spliced) := by
  have hnone : ∀ n ≤ 71, parse plainCfg ((spliced.flatMap Read.bytes).dropLast.drop n) 0x0A ≠
      some ⟨1, 0, 0x42480000⟩ := by decide +kernel
  refine ⟨by decide +kernel, hnone, ?_⟩
  intro hintact
  have hcompleted : (runTimeline plainCfg alternating 1 noBytes spliced).map Step.completed =
      List.replicate 71 none ++ [some (.command ⟨none, ⟨1, 0, 0x42480000⟩⟩)] := by decide +kernel
  obtain ⟨before, last, hsteps, hbefore, hlast⟩ := List.map_eq_append_iff.mp hcompleted
  obtain ⟨step, rest, rfl, hstep, -⟩ := List.map_eq_cons_iff.mp hlast
  have hlen : before.length = 71 := by
    rw [← List.length_map (f := Step.completed), hbefore, List.length_replicate]
  obtain ⟨-, past, line, hpast, -, -, hparse⟩ := hintact (spliced.flatMap Read.bytes).dropLast 0x0A []
    before step rest ⟨1, 0, 0x42480000⟩ (by decide) hsteps (by rw [hlen]; decide) hstep
  have hdrop : (spliced.flatMap Read.bytes).dropLast.drop past.length = line := by
    rw [hpast, List.drop_left]
  have hle : past.length ≤ 71 := by
    have hcount := congrArg List.length hpast
    rw [List.length_append] at hcount
    have hbytes : (spliced.flatMap Read.bytes).dropLast.length = 71 := by decide
    omega
  rw [← hdrop] at hparse
  exact hnone _ hle hparse

end Streams

end SputterOS.LineIntegrity
