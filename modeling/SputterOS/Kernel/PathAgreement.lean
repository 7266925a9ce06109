import SputterOS.Kernel.TextProbe
import SputterOS.Kernel.FramedTicks

/-!
# The text path and the framed path

A command reaches the queue as a line of text or as a frame. Both carry the
same triple, but only the line is checked against the largest identifier.
-/

set_option autoImplicit false

namespace SputterOS.PathAgreement
open SputterOS.FrameCodec SputterOS.FrameStream SputterOS.ProtocolRouter
  SputterOS.ResponseSerializer SputterOS.Logic SputterOS.CommandLine SputterOS.ReceivedStream
  SputterOS.ScheduledCommsTask SputterOS.CommandReplies SputterOS.CommandAnswers
  SputterOS.ReadTimeline SputterOS.TextProbe SputterOS.FramedTicks Foundation.NumberText

section Carriers

variable (cfg : Cfg)

/-- A line that fits into the buffer of the parser and reads as the triple. -/
structure TextOf (line : List UInt8) (t : UInt8) (cmd : Command) : Prop where
  bytes : ∀ b ∈ line, b ≠ kFrameDelimiter ∧ CommandParser.isTerminator b = false
  terminator : CommandParser.isTerminator t = true
  fits : line.length ≤ cfg.kMaxLineLen-1
  fields : ∃ device value rest, strtol cfg.longBits line = some ((cmd.id.toNat : ℤ), device) ∧
    CommandParser.separated device = true ∧
    strtol cfg.longBits device = some ((cmd.targetDevice.toNat : ℤ), value) ∧
    CommandParser.separated value = true ∧ strtof cfg.nanBits value = some (cmd.value, rest)

def frameOf (seqNum : UInt8) (cmd : Command) : Message :=
  ⟨.command, seqNum, some (cmd.id :: cmd.targetDevice :: leBytes 4 cmd.value.toNat), 6⟩

theorem parseLine_textOf (line : List UInt8) (t : UInt8) (cmd : Command)
    (h : TextOf cfg line t cmd) :
    CommandParser.parseLine cfg line =
      if cmd.id ≤ cfg.kMaxValidCommandID then some cmd else none := by
  obtain ⟨device, value, rest, hid, hsep, hdevice, hsep', hvalue⟩ := h.fields
  have hbound : (0 ≤ (cmd.id.toNat : ℤ) ∧ (cmd.id.toNat : ℤ) ≤ cfg.kMaxValidCommandID.toNat) ↔
      cmd.id ≤ cfg.kMaxValidCommandID := by
    rw [UInt8.le_iff_toNat_le]
    omega
  have hbytes : ∀ b : UInt8, UInt8.ofInt (b.toNat : ℤ) = b := by
    intro b
    have hb := b.toNat_lt
    have hmod : ((b.toNat : ℤ) % 256).toNat = b.toNat := by omega
    simp [UInt8.ofInt, hmod]
  unfold CommandParser.parseLine
  simp only [hid, hsep, hdevice, hsep', hvalue, Option.bind_eq_bind, Option.bind_some, guard,
    if_true, Option.pure_def, hbound, hbytes]
  split_ifs <;> rfl

theorem readCommand_frameOf (seqNum : UInt8) (cmd : Command) :
    (frameOf seqNum cmd).bytes.length = 6 ∧ readCommand (frameOf seqNum cmd).bytes = cmd := by
  have hbytes : (frameOf seqNum cmd).bytes =
      cmd.id :: cmd.targetDevice :: leBytes 4 cmd.value.toNat := rfl
  rw [hbytes, readCommand, readLe32_leBytes]
  exact ⟨by simp [leBytes_length], rfl⟩

end Carriers

section Paths

variable (cfg : Cfg) (env : Environment)

theorem text_path (fuel : ℕ) (c : CLI) (reads : List Read) (line : List UInt8) (t : UInt8)
    (cmd : Command) (h : AtRest c) (hprobe : c.probeActive = false) (hl : TextOf cfg line t cmd)
    (hbytes : reads.flatMap Read.bytes = line ++ [t]) :
    ∃ es, newAnswers cfg env (fuel+1) c reads = some es ∧
      es.filterMap offered = if cmd.id ≤ cfg.kMaxValidCommandID then [cmd] else [] := by
  obtain ⟨r, htracks, hm, hline, -⟩ := h.tracks
  have hnone : r.probe = none := by
    have hsome : r.probe.isSome = false := htracks.probeActive.symm.trans hprobe
    simpa using hsome
  have hrec := receptions_text_line cfg r line t hm hline hnone hl.bytes hl.terminator hl.fits
  rw [← hbytes] at hrec
  obtain ⟨es, hes, hans⟩ := line_answered cfg env fuel c r reads _ _ htracks h.mode hrec
  refine ⟨es, hes, ?_⟩
  rw [hans.commands_offered, parseLine_textOf cfg line t cmd hl]
  split_ifs <;> rfl

theorem framed_path (fuel : ℕ) (c : CLI) (reads : List Read) (seqNum : UInt8) (cmd : Command)
    (h : AtBoundary c) (hbytes : reads.flatMap Read.bytes = wire kMaxPayload (frameOf seqNum cmd)) :
    ∃ es, newAnswers cfg env (fuel+1) c reads = some es ∧ es.filterMap offered = [cmd] := by
  obtain ⟨hlen, hread⟩ := readCommand_frameOf seqNum cmd
  have hs : Sendable kMaxPayload (frameOf seqNum cmd) :=
    ⟨by simp [frameOf, kMaxPayload], Or.inr ⟨_, rfl, by simp [frameOf, leBytes_length]⟩⟩
  obtain ⟨c₁, builder, es, hc₁, hans, hticks⟩ := wire_ticks cfg env fuel c reads _ h hs hbytes
  have htype : (frameOf seqNum cmd).type = .command := rfl
  have hseq : (frameOf seqNum cmd).seqNum = seqNum := rfl
  rw [CLI.handleDecodedFrame] at hc₁
  dsimp only at hc₁
  rw [htype, if_pos rfl, if_pos hlen, hread, hseq] at hc₁
  have hwait : waiting c₁ = some ⟨some seqNum, cmd⟩ := by
    rw [hc₁]
    simp [waiting, CLI.hasCommand, h.mode, taken]
  have hhist : c₁.history = c.history := by
    rw [hc₁]
  rw [hwait] at hans
  refine ⟨es, ?_, hans.commands_offered⟩
  rw [newAnswers, hticks, Option.map_some, answers, answers, hhist]
  simp [hans.filter]

/-- The same triple as a line of text and as a command frame, each to a command
line in its mode and cut into reads in any way, offers the same commands to the
queue if and only if the identifier is a valid one. -/
theorem paths_agree_iff (env' : Environment) (fuel : ℕ) (c c' : CLI) (reads reads' : List Read)
    (line : List UInt8) (t : UInt8) (seqNum : UInt8) (cmd : Command) (h : AtRest c)
    (hprobe : c.probeActive = false) (hl : TextOf cfg line t cmd)
    (hbytes : reads.flatMap Read.bytes = line ++ [t]) (h' : AtBoundary c')
    (hbytes' : reads'.flatMap Read.bytes = wire kMaxPayload (frameOf seqNum cmd)) :
    (∃ es es', newAnswers cfg env (fuel+1) c reads = some es ∧
      newAnswers cfg env' (fuel+1) c' reads' = some es' ∧
      es.filterMap offered = es'.filterMap offered) ↔
    cmd.id ≤ cfg.kMaxValidCommandID := by
  obtain ⟨es, hes, htext⟩ := text_path cfg env fuel c reads line t cmd h hprobe hl hbytes
  obtain ⟨es', hes', hframed⟩ := framed_path cfg env' fuel c' reads' seqNum cmd h' hbytes'
  constructor
  · rintro ⟨fs, fs', hfs, hfs', heq⟩
    rw [Option.some_inj.mp (hfs.symm.trans hes), Option.some_inj.mp (hfs'.symm.trans hes'), htext,
      hframed] at heq
    by_contra hid
    simp [hid] at heq
  · intro hid
    refine ⟨es, es', hes, hes', ?_⟩
    rw [htext, hframed, if_pos hid]

end Paths

section Identifiers

def fourCommands : Cfg := { kMaxValidCommandID := 3, floatText := fun _ => [] }

def framedCLI : CLI := CLI.initial.setProtocolHandler.enterFramedMode

theorem framedCLI_atBoundary : AtBoundary framedCLI :=
  { ready := ⟨rfl, rfl⟩, mode := rfl, idle := rfl, buffer := rfl }

def validLine : Read := ⟨ascii "2 0 5\n", by decide⟩

def validFrame : Read :=
  ⟨wire kMaxPayload (frameOf 9 ⟨2, 0, 0x40A00000⟩), by decide +kernel⟩

def invalidLine : Read := ⟨ascii "200 0 5\n", by decide⟩

def invalidFrame : Read :=
  ⟨wire kMaxPayload (frameOf 9 ⟨200, 0, 0x40A00000⟩), by decide +kernel⟩

theorem paths_agree_two :
    ∃ es es', newAnswers fourCommands alternating 1 CLI.initial.setProtocolHandler [validLine] =
      some es ∧
      newAnswers fourCommands alternating 1 framedCLI [validFrame] = some es' ∧
      es.filterMap offered = es'.filterMap offered :=
  (paths_agree_iff fourCommands alternating alternating 0 CLI.initial.setProtocolHandler framedCLI
    [validLine] [validFrame] (ascii "2 0 5") 0x0A 9 ⟨2, 0, 0x40A00000⟩ initial_atRest rfl
    ⟨by decide +kernel, by decide, by decide, ascii " 0 5", ascii " 5", [], by decide +kernel⟩
    (by decide) framedCLI_atBoundary (by decide +kernel)).mpr (by decide)

/-- A frame offers the identifier 200 where a line of text is refused. -/
theorem invalid_id_offered :
    TextOf fourCommands (ascii "200 0 5") 0x0A ⟨200, 0, 0x40A00000⟩ ∧
    newAnswers fourCommands alternating 1 CLI.initial.setProtocolHandler [invalidLine] = some [] ∧
    (newAnswers fourCommands alternating 1 framedCLI [invalidFrame]).map
      (List.filterMap offered) = some [⟨200, 0, 0x40A00000⟩] ∧
    ¬ ∃ es es', newAnswers fourCommands alternating 1 CLI.initial.setProtocolHandler
        [invalidLine] = some es ∧
      newAnswers fourCommands alternating 1 framedCLI [invalidFrame] = some es' ∧
      es.filterMap offered = es'.filterMap offered := by
  have htext : newAnswers fourCommands alternating 1 CLI.initial.setProtocolHandler
      [invalidLine] = some [] := by decide +kernel
  have hframed : (newAnswers fourCommands alternating 1 framedCLI [invalidFrame]).map
      (List.filterMap offered) = some [⟨200, 0, 0x40A00000⟩] := by decide +kernel
  have hline : TextOf fourCommands (ascii "200 0 5") 0x0A ⟨200, 0, 0x40A00000⟩ :=
    ⟨by decide +kernel, by decide, by decide, ascii " 0 5", ascii " 5", [], by decide +kernel⟩
  refine ⟨hline, htext, hframed, ?_⟩
  rintro ⟨es, es', hes, hes', heq⟩
  rw [htext, Option.some_inj] at hes
  rw [hes', Option.map_some, Option.some_inj, ← heq, ← hes] at hframed
  exact absurd hframed (by decide)

end Identifiers

end SputterOS.PathAgreement
