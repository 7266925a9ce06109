import SputterOS.Kernel.CommandReplies

/-!
# Which commands are answered

The command line follows the receiver of the byte stream as long as the frame
that leaves FRAMED mode ends its read. Of the commands it completes it holds
the last one only, and loses that one too when the mode changes before the
loop of the tick. Hence the commands of a run are answered, each once and in
order, exactly when none is disturbed between its last byte and that loop.
-/

set_option autoImplicit false

namespace SputterOS.CommandAnswers
open SputterOS.FrameCodec SputterOS.FrameStream SputterOS.ProtocolRouter SputterOS.Logic SputterOS.Utils
  SputterOS.CommandLine SputterOS.ReceivedStream SputterOS.ScheduledCommsTask
  SputterOS.CommandReplies Foundation.NumberText

structure Tracks (c : CLI) (r : Receiver) (held : Option Received) : Prop where
  router : c.hasRouter = true
  mode : c.mode = r.mode
  line : c.parser.buf = r.line
  probeActive : c.probeActive = r.probe.isSome
  probeBuf : c.probeBuf = r.probe.getD []
  decoder : c.frameDecoder = r.decoder
  sync : c.hasPending = c.parser.hasPending
  text : c.mode = .text → c.hasFramedCommand = false
  waiting : waiting c = held

theorem Tracks.silent (c c' : CLI) (r : Receiver) (held : Option Received) (h : Tracks c r held)
    (hs : Silent c c') : Tracks c' r held := by
  rw [hs.1]
  exact { h with waiting := h.waiting }

/-- The slot after an event: a command takes it, a change of the mode empties
it. -/
def next (held : Option Received) (e : Option Reception) : Option Received :=
  e.elim held Reception.received

def Follows (c c' : CLI) (r' : Receiver) (held' : Option Received) : Prop :=
  Tracks c' r' held' ∧ answers c' = answers c

section Byte

variable (cfg : Cfg) (env : Environment)

theorem feedParser_follows (c : CLI) (r : Receiver) (held : Option Received) (b : UInt8)
    (h : Tracks c r held) (hm : c.mode = .text) :
    Follows c (c.feedParser cfg b) (receiveText cfg r b).2
      (next held (receiveText cfg r b).1) := by
  obtain ⟨hok, hbuf, hcmd⟩ := feedByte_congr cfg c.parser
    { CommandParser.initial with buf := r.line } b h.line
  have hsync : (c.feedParser cfg b).hasPending = (c.feedParser cfg b).parser.hasPending := by
    rcases feedByte_pending cfg c.parser b with ⟨h1, h2⟩ | ⟨h1, h2, -⟩
    · simp [CLI.feedParser, h1, h2]
    · simp [CLI.feedParser, h1, h2, h.sync]
  have hwait : waiting (c.feedParser cfg b) = next held (receiveText cfg r b).1 := by
    rcases feedByte_pending cfg c.parser b with ⟨h1, h2⟩ | ⟨h1, h2, h3⟩
    · simp [waiting, CLI.hasCommand, CLI.feedParser, taken, receiveText, next, Reception.received,
        hm, h1, ← hok, hcmd h1]
    · rw [← h.waiting]
      simp [waiting, CLI.hasCommand, CLI.feedParser, taken, receiveText, next, hm, h1, ← hok, h3]
  exact ⟨{ h with line := hbuf, sync := hsync, waiting := hwait }, rfl⟩

theorem startProbe_tracks (c : CLI) (r : Receiver) (held : Option Received) (h : Tracks c r held) :
    Tracks { c with probeActive := true, probeBuf := [] } { r with probe := some [] } held :=
  { h with probeActive := rfl, probeBuf := rfl }

theorem enterFramedMode_tracks (c : CLI) (r : Receiver) (held : Option Received)
    (h : Tracks c r held) (hm : c.mode = .text) :
    Tracks c.enterFramedMode { r with mode := .framed, probe := none, decoder := .initial } none := by
  have hfr : c.hasFramedCommand = false := h.text hm
  have hwait : waiting c.enterFramedMode = none := by
    simp [waiting, CLI.hasCommand, CLI.enterFramedMode, hfr]
  exact { h with
    mode := rfl, probeActive := rfl, probeBuf := rfl, decoder := rfl
    text := fun _ => hfr, waiting := hwait }

theorem exitFramedMode_tracks (c : CLI) (r : Receiver) (held : Option Received)
    (h : Tracks c r held) :
    Tracks c.exitFramedMode { r with mode := .text, line := [] } none := by
  have hwait : waiting c.exitFramedMode = none := by
    simp [waiting, CLI.hasCommand, CLI.exitFramedMode]
  exact { h with mode := rfl, line := rfl, sync := rfl, text := fun _ => rfl, waiting := hwait }

theorem storeCommand_tracks (c : CLI) (r : Receiver) (held : Option Received) (seqNum : UInt8)
    (cmd : Command) (h : Tracks c r held) (hm : c.mode = .framed) :
    Tracks
      { c with framedCommand := cmd, hasFramedCommand := true, framedSeqNum := seqNum }
      r (some ⟨some seqNum, cmd⟩) := by
  have htext : ∀ p : Prop, c.mode = .text → p := by simp [hm]
  exact { h with text := htext _, waiting := by simp [waiting, CLI.hasCommand, hm, taken] }

theorem delimiter_follows (c : CLI) (r : Receiver) (held : Option Received) (h : Tracks c r held)
    (hm : c.mode = .text) :
    Follows c (c.processTextByte cfg kMaxPayload (protocolHandler env) kFrameDelimiter).2
      (receiveProbed cfg kMaxPayload r kFrameDelimiter).2
      (next held (receiveProbed cfg kMaxPayload r kFrameDelimiter).1) := by
  have hactive := h.probeActive
  have hbuf := h.probeBuf
  have hstart := startProbe_tracks c r held h
  by_cases hp : c.probeActive ∧ 0 < c.probeBuf.length
  · obtain ⟨probe, hprobe⟩ := Option.isSome_iff_exists.mp (hactive.symm.trans hp.1)
    have hb : c.probeBuf = probe := by simpa [hprobe] using hbuf
    rcases tryHandshakeProbe_cases kMaxPayload (protocolHandler env) c h.router with
      ⟨hno, ht⟩ | ⟨hyes, version, seqNum, ht⟩
    · rw [hb] at hno
      simp only [CLI.processTextByte, if_true, if_pos hp, ht, receiveProbed, hprobe,
        Option.any_some, hno]
      exact ⟨hstart, rfl⟩
    · rw [hb] at hyes
      have hs : Silent c ((protocolHandler env).onHandshakeRequest version seqNum c) :=
        sendFrame_silent _ (by decide) c _ _ _ _
      have htracks := enterFramedMode_tracks _ r held (h.silent _ _ _ _ hs) (by rw [hs.1]; exact hm)
      simp only [CLI.processTextByte, if_true, if_pos hp, ht, receiveProbed, hprobe,
        Option.any_some, hyes]
      generalize (protocolHandler env).onHandshakeRequest version seqNum c = c' at hs htracks ⊢
      exact ⟨htracks, hs.2⟩
  · have hno : r.probe.any (isHandshake kMaxPayload) = false := by
      cases hprobe : r.probe with
      | none => rfl
      | some probe =>
        have hnil : probe = [] := by simpa [hactive, hbuf, hprobe] using hp
        simp [hnil, isHandshake_nil]
    simp only [CLI.processTextByte, if_true, if_neg hp, receiveProbed, hno]
    exact ⟨hstart, rfl⟩

theorem textByte_follows (c : CLI) (r : Receiver) (held : Option Received) (b : UInt8)
    (h : Tracks c r held) (hm : c.mode = .text) :
    Follows c (c.processTextByte cfg kMaxPayload (protocolHandler env) b).2
      (receiveProbed cfg kMaxPayload r b).2 (next held (receiveProbed cfg kMaxPayload r b).1) := by
  by_cases hb : b = kFrameDelimiter
  · rw [hb]
    exact delimiter_follows cfg env c r held h hm
  · have hactive := h.probeActive
    have hbuf := h.probeBuf
    cases hprobe : r.probe with
    | none =>
      have ha : c.probeActive = false := by simpa [hprobe] using hactive
      have hr : receiveProbed cfg kMaxPayload r b = receiveText cfg r b := by
        simp [receiveProbed, hb, hprobe]
      rw [hr]
      simp only [CLI.processTextByte, if_neg hb, ha, Bool.false_eq_true, if_false]
      exact feedParser_follows cfg c r held b h hm
    | some probe =>
      have ha : c.probeActive = true := by simpa [hprobe] using hactive
      have hl : c.probeBuf = probe := by simpa [hprobe] using hbuf
      by_cases hlen : probe.length < kMaxProbeSize
      · have hr : receiveProbed cfg kMaxPayload r b =
            (none, { r with probe := some (probe ++ [b]) }) := by
          simp [receiveProbed, hb, hprobe, hlen]
        rw [hr]
        simp only [CLI.processTextByte, if_neg hb, ha, if_true, hl, if_pos hlen]
        exact ⟨{ h with probeActive := rfl, probeBuf := rfl }, rfl⟩
      · have hr : receiveProbed cfg kMaxPayload r b = receiveText cfg { r with probe := none } b := by
          simp [receiveProbed, hb, hprobe, hlen]
        rw [hr]
        simp only [CLI.processTextByte, if_neg hb, ha, if_true, hl, if_neg hlen]
        apply feedParser_follows cfg { c with probeActive := false, probeBuf := [] }
        · exact { h with probeActive := rfl, probeBuf := rfl }
        · exact hm

theorem framedByte_follows (c : CLI) (r : Receiver) (held : Option Received) (b : UInt8)
    (h : Tracks c r held) (hm : c.mode = .framed) :
    Follows c (c.processFramedByte kMaxPayload (protocolHandler env) b)
      (receiveFramed kMaxPayload r b).2 (next held (receiveFramed kMaxPayload r b).1) := by
  unfold CLI.processFramedByte receiveFramed
  rw [h.decoder]
  generalize r.decoder.feedByte kMaxPayload b = fed
  dsimp only
  have hfed : Tracks { c with frameDecoder := fed.2 } { r with decoder := fed.2 } held :=
    { h with decoder := rfl }
  by_cases hready : fed.1 = .frameReady
  · simp only [if_pos hready, CLI.handleDecodedFrame]
    by_cases hcmd : fed.2.msgType = .command
    · have hx : fed.2.msgType ≠ .exitHandshake := by
        rw [hcmd]
        decide
      by_cases hlen : fed.2.payload.length = 6
      · simp only [hcmd, hlen, kCommandPayloadSize, and_self, if_true]
        exact ⟨storeCommand_tracks _ _ held fed.2.seqNum (readCommand fed.2.payload) hfed hm, rfl⟩
      · simp only [if_pos hcmd, kCommandPayloadSize, hlen, and_false, if_false, if_neg hx]
        exact ⟨hfed, rfl⟩
    · simp only [hcmd, false_and, if_false]
      rw [if_pos h.router]
      by_cases hx : fed.2.msgType = .exitHandshake
      · rw [hx, dispatch_exitHandshake]
        have hs := sendFrame_silent .onExitHandshake (by decide)
          { c with frameDecoder := fed.2 } .ack fed.2.seqNum
          (some (ResponseSerializer.serializeAck MessageType.exitHandshake.value 1)) 1
        have htracks := exitFramedMode_tracks _ _ held (hfed.silent _ _ _ _ hs)
        rw [if_pos rfl]
        exact ⟨htracks, hs.2⟩
      · rw [if_neg hx]
        have hs := dispatch_silent env fed.2.msgType hx fed.2.seqNum fed.2.payload
          { c with frameDecoder := fed.2 }
        exact ⟨hfed.silent _ _ _ _ hs, hs.2⟩
  · simp only [if_neg hready]
    exact ⟨hfed, rfl⟩

theorem processByte_follows (c : CLI) (r : Receiver) (held : Option Received) (b : UInt8)
    (h : Tracks c r held) :
    Follows c (c.processByte cfg kMaxPayload (protocolHandler env) b)
      (receive cfg kMaxPayload r b).2 (next held (receive cfg kMaxPayload r b).1) := by
  by_cases hm : c.mode = .text
  · have hc : c.processByte cfg kMaxPayload (protocolHandler env) b =
        (c.processTextByte cfg kMaxPayload (protocolHandler env) b).2 := if_pos hm
    have hr : receive cfg kMaxPayload r b = receiveProbed cfg kMaxPayload r b :=
      if_pos (h.mode.symm.trans hm)
    rw [hr, hc]
    exact textByte_follows cfg env c r held b h hm
  · have hc : c.processByte cfg kMaxPayload (protocolHandler env) b =
        c.processFramedByte kMaxPayload (protocolHandler env) b := if_neg hm
    have hr : receive cfg kMaxPayload r b = receiveFramed kMaxPayload r b :=
      if_neg (fun hx => hm (h.mode.trans hx))
    have hf : c.mode = .framed := by
      cases hmode : c.mode with
      | text => exact absurd hmode hm
      | framed => rfl
    rw [hr, hc]
    exact framedByte_follows env c r held b h hf

end Byte

section Slot

def settle (held : Option Received) (es : List (Option Reception)) : Option Received :=
  es.foldl next held

theorem settle_append (held : Option Received) (es fs : List (Option Reception)) :
    settle held (es ++ fs) = settle (settle held es) fs :=
  List.foldl_append

/-- A byte that completes a command is followed by bytes that complete nothing. -/
def Undisturbed (es : List (Option Reception)) : Prop :=
  es.Pairwise fun e f => e.bind Reception.received ≠ none → f = none

instance (es : List (Option Reception)) : Decidable (Undisturbed es) :=
  inferInstanceAs (Decidable (List.Pairwise _ es))

theorem commands_cons (e : Option Reception) (es : List (Option Reception)) :
    commands (e::es) = (e.bind Reception.received).toList ++ commands es := by
  cases he : e.bind Reception.received <;> simp [commands, he]

def Kept (held : Option Received) (es : List (Option Reception)) : Prop :=
  Undisturbed es ∧ (held = none ∨ ∀ e ∈ es, e = none)

theorem kept_none (held : Option Received) (es : List (Option Reception)) :
    Kept held (none::es) ↔ Kept held es := by
  simp [Kept, Undisturbed]

theorem kept_some (held : Option Received) (x : Reception) (es : List (Option Reception)) :
    Kept held (some x::es) ↔ held = none ∧ Kept x.received es := by
  cases hx : x.received with
  | none => simp [Kept, Undisturbed, hx, and_comm]
  | some w =>
    simp only [Kept, Undisturbed, List.pairwise_cons, Option.bind_some, hx, ne_eq, reduceCtorEq,
      not_false_eq_true, forall_const, List.mem_cons, forall_eq_or_imp, false_and, or_false,
      false_or]
    tauto

theorem settle_toList (held : Option Received) (es : List (Option Reception)) (h : Kept held es) :
    (settle held es).toList = held.toList ++ commands es := by
  induction es generalizing held with
  | nil => simp [settle, commands]
  | cons e es ih =>
    rw [commands_cons]
    cases e with
    | none => exact ih held ((kept_none held es).mp h)
    | some x =>
      obtain ⟨hnone, hkept⟩ := (kept_some held x es).mp h
      rw [hnone]
      exact ih x.received hkept

theorem settle_length_lt (held : Option Received) (es : List (Option Reception))
    (h : ¬ Kept held es) :
    (settle held es).toList.length < held.toList.length+(commands es).length := by
  induction es generalizing held with
  | nil => exact absurd ⟨List.Pairwise.nil, Or.inr (by simp)⟩ h
  | cons e es ih =>
    rw [commands_cons, List.length_append]
    cases e with
    | none =>
      have hsettle : settle held (none::es) = settle held es := rfl
      rw [kept_none] at h
      rw [hsettle]
      simpa using ih held h
    | some x =>
      have hsettle : settle held (some x::es) = settle x.received es := rfl
      have hbind : (some x).bind Reception.received = x.received := rfl
      rw [hsettle, hbind]
      by_cases hkept : Kept x.received es
      · have hheld : held ≠ none := fun hn => h ((kept_some held x es).mpr ⟨hn, hkept⟩)
        obtain ⟨w, rfl⟩ := Option.ne_none_iff_exists'.mp hheld
        rw [settle_toList _ _ hkept, List.length_append]
        simp
      · have hlt := ih x.received hkept
        omega

end Slot

section Reads

variable (cfg : Cfg) (env : Environment)

def ExitLast (es : List (Option Reception)) : Prop := es.Pairwise fun e _ => e ≠ some .exit

instance (es : List (Option Reception)) : Decidable (ExitLast es) :=
  inferInstanceAs (Decidable (List.Pairwise _ es))

theorem receive_mode (r : Receiver) (b : UInt8) (hm : r.mode = .framed)
    (he : (receive cfg kMaxPayload r b).1 ≠ some .exit) :
    (receive cfg kMaxPayload r b).2.mode = .framed := by
  have hr : receive cfg kMaxPayload r b = receiveFramed kMaxPayload r b := if_neg (by simp [hm])
  rw [hr] at he ⊢
  unfold receiveFramed at *
  dsimp only at *
  split_ifs at * with hready hcmd hx
  · exact hm
  · simp at he
  · exact hm
  · exact hm

theorem receptions_eq_nil (r : Receiver) (bs : List UInt8)
    (h : ∀ e, e ∉ receptions cfg kMaxPayload r bs) : bs = [] := by
  cases bs with
  | nil => rfl
  | cons b bs =>
    have he := h (receive cfg kMaxPayload r b).1
    simp [receptions] at he

theorem processBytes_follows (c : CLI) (r : Receiver) (held : Option Received) (bs : List UInt8)
    (h : Tracks c r held) (hexit : ExitLast (receptions cfg kMaxPayload r bs)) :
    Follows c (c.processBytes cfg kMaxPayload (protocolHandler env) bs)
      (after cfg kMaxPayload r bs) (settle held (receptions cfg kMaxPayload r bs)) := by
  induction bs generalizing c r held with
  | nil =>
    have hnil : c.processBytes cfg kMaxPayload (protocolHandler env) [] = c := by
      unfold CLI.processBytes
      split_ifs <;> rfl
    rw [hnil]
    exact ⟨h, rfl⟩
  | cons b bs ih =>
    obtain ⟨hhead, htail⟩ := List.pairwise_cons.mp hexit
    obtain ⟨htracks, hans⟩ := processByte_follows cfg env c r held b h
    have hmode : c.mode = .text ∨
        (c.processByte cfg kMaxPayload (protocolHandler env) b).mode = .framed ∨ bs = [] := by
      by_cases hx : (receive cfg kMaxPayload r b).1 = some .exit
      · right; right
        exact receptions_eq_nil cfg _ bs (fun e he => hhead e he hx)
      · cases hc : c.mode with
        | text => left; rfl
        | framed =>
          right; left
          rw [htracks.mode]
          exact receive_mode cfg r b (h.mode.symm.trans hc) hx
    rw [processBytes_cons cfg kMaxPayload _ c h.router b bs hmode]
    obtain ⟨htracks', hans'⟩ := ih _ _ _ htracks htail
    exact ⟨htracks', hans'.trans hans⟩

theorem release_tracks (c : CLI) (r : Receiver) (held : Option Received)
    (builder : LightweightStringBuilder) (history : List Effect) (h : Tracks c r held) :
    Tracks { release c with builder := builder, history := history } r none := by
  have hidle := release_idle c builder history
  by_cases hm : c.mode = .text
  · have hfr : c.hasFramedCommand = false := h.text hm
    simp only [release, if_pos hm] at hidle ⊢
    exact { h with sync := rfl, text := fun _ => hfr, waiting := hidle }
  · simp only [release, if_neg hm] at hidle ⊢
    exact { h with text := fun _ => rfl, waiting := hidle }

theorem tick_answered (fuel : ℕ) (c : CLI) (r : Receiver) (held : Option Received) (read : Read)
    (h : Tracks c r held) (hexit : ExitLast (receptions cfg kMaxPayload r read.bytes)) :
    ∃ c' es, tick cfg env (fuel+1) c read = some c' ∧
      Tracks c' (after cfg kMaxPayload r read.bytes) none ∧ answers c' = answers c ++ es ∧
      Answered cfg (settle held (receptions cfg kMaxPayload r read.bytes)).toList es := by
  obtain ⟨htracks, hans⟩ := processBytes_follows cfg env c r held read.bytes h hexit
  obtain ⟨builder, es, hanswered, hdrain⟩ := drain_spec cfg env fuel _ htracks.sync
  rw [htracks.waiting] at hanswered
  refine ⟨_, es, hdrain, release_tracks _ _ _ _ _ htracks, ?_, hanswered⟩
  rw [← hans]
  exact Answered.answers_eq cfg _ es _ _ hanswered rfl

/-- In every read, nothing follows a frame that leaves FRAMED mode. -/
def ExitLastReads : Receiver → List Read → Prop
  | _, [] => True
  | r, read::reads =>
    ExitLast (receptions cfg kMaxPayload r read.bytes) ∧
      ExitLastReads (after cfg kMaxPayload r read.bytes) reads

/-- The commands that are still there when the loop of a tick looks for them.
The events of `carried` were read since the last loop. -/
def survivors : List (Option Reception) → Receiver → List Read → List Received
  | _, _, [] => []
  | carried, r, read::reads =>
    (settle none (carried ++ receptions cfg kMaxPayload r read.bytes)).toList ++
      survivors [] (after cfg kMaxPayload r read.bytes) reads

/-- Between the loops of two ticks no command is disturbed, and the last ones
have a tick to be answered in. -/
def UndisturbedReads : List (Option Reception) → Receiver → List Read → Prop
  | carried, _, [] => commands carried = []
  | carried, r, read::reads =>
    Undisturbed (carried ++ receptions cfg kMaxPayload r read.bytes) ∧
      UndisturbedReads [] (after cfg kMaxPayload r read.bytes) reads

instance decidableUndisturbedReads : ∀ (carried : List (Option Reception)) (r : Receiver)
    (reads : List Read), Decidable (UndisturbedReads cfg carried r reads)
  | carried, _, [] => inferInstanceAs (Decidable (commands carried = []))
  | _, r, read::reads =>
    have := decidableUndisturbedReads [] (after cfg kMaxPayload r read.bytes) reads
    inferInstanceAs (Decidable (_ ∧ _))

instance decidableExitLastReads : ∀ (r : Receiver) (reads : List Read),
    Decidable (ExitLastReads cfg r reads)
  | _, [] => inferInstanceAs (Decidable True)
  | r, read::reads =>
    have := decidableExitLastReads (after cfg kMaxPayload r read.bytes) reads
    inferInstanceAs (Decidable (_ ∧ _))

theorem survivors_eq (carried : List (Option Reception)) (r : Receiver) (reads : List Read)
    (h : UndisturbedReads cfg carried r reads) :
    survivors cfg carried r reads =
      commands (carried ++ receptions cfg kMaxPayload r (reads.flatMap Read.bytes)) := by
  induction reads generalizing carried r with
  | nil =>
    have hnil : commands carried = [] := h
    simp [survivors, receptions, hnil]
  | cons read reads ih =>
    obtain ⟨hund, hrest⟩ := h
    have hhead := settle_toList none _ ⟨hund, Or.inl rfl⟩
    rw [survivors, hhead, ih _ _ hrest, List.flatMap_cons, receptions_append,
      ← List.append_assoc, commands_append (carried ++ _)]
    rfl

theorem survivors_length_lt (carried : List (Option Reception)) (r : Receiver) (reads : List Read)
    (h : ¬ UndisturbedReads cfg carried r reads) :
    (survivors cfg carried r reads).length <
      (commands (carried ++ receptions cfg kMaxPayload r (reads.flatMap Read.bytes))).length := by
  induction reads generalizing carried r with
  | nil =>
    have hne : commands carried ≠ [] := h
    simpa [survivors, receptions] using List.length_pos_iff.mpr hne
  | cons read reads ih =>
    rw [survivors, List.flatMap_cons, receptions_append, ← List.append_assoc, commands_append,
      List.length_append, List.length_append]
    by_cases hrest : UndisturbedReads cfg [] (after cfg kMaxPayload r read.bytes) reads
    · have hund : ¬ Undisturbed (carried ++ receptions cfg kMaxPayload r read.bytes) :=
        fun hu => h ⟨hu, hrest⟩
      have hlt := settle_length_lt none _ (fun hk => hund hk.1)
      rw [survivors_eq cfg _ _ _ hrest]
      simpa using hlt
    · have hlt := ih [] _ hrest
      have hle : (settle none (carried ++ receptions cfg kMaxPayload r read.bytes)).toList.length ≤
          (commands (carried ++ receptions cfg kMaxPayload r read.bytes)).length := by
        by_cases hk : Kept none (carried ++ receptions cfg kMaxPayload r read.bytes)
        · rw [settle_toList _ _ hk]
          simp
        · have hlt' := settle_length_lt none _ hk
          simpa using hlt'.le
      exact Nat.add_lt_add_of_le_of_lt hle hlt

theorem ticks_answered (fuel : ℕ) (reads : List Read) (c : CLI) (r : Receiver)
    (carried : List (Option Reception)) (h : Tracks c r (settle none carried))
    (hexit : ExitLastReads cfg r reads) :
    ∃ c' es, reads.foldlM (tick cfg env (fuel+1)) c = some c' ∧ answers c' = answers c ++ es ∧
      Answered cfg (survivors cfg carried r reads) es := by
  induction reads generalizing c r carried with
  | nil => exact ⟨c, [], rfl, (List.append_nil _).symm, .nil⟩
  | cons read reads ih =>
    obtain ⟨hread, hrest⟩ := hexit
    obtain ⟨c₁, es₁, htick, htracks, hans, hanswered⟩ :=
      tick_answered cfg env fuel c r _ read h hread
    obtain ⟨c₂, es₂, hticks, hans₂, hanswered₂⟩ := ih c₁ _ [] htracks hrest
    rw [← settle_append] at hanswered
    refine ⟨c₂, es₁ ++ es₂, ?_, ?_, hanswered.append cfg _ _ _ _ hanswered₂⟩
    · rw [List.foldlM_cons, htick]
      exact hticks
    · rw [hans₂, hans, List.append_assoc]

theorem initial_tracks : Tracks CLI.initial.setProtocolHandler initial none :=
  ⟨rfl, rfl, rfl, rfl, rfl, rfl, rfl, fun _ => rfl, rfl⟩

/-- A run answers the commands that survive, each once and in order. -/
theorem run_answered (fuel : ℕ) (atInit : Read) (reads : List Read)
    (hexit : ExitLastReads cfg initial (atInit::reads)) :
    ∃ c, run cfg env (fuel+1) atInit reads = some c ∧
      Answered cfg (survivors cfg (receptions cfg kMaxPayload initial atInit.bytes)
        (after cfg kMaxPayload initial atInit.bytes) reads) (answers c) := by
  obtain ⟨hinit, hreads⟩ := hexit
  obtain ⟨htracks, hans⟩ := processBytes_follows cfg env _ _ none atInit.bytes initial_tracks hinit
  obtain ⟨c, es, hrun, hans', hanswered⟩ := ticks_answered cfg env fuel reads _ _ _ htracks hreads
  have hnone : answers CLI.initial.setProtocolHandler = [] := rfl
  rw [hans, hnone, List.nil_append] at hans'
  rw [← hans'] at hanswered
  exact ⟨c, hrun, hanswered⟩

/-- In a run in which leaving FRAMED mode ends its read, the commands of the
byte stream are answered exactly once and in order of arrival, whatever the
queue answers, if and only if none of them is disturbed before the loop of a
tick. The condition is on the stream and the way it is cut; `init` reads
without a loop. -/
theorem commands_answered_once_iff (fuel : ℕ) (atInit : Read) (reads : List Read)
    (hexit : ExitLastReads cfg initial (atInit::reads)) :
    (∃ c, run cfg env (fuel+1) atInit reads = some c ∧
      Answered cfg (commands (receptions cfg kMaxPayload initial
        (atInit.bytes ++ reads.flatMap Read.bytes))) (answers c)) ↔
    UndisturbedReads cfg (receptions cfg kMaxPayload initial atInit.bytes)
      (after cfg kMaxPayload initial atInit.bytes) reads := by
  obtain ⟨c, hrun, hanswered⟩ := run_answered cfg env fuel atInit reads hexit
  rw [receptions_append]
  constructor
  · rintro ⟨c', hrun', hanswered'⟩
    by_contra hund
    have hlt := survivors_length_lt cfg _ _ _ hund
    have hc : c' = c := Option.some_inj.mp (hrun'.symm.trans hrun)
    rw [hc] at hanswered'
    have hlen := hanswered.length_eq
    have hlen' := hanswered'.length_eq
    omega
  · intro hund
    rw [survivors_eq cfg _ _ _ hund] at hanswered
    exact ⟨c, hrun, hanswered⟩

end Reads

section Sessions

def plainCfg : Cfg := { floatText := fun _ => [] }

def alternating : Environment :=
  { try_push := fun history _ => history.length % 4 < 2, snapshotFn := none }

def noBytes : Read := ⟨[], by decide⟩

def plainLine : Read := ⟨ascii "1 0 5\n", by decide⟩

def handshake : Read :=
  ⟨0 :: wire kMaxPayload ⟨.handshakeReq, 1, some [1, 0, 0x53, 0x4F, 0x50, 0x53], 6⟩,
    by decide +kernel⟩

def framedCommand : Read :=
  ⟨wire kMaxPayload ⟨.command, 9, some [2, 0, 0, 0, 0xE0, 0x40], 6⟩, by decide +kernel⟩

def leave : Read := ⟨wire kMaxPayload ⟨.exitHandshake, 2, none, 0⟩, by decide +kernel⟩

def session : List Read := [plainLine, handshake, framedCommand, leave]

theorem session_answered :
    commands (receptions plainCfg kMaxPayload initial
        (noBytes.bytes ++ session.flatMap Read.bytes)) =
      [⟨none, ⟨1, 0, 0x40A00000⟩⟩, ⟨some 9, ⟨2, 0, 0x40E00000⟩⟩] ∧
    ∃ c, run plainCfg alternating 1 noBytes session = some c ∧
      Answered plainCfg (commands (receptions plainCfg kMaxPayload initial
        (noBytes.bytes ++ session.flatMap Read.bytes))) (answers c) := by
  constructor
  · decide +kernel
  · apply (commands_answered_once_iff plainCfg alternating 0 noBytes session ?_).mpr
    · decide +kernel
    · decide +kernel

def twoCommands : Read := ⟨ascii "1 0 5\n2 0 7\n", by decide⟩

/-- The second command of the read takes the slot of the first, which is
neither offered to the queue nor answered. -/
theorem first_command_dropped :
    commands (receptions plainCfg kMaxPayload initial (noBytes.bytes ++ twoCommands.bytes)) =
      [⟨none, ⟨1, 0, 0x40A00000⟩⟩, ⟨none, ⟨2, 0, 0x40E00000⟩⟩] ∧
    (run plainCfg alternating 1 noBytes [twoCommands]).map answers =
      some [.tryPush ⟨2, 0, 0x40E00000⟩ true, .write .tick (ascii "ACK 2\n")] ∧
    ¬ ∃ c, run plainCfg alternating 1 noBytes [twoCommands] = some c ∧
      Answered plainCfg (commands (receptions plainCfg kMaxPayload initial
        (noBytes.bytes ++ twoCommands.bytes))) (answers c) := by
  have hcommands : commands (receptions plainCfg kMaxPayload initial
      (noBytes.bytes ++ twoCommands.bytes)) =
      [⟨none, ⟨1, 0, 0x40A00000⟩⟩, ⟨none, ⟨2, 0, 0x40E00000⟩⟩] := by decide +kernel
  have hanswers : (run plainCfg alternating 1 noBytes [twoCommands]).map answers =
      some [.tryPush ⟨2, 0, 0x40E00000⟩ true, .write .tick (ascii "ACK 2\n")] := by decide +kernel
  refine ⟨hcommands, hanswers, ?_⟩
  rintro ⟨c, hc, hanswered⟩
  have hlen := hanswered.length_eq
  rw [hc, Option.map_some, Option.some_inj] at hanswers
  simp [hcommands, hanswers] at hlen

end Sessions

end SputterOS.CommandAnswers
