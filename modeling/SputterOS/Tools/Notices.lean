import SputterOS.Tools.Opening

/-!
# What the device sends unasked

Between two ticks the application sends data and lines of its log, which share
the wire with the replies of the task. The tool hands them to callbacks and keeps
the replies for its calls.
-/

set_option autoImplicit false

namespace SputterOS.Tools.Notices
open SputterOS.FrameCodec SputterOS.FrameStream SputterOS.ProtocolRouter SputterOS.Logic
  SputterOS.CommandLine SputterOS.ReceivedStream SputterOS.ReadLoops SputterOS.ScheduledCommsTask
  SputterOS.CommandReplies SputterOS.ReadTimeline SputterOS.Tools.Exchange SputterOS.Tools.Opening
open CommandAnswers (plainCfg noBytes handshake framedCommand)
open MetricsReply (reporting)
open ResponseSerializer (serializeLog)
open Protocol (feed DecodedFrame decode_log)
open Foundation.OffsetReader (leNat)

section Device

inductive Notice where
  | data (payload : List UInt8)
  | log (level : UInt8) (text : List UInt8)

def frameBytes (type : MessageType) (payload : List UInt8) : List UInt8 :=
  FrameCodec.encode kMaxPayload type 0 (some payload) payload.length (kMaxWireSize kMaxPayload)

def sendFramedData (payload : List UInt8) : List UInt8 := frameBytes .data payload

def sendFramedLog (level : UInt8) (text : List UInt8) : List UInt8 :=
  let payload := serializeLog level text kMaxPayload
  if 0 < payload.length then frameBytes .log payload else []

def Notice.bytes : Notice → List UInt8
  | .data payload => sendFramedData payload
  | .log level text => sendFramedLog level text

inductive Event where
  | read (r : Read)
  | notice (n : Notice)

def Event.read? : Event → Option Read
  | .read r => some r
  | .notice _ => none

def Event.notice? : Event → Option Notice
  | .read _ => none
  | .notice n => some n

structure Station where
  cli : CLI
  out : List UInt8

variable (cfg : Cfg) (env : Environment)

def start (atInit : Read) : Station :=
  ⟨init cfg env atInit, written (init cfg env atInit).history⟩

def step (fuel : ℕ) (s : Station) : Event → Option Station
  | .read r => (tick cfg env fuel s.cli r).map fun c =>
    ⟨c, s.out ++ written (c.history.drop s.cli.history.length)⟩
  | .notice n => some { s with out := s.out ++ n.bytes }

/-- No tick answers a command that came as a line of text. -/
def Wordless (fuel : ℕ) : CLI → List Read → Prop
  | _, [] => True
  | c, r::reads => (∀ w ∈ waiting (readTo cfg env c r), w.seqNum ≠ none) ∧
    ∀ c' ∈ tick cfg env fuel c r, Wordless fuel c' reads

instance decidableWordless (fuel : ℕ) : ∀ (reads : List Read) (c : CLI),
    Decidable (Wordless cfg env fuel c reads)
  | [], _ => inferInstanceAs (Decidable True)
  | r::reads, c =>
    let _ : ∀ c', Decidable (Wordless cfg env fuel c' reads) := decidableWordless fuel reads
    inferInstanceAs (Decidable (_ ∧ ∀ c' ∈ tick cfg env fuel c r, Wordless cfg env fuel c' reads))

end Device

section Tool

variable {τ : Type*}

structure Callbacks where
  on_telemetry : Bool
  on_data : Bool
  on_log : Bool

inductive Called (τ : Type*) where
  | telemetry (payload : List UInt8)
  | data (payload : List UInt8)
  | log (level : ℕ) (text : τ)

variable (cb : Callbacks) (decodeText : List UInt8 → τ)

def callback (f : DecodedFrame) : Option (Called τ) :=
  match f.msg_type with
  | .TELEMETRY => if cb.on_telemetry then some (.telemetry f.payload) else none
  | .DATA => if cb.on_data then some (.data f.payload) else none
  | .LOG =>
    if cb.on_log then (decode_log decodeText f.payload).map fun result => .log result.1 result.2
    else none
  | _ => none

/-- What the tool is to learn of a notice; one that does not fit a frame is lost. -/
def delivery : Notice → Option (Called τ)
  | .data payload =>
    if cb.on_data ∧ payload.length ≤ kMaxPayload then some (.data payload) else none
  | .log level text =>
    if cb.on_log ∧ text.length < kMaxPayload then some (.log level.toNat (decodeText text))
    else none

def Carries (bytes : List UInt8) (frames : List DecodedFrame) : Prop :=
  ∀ rest, feed [] (bytes ++ rest) = frames ++ feed [] rest

theorem Carries.nil : Carries [] [] := fun _ => rfl

theorem Carries.append (bytes bytes' : List UInt8) (frames frames' : List DecodedFrame)
    (h : Carries bytes frames) (h' : Carries bytes' frames') :
    Carries (bytes ++ bytes') (frames ++ frames') := by
  intro rest
  rw [List.append_assoc, h, h', List.append_assoc]

theorem Carries.whole (bytes : List UInt8) (frames : List DecodedFrame) (h : Carries bytes frames) :
    feed [] bytes = frames := by
  have hnil := h []
  rwa [List.append_nil, feed, List.append_nil] at hnil

theorem Carries.wire (t : Protocol.MessageType) (m : Message) (hs : Sendable kMaxPayload m)
    (ht : m.type = t.device) : Carries (wire kMaxPayload m) [decoded t m] := by
  intro rest
  exact feed_wire t m rest hs ht

theorem frameBytes_carries (t : Protocol.MessageType) (payload : List UInt8)
    (h : payload.length ≤ kMaxPayload) :
    Carries (frameBytes t.device payload) [⟨t, 0, payload⟩] := by
  have hs := payload_sendable t.device 0 payload h
  have hdecoded : decoded t ⟨t.device, 0, some payload, payload.length⟩ = ⟨t, 0, payload⟩ := by
    simp [decoded, Message.bytes]
  rw [← hdecoded]
  exact Carries.wire t ⟨t.device, 0, some payload, payload.length⟩ hs rfl

theorem frameBytes_oversize (type : MessageType) (payload : List UInt8)
    (h : kMaxPayload < payload.length) : frameBytes type payload = [] := by
  rw [frameBytes, FrameCodec.encode, if_pos h]

theorem notice_carries (n : Notice) :
    ∃ frames, Carries n.bytes frames ∧ (∀ f ∈ frames, ¬ Solicited f.msg_type) ∧
      frames.filterMap (callback cb decodeText) = (delivery cb decodeText n).toList := by
  obtain ⟨on_telemetry, on_data, on_log⟩ := cb
  have hdata : ¬ Solicited .DATA := by decide
  have hlog : ¬ Solicited .LOG := by decide
  cases n with
  | data payload =>
    by_cases hfits : payload.length ≤ kMaxPayload
    · refine ⟨[⟨.DATA, 0, payload⟩], frameBytes_carries .DATA payload hfits, by simpa, ?_⟩
      cases on_data <;> simp [callback, delivery, hfits]
    · refine ⟨[], ?_, by simp, by simp [delivery, hfits]⟩
      rw [Notice.bytes, sendFramedData, frameBytes_oversize _ _ (Nat.not_le.mp hfits)]
      exact Carries.nil
  | log level text =>
    rw [Notice.bytes, sendFramedLog]
    by_cases hfits : text.length < kMaxPayload
    · have hpayload : serializeLog level text kMaxPayload = level::text :=
        if_neg (by rw [Nat.add_comm]; exact Nat.not_lt.mpr hfits)
      simp only [hpayload, List.length_cons, Nat.succ_pos, if_true]
      refine ⟨[⟨.LOG, 0, level::text⟩], frameBytes_carries .LOG (level::text) hfits, by simpa, ?_⟩
      cases on_log <;> simp [callback, delivery, hfits, decode_log, leNat]
    · have hpayload : serializeLog level text kMaxPayload = [] :=
        if_pos (by rw [Nat.add_comm]; exact Nat.lt_succ_of_le (Nat.not_lt.mp hfits))
      simp only [hpayload, List.length_nil, Nat.lt_irrefl, if_false]
      exact ⟨[], Carries.nil, by simp, by simp [delivery, hfits]⟩

theorem callback_solicited (f : DecodedFrame) (h : Solicited f.msg_type) :
    callback cb decodeText f = none := by
  unfold callback
  cases ht : f.msg_type with
  | TELEMETRY | DATA | LOG =>
    rw [ht] at h
    exact absurd h (by decide)
  | _ => rfl

end Tool

section Replies

variable (cfg : Cfg) (env : Environment)

theorem exit_spoken (seqNum : UInt8) (c : CLI) :
    ∃ es, ((protocolHandler env).onExitHandshake seqNum c).history = c.history ++ es ∧
      ∀ e ∈ es, Spoken e := by
  obtain ⟨es, hes, heq⟩ := (Told.refl c).sendFrame c c .onExitHandshake .ACK (by decide) seqNum
    (some [MessageType.exitHandshake.value]) 1 (Or.inr ⟨_, rfl, le_rfl⟩)
  exact ⟨es, congrArg CLI.history heq, hes⟩

theorem text_spoken (c : CLI) (b : UInt8) (hr : c.hasRouter = true) :
    ∃ es, (c.processTextByte cfg kMaxPayload (protocolHandler env) b).2.history =
      c.history ++ es ∧ ∀ e ∈ es, Spoken e := by
  have hquiet : ∀ c' : CLI, c'.history = c.history →
      ∃ es, c'.history = c.history ++ es ∧ ∀ e ∈ es, Spoken e :=
    fun c' h => ⟨[], by simpa using h, by simp⟩
  unfold CLI.processTextByte
  split_ifs with hb hp ha hl
  · rcases tryHandshakeProbe_cases kMaxPayload (protocolHandler env) c hr with
      ⟨-, ht⟩ | ⟨-, version, seqNum, ht⟩
    · rw [ht]
      exact hquiet _ rfl
    · rw [ht, onHandshakeRequest_eq]
      exact ⟨[_], rfl, by simpa using welcome_spoken seqNum⟩
  · exact hquiet _ rfl
  · exact hquiet _ rfl
  · exact hquiet _ rfl
  · exact hquiet _ rfl

theorem framed_spoken (c : CLI) (b : UInt8) (hr : c.hasRouter = true) :
    ∃ es, (c.processFramedByte kMaxPayload (protocolHandler env) b).history =
      c.history ++ es ∧ ∀ e ∈ es, Spoken e := by
  have hquiet : ∃ es, c.history = c.history ++ es ∧ ∀ e ∈ es, Spoken e := ⟨[], by simp, by simp⟩
  unfold CLI.processFramedByte
  dsimp only
  generalize c.frameDecoder.feedByte kMaxPayload b = fed
  by_cases hready : fed.1 = .frameReady
  · simp only [if_pos hready, CLI.handleDecodedFrame]
    by_cases hcmd : fed.2.msgType = .command
    · simp only [if_pos hcmd]
      split_ifs
      · exact hquiet
      · exact hquiet
    · simp only [if_neg hcmd, if_pos hr]
      by_cases hx : fed.2.msgType = .exitHandshake
      · rw [hx, dispatch_exitHandshake]
        exact exit_spoken env fed.2.seqNum { c with frameDecoder := fed.2 }
      · obtain ⟨es, hes, heq⟩ := dispatch_told env fed.2.msgType hx fed.2.seqNum fed.2.payload
          { c with frameDecoder := fed.2 }
        exact ⟨es, congrArg CLI.history heq, hes⟩
  · simp only [if_neg hready]
    exact hquiet

theorem step_spoken (s : Loop) (b : UInt8) (hr : s.cli.hasRouter = true) :
    ∃ es, (s.step cfg kMaxPayload (protocolHandler env) b).cli.history = s.cli.history ++ es ∧
      ∀ e ∈ es, Spoken e := by
  unfold Loop.step
  split_ifs
  · exact text_spoken cfg env s.cli b hr
  · exact framed_spoken env s.cli b hr

theorem after_spoken (s : Loop) (bs : List UInt8) (h : Ready s.cli) :
    ∃ es, (s.after cfg kMaxPayload (protocolHandler env) bs).cli.history = s.cli.history ++ es ∧
      ∀ e ∈ es, Spoken e := by
  induction bs generalizing s with
  | nil => exact ⟨[], by simp [Loop.after], by simp⟩
  | cons b bs ih =>
    have hready := (step_move cfg env s b h.router).ready _ _ _ _ h
    obtain ⟨es, hhist, hes⟩ := step_spoken cfg env s b h.router
    obtain ⟨fs, hhist', hfs⟩ := ih _ hready
    refine ⟨es ++ fs, ?_, ?_⟩
    · rw [← List.append_assoc, ← hhist]
      exact hhist'
    · intro e he
      exact (List.mem_append.mp he).elim (hes e) (hfs e)

theorem readTo_spoken (c : CLI) (r : Read) (h : Ready c) :
    Ready (readTo cfg env c r) ∧ ∃ es, (readTo cfg env c r).history = c.history ++ es ∧
      ∀ e ∈ es, Spoken e := by
  rw [readTo, tick_eq]
  exact ⟨after_ready cfg env (Loop.enter c) r.bytes h, after_spoken cfg env (Loop.enter c) r.bytes h⟩

theorem tick_spoken (fuel : ℕ) (c : CLI) (r : Read) (h : Ready c)
    (hwords : ∀ w ∈ waiting (readTo cfg env c r), w.seqNum ≠ none) :
    ∃ c' es, tick cfg env (fuel+1) c r = some c' ∧ Ready c' ∧ c'.history = c.history ++ es ∧
      ∀ e ∈ es, Spoken e := by
  obtain ⟨hready, es, hhist, hes⟩ := readTo_spoken cfg env c r h
  obtain ⟨builder, replies, hans, hdrain⟩ := drain_spec cfg env fuel (readTo cfg env c r) hready.sync
  refine ⟨_, es ++ replies, hdrain, release_ready _ builder _ hready, ?_, ?_⟩
  · rw [hhist, List.append_assoc]
  · intro e he
    rcases List.mem_append.mp he with he | he
    · exact hes e he
    · exact answered_spoken cfg _ _ hans (fun w hw => hwords w (Option.mem_toList.mp hw)) e he

theorem spoken_carries (es : List Effect) (h : ∀ e ∈ es, Spoken e) :
    ∃ frames, Carries (written es) frames ∧ ∀ f ∈ frames, Solicited f.msg_type := by
  induction es with
  | nil => exact ⟨[], Carries.nil, by simp⟩
  | cons e es ih =>
    obtain ⟨frames, hcarries, hframes⟩ := ih fun x hx => h x (by simp [hx])
    rcases h e (by simp) with ⟨cmd, accepted, rfl⟩ | ⟨writer, t, m, rfl, hs, ht, hsolicited⟩
    · exact ⟨frames, hcarries, hframes⟩
    · refine ⟨[decoded t m] ++ frames, ?_, ?_⟩
      · exact (Carries.wire t m hs ht).append _ _ _ _ hcarries
      · simpa [decoded, hsolicited] using hframes

end Replies

section Runs

variable {τ : Type*} (cfg : Cfg) (env : Environment) (cb : Callbacks)
  (decodeText : List UInt8 → τ)

structure Heard (s : Station) (notices : List Notice) : Prop where
  ready : Ready s.cli
  frames : ∃ frames replies, Carries s.out frames ∧ Carries (written s.cli.history) replies ∧
    frames.filter (fun f => Solicited f.msg_type) = replies ∧
    (∀ f ∈ replies, Solicited f.msg_type) ∧
    frames.filterMap (callback cb decodeText) = notices.filterMap (delivery cb decodeText)

theorem notice_heard (s : Station) (notices : List Notice) (n : Notice)
    (h : Heard cb decodeText s notices) :
    Heard cb decodeText { s with out := s.out ++ n.bytes } (notices ++ [n]) := by
  obtain ⟨hready, frames, replies, hout, hhist, hreplies, hsolicited, hcalls⟩ := h
  obtain ⟨frames', hcarries, hunsolicited, hcalled⟩ := notice_carries cb decodeText n
  refine ⟨hready, frames ++ frames', replies, hout.append _ _ _ _ hcarries, hhist, ?_, hsolicited,
    ?_⟩
  · have hnone : frames'.filter (fun f => Solicited f.msg_type) = [] := by
      simpa using hunsolicited
    rw [List.filter_append, hreplies, hnone, List.append_nil]
  · rw [List.filterMap_append, List.filterMap_append, hcalls, hcalled]
    cases hd : delivery cb decodeText n <;> simp [hd]

theorem read_heard (s : Station) (c : CLI) (notices : List Notice) (es : List Effect)
    (h : Heard cb decodeText s notices) (hready : Ready c) (hes : ∀ e ∈ es, Spoken e)
    (hhist : c.history = s.cli.history ++ es) :
    Heard cb decodeText ⟨c, s.out ++ written (c.history.drop s.cli.history.length)⟩ notices := by
  obtain ⟨-, frames, replies, hout, hold, hreplies, hsolicited, hcalls⟩ := h
  obtain ⟨frames', hcarries, hsolicited'⟩ := spoken_carries es hes
  have hnew : c.history.drop s.cli.history.length = es := by
    rw [hhist, List.drop_left]
  refine ⟨hready, frames ++ frames', replies ++ frames', ?_, ?_, ?_, ?_, ?_⟩
  · rw [hnew]
    exact hout.append _ _ _ _ hcarries
  · rw [hhist, written_append]
    exact hold.append _ _ _ _ hcarries
  · have hall : frames'.filter (fun f => Solicited f.msg_type) = frames' := by
      simpa using hsolicited'
    rw [List.filter_append, hreplies, hall]
  · intro f hf
    exact (List.mem_append.mp hf).elim (hsolicited f) (hsolicited' f)
  · have hnone : frames'.filterMap (callback cb decodeText) = [] := by
      rw [List.filterMap_eq_nil_iff]
      exact fun f hf => callback_solicited cb decodeText f (hsolicited' f hf)
    rw [List.filterMap_append, hcalls, hnone, List.append_nil]

theorem start_heard (atInit : Read) : Heard cb decodeText (start cfg env atInit) [] := by
  obtain ⟨hready, es, hhist, hes⟩ := readTo_spoken cfg env CLI.initial.setProtocolHandler atInit
    initial_ready
  have hinit : (init cfg env atInit).history = es := hhist
  obtain ⟨frames, hcarries, hsolicited⟩ := spoken_carries es hes
  rw [← hinit] at hcarries
  refine ⟨hready, frames, frames, hcarries, hcarries, by simpa using hsolicited, hsolicited, ?_⟩
  rw [List.filterMap_nil, List.filterMap_eq_nil_iff]
  exact fun f hf => callback_solicited cb decodeText f (hsolicited f hf)

theorem run_heard (fuel : ℕ) (s : Station) (notices : List Notice) (events : List Event)
    (h : Heard cb decodeText s notices)
    (hwords : Wordless cfg env (fuel+1) s.cli (events.filterMap Event.read?)) :
    ∃ s', events.foldlM (step cfg env (fuel+1)) s = some s' ∧
      (events.filterMap Event.read?).foldlM (tick cfg env (fuel+1)) s.cli = some s'.cli ∧
      Heard cb decodeText s' (notices ++ events.filterMap Event.notice?) := by
  induction events generalizing s notices with
  | nil => exact ⟨s, rfl, rfl, by simpa using h⟩
  | cons e events ih =>
    cases e with
    | read r =>
      obtain ⟨c', es, htick, hready, hhist, hes⟩ := tick_spoken cfg env fuel s.cli r h.ready hwords.1
      have hheard := read_heard cb decodeText s c' notices es h hready hes hhist
      obtain ⟨s', hrun, hreads, hfinal⟩ := ih _ _ hheard (hwords.2 c' htick)
      refine ⟨s', ?_, ?_, hfinal⟩
      · rw [List.foldlM_cons, step, htick]
        exact hrun
      · have hcons : (Event.read r::events).filterMap Event.read? =
            r::events.filterMap Event.read? := rfl
        rw [hcons, List.foldlM_cons, htick]
        exact hreads
    | notice n =>
      obtain ⟨s', hrun, hreads, hfinal⟩ := ih _ _ (notice_heard cb decodeText s notices n h) hwords
      refine ⟨s', hrun, hreads, ?_⟩
      rw [List.append_assoc] at hfinal
      exact hfinal

/-- In every run from the construction of the task that answers no text, the tool
calls its callbacks for the notices that fit a frame, in order and with what they
carry, and it hears the replies that it would hear without the notices. -/
theorem notices_delivered (fuel : ℕ) (atInit : Read) (events : List Event)
    (h : Wordless cfg env (fuel+1) (init cfg env atInit) (events.filterMap Event.read?)) :
    ∃ s, events.foldlM (step cfg env (fuel+1)) (start cfg env atInit) = some s ∧
      run cfg env (fuel+1) atInit (events.filterMap Event.read?) = some s.cli ∧
      (feed [] s.out).filter (fun f => Solicited f.msg_type) = feed [] (written s.cli.history) ∧
      (feed [] s.out).filterMap (callback cb decodeText) =
        (events.filterMap Event.notice?).filterMap (delivery cb decodeText) := by
  obtain ⟨s, hrun, hreads, -, frames, replies, hout, hhist, hreplies, -, hcalls⟩ :=
    run_heard cfg env cb decodeText fuel _ [] events (start_heard cfg env cb decodeText atInit) h
  refine ⟨s, hrun, hreads, ?_, ?_⟩
  · rw [hout.whole, hhist.whole, hreplies]
  · rw [hout.whole, hcalls, List.nil_append]

end Runs

section Moments

def reportedSession : List Event :=
  [.read handshake, .notice (.log 2 [0x6F, 0x6B]), .read framedCommand, .notice (.data [1, 0, 2]),
    .notice (.data (List.replicate 257 7))]

theorem notices_delivered_session :
    ∃ s, reportedSession.foldlM (step plainCfg (reporting 7) 1)
        (start plainCfg (reporting 7) noBytes) = some s ∧
      run plainCfg (reporting 7) 1 noBytes [handshake, framedCommand] = some s.cli ∧
      (feed [] s.out).filter (fun f => Solicited f.msg_type) = feed [] (written s.cli.history) ∧
      (feed [] s.out).filterMap (callback ⟨false, true, true⟩ id) =
        [Called.log 2 [0x6F, 0x6B], Called.data [1, 0, 2]] := by
  obtain ⟨s, hrun, hreads, hreplies, hcalls⟩ :=
    notices_delivered plainCfg (reporting 7) ⟨false, true, true⟩ id 0 noBytes reportedSession
      (by decide +kernel)
  have hnotices : reportedSession.filterMap Event.notice? =
      [.log 2 [0x6F, 0x6B], .data [1, 0, 2], .data (List.replicate 257 7)] := rfl
  refine ⟨s, hrun, hreads, hreplies, hcalls.trans ?_⟩
  rw [hnotices]
  simp [delivery, kMaxPayload, -List.reduceReplicate]

end Moments

end SputterOS.Tools.Notices
