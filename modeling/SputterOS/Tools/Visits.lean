import SputterOS.Tools.Connection

/-!
# A visit of the tool

The tool connects, makes its calls and leaves. The device is then in TEXT mode
between two lines, ready for the next one and for the next visit.
-/

set_option autoImplicit false

namespace SputterOS.Tools.Visits
open SputterOS.FrameCodec SputterOS.FrameStream SputterOS.ProtocolRouter SputterOS.Logic
  SputterOS.CommandLine SputterOS.ReceivedStream SputterOS.ScheduledCommsTask
  SputterOS.CommandReplies SputterOS.ReadTimeline SputterOS.CommandAnswers SputterOS.FramedTicks
  SputterOS.MetricsReply SputterOS.TextProbe SputterOS.DecodeMetrics SputterOS.Tools.Exchange
  SputterOS.Tools.Opening SputterOS.Tools.Connection
open ResponseSerializer (serializeAck PerformanceSnapshot)
open Client (PROTOCOL_VERSION HANDSHAKE_MAGIC)
open Protocol (encode_frame feed)

def disconnectBytes (seq : ℕ) : Option (List UInt8) := encode_frame .EXIT_HANDSHAKE seq []

section Visits

variable (cfg : Cfg) (env : Environment) (snapshotFn : List Effect → PerformanceSnapshot)

theorem disconnectBytes_eq (seqNum : UInt8) :
    disconnectBytes seqNum.toNat = some (wire kMaxPayload ⟨.exitHandshake, seqNum, none, 0⟩) :=
  encode_frame_wire .EXIT_HANDSHAKE ⟨.exitHandshake, seqNum, none, 0⟩ ⟨Nat.zero_le _, Or.inl rfl⟩ rfl

theorem disconnect_ticks (fuel : ℕ) (c : CLI) (reads : List Read) (seq : ℕ) (hseq : seq < 256)
    (h : InSession c) (hsent : disconnectBytes seq = some (reads.flatMap Read.bytes)) :
    ∃ c' es, reads.foldlM (tick cfg env (fuel+1)) c = some c' ∧ AtRest c' ∧
      c'.probeActive = false ∧ c'.hasFramedCommand = false ∧ c'.history = c.history ++ es ∧
      es.filterMap offer = [] ∧ Hears es [.ack seq Protocol.MessageType.EXIT_HANDSHAKE.value] := by
  obtain ⟨seqNum, rfl⟩ : ∃ seqNum : UInt8, seqNum.toNat = seq :=
    ⟨UInt8.ofNat seq, UInt8.toNat_ofNat_of_lt' hseq⟩
  rw [disconnectBytes_eq, Option.some_inj] at hsent
  have hack : (protocolHandler env).onExitHandshake seqNum
      (behind c ⟨.exitHandshake, seqNum, none, 0⟩) =
      ((behind c ⟨.exitHandshake, seqNum, none, 0⟩).write .onExitHandshake
        (wire kMaxPayload ⟨.ack, seqNum, some (serializeAck MessageType.exitHandshake.value 1),
          (serializeAck MessageType.exitHandshake.value 1).length⟩)).exitFramedMode :=
    congrArg CLI.exitFramedMode (sendFrame_write .onExitHandshake _ .ack seqNum
      (serializeAck MessageType.exitHandshake.value 1) (by decide))
  obtain ⟨c₁, builder, es, hc₁, hans, hticks⟩ := wire_ticks cfg env fuel c reads _ h.boundary
    ⟨Nat.zero_le _, Or.inl rfl⟩ hsent.symm
  have hcommand : MessageType.exitHandshake ≠ .command := by decide
  have hhandled : c₁ = (protocolHandler env).onExitHandshake seqNum
      (behind c ⟨.exitHandshake, seqNum, none, 0⟩) := by
    rw [hc₁, CLI.handleDecodedFrame]
    dsimp only
    rw [if_neg hcommand, if_pos h.boundary.ready.router, dispatch_exitHandshake]
    rfl
  rw [hack] at hhandled
  have hwait : waiting c₁ = none := by
    rw [hhandled]
    simp [waiting, CLI.hasCommand, CLI.exitFramedMode]
  rw [hwait] at hans
  cases hans
  have hready : Ready c₁ := by
    rw [hhandled]
    exact ⟨h.boundary.ready.router, rfl⟩
  have hm : c₁.mode = .text := by
    rw [hhandled]
    rfl
  have hprobe : c₁.probeActive = false := by
    rw [hhandled]
    exact h.probe
  have hline : c₁.parser.buf = [] := by
    rw [hhandled]
    rfl
  have hslot : c₁.hasFramedCommand = false := by
    rw [hhandled]
    simp [CLI.exitFramedMode, CLI.write, behind, h.boundary.idle]
  have hrelease : (release c₁).mode = .text ∧ (release c₁).parser.buf = [] ∧
      (release c₁).hasPending = false ∧ (release c₁).probeActive = false ∧
      (release c₁).hasFramedCommand = false := by
    simp [release, hm, hline, hprobe, hslot]
  obtain ⟨hmode, hbuf, hidle, hactive, hempty⟩ := hrelease
  refine ⟨_, [.write .onExitHandshake (wire kMaxPayload ⟨.ack, seqNum,
      some (serializeAck MessageType.exitHandshake.value 1),
      (serializeAck MessageType.exitHandshake.value 1).length⟩)], hticks,
    ⟨release_ready c₁ _ _ hready, hmode, hbuf, hidle, fun ha => ?_⟩, hactive, hempty, ?_,
    offers_write _ _, ?_⟩
  · rw [hactive] at ha
    cases ha
  · rw [hhandled]
    exact List.append_nil _
  · exact Hears.write .onExitHandshake .ACK _ _ (payload_sendable .ack seqNum _ (by decide)) rfl
      (interpret_ack seqNum MessageType.exitHandshake.value)

/-- A visit of the tool: the handshake, its calls and the leave, under consecutive
sequence numbers and cut into reads in any way. -/
structure Visit where
  seq : ℕ
  opening : List Read
  exchanges : List (Call × List Read)
  closing : List Read
  seq_lt : seq < 256
  opened : connectBytes seq = some (opening.flatMap Read.bytes)
  sent : Sent (Client.next_seq seq) exchanges
  closed : disconnectBytes (Client.next_seq^[exchanges.length+1] seq) =
    some (closing.flatMap Read.bytes)

def Visit.calls (v : Visit) : List Call := v.exchanges.map Prod.fst

def Visit.reads (v : Visit) : List Read :=
  v.opening ++ (v.exchanges.flatMap Prod.snd ++ v.closing)

theorem rest_quiet (c : CLI) (h : AtRest c) (hslot : c.hasFramedCommand = false) : Quiet c where
  connectable := ⟨h.ready, by simp [waiting, CLI.hasCommand, h.mode, h.idle],
    fun hm => absurd (h.mode.symm.trans hm) (by decide)⟩
  slot := hslot
  probe := fun _ => h.probe
  frame := fun hm => absurd (h.mode.symm.trans hm) (by decide)

/-- What a visit leaves: the device at rest, to the tool the answer to the handshake,
one reply to each call and the ACK of the leave, and to the queue the commands of
the calls. -/
structure Visited (v : Visit) (c c' : CLI) : Prop where
  rest : AtRest c'
  probe : c'.probeActive = false
  slot : c'.hasFramedCommand = false
  served : ∃ es replies, c'.history = c.history ++ es ∧
    (feed [] (written es)).map interpret =
      some (.handshake v.seq PROTOCOL_VERSION HANDSHAKE_MAGIC) :: (replies.map some ++
        [some (.ack (Client.next_seq^[v.exchanges.length+1] v.seq)
          Protocol.MessageType.EXIT_HANDSHAKE.value)]) ∧
    Served snapshotFn (Client.next_seq v.seq) v.calls (es.filterMap offer) replies

inductive Row : List Visit → CLI → CLI → Prop where
  | nil (c : CLI) : Row [] c c
  | cons (v : Visit) (vs : List Visit) (c c₁ c₂ : CLI) (h : Visited snapshotFn v c c₁)
      (hrest : Row vs c₁ c₂) : Row (v::vs) c c₂

/-- The ticks of a visit to a quiet device. -/
theorem visit_ticks (fuel : ℕ) (c : CLI) (v : Visit) (h : Quiet c)
    (hrep : .request_metrics ∈ v.calls → Reporting env snapshotFn) :
    ∃ c', v.reads.foldlM (tick cfg env (fuel+1)) c = some c' ∧ Visited snapshotFn v c c' := by
  have hlt : ∀ n, Client.next_seq^[n+1] v.seq < 256 := by
    intro n
    rw [Function.iterate_succ_apply']
    exact next_seq_lt _
  obtain ⟨c₁, before, heard, hticks₁, hsession₁, hhist₁, -, -, hquiet⟩ :=
    connect_ticks cfg env fuel c v.opening v.seq v.seq_lt h.connectable h.not_exitPending v.opened
  obtain ⟨hsilent, hwelcome⟩ := hquiet h
  obtain ⟨c₂, es, replies, hticks₂, hsession₂, hhist₂, hhears, hserved⟩ :=
    session_served cfg env snapshotFn fuel c₁ _ v.exchanges hsession₁ (next_seq_lt v.seq) hrep
      v.sent
  obtain ⟨c₃, after, hticks₃, hrest, hprobe, hslot, hhist₃, hoffers, hack⟩ :=
    disconnect_ticks cfg env fuel c₂ v.closing _ (hlt _) hsession₂ v.closed
  refine ⟨c₃, ?_, hrest, hprobe, hslot, before ++ (es ++ after), replies, ?_, ?_, ?_⟩
  · rw [Visit.reads, List.foldlM_append, hticks₁, Option.bind_eq_bind, Option.bind_some,
      List.foldlM_append, hticks₂, Option.bind_eq_bind, Option.bind_some]
    exact hticks₃
  · rw [hhist₃, hhist₂, hhist₁, List.append_assoc, List.append_assoc]
  · have hall := hwelcome.append _ _ _ _ (hhears.append _ _ _ _ hack) []
    rw [List.append_nil] at hall
    rw [hall]
    simp [feed]
  · rw [List.filterMap_append, List.filterMap_append, hsilent, hoffers, List.nil_append,
      List.append_nil]
    exact hserved

/-- From a quiet device the visits of a row are answered call by call, and each ends
in TEXT mode between two lines. -/
theorem visits_served (fuel : ℕ) (c : CLI) (visits : List Visit) (h : Quiet c)
    (hrep : ∀ v ∈ visits, .request_metrics ∈ v.calls → Reporting env snapshotFn) :
    ∃ c', (visits.flatMap Visit.reads).foldlM (tick cfg env (fuel+1)) c = some c' ∧
      Row snapshotFn visits c c' := by
  induction visits generalizing c with
  | nil => exact ⟨c, rfl, .nil c⟩
  | cons v vs ih =>
    obtain ⟨c₁, hticks, hvisited⟩ := visit_ticks cfg env snapshotFn fuel c v h (hrep v (by simp))
    obtain ⟨c₂, hrest, hrow⟩ := ih c₁ (rest_quiet c₁ hvisited.rest hvisited.slot)
      (fun w hw => hrep w (by simp [hw]))
    refine ⟨c₂, ?_, .cons v vs c c₁ c₂ hvisited hrow⟩
    rw [List.flatMap_cons, List.foldlM_append, hticks]
    exact hrest

def visitCalls : List (Call × List Read) :=
  [(.send_command ⟨2, 0, 0x40A00000⟩,
      [⟨wire kMaxPayload (message 1 (.send_command ⟨2, 0, 0x40A00000⟩)), by decide +kernel⟩]),
    (.request_metrics, [⟨wire kMaxPayload (message 2 .request_metrics), by decide +kernel⟩])]

def closingReads : List Read :=
  [⟨wire kMaxPayload ⟨.exitHandshake, 3, none, 0⟩, by decide +kernel⟩]

theorem visitCalls_sent : Sent (Client.next_seq 0) visitCalls := by
  have hfirst := transmit_wire 1 (.send_command ⟨2, 0, 0x40A00000⟩)
  have hsecond := transmit_wire 2 .request_metrics
  simp only [visitCalls, Sent, List.flatMap_cons, List.flatMap_nil, List.append_nil, and_true]
  exact ⟨hfirst, hsecond⟩

theorem closingReads_bytes :
    disconnectBytes (Client.next_seq^[visitCalls.length+1] 0) =
      some (closingReads.flatMap Read.bytes) := by
  have hlast := disconnectBytes_eq 3
  simp only [closingReads, List.flatMap_cons, List.flatMap_nil, List.append_nil]
  exact hlast

theorem seq_zero_lt : 0 < 256 := by decide

def visitZero : Visit :=
  { seq := 0
    opening := openingReads
    exchanges := visitCalls
    closing := closingReads
    seq_lt := seq_zero_lt
    opened := openingReads_bytes
    sent := visitCalls_sent
    closed := closingReads_bytes }

theorem reporting_idle : Reporting (reporting 7) (fun _ => idleSnapshot 7) := by
  have hfits : SnapshotFits (idleSnapshot 7) := by
    constructor <;> try decide
    intro t _
    constructor <;> simp [idleSnapshot, idleTask]
  have hcount : (idleSnapshot 7).taskCount ≤ 7 := by decide
  exact ⟨rfl, fun _ => ⟨hcount, hfits⟩⟩

theorem midFrame_quiet : Quiet (ending midFrame midFrame_runs) where
  connectable := (run_connectable _ _ 0 _ _ _ (Option.some_get midFrame_runs).symm).1 midFrame_idle
  slot := by decide +kernel
  probe := by decide +kernel
  frame := by decide +kernel

/-- Two visits to a device in the middle of a frame. -/
theorem visits_served_idle :
    ∃ c', ([visitZero, visitZero].flatMap Visit.reads).foldlM (tick plainCfg (reporting 7) 1)
        (ending midFrame midFrame_runs) = some c' ∧
      Row (fun _ => idleSnapshot 7) [visitZero, visitZero] (ending midFrame midFrame_runs) c' :=
  visits_served plainCfg (reporting 7) (fun _ => idleSnapshot 7) 0 _ [visitZero, visitZero]
    midFrame_quiet (fun _ _ _ => reporting_idle)

end Visits

end SputterOS.Tools.Visits
