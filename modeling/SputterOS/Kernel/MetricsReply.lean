import SputterOS.Kernel.FramedTicks
import SputterOS.Kernel.CommandAnswers

/-!
# The reply to a metrics request

A snapshot is serialized into a buffer for all of its task slots, but the
payload of a frame is bounded. The encoder refuses what exceeds the bound, and
then nothing is written.
-/

set_option autoImplicit false

namespace SputterOS.MetricsReply
open SputterOS.CobsCodec SputterOS.FrameCodec SputterOS.FrameStream SputterOS.ProtocolRouter
  SputterOS.ResponseSerializer SputterOS.Logic SputterOS.CommandLine SputterOS.ReceivedStream
  SputterOS.ScheduledCommsTask SputterOS.CommandReplies SputterOS.CommandAnswers
  SputterOS.ReadTimeline SputterOS.FramedTicks

section Frames

def frame (m : Message) : List UInt8 :=
  CobsCodec.encode (rawFrame m) (cobsMaxEncodedLen (rawFrame m).length) ++ [kFrameDelimiter]

theorem encode_capacity (src : List UInt8) (dstCap : ℕ)
    (h : cobsMaxEncodedLen src.length ≤ dstCap) :
    CobsCodec.encode src dstCap = CobsCodec.encode src (cobsMaxEncodedLen src.length) := by
  rw [CobsCodec.encode, CobsCodec.encode, if_neg (Nat.not_lt.mpr h), if_neg (lt_irrefl _)]

theorem wire_frame (MaxPayload : ℕ) (hmax : MaxPayload ≤ 65535) (m : Message)
    (h : Sendable MaxPayload m) : wire MaxPayload m = frame m := by
  obtain ⟨-, -, hcap⟩ := rawFrame_fits MaxPayload hmax m h
  rw [wire_encode MaxPayload hmax m h, encode_capacity _ _ hcap]
  rfl

theorem sendFrame_oversize (writer : Writer) (c : CLI) (type : MessageType) (seqNum : UInt8)
    (payload : List UInt8) (h : kMaxPayload < payload.length) :
    c.sendFrame kMaxPayload writer type seqNum (some payload) payload.length = c := by
  unfold CLI.sendFrame FrameCodec.encode
  rw [if_pos h]
  rfl

end Frames

section Snapshots

def snapshotBytes (snap : PerformanceSnapshot) : List UInt8 :=
  metricsHeader snap ++ (List.range snap.taskCount).flatMap (fun t => metricsTask (snap.tasks t))

theorem snapshotBytes_length (snap : PerformanceSnapshot) :
    (snapshotBytes snap).length = kMetricsHeaderSize+snap.taskCount*kMetricsTaskSize := by
  rw [snapshotBytes, List.length_append, metricsHeader_length, metricsTasks_length]

theorem serializeMetrics_eq (snap : PerformanceSnapshot) (h : snap.taskCount ≤ kMaxSnapshotTasks) :
    serializeMetrics snap (kMetricsHeaderSize+kMaxSnapshotTasks*kMetricsTaskSize) =
      snapshotBytes snap := by
  apply if_neg
  have hmul := Nat.mul_le_mul_right kMetricsTaskSize h
  omega

end Snapshots

section Requests

variable (cfg : Cfg) (env : Environment)

theorem dispatch_metricsReq {σ : Type*} (handler : IProtocolHandler σ) (seqNum : UInt8)
    (payload : List UInt8) (s : σ) :
    dispatch handler .metricsReq seqNum payload s = (true, handler.onMetricsRequest seqNum s) := by
  have hc : MessageType.metricsReq ≠ .command := by decide
  have hh : MessageType.metricsReq ≠ .handshakeReq := by decide
  have hx : MessageType.metricsReq ≠ .exitHandshake := by decide
  rw [dispatch, if_neg hc, if_neg hh, if_neg hx, if_pos rfl]

/-- A request is answered with the complete snapshot or not at all. -/
theorem onMetricsRequest_eq (snapshotFn : List Effect → PerformanceSnapshot) (seqNum : UInt8)
    (c : CLI) (hsnap : env.snapshotFn = some snapshotFn)
    (hcount : (snapshotFn c.history).taskCount ≤ kMaxSnapshotTasks) :
    onMetricsRequest env seqNum c =
      if (snapshotFn c.history).taskCount ≤ 7 then
        c.write .onMetricsRequest (frame ⟨.metricsResp, seqNum,
          some (snapshotBytes (snapshotFn c.history)), (snapshotBytes (snapshotFn c.history)).length⟩)
      else c := by
  have hlen := snapshotBytes_length (snapshotFn c.history)
  simp only [kMetricsHeaderSize, kMetricsTaskSize] at hlen
  unfold onMetricsRequest
  rw [hsnap]
  dsimp only
  rw [serializeMetrics_eq _ hcount, CLI.sendFramedMetricsResp]
  generalize snapshotBytes (snapshotFn c.history) = payload at hlen ⊢
  split_ifs with hseven
  · have hfits : payload.length ≤ kMaxPayload := by
      rw [hlen, kMaxPayload]
      omega
    have hsendable : Sendable kMaxPayload ⟨.metricsResp, seqNum, some payload, payload.length⟩ :=
      ⟨hfits, Or.inr ⟨payload, rfl, le_rfl⟩⟩
    rw [sendFrame_write _ c _ _ _ hfits, wire_frame kMaxPayload (by decide) _ hsendable]
  · apply sendFrame_oversize
    rw [hlen, kMaxPayload]
    omega

/-- In FRAMED mode a metrics request, whatever its sequence number and however
its bytes arrive, is answered with one frame that carries the complete snapshot
if and only if the snapshot has seven tasks or fewer. -/
theorem metrics_answered_iff (fuel : ℕ) (c : CLI) (reads : List Read) (m : Message)
    (snapshotFn : List Effect → PerformanceSnapshot) (h : AtBoundary c)
    (hs : Sendable kMaxPayload m) (htype : m.type = .metricsReq)
    (hbytes : reads.flatMap Read.bytes = wire kMaxPayload m)
    (hsnap : env.snapshotFn = some snapshotFn)
    (hcount : (snapshotFn c.history).taskCount ≤ kMaxSnapshotTasks) :
    (∃ c', reads.foldlM (tick cfg env (fuel+1)) c = some c' ∧
      c'.history = c.history ++ [.write .onMetricsRequest (frame ⟨.metricsResp, m.seqNum,
        some (snapshotBytes (snapshotFn c.history)),
        (snapshotBytes (snapshotFn c.history)).length⟩)]) ↔
    (snapshotFn c.history).taskCount ≤ 7 := by
  obtain ⟨c₁, builder, es, hc₁, hans, hticks⟩ := wire_ticks cfg env fuel c reads m h hs hbytes
  have hcommand : MessageType.metricsReq ≠ .command := by decide
  rw [CLI.handleDecodedFrame] at hc₁
  dsimp only at hc₁
  rw [htype, if_neg hcommand, if_pos h.ready.router, dispatch_metricsReq] at hc₁
  have hreply := onMetricsRequest_eq env snapshotFn m.seqNum
    { c with frameDecoder := { cobsBuf := [], msgType := .metricsReq, seqNum := m.seqNum,
                               payload := m.bytes } } hsnap hcount
  have heq : c₁ = onMetricsRequest env m.seqNum
      { c with frameDecoder := { cobsBuf := [], msgType := .metricsReq, seqNum := m.seqNum,
                                 payload := m.bytes } } := hc₁
  rw [hreply] at heq
  rw [hticks]
  dsimp only at heq ⊢
  generalize frame ⟨.metricsResp, m.seqNum, some (snapshotBytes (snapshotFn c.history)),
    (snapshotBytes (snapshotFn c.history)).length⟩ = response at heq ⊢
  have hnone : waiting c₁ = none := by
    rw [heq]
    split_ifs <;> simp [waiting, CLI.hasCommand, CLI.write, h.mode, h.idle]
  rw [hnone] at hans
  cases hans
  by_cases hseven : (snapshotFn c.history).taskCount ≤ 7
  · rw [if_pos hseven] at heq
    apply iff_of_true _ hseven
    exact ⟨_, rfl, by simp [heq, CLI.write]⟩
  · rw [if_neg hseven] at heq
    apply iff_of_false _ hseven
    rintro ⟨c', hc', hhist⟩
    rw [← Option.some_inj.mp hc'] at hhist
    simp [heq] at hhist

end Requests

section Sizes

def idleTask : TaskSnapshot :=
  { taskIndex := 0, coreId := 0, lastUs := 0, minUs := 0, maxUs := 0, avgUs := 0, samples := 0
    overruns := 0, misses := 0 }

def idleSnapshot (taskCount : ℕ) : PerformanceSnapshot :=
  { timestamp := 0, coreCount := 1, coreUtilization := fun _ => 0, queueDepth := 0
    queueMaxDepth := 0, queueAvgDepth := 0, peakHeapUsed := 0, freeHeap := 0, stackHighWater := 0
    totalGapUs := 0, maxGapUs := 0, avgGapUs := 0, schedulerTickCount := 0, totalOverruns := 0
    totalDeadlineMisses := 0, taskCount := taskCount, tasks := fun _ => idleTask }

def reporting (taskCount : ℕ) : Environment :=
  { try_push := fun _ _ => true, snapshotFn := some fun _ => idleSnapshot taskCount }

def metricsRequest : Read := ⟨wire kMaxPayload ⟨.metricsReq, 5, none, 0⟩, by decide +kernel⟩

theorem framed_atBoundary : AtBoundary CLI.initial.setProtocolHandler.enterFramedMode :=
  { ready := ⟨rfl, rfl⟩, mode := rfl, idle := rfl, buffer := rfl }

theorem seven_tasks_answered :
    ∃ c', [metricsRequest].foldlM (tick plainCfg (reporting 7) 1)
        CLI.initial.setProtocolHandler.enterFramedMode = some c' ∧
      c'.history = [.write .onMetricsRequest (frame ⟨.metricsResp, 5,
        some (snapshotBytes (idleSnapshot 7)), (snapshotBytes (idleSnapshot 7)).length⟩)] :=
  (metrics_answered_iff plainCfg (reporting 7) 0 CLI.initial.setProtocolHandler.enterFramedMode
    [metricsRequest] ⟨.metricsReq, 5, none, 0⟩ (fun _ => idleSnapshot 7) framed_atBoundary
    ⟨by decide, Or.inl rfl⟩ rfl (by decide +kernel) rfl (by decide)).mpr (by decide)

/-- With eight tasks the request of a session gets no reply. -/
theorem eight_tasks_unanswered :
    (run plainCfg (reporting 8) 1 noBytes [handshake, metricsRequest]).map CLI.history =
      some [.write .onHandshakeRequest
        (wire kMaxPayload ⟨.handshakeResp, 1, some [1, 0, 0x53, 0x4F, 0x50, 0x53], 6⟩)] ∧
    ¬ ∃ c', [metricsRequest].foldlM (tick plainCfg (reporting 8) 1)
        CLI.initial.setProtocolHandler.enterFramedMode = some c' ∧
      c'.history = [.write .onMetricsRequest (frame ⟨.metricsResp, 5,
        some (snapshotBytes (idleSnapshot 8)), (snapshotBytes (idleSnapshot 8)).length⟩)] := by
  constructor
  · decide +kernel
  · have hnone : ([metricsRequest].foldlM (tick plainCfg (reporting 8) 1)
        CLI.initial.setProtocolHandler.enterFramedMode).map CLI.history = some [] := by
      decide +kernel
    rintro ⟨c', hc', hhist⟩
    rw [hc', Option.map_some, hhist, Option.some_inj] at hnone
    exact List.cons_ne_nil _ _ hnone

end Sizes

end SputterOS.MetricsReply
