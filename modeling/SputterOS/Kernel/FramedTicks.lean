import SputterOS.Kernel.ReadTimeline

/-!
# One frame in FRAMED mode

The bytes of a frame accumulate in the decoder over as many ticks as they take
to arrive. At the delimiter the frame is handled as a whole, so what the ticks
do does not depend on how the frame is cut.
-/

set_option autoImplicit false

namespace SputterOS.FramedTicks
open SputterOS.FrameCodec SputterOS.FrameStream SputterOS.Logic SputterOS.CommandLine
  SputterOS.ReceivedStream SputterOS.ReadLoops SputterOS.ScheduledCommsTask
  SputterOS.CommandReplies SputterOS.ReadTimeline

structure AtBoundary (c : CLI) : Prop where
  ready : Ready c
  mode : c.mode = .framed
  idle : c.hasFramedCommand = false
  buffer : c.frameDecoder.cobsBuf = []

def buffered (c : CLI) (bytes : List UInt8) : CLI :=
  { c with frameDecoder := { c.frameDecoder with cobsBuf := bytes } }

variable (cfg : Cfg) (env : Environment)

theorem processFramedBytes_data (c : CLI) (bs : List UInt8) (hz : 0 ∉ bs)
    (hl : c.frameDecoder.cobsBuf.length+bs.length ≤ kMaxCobsSize kMaxPayload) :
    c.processFramedBytes kMaxPayload (protocolHandler env) bs =
      buffered c (c.frameDecoder.cobsBuf ++ bs) := by
  induction bs generalizing c with
  | nil => simp [CLI.processFramedBytes, buffered]
  | cons b bs ih =>
    have hb : b ≠ 0 := fun h => hz (by simp [h])
    have hlt : c.frameDecoder.cobsBuf.length < kMaxCobsSize kMaxPayload := by
      simp only [List.length_cons] at hl
      omega
    have hstep : c.processFramedByte kMaxPayload (protocolHandler env) b =
        buffered c (c.frameDecoder.cobsBuf ++ [b]) := by
      rw [CLI.processFramedByte, feedByte_data kMaxPayload _ b hb hlt]
      rfl
    have hcons : c.processFramedBytes kMaxPayload (protocolHandler env) (b::bs) =
        (c.processFramedByte kMaxPayload (protocolHandler env) b).processFramedBytes kMaxPayload
          (protocolHandler env) bs := rfl
    rw [hcons, hstep, ih _ (fun h => hz (by simp [h])) (by simp [buffered] at hl ⊢; omega)]
    simp [buffered]

theorem tick_framed (fuel : ℕ) (c : CLI) (read : Read) (hm : c.mode = .framed) :
    tick cfg env fuel c read = drain cfg env fuel
      (c.processFramedBytes kMaxPayload (protocolHandler env) read.bytes) := by
  have hread : c.tick cfg kMaxPayload (protocolHandler env) read =
      c.processFramedBytes kMaxPayload (protocolHandler env) read.bytes := if_neg (by simp [hm])
  rw [tick, hread]

theorem empty_ticks (fuel : ℕ) (c : CLI) (reads : List Read) (hw : waiting c = none)
    (h : reads.flatMap Read.bytes = []) :
    reads.foldlM (tick cfg env (fuel+1)) c = some c := by
  induction reads with
  | nil => rfl
  | cons read reads ih =>
    obtain ⟨hread, hrest⟩ := List.append_eq_nil_iff.mp h
    have htick : c.tick cfg kMaxPayload (protocolHandler env) read = c := by
      unfold CLI.tick
      rw [hread]
      split_ifs <;> rfl
    rw [List.foldlM_cons, tick, htick, drain_idle cfg env (fuel+1) c hw]
    exact ih hrest

/-- The ticks that read a segment end like the one that reads its delimiter. -/
theorem segment_ticks (fuel : ℕ) (c : CLI) (reads : List Read) (body : List UInt8)
    (hready : Ready c) (hm : c.mode = .framed) (hidle : c.hasFramedCommand = false)
    (hbytes : reads.flatMap Read.bytes = body ++ [0]) (hz : 0 ∉ body)
    (hl : c.frameDecoder.cobsBuf.length+body.length ≤ kMaxCobsSize kMaxPayload) :
    ∃ c₁ builder es, c₁ = (buffered c (c.frameDecoder.cobsBuf ++ body)).processFramedByte
        kMaxPayload (protocolHandler env) 0 ∧
      Answered cfg (waiting c₁).toList es ∧
      reads.foldlM (tick cfg env (fuel+1)) c = some
        { release c₁ with
          builder := builder
          history := c₁.history ++ es } := by
  induction reads generalizing c body with
  | nil => simp at hbytes
  | cons read reads ih =>
    rw [List.flatMap_cons] at hbytes
    rcases List.eq_nil_or_concat (reads.flatMap Read.bytes) with hnil | ⟨front, last, hrest⟩
    · rw [hnil, List.append_nil] at hbytes
      have hread : c.processFramedBytes kMaxPayload (protocolHandler env) read.bytes =
          (buffered c (c.frameDecoder.cobsBuf ++ body)).processFramedByte kMaxPayload
            (protocolHandler env) 0 := by
        have hdata := processFramedBytes_data env c body hz hl
        rw [CLI.processFramedBytes] at hdata
        rw [hbytes, CLI.processFramedBytes, List.foldl_append, hdata]
        rfl
      have hready₁ := after_ready cfg env ⟨.framed, c⟩ read.bytes hready
      rw [framed_after, hread] at hready₁
      obtain ⟨builder, es, hans, hdrain⟩ := drain_spec cfg env fuel _ hready₁.sync
      refine ⟨_, builder, es, rfl, hans, ?_⟩
      rw [List.foldlM_cons, tick_framed cfg env (fuel+1) c read hm, hread, hdrain]
      exact empty_ticks cfg env fuel _ reads (release_idle _ _ _) hnil
    · rw [hrest, List.concat_eq_append, ← List.append_assoc] at hbytes
      obtain ⟨hbody, hlast⟩ := List.append_inj' hbytes rfl
      have hzread : 0 ∉ read.bytes := fun h => hz (by rw [← hbody]; exact List.mem_append_left _ h)
      have hlen : body.length = read.bytes.length+front.length := by
        rw [← hbody, List.length_append]
      have hread := processFramedBytes_data env c read.bytes hzread (by omega)
      have hidle' : waiting (buffered c (c.frameDecoder.cobsBuf ++ read.bytes)) = none := by
        simp [waiting, CLI.hasCommand, buffered, hm, hidle]
      have hnext := ih (buffered c (c.frameDecoder.cobsBuf ++ read.bytes)) front
        ⟨hready.router, hready.sync⟩ hm hidle (by rw [hrest, List.concat_eq_append, hlast])
        (fun h => hz (by rw [← hbody]; exact List.mem_append_right _ h))
        (by simp [buffered]; omega)
      rw [List.foldlM_cons, tick_framed cfg env (fuel+1) c read hm, hread,
        drain_idle cfg env (fuel+1) _ hidle', ← hbody, ← List.append_assoc]
      exact hnext

theorem wire_ticks (fuel : ℕ) (c : CLI) (reads : List Read) (m : Message) (h : AtBoundary c)
    (hs : Sendable kMaxPayload m) (hbytes : reads.flatMap Read.bytes = wire kMaxPayload m) :
    ∃ c₁ builder es, c₁ = CLI.handleDecodedFrame (protocolHandler env)
        { c with frameDecoder := { cobsBuf := [], msgType := m.type, seqNum := m.seqNum,
                                   payload := m.bytes } } ∧
      Answered cfg (waiting c₁).toList es ∧
      reads.foldlM (tick cfg env (fuel+1)) c = some
        { release c₁ with
          builder := builder
          history := c₁.history ++ es } := by
  obtain ⟨body, hw, hz, hne, hlen, hdec⟩ := wire_eq kMaxPayload (by decide) m hs
  rw [hw] at hbytes
  obtain ⟨c₁, builder, es, hc₁, hans, hticks⟩ := segment_ticks cfg env fuel c reads body h.ready
    h.mode h.idle hbytes hz (by simpa [h.buffer] using hlen)
  have hready : ({ c.frameDecoder with cobsBuf := c.frameDecoder.cobsBuf ++ body } :
      FrameDecoder).feedByte kMaxPayload 0 = (.frameReady,
        { cobsBuf := [], msgType := m.type, seqNum := m.seqNum, payload := m.bytes }) := by
    rw [feedByte_delimiter, if_neg (by simp [hne])]
    apply processFrame_ready
    simpa [h.buffer, hdec] using rawFrame_raw kMaxPayload (by decide) m hs
  refine ⟨c₁, builder, es, ?_, hans, hticks⟩
  rw [hc₁, CLI.processFramedByte, buffered]
  dsimp only
  rw [hready]
  exact if_pos rfl

end SputterOS.FramedTicks
