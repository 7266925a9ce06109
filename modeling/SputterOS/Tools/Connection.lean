import SputterOS.Tools.Opening

/-!
# Opening a session

Whatever the device is in the middle of, a probe, a line or a frame, it
understands the handshake. Only a device that holds the frame for leaving
without its delimiter leaves FRAMED mode instead.
-/

set_option autoImplicit false

namespace SputterOS.Tools.Connection
open SputterOS.FrameCodec SputterOS.FrameStream SputterOS.ProtocolRouter SputterOS.Logic
  SputterOS.Utils SputterOS.CommandLine SputterOS.ReceivedStream SputterOS.ReadLoops
  SputterOS.ScheduledCommsTask SputterOS.CommandReplies SputterOS.ReadTimeline
  SputterOS.CommandAnswers SputterOS.FramedTicks SputterOS.MetricsReply SputterOS.Tools.Exchange
  SputterOS.Tools.Opening
open Client (PROTOCOL_VERSION HANDSHAKE_MAGIC)
open Protocol (feed)

section Sessions

variable (cfg : Cfg) (env : Environment)

theorem spoken_hears (es : List Effect) (h : ∀ e ∈ es, Spoken e) :
    ∃ heard : List (Option Reply),
      (∀ rest, (feed [] (written es ++ rest)).map interpret =
        heard ++ (feed [] rest).map interpret) ∧
      ∀ seqNum, .write .onHandshakeRequest (wire kMaxPayload (welcome seqNum)) ∈ es →
        some (.handshake seqNum.toNat PROTOCOL_VERSION HANDSHAKE_MAGIC) ∈ heard := by
  induction es with
  | nil => exact ⟨[], fun _ => rfl, by simp⟩
  | cons e es ih =>
    obtain ⟨heard, hheard, hwelcome⟩ := ih fun x hx => h x (by simp [hx])
    rcases h e (by simp) with ⟨cmd, accepted, rfl⟩ | ⟨writer, t, m, rfl, hs, ht, -⟩
    · exact ⟨heard, hheard, fun seqNum hmem => hwelcome seqNum (by simpa using hmem)⟩
    · have hbytes : written (.write writer (wire kMaxPayload m) :: es) =
          wire kMaxPayload m ++ written es := rfl
      refine ⟨interpret (decoded t m) :: heard, fun rest => ?_, fun seqNum hmem => ?_⟩
      · rw [hbytes, List.append_assoc, feed_wire t m _ hs ht, List.map_cons, hheard]
        rfl
      · rcases List.mem_cons.mp hmem with heq | hmem
        · have hwire : wire kMaxPayload (welcome seqNum) = wire kMaxPayload m := by
            injection heq
          have hself := feed_wire .HANDSHAKE_RESP (welcome seqNum) [] (welcome_sendable seqNum) rfl
          rw [hwire, feed_wire t m [] hs ht] at hself
          rw [(List.cons.inj hself).1, interpret_welcome]
          exact List.mem_cons_self
        · exact List.mem_cons_of_mem _ (hwelcome seqNum hmem)

theorem greeting_done (body : List UInt8) (c : CLI) (hc : Greeting body c [])
    (hw : waiting c = none) : InSession c := by
  generalize hrest : ([] : List UInt8) = rest at hc
  cases hc with
  | start hc hexit => cases hrest
  | probing suf => simp at hrest
  | framing suf => simp at hrest
  | done hready hm hactive hbuf => exact ⟨⟨hready, hm, idle_framed c hw hm, hbuf⟩, hactive⟩

/-- The first bytes of a session, from any device that does not hold the frame
for leaving. A quiet device says nothing but the answer. -/
theorem connect_ticks (fuel : ℕ) (c : CLI) (reads : List Read) (seq : ℕ) (hseq : seq < 256)
    (h : Connectable c) (hexit : ¬ ExitPending c)
    (hsent : connectBytes seq = some (reads.flatMap Read.bytes)) :
    ∃ c' es heard, reads.foldlM (tick cfg env (fuel+1)) c = some c' ∧ InSession c' ∧
      c'.history = c.history ++ es ∧
      (∀ rest, (feed [] (written es ++ rest)).map interpret =
        heard ++ (feed [] rest).map interpret) ∧
      some (.handshake seq PROTOCOL_VERSION HANDSHAKE_MAGIC) ∈ heard ∧
      (Quiet c → es.filterMap offer = [] ∧
        Hears es [.handshake seq PROTOCOL_VERSION HANDSHAKE_MAGIC]) := by
  obtain ⟨seqNum, rfl⟩ : ∃ seqNum : UInt8, seqNum.toNat = seq :=
    ⟨UInt8.ofNat seq, UInt8.toNat_ofNat_of_lt' hseq⟩
  obtain ⟨body, hw, hbody⟩ := hello_wire seqNum
  rw [connectBytes_eq, hw, Option.some_inj] at hsent
  have hstart : Greeting body c (reads.flatMap Read.bytes) := by
    rw [← hsent]
    exact .start c h hexit
  obtain ⟨c', es, hticks, hgreeting, hidle, hhist, hspoken, hwelcome, hplain⟩ :=
    greet_ticks cfg env seqNum body hbody fuel c reads h.idle hstart
  obtain ⟨heard, hheard, hmem⟩ := spoken_hears es hspoken
  refine ⟨c', es, heard, hticks, greeting_done body c' hgreeting hidle, hhist, hheard,
    hmem seqNum (hwelcome (by rw [← hsent]; simp)), fun hquiet => ?_⟩
  obtain ⟨-, rfl⟩ := hplain hquiet.slot (fun _ => hquiet)
  rw [if_pos ⟨by rw [← hsent]; simp, rfl⟩]
  exact ⟨offers_write _ _, Hears.write .onHandshakeRequest .HANDSHAKE_RESP (welcome seqNum) _
    (welcome_sendable seqNum) rfl (interpret_welcome seqNum)⟩

structure Leaving (c : CLI) (rest : List UInt8) : Prop where
  ready : Ready c
  mode : c.mode = .text
  probe : rest ≠ [] → c.probeActive = false
  delimited : ∃ zs, 0 ∉ zs ∧ (rest = zs ++ [0] ∨ rest = [])

theorem framed_bytes_text (c : CLI) (bs : List UInt8) (hready : Ready c) (hm : c.mode = .text)
    (hp : c.probeActive = false) :
    Ready (c.processFramedBytes kMaxPayload (protocolHandler env) bs) ∧
    (c.processFramedBytes kMaxPayload (protocolHandler env) bs).mode = .text ∧
    (c.processFramedBytes kMaxPayload (protocolHandler env) bs).probeActive = false := by
  induction bs generalizing c with
  | nil => exact ⟨hready, hm, hp⟩
  | cons b bs ih =>
    have hmove := framed_move env c b hready.router
    have hready' := hmove.ready _ _ _ _ hready
    have hkept : ∀ (e : Option Reception) (s : Loop), Move c .framed e s →
        s.cli.mode = .text ∧ s.cli.probeActive = false := by
      intro e s hs
      cases hs with
      | frame decoder es hes => exact ⟨hm, hp⟩
      | frameCommand decoder n cmd => exact ⟨hm, hp⟩
      | exit decoder bytes => exact ⟨rfl, hp⟩
    obtain ⟨hmode, hprobe⟩ := hkept _ _ hmove
    exact ih _ hready' hmode hprobe

theorem leaving_byte (c : CLI) (b : UInt8) (rest : List UInt8) (h : Leaving c (b::rest)) :
    (c.processTextByte cfg kMaxPayload (protocolHandler env) b).1 = false ∧
      Leaving (c.processTextByte cfg kMaxPayload (protocolHandler env) b).2 rest := by
  have hp : c.probeActive = false := h.probe (by simp)
  obtain ⟨zs, hz, hzs⟩ := h.delimited
  have hready := (text_move cfg env c b h.ready.router).ready _ _ _ _ h.ready
  rw [Loop.step] at hready
  cases zs with
  | nil =>
    obtain ⟨rfl, rfl⟩ : b = 0 ∧ rest = [] := by simpa using hzs
    have hbyte : c.processTextByte cfg kMaxPayload (protocolHandler env) 0 =
        (false, { c with probeActive := true, probeBuf := [] }) := by
      simp [CLI.processTextByte, kFrameDelimiter, hp]
    rw [hbyte]
    exact ⟨rfl, ⟨h.ready.router, h.ready.sync⟩, h.mode, fun hne => absurd rfl hne, [], by simp, by simp⟩
  | cons z zs =>
    obtain ⟨rfl, rfl⟩ : b = z ∧ rest = zs ++ [0] := by simpa using hzs
    have hb : b ≠ kFrameDelimiter := by
      rintro rfl
      exact hz (by simp [kFrameDelimiter])
    have hbyte : c.processTextByte cfg kMaxPayload (protocolHandler env) b =
        (false, c.feedParser cfg b) := by
      simp [CLI.processTextByte, hb, hp]
    simp only [hbyte] at hready ⊢
    exact ⟨trivial, hready, h.mode, fun _ => hp, zs, fun hm => hz (by simp [hm]), Or.inl rfl⟩

theorem leaving_tick (fuel : ℕ) (c₁ : CLI) (rest : List UInt8) (h : Leaving c₁ rest) :
    ∃ c', drain cfg env (fuel+1) c₁ = some c' ∧ Leaving c' rest := by
  obtain ⟨builder, es, -, hdrain⟩ := drain_spec cfg env fuel c₁ h.ready.sync
  have hready := release_ready c₁ builder (c₁.history ++ es) h.ready
  refine ⟨_, hdrain, hready, ?_, ?_, h.delimited⟩
  · simp [release, h.mode]
  · intro hne
    simp [release, h.mode, h.probe hne]

theorem leaving_bytes (c : CLI) (bs rest : List UInt8) (h : Leaving c (bs ++ rest)) :
    Leaving (c.processTextBytes cfg kMaxPayload (protocolHandler env) bs) rest := by
  induction bs generalizing c with
  | nil => exact h
  | cons b bs ih =>
    obtain ⟨hdone, hnext⟩ := leaving_byte cfg env c b (bs ++ rest) h
    rw [CLI.processTextBytes, if_neg (by simp [hdone])]
    exact ih _ hnext

theorem leaving_ticks (fuel : ℕ) (c : CLI) (reads : List Read)
    (h : Leaving c (reads.flatMap Read.bytes)) :
    ∃ c', reads.foldlM (tick cfg env (fuel+1)) c = some c' ∧ c'.mode = .text := by
  induction reads generalizing c with
  | nil => exact ⟨c, rfl, h.mode⟩
  | cons read reads ih =>
    have hread : c.tick cfg kMaxPayload (protocolHandler env) read =
        c.processTextBytes cfg kMaxPayload (protocolHandler env) read.bytes := if_pos h.mode
    obtain ⟨c₁, hdrain, hnext⟩ := leaving_tick cfg env fuel _ _
      (leaving_bytes cfg env c read.bytes _ h)
    obtain ⟨c', hticks, hmode⟩ := ih c₁ hnext
    refine ⟨c', ?_, hmode⟩
    rw [List.foldlM_cons, tick, hread, hdrain]
    exact hticks

theorem exit_zero (c : CLI) (h : Connectable c) (hexit : ExitPending c) :
    Ready (c.processFramedByte kMaxPayload (protocolHandler env) 0) ∧
    (c.processFramedByte kMaxPayload (protocolHandler env) 0).mode = .text ∧
    (c.processFramedByte kMaxPayload (protocolHandler env) 0).probeActive = false := by
  obtain ⟨hm, hframe, htype⟩ := hexit
  have hmove := framed_move env c 0 h.ready.router
  have hcommand : MessageType.exitHandshake ≠ .command := by decide
  have hcompleted : (receiveFramed kMaxPayload { view c with mode := .framed } 0).1 =
      some .exit := by
    rw [kFrameDelimiter] at hframe htype
    simp [receiveFramed, view, hframe, htype, hcommand]
  rw [hcompleted] at hmove
  generalize hs : (Loop.mk .framed (c.processFramedByte kMaxPayload (protocolHandler env) 0)) = s
    at hmove
  have hcli : c.processFramedByte kMaxPayload (protocolHandler env) 0 = s.cli := congrArg Loop.cli hs
  rw [hcli]
  refine ⟨hmove.ready _ _ _ _ h.ready, ?_⟩
  cases hmove with
  | exit decoder bytes => exact ⟨rfl, h.probe hm⟩

theorem exit_ticks (fuel : ℕ) (c : CLI) (reads : List Read) (body : List UInt8) (hz : 0 ∉ body)
    (h : Connectable c) (hexit : ExitPending c)
    (hbytes : reads.flatMap Read.bytes = 0 :: (body ++ [0])) :
    ∃ c', reads.foldlM (tick cfg env (fuel+1)) c = some c' ∧ c'.mode = .text := by
  induction reads with
  | nil => cases hbytes
  | cons read reads ih =>
    rw [List.flatMap_cons] at hbytes
    have htick : tick cfg env (fuel+1) c read = drain cfg env (fuel+1)
        (c.processFramedBytes kMaxPayload (protocolHandler env) read.bytes) :=
      tick_framed cfg env (fuel+1) c read hexit.1
    rw [List.foldlM_cons, htick]
    cases hread : read.bytes with
    | nil =>
      rw [hread] at hbytes
      have hidle : drain cfg env (fuel+1) (c.processFramedBytes kMaxPayload (protocolHandler env) []) =
          some c := drain_idle cfg env (fuel+1) c h.idle
      rw [hidle]
      exact ih hbytes
    | cons b more =>
      rw [hread, List.cons_append] at hbytes
      obtain ⟨rfl, hmore⟩ := List.cons.inj hbytes
      obtain ⟨hready, hm, hp⟩ := exit_zero env c h hexit
      have hcons : c.processFramedBytes kMaxPayload (protocolHandler env) (0::more) =
          (c.processFramedByte kMaxPayload (protocolHandler env) 0).processFramedBytes kMaxPayload
            (protocolHandler env) more := rfl
      obtain ⟨hready', hm', hp'⟩ := framed_bytes_text env _ more hready hm hp
      have hdelimited : ∃ zs, 0 ∉ zs ∧ (reads.flatMap Read.bytes = zs ++ [0] ∨
          reads.flatMap Read.bytes = []) := by
        rcases List.eq_nil_or_concat (reads.flatMap Read.bytes) with hnil | ⟨front, last, hrest⟩
        · exact ⟨[], by simp, Or.inr hnil⟩
        · rw [hrest, List.concat_eq_append, ← List.append_assoc] at hmore
          obtain ⟨hfront, hlast⟩ := List.append_inj' hmore rfl
          refine ⟨front, fun hmem => hz ?_, Or.inl (by rw [hrest, List.concat_eq_append, hlast])⟩
          rw [← hfront]
          exact List.mem_append_right _ hmem
      obtain ⟨c₁, hdrain, hleaving⟩ := leaving_tick cfg env fuel _ (reads.flatMap Read.bytes)
        ⟨hready', hm', fun _ => hp', hdelimited⟩
      rw [hcons, hdrain]
      exact leaving_ticks cfg env fuel c₁ reads hleaving

def Settled (s : Loop) : Prop :=
  (s.mode = .text → s.cli.mode = .text) ∧ (s.cli.mode = .framed → s.cli.probeActive = false)

theorem move_settled (s s' : Loop) (e : Option Reception) (hmove : Move s.cli s.mode e s')
    (h : Settled s) : Settled s' := by
  obtain ⟨mode, c⟩ := s
  obtain ⟨hloop, hprobe⟩ := h
  cases hmove with
  | handshake bytes => exact ⟨(fun hm => by cases hm), fun _ => rfl⟩
  | line active probe text =>
    exact ⟨hloop, fun hm => absurd ((hloop rfl).symm.trans hm) (by decide)⟩
  | lineCommand active probe cmd =>
    exact ⟨hloop, fun hm => absurd ((hloop rfl).symm.trans hm) (by decide)⟩
  | frame decoder es hes => exact ⟨(fun hm => by cases hm), hprobe⟩
  | frameCommand decoder seqNum cmd => exact ⟨(fun hm => by cases hm), hprobe⟩
  | exit decoder bytes => exact ⟨(fun hm => by cases hm), (fun hm => by cases hm)⟩

theorem read_settled (c : CLI) (read : Read) (hready : Ready c)
    (hprobe : c.mode = .framed → c.probeActive = false) :
    Ready (c.tick cfg kMaxPayload (protocolHandler env) read) ∧
    ((c.tick cfg kMaxPayload (protocolHandler env) read).mode = .framed →
      (c.tick cfg kMaxPayload (protocolHandler env) read).probeActive = false) := by
  have hafter : ∀ (bs : List UInt8) (s : Loop), Ready s.cli → Settled s →
      Settled (s.after cfg kMaxPayload (protocolHandler env) bs) := by
    intro bs
    induction bs with
    | nil => exact fun s _ hs => hs
    | cons b bs ih =>
      intro s hs hset
      have hmove := step_move cfg env s b hs.router
      exact ih _ (hmove.ready _ _ _ _ hs) (move_settled _ _ _ hmove hset)
  rw [tick_eq]
  exact ⟨after_ready cfg env (Loop.enter c) read.bytes hready,
    (hafter read.bytes (Loop.enter c) hready ⟨fun hm => hm, hprobe⟩).2⟩

/-- Nothing stands in the way of a session if no command waits, and after a tick
none does. -/
theorem run_connectable (fuel : ℕ) (atInit : Read) (past : List Read) (c : CLI)
    (hrun : run cfg env (fuel+1) atInit past = some c) :
    (waiting c = none → Connectable c) ∧ (past ≠ [] → waiting c = none) := by
  have hticks : ∀ (reads : List Read) (c₀ : CLI), Ready c₀ →
      (c₀.mode = .framed → c₀.probeActive = false) →
      reads.foldlM (tick cfg env (fuel+1)) c₀ = some c →
      Ready c ∧ (c.mode = .framed → c.probeActive = false) ∧
        (reads ≠ [] ∨ waiting c₀ = none → waiting c = none) := by
    intro reads
    induction reads with
    | nil =>
      intro c₀ hready hprobe hc
      obtain rfl : c₀ = c := Option.some_inj.mp hc
      exact ⟨hready, hprobe, fun hidle => hidle.resolve_left (fun hne => hne rfl)⟩
    | cons read reads ih =>
      intro c₀ hready hprobe hc
      obtain ⟨hready₁, hprobe₁⟩ := read_settled cfg env c₀ read hready hprobe
      rw [List.foldlM_cons, tick] at hc
      generalize c₀.tick cfg kMaxPayload (protocolHandler env) read = c₁ at *
      obtain ⟨builder, es, -, hdrain⟩ := drain_spec cfg env fuel c₁ hready₁.sync
      rw [hdrain] at hc
      have hprobe₂ : (release c₁).mode = .framed → (release c₁).probeActive = false := by
        unfold release
        split_ifs <;> exact hprobe₁
      obtain ⟨hready', hprobe', hidle⟩ := ih _ (release_ready c₁ builder _ hready₁) hprobe₂ hc
      exact ⟨hready', hprobe', fun _ => hidle (Or.inr (release_idle c₁ builder _))⟩
  obtain ⟨hready₀, hprobe₀⟩ := read_settled cfg env _ atInit initial_ready (fun hm => by cases hm)
  obtain ⟨hready, hprobe, hidle⟩ := hticks past _ hready₀ hprobe₀ hrun
  exact ⟨fun hwait => ⟨hready, hwait, hprobe⟩, fun hpast => hidle (Or.inl hpast)⟩

/-- From any state of a run in which no command waits a handshake is understood,
whatever the device is in the middle of and however its bytes are cut into reads:
the device is then in FRAMED mode between two frames, and the tool hears the answer
with its own sequence number, version and magic number. The one exception is a
device that holds the frame for leaving up to its delimiter. -/
theorem connects_iff (fuel : ℕ) (atInit : Read) (past : List Read) (c : CLI) (reads : List Read)
    (seq : ℕ) (hrun : run cfg env (fuel+1) atInit past = some c) (hwait : waiting c = none)
    (hseq : seq < 256) (hsent : connectBytes seq = some (reads.flatMap Read.bytes)) :
    (∃ c' es, run cfg env (fuel+1) atInit (past ++ reads) = some c' ∧ InSession c' ∧
      c'.history = c.history ++ es ∧
      some (.handshake seq PROTOCOL_VERSION HANDSHAKE_MAGIC) ∈
        (feed [] (written es)).map interpret) ↔ ¬ ExitPending c := by
  have h := (run_connectable cfg env fuel atInit past c hrun).1 hwait
  have hsplit : run cfg env (fuel+1) atInit (past ++ reads) =
      reads.foldlM (tick cfg env (fuel+1)) c := by
    rw [run, List.foldlM_append]
    rw [run] at hrun
    rw [hrun]
    rfl
  rw [hsplit]
  constructor
  · rintro ⟨c', es, hticks, hsession, -⟩ hexit
    obtain ⟨seqNum, rfl⟩ : ∃ seqNum : UInt8, seqNum.toNat = seq :=
      ⟨UInt8.ofNat seq, UInt8.toNat_ofNat_of_lt' hseq⟩
    obtain ⟨body, hw, hbody⟩ := hello_wire seqNum
    rw [connectBytes_eq, hw, Option.some_inj] at hsent
    obtain ⟨c'', hticks', hm⟩ := exit_ticks cfg env fuel c reads body hbody.zeroFree h hexit hsent.symm
    rw [hticks, Option.some_inj] at hticks'
    rw [← hticks', hsession.boundary.mode] at hm
    cases hm
  · intro hexit
    obtain ⟨c', es, heard, hticks, hsession, hhist, hheard, hmem, -⟩ :=
      connect_ticks cfg env fuel c reads seq hseq h hexit hsent
    refine ⟨c', es, hticks, hsession, hhist, ?_⟩
    have hall := hheard []
    rw [List.append_nil] at hall
    rw [hall]
    exact List.mem_append_left _ hmem

end Sessions

section Moments

def ending (past : List Read) (h : (run plainCfg (reporting 7) 1 noBytes past).isSome = true) : CLI :=
  (run plainCfg (reporting 7) 1 noBytes past).get h

def exitFrame : List UInt8 := wire kMaxPayload ⟨.exitHandshake, 2, none, 0⟩

def midFrame : List Read := [handshake, ⟨exitFrame.take 5, by decide +kernel⟩]
def atDelimiter : List Read := [handshake, ⟨exitFrame.take 7, by decide +kernel⟩]

def openingReads : List Read :=
  [⟨(0 :: wire kMaxPayload (hello 0)).take 6, by decide +kernel⟩,
    ⟨(0 :: wire kMaxPayload (hello 0)).drop 6, by decide +kernel⟩]

theorem openingReads_bytes : connectBytes 0 = some (openingReads.flatMap Read.bytes) :=
  (connectBytes_eq 0).trans (by decide +kernel)

theorem midFrame_runs : (run plainCfg (reporting 7) 1 noBytes midFrame).isSome = true := by
  decide +kernel

theorem midFrame_idle : waiting (ending midFrame midFrame_runs) = none :=
  (run_connectable _ _ 0 _ _ _ (Option.some_get midFrame_runs).symm).2 (by decide)

theorem midFrame_waits : ¬ ExitPending (ending midFrame midFrame_runs) := by
  decide +kernel

theorem atDelimiter_runs : (run plainCfg (reporting 7) 1 noBytes atDelimiter).isSome = true := by
  decide +kernel

theorem atDelimiter_idle : waiting (ending atDelimiter atDelimiter_runs) = none :=
  (run_connectable _ _ 0 _ _ _ (Option.some_get atDelimiter_runs).symm).2 (by decide)

theorem connects_mid_frame :
    (∃ c' es, run plainCfg (reporting 7) 1 noBytes (midFrame ++ openingReads) = some c' ∧
      InSession c' ∧ c'.history = (ending midFrame midFrame_runs).history ++ es ∧
      some (.handshake 0 PROTOCOL_VERSION HANDSHAKE_MAGIC) ∈
        (feed [] (written es)).map interpret) ∧
    ¬ ∃ c' es, run plainCfg (reporting 7) 1 noBytes (atDelimiter ++ openingReads) = some c' ∧
      InSession c' ∧ c'.history = (ending atDelimiter atDelimiter_runs).history ++ es ∧
      some (.handshake 0 PROTOCOL_VERSION HANDSHAKE_MAGIC) ∈
        (feed [] (written es)).map interpret := by
  constructor
  · exact (connects_iff plainCfg (reporting 7) 0 noBytes midFrame _ openingReads 0
      (Option.some_get _).symm midFrame_idle (by decide) openingReads_bytes).mpr midFrame_waits
  · intro h
    exact (connects_iff plainCfg (reporting 7) 0 noBytes atDelimiter _ openingReads 0
      (Option.some_get _).symm atDelimiter_idle (by decide) openingReads_bytes).mp h
      (by decide +kernel)

end Moments

end SputterOS.Tools.Connection
